import Astro.IpxePipeline
import Astro.LabelledRuns
import Astro.RepositorySite

/-!
# The custom-iso handler

The handler validates the body, looks the release up, announces the job as `BOOTING`,
saves `job.json` and runs `pipeline.sh`; the exit status of the script decides between
200 and 500. The parts are separate functions, because other requests can be served
between them; `customIso` is the request that nobody interrupts.
-/

namespace Astro.CustomIsoHandler

open PythonText JobPaths RequestModels IpxePipeline LabelledRuns

/-- What the handler adds to the validated body; `none` is an exception: the release
map cannot be read, the version is not in it, lacks a key or has no second number. -/
def jobData (site : Site) (host : Str) (request : ProvisionCustomISORequest) : Option JobData := do
  let releaseMap ← site.loadReleaseMap host
  let releaseInfo ← (releaseMap.find? (fun r => r.1 = request.osVersion)).map Prod.snd
  let kernelUrl ← releaseInfo.kernel
  let initrdUrl ← releaseInfo.initrd
  let major ← (split '.' request.osVersion)[0]?
  let minor ← (split '.' request.osVersion)[1]?
  return { request, kernelUrl, initrdUrl
           baseUrl := ("http://releases.ubuntu.com/" : Str) ++ major ++ ("." : Str) ++ minor
           customOsUrl := ("http://" : Str) ++ host }

def accept (site : Site) (host : Str) (body : Option Json) : Except ℕ JobData :=
  match body with
  | none => .error 400
  | some value => match ProvisionCustomISORequest.ofJson site.coercions value with
    | .error _ => .error 400
    | .ok request => match jobData site host request with
      | none => .error 500
      | some data => .ok data

def jobId (data : JobData) : Str := data.request.hostname.val

/-- The entry stored before anything is built. -/
def bootingEntry : Entry :=
  ⟨.booting, .str "ISO/iPXE compilation sequence complete. Waiting for system boot.".toList,
    .customIso⟩

/-- How the directory and `job.json` are written; an interrupted dump leaves a file that
is not JSON. -/
inductive SaveOutcome where
  | saved
  | notOpened
  | interrupted
  deriving DecidableEq

def saveJob (data : JobData) (outcome : SaveOutcome) (files : Files) : Files × Bool :=
  match outcome with
  | .saved => (Function.update files (jobJson (jobId data)) (some (.jobJson data)), true)
  | .notOpened => (files, false)
  | .interrupted => (Function.update files (jobJson (jobId data)) (some .damaged), false)

/-- A request together with everything that can go wrong while it is served. -/
structure IsoRequest where
  host : Str
  body : Option Json
  save : SaveOutcome
  outcomes : PipelineCommand → Outcome

/-- `POST /api/v1/servers/provision/custom-iso`, served without interruption. -/
def customIso (site : Site) (s : Server) (r : IsoRequest) : Server × ℕ :=
  match accept site r.host r.body with
  | .error status => (s, status)
  | .ok data =>
    let s := s.setProgress (.text (jobId data)) bootingEntry
    match saveJob data r.save s.files with
    | (files, false) => ({ s with files }, 500)
    | (files, true) => match runCommands site (jobId data) r.outcomes pipeline files with
      | (files, true) => ({ s with files }, 200)
      | (files, false) => ({ s with files }, 500)

theorem accept_eq_ok {site : Site} {host : Str} {body : Option Json} {data : JobData}
    (h : accept site host body = .ok data) : ∃ request,
      body.map (ProvisionCustomISORequest.ofJson site.coercions) = some (.ok request) ∧
        jobData site host request = some data := by
  cases body with
  | none => cases h
  | some value =>
    unfold accept at h
    cases hrequest : ProvisionCustomISORequest.ofJson site.coercions value with
    | error e =>
      simp only [hrequest] at h
      cases h
    | ok request =>
      simp only [hrequest] at h
      cases hdata : jobData site host request with
      | none =>
        rw [hdata] at h
        cases h
      | some data' =>
        rw [hdata] at h
        cases h
        exact ⟨request, congrArg some hrequest, hdata⟩

/-- What the handler adds to an accepted body. -/
theorem jobData_spec {site : Site} {host : Str} {request : ProvisionCustomISORequest}
    {data : JobData} (h : jobData site host request = some data) :
    data.request = request ∧ data.customOsUrl = ("http://" : Str) ++ host ∧
      ∃ releases release, site.loadReleaseMap host = some releases ∧
        (request.osVersion, release) ∈ releases ∧ release.kernel = some data.kernelUrl ∧
        release.initrd = some data.initrdUrl := by
  simp only [jobData, Option.bind_eq_bind, Option.bind_eq_some_iff, Option.pure_def,
    Option.some.injEq] at h
  obtain ⟨releases, hreleases, release, hrelease, kernel, hkernel, initrd,
    hinitrd, -, -, -, -, rfl⟩ := h
  obtain ⟨⟨version, release'⟩, hfind, rfl⟩ := Option.map_eq_some_iff.mp hrelease
  have hversion : version = request.osVersion := by simpa using List.find?_some hfind
  have hmem := List.mem_of_find?_eq_some hfind
  rw [hversion] at hmem
  exact ⟨rfl, rfl, releases, release', hreleases, hmem, hkernel, hinitrd⟩

def isoWrite (site : Site) (r : IsoRequest) : Option (Key × Entry) :=
  match accept site r.host r.body with
  | .error _ => none
  | .ok data => some (.text (jobId data), bootingEntry)

/-- The files that are left, and the answer. -/
def isoFiles (site : Site) (r : IsoRequest) (files : Files) : Files × ℕ :=
  match accept site r.host r.body with
  | .error status => (files, status)
  | .ok data => match saveJob data r.save files with
    | (files, false) => (files, 500)
    | (files, true) => match runCommands site (jobId data) r.outcomes pipeline files with
      | (files, true) => (files, 200)
      | (files, false) => (files, 500)

theorem customIso_eq (site : Site) (s : Server) (r : IsoRequest) : customIso site s r =
    ({ s with
        progress := applyWrite s.progress (isoWrite site r)
        files := (isoFiles site r s.files).1 },
      (isoFiles site r s.files).2) := by
  unfold customIso isoWrite isoFiles
  cases accept site r.host r.body with
  | error status => rfl
  | ok data =>
    dsimp only [Server.setProgress_files]
    split
    · rfl
    · split <;> rfl

theorem jobJson_ne_bootIpxe (job : Str) : jobJson job ≠ bootIpxe := by
  intro h
  have hlast : (jobJson job).getLast? = some "job.json".toList :=
    jobFile_getLast job (by decide) (by decide)
  rw [h] at hlast
  exact absurd hlast (by decide)

section Answer
variable {site : Site} {s : Server} {r : IsoRequest} {data : JobData}

def savedFiles (s : Server) (data : JobData) : Files :=
  Function.update s.files (jobJson (jobId data)) (some (.jobJson data))

theorem customIso_eq_200 (hdata : accept site r.host r.body = .ok data) :
    (customIso site s r).2 = 200 ↔ r.save = .saved ∧
      (runCommands site (jobId data) r.outcomes pipeline (savedFiles s data)).2 = true := by
  unfold customIso
  rw [hdata]
  cases hsave : r.save with
  | saved =>
    simp only [saveJob, Server.setProgress_files, savedFiles]
    split <;> simp_all
  | notOpened => simp [saveJob]
  | interrupted => simp [saveJob]

theorem customIso_files (hdata : accept site r.host r.body = .ok data)
    (h : (customIso site s r).2 = 200) : (customIso site s r).1.files =
      (runCommands site (jobId data) r.outcomes pipeline (savedFiles s data)).1 := by
  obtain ⟨hsave, hrun⟩ := (customIso_eq_200 hdata).mp h
  unfold customIso
  rw [hdata, hsave]
  simp only [saveJob, Server.setProgress_files]
  change (match runCommands site (jobId data) r.outcomes pipeline (savedFiles s data) with
    | (files, true) => _
    | (files, false) => _ : Server × ℕ).1.files = _
  split <;> simp_all

end Answer

/-- `boot.ipxe` once `compose.py` has exited with status 0 for an accepted request. -/
def composedBootIpxe (site : Site) (data : JobData) (s : Server) : Outcome → Option File
  | .raises (.outputWrite written) => some (.text ((bootScript site data).take written))
  | .raises _ => s.files bootIpxe
  | _ => some (.text (bootScript site data))

private theorem perform_compose (site : Site) (data : JobData) (s : Server) (outcome : Outcome)
    (h : ∀ left, outcome ≠ .fails left) :
    ∃ files, perform site (jobId data) .compose outcome (savedFiles s data) = (files, true) ∧
      files bootIpxe = composedBootIpxe site data s outcome := by
  have hsaved : savedFiles s data (jobJson (jobId data)) = some (.jobJson data) :=
    Function.update_self ..
  have hboot : savedFiles s data bootIpxe = s.files bootIpxe :=
    Function.update_of_ne (jobJson_ne_bootIpxe _).symm _ _
  cases outcome with
  | fails left => exact absurd rfl (h left)
  | done =>
    refine ⟨Function.update (savedFiles s data) bootIpxe (some (.text (bootScript site data))),
      ?_, ?_⟩
    · simp [perform, command, transform, StoreCommands.Command.assign, hsaved]
    · exact Function.update_self ..
  | raises fault =>
    refine ⟨afterFault site data fault (savedFiles s data), by simp [perform, hsaved], ?_⟩
    cases fault with
    | outputWrite written => exact Function.update_self bootIpxe _ (savedFiles s data)
    | _ => exact hboot

section Composition
variable {site : Site} {s : Server} {r : IsoRequest} {data : JobData}

/-- The script of an accepted and saved request succeeds exactly when no command is made
to fail and the composition leaves some file; the ISO then embeds that one. -/
theorem runCommands_pipeline :
    (runCommands site (jobId data) r.outcomes pipeline (savedFiles s data)).2 = true ↔
      (∀ c ∈ pipeline, ∀ left, r.outcomes c ≠ .fails left) ∧
        ∃ file, composedBootIpxe site data s (r.outcomes .compose) = some file := by
  constructor
  · intro h
    have hfails := runCommands_no_failure h
    obtain ⟨files, hperform, hboot⟩ := perform_compose site data s
      (r.outcomes .compose) (hfails .compose List.mem_cons_self)
    rw [pipeline, runCommands, hperform] at h
    rw [← hboot]
    exact ⟨hfails, (runCommands_build.mp h).2⟩
  · rintro ⟨hfails, file, hfile⟩
    obtain ⟨files, hperform, hboot⟩ := perform_compose site data s
      (r.outcomes .compose) (hfails .compose List.mem_cons_self)
    rw [pipeline, runCommands, hperform]
    refine runCommands_build.mpr ⟨?_, file, hboot.trans hfile⟩
    intro c hc
    exact hfails c (List.mem_cons_of_mem _ hc)

theorem customIso_embeds (hdata : accept site r.host r.body = .ok data)
    (h : (customIso site s r).2 = 200) {file : File}
    (hfile : composedBootIpxe site data s (r.outcomes .compose) = some file) :
    (customIso site s r).1.files (isoPath (jobId data)) = some (isoEmbedding file) := by
  obtain ⟨-, hrun⟩ := (customIso_eq_200 hdata).mp h
  obtain ⟨files, hperform, hboot⟩ := perform_compose site data s
    (r.outcomes .compose) (runCommands_no_failure hrun .compose List.mem_cons_self)
  rw [customIso_files hdata h]
  rw [pipeline, runCommands, hperform] at hrun ⊢
  exact runCommands_build_iso hrun (hboot.trans hfile)

end Composition

theorem isoEmbedding_injective {file file' : File} (h : isoEmbedding file = isoEmbedding file') :
    file = file' := by
  unfold isoEmbedding at h
  injection h with h
  exact File.efi.inj h

def AnsweredWithOwnIso (site : Site) (s : Server) (r : IsoRequest) : Prop :=
  ∀ data, accept site r.host r.body = .ok data → (customIso site s r).2 = 200 →
    (customIso site s r).1.files (isoPath (jobId data)) = some (bootableIso (bootScript site data))

/-- An exception that does no harm: the output was already written to its end, or, when it
was not opened, the requests before have left no `boot.ipxe` or this very script in it, and
not that of another job or the beginning of one. -/
def HarmlessFault (site : Site) (s : Server) (data : JobData) : ComposeFault → Prop
  | .outputWrite written => (bootScript site data).length ≤ written
  | .templateLookup | .templateRead | .outputOpen =>
    ∀ file, s.files bootIpxe = some file → file = .text (bootScript site data)

theorem harmlessFault_iff {site : Site} {s : Server} {data : JobData} {fault : ComposeFault} :
    HarmlessFault site s data fault ↔
      ∀ file, composedBootIpxe site data s (.raises fault) = some file →
        file = .text (bootScript site data) := by
  cases fault with
  | outputWrite written =>
    rw [HarmlessFault, ← List.take_eq_self_iff]
    constructor
    · intro h file hfile
      rw [← Option.some.inj hfile, h]
    · intro h
      exact File.text.inj (h _ rfl)
  | templateLookup => exact Iff.rfl
  | templateRead => exact Iff.rfl
  | outputOpen => exact Iff.rfl

def FaultsHarmless (site : Site) (s : Server) (r : IsoRequest) : Prop :=
  ∀ data fault, accept site r.host r.body = .ok data → r.outcomes .compose = .raises fault →
    r.save = .saved → (∀ c ∈ build, ∀ left, r.outcomes c ≠ .fails left) →
    HarmlessFault site s data fault

theorem answeredWithOwnIso_iff (site : Site) (s : Server) (r : IsoRequest) :
    AnsweredWithOwnIso site s r ↔ FaultsHarmless site s r := by
  constructor
  · intro h data fault hdata hfault hsave hfails
    refine harmlessFault_iff.mpr fun file hfile => ?_
    have hall : ∀ c ∈ pipeline, ∀ left, r.outcomes c ≠ .fails left := by
      intro c hc left
      rcases List.mem_cons.mp hc with rfl | hc
      · rw [hfault]
        exact Outcome.noConfusion
      · exact hfails c hc left
    rw [← hfault] at hfile
    have hanswer : (customIso site s r).2 = 200 :=
      (customIso_eq_200 hdata).mpr ⟨hsave, runCommands_pipeline.mpr ⟨hall, file, hfile⟩⟩
    have hiso := (customIso_embeds hdata hanswer hfile).symm.trans (h data hdata hanswer)
    exact isoEmbedding_injective (Option.some.inj hiso)
  · intro h data hdata hanswer
    obtain ⟨hsave, hrun⟩ := (customIso_eq_200 hdata).mp hanswer
    obtain ⟨hfails, file, hfile⟩ := runCommands_pipeline.mp hrun
    have hown : file = .text (bootScript site data) := by
      cases hout : r.outcomes .compose with
      | done =>
        rw [hout] at hfile
        exact (Option.some.inj hfile).symm
      | fails left => exact absurd hout (hfails .compose List.mem_cons_self left)
      | raises fault =>
        rw [hout] at hfile
        have hharmless := h data fault hdata hout hsave
          (fun c hc => hfails c (List.mem_cons_of_mem _ hc))
        exact harmlessFault_iff.mp hharmless file hfile
    rw [bootableIso, ← hown]
    exact customIso_embeds hdata hanswer hfile

/-- Requests served one after the other all get the ISO they asked for exactly when
every exception of `compose_ipxe` in a request that goes on is harmless. -/
theorem sequential_isos_own_iff (site : Site) (s : Server) (requests : List IsoRequest) :
    Guarded (fun s r => (customIso site s r).1) (AnsweredWithOwnIso site) s requests ↔
      Guarded (fun s r => (customIso site s r).1) (FaultsHarmless site) s requests :=
  guarded_congr (answeredWithOwnIso_iff site)

def exampleSite : Site := RepositorySite.site "10.0.0.1"

def bodyA : Option Json := some (RepositorySite.isoBody "node-a" "10.0.0.2")
def bodyB : Option Json := some (RepositorySite.isoBody "node-b" "10.0.0.3")

def nodeA : JobData := RepositorySite.isoJob "10.0.0.1" "node-a" "10.0.0.2" (by decide) (by decide)
def nodeB : JobData := RepositorySite.isoJob "10.0.0.1" "node-b" "10.0.0.3" (by decide) (by decide)

theorem accept_bodyA : accept exampleSite "10.0.0.1" bodyA = .ok nodeA := rfl

set_option maxRecDepth 10000 in
theorem bootScript_nodes_ne : bootScript exampleSite nodeA ≠ bootScript exampleSite nodeB := by
  decide +kernel

def emptyServer : Server := Server.started (fun _ => []) (fun _ => none)

/-- The template cannot be read while `node-b` is served. -/
def requestB : IsoRequest where
  host := "10.0.0.1"
  body := bodyB
  save := .saved
  outcomes
    | .compose => .raises .templateRead
    | _ => .done

/-- `node-b` is told that its ISO is ready, and that ISO boots with the address and the
job id of `node-a`. -/
theorem failed_composition_reuses_script :
    let s := (customIso exampleSite emptyServer ⟨"10.0.0.1", bodyA, .saved, fun _ => .done⟩).1
    accept exampleSite requestB.host requestB.body = .ok nodeB ∧
    (customIso exampleSite s requestB).2 = 200 ∧
    (customIso exampleSite s requestB).1.files (isoPath (jobId nodeB)) =
      some (bootableIso (bootScript exampleSite nodeA)) ∧
    bootScript exampleSite nodeA ≠ bootScript exampleSite nodeB :=
  ⟨rfl, rfl, rfl, bootScript_nodes_ne⟩

end Astro.CustomIsoHandler
