import Astro.ServerState
import Astro.StoreCommands

/-!
# `compose.py` and `pipeline.sh`

The build of one ISO is a straight-line shell script over files that all jobs share.
Each of its commands is a store command with its read and write sets; the script
embedded in the resulting ISO is computed from the text of `boot.ipxe`.
-/

namespace Astro.IpxePipeline

open PythonText JobPaths StoreCommands

/-- `build_ipxe_context(job_data)`; a saved job file has no `arch`. -/
def buildIpxeContext (data : JobData) : List (Str × Str) :=
  let osVer := data.request.osVersion
  let majorVer := join "." ((split '.' osVer).take 2)
  let rawIp := (split '/' (replace "https://" [] (replace "http://" [] data.customOsUrl))).headD []
  let dnsServers := data.request.dnsServers
  [("JOB_ID".toList, data.request.hostname.val),
    ("OS_VER".toList, osVer),
    ("ARCH".toList, "amd64".toList),
    ("IPV4".toList, data.request.ipv4.address.val),
    ("MASK".toList, data.request.ipv4.netmask.val),
    ("GW".toList, data.request.ipv4.gateway.val),
    ("CUSTOM_OS_URL".toList, data.customOsUrl),
    ("KERNEL_URL".toList, data.kernelUrl),
    ("INITRD_URL".toList, data.initrdUrl),
    ("DNS_PRIMARY".toList, stripBlanks ((split ',' dnsServers).headD [])),
    ("DNS_LIST".toList, replace "," ":" dnsServers),
    ("BASE".toList, ("http://releases.ubuntu.com/" : Str) ++ majorVer),
    ("HOSTNAME".toList, data.request.hostname.val),
    ("SERVER_IP".toList, rawIp)]

def placeholder (key : Str) : Str := ("__" : Str) ++ key ++ ("__" : Str)

def hydrate (template : Str) (context : List (Str × Str)) : Str :=
  let content := replaceAll (context.map (fun pair => (placeholder pair.1, pair.2))) template
  if ("#!ipxe" : Str) <+: content then content else ("#!ipxe\n" : Str) ++ content

/-- `template2.ipxe` hydrated with the context of a job file. -/
def bootScript (site : Site) (data : JobData) : Str :=
  hydrate site.template2 (buildIpxeContext data)

/-- The action of `compose_ipxe` that raises. An output write can raise after any
number of characters has reached the file. -/
inductive ComposeFault where
  | templateLookup
  | templateRead
  | outputOpen
  | outputWrite (written : ℕ)
  deriving DecidableEq

def bootIpxe : Path := buildFile "boot.ipxe"
def ipxeEfi : Path := buildFile "ipxe/src/bin-x86_64-efi/ipxe.efi"
def bootX64 : Path := buildFile "iso_temp/EFI/BOOT/BOOTX64.EFI"
def efibootImg : Path := buildFile "efiboot.img"
def isoEfibootImg : Path := buildFile "iso_temp/efiboot.img"

def jobJson (job : Str) : Path := jobFile job "job.json"

inductive PipelineCommand where
  | compose
  | sedPing
  | sedTrust
  | make
  | mkdirBoot
  | copyEfi
  | dd
  | mkfs
  | mmdEfi
  | mmdBoot
  | mcopy
  | mkdirJob
  | copyImage
  | xorriso
  deriving DecidableEq

def build : List PipelineCommand :=
  [.sedPing, .sedTrust, .make, .mkdirBoot, .copyEfi, .dd, .mkfs, .mmdEfi, .mmdBoot, .mcopy,
    .mkdirJob, .copyImage, .xorriso]

def pipeline : List PipelineCommand := .compose :: build

/-- The file a command writes; the `sed` edits and the directories carry no data
that a later command of the model reads. -/
def target (job : Str) : PipelineCommand → Option Path
  | .compose => some bootIpxe
  | .make => some ipxeEfi
  | .copyEfi => some bootX64
  | .dd | .mkfs | .mmdEfi | .mmdBoot | .mcopy => some efibootImg
  | .copyImage => some isoEfibootImg
  | .xorriso => some (isoPath job)
  | .sedPing | .sedTrust | .mkdirBoot | .mkdirJob => none

def transform (source destination : Path) (convert : File → Option File) :
    Command Path (Option File) :=
  .assign {source} destination (fun files => ((files source).bind convert).map some) (by
    intro s t h
    rw [h rfl])

def combine (source source' destination : Path) (convert : File → File → Option File) :
    Command Path (Option File) :=
  .assign {source, source'} destination
    (fun files => ((files source).bind fun f => (files source').bind (convert f)).map some) (by
    intro s t h
    rw [h (Or.inl rfl), h (Or.inr rfl)])

/-- What a command does when nothing goes wrong; it fails on missing or unsuitable
inputs. `make` embeds whatever bytes it finds in `boot.ipxe`. -/
def command (site : Site) (job : Str) : PipelineCommand → Command Path (Option File)
  | .compose => transform (jobJson job) bootIpxe fun
    | .jobJson data => some (.text (bootScript site data))
    | _ => none
  | .make => transform bootIpxe ipxeEfi fun file => some (.efi file)
  | .copyEfi => transform ipxeEfi bootX64 some
  | .dd => .assign ∅ efibootImg (fun _ => some (some .zeroes)) (fun _ _ _ => rfl)
  | .mkfs => transform efibootImg efibootImg fun _ => some .fat
  | .mmdEfi => transform efibootImg efibootImg fun
    | .fat => some .fatEfi
    | _ => none
  | .mmdBoot => transform efibootImg efibootImg fun
    | .fatEfi => some .fatEfiBoot
    | _ => none
  | .mcopy => combine bootX64 efibootImg efibootImg fun
    | bootx64, .fatEfiBoot => some (.fatBootable bootx64)
    | _, _ => none
  | .copyImage => transform efibootImg isoEfibootImg some
  | .xorriso => combine bootX64 isoEfibootImg (isoPath job) fun bootx64 efiboot =>
      some (.iso bootx64 efiboot)
  | .sedPing | .sedTrust | .mkdirBoot | .mkdirJob => .skip

/-- How one command of a run ends. A failing command has not touched its target yet, or it
leaves a part of its output there. `compose.py` prints an exception of `compose_ipxe` and
still exits with status 0. -/
inductive Outcome where
  | done
  | raises (fault : ComposeFault)
  | fails (left : Option ℕ)
  deriving DecidableEq

/-- `boot.ipxe` when only so many characters of the script have reached it. -/
def truncated (site : Site) (data : JobData) (written : ℕ) (files : Files) : Files :=
  Function.update files bootIpxe (some (.text ((bootScript site data).take written)))

def afterFault (site : Site) (data : JobData) (fault : ComposeFault) (files : Files) : Files :=
  match fault with
  | .outputWrite written => truncated site data written files
  | .templateLookup | .templateRead | .outputOpen => files

/-- A composition that is killed leaves the beginning of the script, the other commands leave
a file that is of no use. -/
def afterFailure (site : Site) (job : Str) (c : PipelineCommand) (left : Option ℕ) (files : Files) :
    Files :=
  match left with
  | none => files
  | some written =>
    if c = .compose then match files (jobJson job) with
      | some (.jobJson data) => truncated site data written files
      | _ => files
    else match target job c with
      | some path => Function.update files path (some .damaged)
      | none => files

/-- The files after a command, and whether its exit status is 0. -/
def perform (site : Site) (job : Str) (c : PipelineCommand) (outcome : Outcome) (files : Files) :
    Files × Bool :=
  match outcome, c, files (jobJson job) with
  | .fails left, c, _ => (afterFailure site job c left files, false)
  | .raises fault, .compose, some (.jobJson data) => (afterFault site data fault files, true)
  | _, c, _ => match (command site job c).effect files with
    | some files' => (files', true)
    | none => (files, false)

/-- `set -e`: run the commands until one has a nonzero status. -/
def runCommands (site : Site) (job : Str) (outcomes : PipelineCommand → Outcome) :
    List PipelineCommand → Files → Files × Bool
  | [], files => (files, true)
  | c :: cs, files => match perform site job c (outcomes c) files with
    | (files', true) => runCommands site job outcomes cs files'
    | (files', false) => (files', false)

/-- An ISO both of whose boot paths embed the file. -/
def isoEmbedding (file : File) : File := .iso (.efi file) (.fatBootable (.efi file))

def bootableIso (script : Str) : File := isoEmbedding (.text script)

section Solo
variable (site : Site) (job : Str) {files : Files}

private theorem build_paths_nodup :
    [bootIpxe, ipxeEfi, bootX64, efibootImg, isoEfibootImg].Nodup := by decide

/-- Whatever `boot.ipxe` holds, the remaining commands succeed and leave an ISO that embeds
it. -/
theorem execAll_build {file : File} (h : files bootIpxe = some file) :
    ∃ t, execAll (build.map (command site job)) files = some t ∧
      t (isoPath job) = some (isoEmbedding file) := by
  have hpaths := build_paths_nodup
  simp only [List.nodup_cons, List.mem_cons, List.not_mem_nil, or_false, not_or] at hpaths
  simp [build, execAll, command, Command.skip, Command.assign, transform, combine, h,
    isoEmbedding, hpaths, eq_comm]

theorem execAll_pipeline {data : JobData} (h : files (jobJson job) = some (.jobJson data)) :
    ∃ t, execAll (pipeline.map (command site job)) files = some t ∧
      t (isoPath job) = some (bootableIso (bootScript site data)) := by
  have hboot : (Function.update files bootIpxe (some (File.text (bootScript site data)))) bootIpxe =
      some (.text (bootScript site data)) := Function.update_self ..
  obtain ⟨t, ht, hiso⟩ := execAll_build site job hboot
  refine ⟨t, ?_, hiso⟩
  rw [← ht]
  simp [pipeline, execAll, command, transform, Command.assign, h]

end Solo

section Status
variable {site : Site} {job : Str} {outcomes : PipelineCommand → Outcome}

theorem perform_effect {c : PipelineCommand} (hc : c ≠ .compose) {outcome : Outcome}
    (ho : ∀ left, outcome ≠ .fails left) (files : Files) :
    perform site job c outcome files = match (command site job c).effect files with
      | some files' => (files', true)
      | none => (files, false) := by
  cases outcome with
  | done => rfl
  | fails left => exact absurd rfl (ho left)
  | raises fault => cases c <;> first | exact absurd rfl hc | rfl

theorem runCommands_no_failure {cs : List PipelineCommand} {files : Files}
    (h : (runCommands site job outcomes cs files).2 = true) :
    ∀ c ∈ cs, ∀ left, outcomes c ≠ .fails left := by
  induction cs generalizing files with
  | nil => simp
  | cons c cs ih =>
    unfold runCommands at h
    split at h
    · rename_i files' hperform
      intro c' hc' left hfails
      rcases List.mem_cons.mp hc' with rfl | hc'
      · rw [hfails] at hperform
        exact Bool.noConfusion (congrArg Prod.snd hperform)
      · exact ih h c' hc' left hfails
    · exact absurd h Bool.false_ne_true

theorem runCommands_execAll {cs : List PipelineCommand} (hcompose : .compose ∉ cs)
    (hfails : ∀ c ∈ cs, ∀ left, outcomes c ≠ .fails left) {files t : Files} :
    execAll (cs.map (command site job)) files = some t ↔
      runCommands site job outcomes cs files = (t, true) := by
  induction cs generalizing files with
  | nil => simp [execAll, runCommands]
  | cons c cs ih =>
    have hc : c ≠ .compose := fun h => hcompose (h ▸ List.mem_cons_self)
    rw [List.map_cons, execAll, runCommands, perform_effect hc (hfails c List.mem_cons_self)]
    cases (command site job c).effect files with
    | none => simp
    | some files' =>
      exact ih (fun h => hcompose (List.mem_cons_of_mem c h))
        (fun c' hc' => hfails c' (List.mem_cons_of_mem c hc'))

theorem compose_notMem_build : .compose ∉ build := by decide

/-- Without a `boot.ipxe` there is nothing to embed, and `make` fails. -/
theorem execAll_build_eq_none (site : Site) (job : Str) {files : Files}
    (h : files bootIpxe = none) : execAll (build.map (command site job)) files = none := by
  have hmake : (command site job .make).effect files = none := by
    simp only [command, transform, Command.assign]
    rw [h]
    rfl
  change ((command site job .make).effect files).bind _ = none
  rw [hmake]
  rfl

/-- After the composition, the script succeeds exactly when no command is made to fail
and there is a `boot.ipxe`; what it holds is then in the ISO. -/
theorem runCommands_build {files : Files} :
    (runCommands site job outcomes build files).2 = true ↔
      (∀ c ∈ build, ∀ left, outcomes c ≠ .fails left) ∧ ∃ file, files bootIpxe = some file := by
  constructor
  · intro h
    have hfails := runCommands_no_failure h
    refine ⟨hfails, Option.ne_none_iff_exists'.mp fun hmissing => ?_⟩
    have hnone := execAll_build_eq_none site job hmissing
    have hrun := (runCommands_execAll compose_notMem_build hfails).mpr (Prod.ext rfl h)
    exact absurd (hnone.symm.trans hrun) (Option.some_ne_none _).symm
  · rintro ⟨hfails, file, hfile⟩
    obtain ⟨t, ht, -⟩ := execAll_build site job hfile
    rw [(runCommands_execAll compose_notMem_build hfails).mp ht]

theorem runCommands_build_iso {files : Files}
    (h : (runCommands site job outcomes build files).2 = true) {file : File}
    (hfile : files bootIpxe = some file) :
    (runCommands site job outcomes build files).1 (isoPath job) = some (isoEmbedding file) := by
  obtain ⟨t, ht, hiso⟩ := execAll_build site job hfile
  rw [(runCommands_execAll compose_notMem_build (runCommands_no_failure h)).mp ht]
  exact hiso

end Status

section Frame
variable {site : Site} {job : Str} {c : PipelineCommand} {files files' : Files}

private theorem transform_cases {source destination : Path} {convert : File → Option File}
    (h : (transform source destination convert).effect files = some files') :
    ∃ f, files' = Function.update files destination (some f) := by
  obtain ⟨v, hv, rfl⟩ := Option.map_eq_some_iff.mp h
  obtain ⟨f, -, rfl⟩ := Option.map_eq_some_iff.mp hv
  exact ⟨f, rfl⟩

private theorem combine_cases {source source' destination : Path}
    {convert : File → File → Option File}
    (h : (combine source source' destination convert).effect files = some files') :
    ∃ f, files' = Function.update files destination (some f) := by
  obtain ⟨v, hv, rfl⟩ := Option.map_eq_some_iff.mp h
  obtain ⟨f, -, rfl⟩ := Option.map_eq_some_iff.mp hv
  exact ⟨f, rfl⟩

theorem effect_cases (h : (command site job c).effect files = some files') :
    (target job c = none ∧ files' = files) ∨
      ∃ path f, target job c = some path ∧ files' = Function.update files path (some f) := by
  cases c with
  | dd => exact Or.inr ⟨_, _, rfl, (Option.some.inj h).symm⟩
  | sedPing | sedTrust | mkdirBoot | mkdirJob => exact Or.inl ⟨rfl, (Option.some.inj h).symm⟩
  | mcopy | xorriso =>
    obtain ⟨f, hf⟩ := combine_cases h
    exact Or.inr ⟨_, f, rfl, hf⟩
  | compose | make | copyEfi | mkfs | mmdEfi | mmdBoot | copyImage =>
    obtain ⟨f, hf⟩ := transform_cases h
    exact Or.inr ⟨_, f, rfl, hf⟩

theorem afterFailure_cases (site : Site) (job : Str) (c : PipelineCommand) (left : Option ℕ)
    (files : Files) : afterFailure site job c left files = files ∨
      ∃ path f, target job c = some path ∧
        afterFailure site job c left files = Function.update files path (some f) := by
  unfold afterFailure
  split
  · exact Or.inl rfl
  · split_ifs with hcompose
    · split
      · exact Or.inr ⟨bootIpxe, _, by rw [hcompose]; rfl, rfl⟩
      · exact Or.inl rfl
    · split
      · rename_i path htarget
        exact Or.inr ⟨path, .damaged, htarget, rfl⟩
      · exact Or.inl rfl

/-- However a command ends, it has changed nothing or replaced its target. -/
theorem perform_cases (site : Site) (job : Str) (c : PipelineCommand) (outcome : Outcome)
    (files : Files) :
    (perform site job c outcome files).1 = files ∨
      ∃ path f, target job c = some path ∧
        (perform site job c outcome files).1 = Function.update files path (some f) := by
  unfold perform
  split
  · exact afterFailure_cases site job _ _ files
  · rename_i fault data _
    cases fault with
    | outputWrite written => exact Or.inr ⟨bootIpxe, _, rfl, rfl⟩
    | _ => exact Or.inl rfl
  · split
    · rename_i heffect
      rcases effect_cases heffect with ⟨-, h⟩ | h
      · exact Or.inl h
      · exact Or.inr h
    · exact Or.inl rfl

end Frame

end Astro.IpxePipeline
