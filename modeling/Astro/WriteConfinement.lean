import Astro.SeedIsolation

/-!
# Where the server writes

Custom-iso requests write `job.json`, phone-homes the seed files and telemetry events the
log, each under the text of a job id. The first two take the id from their body; an event
takes it from the tracker, where hooks, downloads and provisioning requests put ids as well.
Nothing checks that an id is the name of a directory.
-/

namespace Astro.WriteConfinement

open PythonText JobPaths RequestModels IpxePipeline TelemetryHandler CustomIsoHandler ServerHandlers
  SeedRendering HttpMethods LabelledRuns ObservedRuns SequentialRuns JobDirectories SeedIsolation

/-- A job id and the file that is written for it. -/
abbrev FileWrite := Str × ServerFile

def isoWrites (site : Site) (r : IsoRequest) : List FileWrite :=
  match accept site r.host r.body, r.save with
  | .error _, _ | .ok _, .notOpened => []
  | .ok data, .saved | .ok data, .interrupted => [(jobId data, .jobJson)]

def seedWrites (world : World) (env : Environment) (r : Request) (s : Server) : List FileWrite :=
  match phoneHomeRequest world.toSite r.body with
  | some request =>
    (phoneHomeSeeds world.toDeployment r.hostIp env.seedWrite env.chmod r.body s).written.map
      fun seed => (request.jobId.val, .seed seed.1)
  | none => []

def logWrites (site : Site) (body : Option Json) (logWritten : Bool) (s : Server) :
    List FileWrite :=
  match telemetryWrite site body s with
  | some (.text job, _) => if logWritten then [(job, .installLog)] else []
  | _ => []

def postWrites (world : World) (env : Environment) (r : Request) (m : Machine) : Endpoint →
    List FileWrite
  | .progress | .provision => []
  | .customIso => isoWrites world.toSite (isoRequest env r)
  | .phoneHome => seedWrites world env r m.toServer
  | .telemetry => logWrites world.toSite r.body env.logWritten m.toServer

def writes (m : Machine) : Action → List FileWrite
  | .request world env r => [Endpoint.customIso, .phoneHome, .telemetry].flatMap fun e =>
      if r.method = .post ∧ r.path = e.path then postWrites world env r m e else []
  | .runner _ _ => []

/-- The writes of a whole run. -/
def runWrites (m : Machine) (actions : List Action) : List FileWrite :=
  (outputs step writes m actions).flatten

/-- The path is a file of that name directly in a directory of a job. -/
def Confined (file : ServerFile) (path : Path) : Prop :=
  ∃ c, IsJobName c ∧ path = jobsPath ++ [c, file.name]

/-- The nonempty text under `job_id`. -/
def hookId (body : Option Json) : Option Str :=
  match body with
  | some (.obj hookData) => match Fields.getD hookData "job_id" .null with
    | .str job => if job ≠ [] then some job else none
    | _ => none
  | _ => none

def postId (site : Site) (body : Option Json) : Endpoint → Option Str
  | .progress => hookId body
  | .customIso => isoHostname site body
  | .phoneHome => (phoneHomeRequest site body).map fun request => request.jobId.val
  | .provision => provisionJob site body
  | .telemetry => none

/-- The job id in the body of the request, or in the path of a download. -/
def BringsIn (a : Action) (job : Str) : Prop :=
  match a with
  | .request world _ r =>
    (r.method = .get ∧ ¬ IsStatusPath r.path ∧ launcherJob r.path = some job) ∨
      (r.method = .post ∧ ∃ e : Endpoint, r.path = e.path ∧ postId world.toSite r.body e = some job)
  | .runner _ _ => False

def ProperIds (a : Action) : Prop := ∀ job, BringsIn a job → IsJobName job

/-- The tracked texts are names of directories. -/
def TrackedProper (m : Machine) : Prop := ∀ job, .text job ∈ m.progress.keys → IsJobName job

theorem mem_keys_applyWrite {progress : Dict Key Entry} {write : Option (Key × Entry)} {key : Key}
    (h : key ∈ (applyWrite progress write).keys) :
    key ∈ progress.keys ∨ ∃ entry, write = some (key, entry) := by
  cases write with
  | none => exact Or.inl h
  | some stored =>
    rcases Dict.mem_keys_set.mp h with rfl | hkey
    · exact Or.inr ⟨stored.2, rfl⟩
    · exact Or.inl hkey

theorem hookId_of_write {site : Site} {body : Option Json} {job : Str} {entry : Entry}
    (h : hookWrite site body = some (.text job, entry)) : hookId body = some job := by
  obtain ⟨hookData, rfl, htruthy, hkey⟩ := (hookWrite_key_iff site).mp ⟨entry, h⟩
  rw [hookId]
  cases hid : Fields.getD hookData "job_id" .null with
  | str s =>
    rw [hid] at htruthy hkey
    cases hkey
    exact if_pos (of_decide_eq_true htruthy)
  | _ =>
    rw [hid] at hkey
    cases hkey

section Tracked
variable {world : World} {env : Environment} {r : Request} {m : Machine} {job : Str}

/-- An endpoint stores under the id of the body; an event does so under a tracked one. -/
theorem postWrite_key {e : Endpoint} {entry : Entry}
    (h : postWrite world env r m e = some (.text job, entry)) :
    .text job ∈ m.progress.keys ∨ postId world.toSite r.body e = some job := by
  cases e with
  | progress => exact Or.inr (hookId_of_write h)
  | customIso =>
    right
    simp only [postWrite, isoWrite] at h
    split at h
    · cases h
    · rename_i data haccept
      cases h
      exact isoHostname_of_accept haccept
  | phoneHome =>
    obtain ⟨⟨request, hrequest, hkey⟩, -⟩ := phoneHomeWrite_spec h
    cases hkey
    exact Or.inr (by rw [postId, hrequest]; rfl)
  | provision =>
    obtain ⟨job', hjob', hwrite⟩ := Option.map_eq_some_iff.mp h
    cases hwrite
    exact Or.inr hjob'
  | telemetry =>
    rcases telemetry_cases world.toSite r.body env.logWritten m.toServer with
      ⟨-, hnone⟩ | ⟨fields, key, stage, -, hmatched, -, hsome, -⟩
    · cases hnone.symm.trans h
    · cases hsome.symm.trans h
      exact Or.inl (matchedJob_spec hmatched).1

theorem mem_keys_posted {e : Endpoint} (h : .text job ∈ (posted world env r m e).progress.keys) :
    .text job ∈ m.progress.keys ∨ postId world.toSite r.body e = some job := by
  rw [posted_progress] at h
  rcases mem_keys_applyWrite h with hkey | ⟨entry, hwrite⟩
  · exact Or.inl hkey
  · exact postWrite_key hwrite

end Tracked

theorem mem_keys_step {m : Machine} {a : Action} {job : Str}
    (h : .text job ∈ (step m a).progress.keys) : .text job ∈ m.progress.keys ∨ BringsIn a job := by
  cases a with
  | runner n runner => exact Or.inl h
  | request world env r =>
    change _ ∈ (serve world env r m).state.progress.keys at h
    cases kind_of r with
    | get hmethod =>
      rw [serve_get_state hmethod] at h
      rcases mem_keys_applyWrite h with hkey | ⟨entry, hwrite⟩
      · exact Or.inl hkey
      · rcases getWrite_spec hwrite with ⟨-, hstatus⟩ | ⟨hpath, job', hlauncher, hkey, -⟩
        · obtain ⟨hkey, hstage, -⟩ := statusWrite_spec hstatus
          rw [hkey]
          obtain ⟨entry', hentry, -⟩ := Option.map_eq_some_iff.mp hstage
          exact Or.inl (Dict.mem_keys_iff.mpr ⟨entry', hentry⟩)
        · cases hkey
          exact Or.inr (Or.inl ⟨hmethod, hpath, hlauncher⟩)
    | head hmethod =>
      rw [serve_head_state hmethod] at h
      exact Or.inl h
    | unknown hmethod hpath =>
      rw [serve_unknown hmethod hpath] at h
      exact Or.inl h
    | post hmethod e hpath =>
      rw [serve_post_state hmethod hpath] at h
      rcases mem_keys_posted h with hkey | hid
      · exact Or.inl hkey
      · exact Or.inr (Or.inr ⟨hmethod, e, hpath, hid⟩)

theorem TrackedProper.step {m : Machine} (h : TrackedProper m) {a : Action} (ha : ProperIds a) :
    TrackedProper (step m a) := by
  intro job hjob
  rcases mem_keys_step hjob with hkey | hbrought
  · exact h job hkey
  · exact ha job hbrought

theorem mem_writes {world : World} {env : Environment} {r : Request} {m : Machine} {w : FileWrite} :
    w ∈ writes m (.request world env r) ↔
      r.method = .post ∧ ∃ e : Endpoint, r.path = e.path ∧ w ∈ postWrites world env r m e := by
  simp only [writes, List.mem_flatMap]
  constructor
  · rintro ⟨e, -, hw⟩
    split_ifs at hw with hrequest
    · exact ⟨hrequest.1, e, hrequest.2, hw⟩
    · cases hw
  · rintro ⟨hmethod, e, hpath, hw⟩
    refine ⟨e, ?_, by rw [if_pos ⟨hmethod, hpath⟩]; exact hw⟩
    cases e with
    | progress => cases hw
    | provision => cases hw
    | _ => decide

theorem mem_postWrites {world : World} {env : Environment} {r : Request} {m : Machine}
    {e : Endpoint} {w : FileWrite} (h : w ∈ postWrites world env r m e) :
    .text w.1 ∈ m.progress.keys ∨ postId world.toSite r.body e = some w.1 := by
  cases e with
  | progress => cases h
  | provision => cases h
  | customIso =>
    right
    simp only [postWrites, isoWrites] at h
    split at h
    · cases h
    · cases h
    · rename_i data haccept _
      rw [List.mem_singleton.mp h]
      exact isoHostname_of_accept haccept
    · rename_i data haccept _
      rw [List.mem_singleton.mp h]
      exact isoHostname_of_accept haccept
  | phoneHome =>
    right
    simp only [postWrites, seedWrites] at h
    split at h
    · rename_i request hrequest
      obtain ⟨seed, -, rfl⟩ := List.mem_map.mp h
      rw [postId, hrequest]
      rfl
    · cases h
  | telemetry =>
    simp only [postWrites, logWrites] at h
    split at h
    · rename_i job entry hwrite
      split_ifs at h
      · rw [List.mem_singleton.mp h]
        exact @postWrite_key world env r m job .telemetry entry hwrite
      · cases h
    · cases h

theorem writes_proper {m : Machine} (h : TrackedProper m) {a : Action} (ha : ProperIds a) :
    ∀ w ∈ writes m a, IsJobName w.1 := by
  cases a with
  | runner n runner => exact fun w hw => absurd hw List.not_mem_nil
  | request world env r =>
    intro w hw
    obtain ⟨hmethod, e, hpath, hw⟩ := mem_writes.mp hw
    rcases mem_postWrites hw with hkey | hid
    · exact h w.1 hkey
    · exact ha w.1 (Or.inr ⟨hmethod, e, hpath, hid⟩)

section Frame
variable {world : World} {env : Environment} {r : Request} {m : Machine} {path : Path}

theorem isoFiles_of_not_written {site : Site} {r : IsoRequest} {files : Files}
    (h : ∀ w ∈ isoWrites site r, path ≠ w.2.path w.1)
    (hpath : ∀ job cmd, target job cmd ≠ some path) :
    (isoFiles site r files).1 path = files path := by
  cases haccept : accept site r.host r.body with
  | error status => rw [isoFiles_error haccept]
  | ok data =>
    rw [isoFiles_of_not_target haccept (hpath _)]
    rw [isoWrites, haccept] at h
    cases hsave : r.save with
    | notOpened => rfl
    | saved =>
      rw [hsave] at h
      exact Function.update_of_ne (h _ List.mem_cons_self) _ _
    | interrupted =>
      rw [hsave] at h
      exact Function.update_of_ne (h _ List.mem_cons_self) _ _

theorem posted_files_of_not_written {e : Endpoint}
    (h : ∀ w ∈ postWrites world env r m e, path ≠ w.2.path w.1)
    (hpath : ∀ job cmd, target job cmd ≠ some path) : (posted world env r m e).files path =
      m.files path := by
  by_cases hiso : e = .customIso
  · subst hiso
    rw [posted_customIso_files]
    exact isoFiles_of_not_written h hpath
  · by_cases hphone : e = .phoneHome
    · subst hphone
      simp only [postWrites, seedWrites] at h
      cases hrequest : phoneHomeRequest world.toSite r.body with
      | none => rw [posted_phoneHome_rejected hrequest]
      | some request =>
        rw [hrequest] at h
        have hseeds : ∀ seed ∈ (phoneHomeSeeds world.toDeployment r.hostIp env.seedWrite
          env.chmod r.body
            m.toServer).written, path ≠ jobFile request.jobId.val seed.1.name :=
          fun seed hseed => h _ (List.mem_map_of_mem hseed)
        change (phoneHome world.toSite r.body _ m.toServer).1.files path = _
        rw [phoneHome, hrequest]
        dsimp only
        split
        · rfl
        · exact writeSeeds_of_ne _ _ _ hseeds
    · rw [posted_files world env r m hiso hphone]

theorem posted_logs_of_not_written {e : Endpoint}
    (h : ∀ w ∈ postWrites world env r m e, path ≠ w.2.path w.1) :
    (posted world env r m e).logs path = m.logs path := by
  by_cases he : e = .telemetry
  · subst he
    change (telemetry world.toSite r.body env.logWritten m.toServer).1.logs path = _
    rcases telemetry_cases world.toSite r.body env.logWritten m.toServer with
      ⟨hsame, -⟩ | ⟨fields, key, stage, -, -, -, hwrite, hrecord⟩
    · rw [hsame]
    · simp only [postWrites, logWrites, hwrite] at h
      rw [hrecord]
      cases key with
      | number x => rfl
      | text job =>
        cases hlog : env.logWritten with
        | false => rfl
        | true =>
          rw [hlog] at h
          exact Function.update_of_ne (h _ List.mem_cons_self) _ _
  · rw [posted_logs world env r m he]

/-- Apart from the targets of `pipeline.sh`, a step changes only what it writes. -/
theorem step_of_not_written {a : Action} (h : ∀ w ∈ writes m a, path ≠ w.2.path w.1)
    (hpath : ∀ job cmd, target job cmd ≠ some path) :
    (step m a).files path = m.files path ∧ (step m a).logs path = m.logs path := by
  cases a with
  | runner n runner => exact ⟨rfl, rfl⟩
  | request world env r =>
    change (serve world env r m).state.files path = _ ∧ (serve world env r m).state.logs path = _
    cases kind_of r with
    | get hmethod =>
      rw [serve_get_state hmethod]
      exact ⟨rfl, rfl⟩
    | head hmethod =>
      rw [serve_head_state hmethod]
      exact ⟨rfl, rfl⟩
    | unknown hmethod hpath =>
      rw [serve_unknown hmethod hpath]
      exact ⟨rfl, rfl⟩
    | post hmethod e hendpoint =>
      have hposted : ∀ w ∈ postWrites world env r m e, path ≠ w.2.path w.1 :=
        fun w hw => h w (mem_writes.mpr ⟨hmethod, e, hendpoint, hw⟩)
      rw [serve_post_state hmethod hendpoint]
      exact ⟨posted_files_of_not_written hposted hpath, posted_logs_of_not_written hposted⟩

theorem run_of_not_written {actions : List Action}
    (h : ∀ w ∈ runWrites m actions, path ≠ w.2.path w.1)
    (hpath : ∀ job cmd, target job cmd ≠ some path) :
    (run step m actions).files path = m.files path ∧
      (run step m actions).logs path = m.logs path := by
  induction actions generalizing m with
  | nil => exact ⟨rfl, rfl⟩
  | cons a actions ih =>
    have hfirst : ∀ w ∈ writes m a, path ≠ w.2.path w.1 :=
      fun w hw => h w (List.mem_append_left _ hw)
    have hrest : ∀ w ∈ runWrites (step m a) actions, path ≠ w.2.path w.1 :=
      fun w hw => h w (List.mem_append_right _ hw)
    obtain ⟨hfiles, hlogs⟩ := step_of_not_written hfirst hpath
    obtain ⟨hfiles', hlogs'⟩ := ih hrest
    exact ⟨hfiles'.trans hfiles, hlogs'.trans hlogs⟩

end Frame

/-- In a run of a new server whose requests bring in only names of directories, everything
is written into the directory of its job, and no two jobs share a file. -/
theorem writes_confined (logs : Path → Str) (files : Files) {actions : List Action}
    (hids : ∀ a ∈ actions, ProperIds a) :
    (∀ w ∈ runWrites (Machine.started logs files) actions, Confined w.2 (w.2.path w.1)) ∧
      ∀ w ∈ runWrites (Machine.started logs files) actions,
        ∀ w' ∈ runWrites (Machine.started logs files) actions, w.1 ≠ w'.1 →
          w.2.path w.1 ≠ w'.2.path w'.1 := by
  have hstarted : TrackedProper (Machine.started logs files) :=
    fun job hjob => absurd hjob List.not_mem_nil
  have hproper : ∀ w ∈ runWrites (Machine.started logs files) actions, IsJobName w.1 := by
    intro w hw
    obtain ⟨ws, hws, hw⟩ := List.mem_flatten.mp hw
    exact @forall_outputs _ _ _ step writes TrackedProper ProperIds
      (fun ws => ∀ w ∈ ws, IsJobName w.1)
      (fun _ _ hm ha => hm.step ha)
        (fun _ _ hm ha => writes_proper hm ha) actions hids _ hstarted ws hws
      w hw
  refine ⟨fun w hw => ⟨w.1, hproper w hw, ServerFile.path_of_isJobName (hproper w hw) w.2⟩, ?_⟩
  intro w hw w' hw' hne hpath
  exact hne (ServerFile.path_injective (hproper w hw).1 (hproper w' hw').1 hpath)

theorem properIds_postAction {e : Endpoint} {body : Json} {job : Str}
    (hid : postId exampleDeployment.toSite (some body) e = some job) (hjob : IsJobName job) :
    ProperIds (postAction e body) := by
  rintro job' (⟨hmethod, -⟩ | ⟨-, e', hpath, hid'⟩)
  · cases hmethod
  · obtain rfl := Endpoint.path_injective hpath
    cases hid.symm.trans hid'
    exact hjob

/-- Two jobs, of which one phones home. -/
def twoJobs : List Action :=
  [isoAction "node-a" "10.0.0.2", isoAction "node-b" "10.0.0.3", phoneAction "node-a"]

theorem writes_confined_twoJobs :
    ("node-a".toList, .jobJson) ∈ runWrites emptyMachine twoJobs ∧
    ("node-b".toList, .jobJson) ∈ runWrites emptyMachine twoJobs ∧
    (∀ w ∈ runWrites emptyMachine twoJobs, Confined w.2 (w.2.path w.1)) ∧
      ∀ w ∈ runWrites emptyMachine twoJobs, ∀ w' ∈ runWrites emptyMachine twoJobs,
        w.1 ≠ w'.1 → w.2.path w.1 ≠ w'.2.path w'.1 := by
  have hfirst : ∃ more, runWrites emptyMachine twoJobs =
      ("node-a".toList, .jobJson) :: ("node-b".toList, .jobJson) :: more := ⟨_, rfl⟩
  obtain ⟨more, hwrites⟩ := hfirst
  refine ⟨?_, ?_, writes_confined (fun _ => []) (fun _ => none) ?_⟩
  · rw [hwrites]
    exact List.mem_cons_self
  · rw [hwrites]
    exact List.mem_cons_of_mem _ List.mem_cons_self
  · simp only [twoJobs, List.mem_cons, List.not_mem_nil, or_false]
    rintro a (rfl | rfl | rfl)
    · exact properIds_postAction rfl (by decide)
    · exact properIds_postAction rfl (by decide)
    · exact properIds_postAction rfl (by decide)

/-- A download of a launcher that no job has, and an event with two dots in its name. -/
def dottedDownload : List Action :=
  [.request (worldWith fun _ => none) calm (bare .get "/automation/../installer-launch.sh"),
    postAction .telemetry (.obj (report "loading..".toList "start".toList [] []))]

theorem not_confined_of_length {file : ServerFile} {path : Path} (h : path.length ≠ 6) :
    ¬ Confined file path := by
  rintro ⟨c, -, rfl⟩
  exact h rfl

/-- A hostname leads out of the directory of jobs, a download makes an event do so, and two
hostnames name one directory. -/
theorem ids_lead_elsewhere :
    (runWrites emptyMachine [isoAction "../../x" "10.0.0.2"] = [("../../x".toList, .jobJson)] ∧
      ¬ Confined .jobJson (ServerFile.jobJson.path "../../x")) ∧
    (runWrites emptyMachine dottedDownload = [("..".toList, .installLog)] ∧
      ¬ Confined .installLog (ServerFile.installLog.path "..")) ∧
    runWrites emptyMachine [isoAction "node-a" "10.0.0.2", isoAction "./node-a" "10.0.0.3"] =
      [("node-a".toList, .jobJson), ("./node-a".toList, .jobJson)] ∧
    ServerFile.jobJson.path "node-a" = ServerFile.jobJson.path "./node-a" :=
  ⟨⟨rfl, not_confined_of_length (by decide)⟩, ⟨rfl, not_confined_of_length (by decide)⟩,
    rfl, by decide⟩

end Astro.WriteConfinement
