import Astro.CustomIsoHandler
import Astro.TelemetryHandler

/-!
# The other handlers that write the progress tracker

Progress hooks, status queries, downloads, phone-homes and Ansible provisioning. Each
handler stores at most one entry; the entry is computed by a function of its own, so
that statements about the tracker need not look at the rest of the handler.
-/

namespace Astro.ServerHandlers

open PythonText JobPaths RequestModels IpxePipeline

/-- The entry for the data of a hook. Any truthy and hashable `job_id` is taken. -/
def hookEntry (py : PythonStr) (hookData : Fields) : Option (Key × Entry) :=
  let jobId := hookData.getD "job_id" .null
  let newStage := hookData.getD "stage" .null
  if jobId.truthy then
    jobId.key?.map fun key =>
      (key, ⟨.ofText (py.upper (py.str newStage)), hookData.getD "detail" (.str []), .progressHook⟩)
  else none

def hookWrite (site : Site) : Option Json → Option (Key × Entry)
  | some (.obj hookData) => hookEntry site.py hookData
  | _ => none

def progressHook (site : Site) (body : Option Json) (s : Server) : Server × ℕ :=
  match hookWrite site body with
  | some (key, entry) => (s.setProgress key entry, 200)
  | none => (s, 400)

inductive RunnerStatus where
  | unstarted
  | starting
  | running
  | successful
  | failed
  | canceled
  | timeout
  deriving DecidableEq

structure Runner where
  status : RunnerStatus
  rc : Option ℤ

/-- The answer to a status query; no runner is reported as `none`. -/
structure StatusReport where
  jobId : Str
  lifecycleStage : Str
  stageDescription : Json
  ansibleStaging : Option Runner

def IsStatusPath (path : Str) : Prop :=
  ("/api/v1/jobs/status" : Str) <:+: path ∨ ("/status" : Str) <+: path

instance (path : Str) : Decidable (IsStatusPath path) := inferInstanceAs (Decidable (_ ∨ _))

/-- `self.path.split('?')[-1].split('=')[-1].strip('/')`. -/
def statusJob (path : Str) : Str := strip '/' (lastPiece '=' (lastPiece '?' path))

def recordedRunner (runners : ℕ → Option Runner) (s : Server) (job : Str) : Option Runner :=
  (s.jobTracker.get? (.text job)).bind runners

/-- The entry a status query stores. -/
def stagingFailedEntry : Entry :=
  ⟨.stagingFailed, .str "The Ansible out-of-band initialization pipeline failed.".toList,
    .statusQuery⟩

/-- A `STAGING` entry is updated in place when the recorded runner has failed. -/
def statusWrite (runners : ℕ → Option Runner) (path : Str) (s : Server) : Option (Key × Entry) :=
  match recordedRunner runners s (statusJob path), s.stage? (.text (statusJob path)) with
  | some ⟨.failed, _⟩, some .staging => some (.text (statusJob path), stagingFailedEntry)
  | _, _ => none

/-- The body of the answer, from the tracker as the query leaves it. -/
def statusReport (runners : ℕ → Option Runner) (path : Str) (s : Server) : StatusReport :=
  let jobId := statusJob path
  let runner := recordedRunner runners s jobId
  match (applyWrite s.progress (statusWrite runners path s)).get? (.text jobId) with
  | some progress => ⟨jobId, progress.stage.text, progress.detail, runner⟩
  | none => ⟨jobId, "UNKNOWN", .str "No active tasks recorded.".toList, runner⟩

def launcherJob (path : Str) : Option Str :=
  if ("/installer-launch.sh" : Str) <:+: path then ((split '/' path).filter (· ≠ []))[1]? else none

def launcherEntry : Entry :=
  ⟨.installing, .str ("Target bare-metal server successfully downloaded the " ++
    "installer-launch.sh script and has initiated the kexec OS stream.").toList, .launcher⟩

/-- What a `GET` stores: a status query returns before the launcher is looked at. -/
def getWrite (runners : ℕ → Option Runner) (path : Str) (s : Server) : Option (Key × Entry) :=
  if IsStatusPath path then statusWrite runners path s
  else (launcherJob path).map fun job => (.text job, launcherEntry)

inductive SeedFile where
  | userData
  | metaData
  | vendorData
  | installerLaunch
  deriving DecidableEq

def SeedFile.name : SeedFile → Str
  | userData => "user-data"
  | metaData => "meta-data"
  | vendorData => "vendor-data"
  | installerLaunch => "installer-launch.sh"

/-- How far the rendering got: the texts that were written, and whether it ended without
an exception. -/
structure SeedOutcome where
  written : List (SeedFile × Str)
  completed : Bool

def phoneHomeRequest (site : Site) (body : Option Json) : Option PhoneHomeRequest :=
  body.bind fun value => (PhoneHomeRequest.ofJson site.coercions value).toOption

/-- `json.load` of the job file. -/
def loadJob (files : Files) (job : Str) : Option Json := (files (jobJson job)).bind File.load?

def phonedHomeEntry (request : PhoneHomeRequest) : Entry :=
  ⟨.phonedHome, .str (("Server successfully mapped hardware identities: Serial " : Str) ++
    request.machineSerial.val ++ ("." : Str)), .phoneHome⟩

/-- The entry is stored as soon as `job.json` has been read. -/
def phoneHomeWrite (site : Site) (body : Option Json) (s : Server) : Option (Key × Entry) :=
  (phoneHomeRequest site body).bind fun request =>
    (loadJob s.files request.jobId.val).map fun _ =>
      (.text request.jobId.val, phonedHomeEntry request)

def writeSeeds (job : Str) (written : List (SeedFile × Str)) (files : Files) : Files :=
  written.foldl (fun files seed =>
    Function.update files (jobFile job seed.1.name) (some (.text seed.2))) files

def phoneHome (site : Site) (body : Option Json) (seeds : SeedOutcome) (s : Server) : Server × ℕ :=
  match phoneHomeRequest site body with
  | none => (s, 400)
  | some data => match phoneHomeWrite site body s with
    | none => (s, 500)
    | some (key, entry) =>
      ({ s.setProgress key entry with files := writeSeeds data.jobId.val seeds.written s.files },
        if seeds.completed then 200 else 500)

def stagingEntry : Entry :=
  ⟨.staging, .str "Ansible playbook running out-of-band initialization calls via BMC/iDRAC.".toList,
    .provision⟩

def provisionJob (site : Site) (body : Option Json) : Option Str :=
  (body.bind fun value => (AnsibleProvisionRequest.ofJson site.coercions value).toOption).map
    fun data => data.hostname.val

/-- A hook stores under its `job_id`, provided that this is truthy and hashable. -/
theorem hookWrite_key_iff (site : Site) {body : Option Json} {key : Key} :
    (∃ entry, hookWrite site body = some (key, entry)) ↔
      ∃ hookData, body = some (.obj hookData) ∧
        (Fields.getD hookData "job_id" .null).truthy = true ∧
        (Fields.getD hookData "job_id" .null).key? = some key := by
  constructor
  · rintro ⟨entry, h⟩
    unfold hookWrite at h
    split at h
    · rename_i hookData
      unfold hookEntry at h
      dsimp only at h
      split_ifs at h with htruthy
      obtain ⟨key', hkey, hwrite⟩ := Option.map_eq_some_iff.mp h
      cases hwrite
      exact ⟨hookData, rfl, htruthy, hkey⟩
    · cases h
  · rintro ⟨hookData, rfl, htruthy, hkey⟩
    rw [hookWrite, hookEntry, if_pos htruthy, hkey]
    exact ⟨_, rfl⟩

theorem statusWrite_spec {runners : ℕ → Option Runner} {path : Str} {s : Server} {key : Key}
    {entry : Entry} (h : statusWrite runners path s = some (key, entry)) :
    key = .text (statusJob path) ∧ s.stage? (.text (statusJob path)) = some .staging ∧
      entry.stage = .stagingFailed ∧ entry.writer = .statusQuery ∧
      ∃ runner, recordedRunner runners s (statusJob path) = some runner ∧
        runner.status = .failed := by
  unfold statusWrite at h
  split at h
  · rename_i rc hrunner hstage
    cases h
    exact ⟨rfl, hstage, rfl, rfl, _, hrunner, rfl⟩
  · cases h

/-- The recorded runner of the job has failed. -/
def RunnerFailed (runners : ℕ → Option Runner) (s : Server) (job : Str) : Prop :=
  (recordedRunner runners s job).map Runner.status = some .failed

instance (runners : ℕ → Option Runner) (s : Server) (job : Str) :
    Decidable (RunnerFailed runners s job) := inferInstanceAs (Decidable (_ = _))

theorem statusWrite_eq (runners : ℕ → Option Runner) (path : Str) (s : Server) :
    statusWrite runners path s =
      if RunnerFailed runners s (statusJob path) ∧ s.stage? (.text (statusJob path)) = some .staging
      then some (.text (statusJob path), stagingFailedEntry) else none := by
  unfold statusWrite
  split
  · rename_i rc hrunner hstage
    have hfailed : RunnerFailed runners s (statusJob path) := by
      rw [RunnerFailed, hrunner]
      rfl
    rw [if_pos ⟨hfailed, hstage⟩]
  · rename_i hnone
    refine (if_neg ?_).symm
    rintro ⟨hfailed, hstage⟩
    obtain ⟨⟨status, rc⟩, hrunner, hstatus⟩ := Option.map_eq_some_iff.mp hfailed
    dsimp only at hstatus
    rw [hstatus] at hrunner
    exact hnone rc hrunner hstage

theorem getWrite_spec {runners : ℕ → Option Runner} {path : Str} {s : Server} {key : Key}
    {entry : Entry} (h : getWrite runners path s = some (key, entry)) :
    (IsStatusPath path ∧ statusWrite runners path s = some (key, entry)) ∨
      (¬ IsStatusPath path ∧ ∃ job, launcherJob path = some job ∧ key = .text job ∧
        entry = launcherEntry) := by
  unfold getWrite at h
  split_ifs at h with hpath
  · exact Or.inl ⟨hpath, h⟩
  · obtain ⟨job, hjob, hwrite⟩ := Option.map_eq_some_iff.mp h
    cases hwrite
    exact Or.inr ⟨hpath, job, hjob, rfl, rfl⟩

theorem loadJob_saved {files : Files} {job : Str} {data : JobData}
    (h : files (jobJson job) = some (.jobJson data)) :
    loadJob files job = some (.obj (jobFields data)) := by
  rw [loadJob, h]
  rfl

theorem phoneHomeWrite_spec {site : Site} {body : Option Json} {s : Server} {key : Key}
    {entry : Entry} (h : phoneHomeWrite site body s = some (key, entry)) :
    (∃ data, phoneHomeRequest site body = some data ∧ key = .text data.jobId.val) ∧
      entry.stage = .phonedHome ∧ entry.writer = .phoneHome := by
  obtain ⟨data, hdata, hwrite⟩ := Option.bind_eq_some_iff.mp h
  obtain ⟨value, -, hentry⟩ := Option.map_eq_some_iff.mp hwrite
  cases hentry
  exact ⟨⟨data, hdata, rfl⟩, rfl, rfl⟩

/-- A phone-home is accepted for the job, and its job file can be read. -/
def PhonesHome (site : Site) (body : Option Json) (s : Server) (job : Str) : Prop :=
  ∃ data, phoneHomeRequest site body = some data ∧ data.jobId.val = job ∧
    ∃ value, loadJob s.files job = some value

theorem phonesHome_iff {site : Site} {body : Option Json} {s : Server} {job : Str} :
    PhonesHome site body s job ↔ ∃ entry, phoneHomeWrite site body s = some (.text job, entry) := by
  constructor
  · rintro ⟨data, hdata, rfl, value, hvalue⟩
    rw [phoneHomeWrite, hdata, Option.bind_some, hvalue]
    exact ⟨_, rfl⟩
  · rintro ⟨entry, hentry⟩
    obtain ⟨data, hdata, hwrite⟩ := Option.bind_eq_some_iff.mp hentry
    obtain ⟨value, hvalue, hpair⟩ := Option.map_eq_some_iff.mp hwrite
    cases hpair
    exact ⟨data, hdata, rfl, value, hvalue⟩

theorem phoneHome_progress (site : Site) (body : Option Json) (seeds : SeedOutcome) (s : Server) :
    (phoneHome site body seeds s).1.progress =
      applyWrite s.progress (phoneHomeWrite site body s) := by
  unfold phoneHome
  split
  · rename_i hrequest
    rw [phoneHomeWrite, hrequest]
    rfl
  · split
    · rename_i hwrite
      rw [hwrite]
      rfl
    · rename_i hwrite
      rw [hwrite]
      rfl

theorem phoneHome_jobTracker (site : Site) (body : Option Json) (seeds : SeedOutcome) (s : Server) :
    (phoneHome site body seeds s).1.jobTracker = s.jobTracker := by
  unfold phoneHome
  split
  · rfl
  · split <;> rfl

theorem phoneHome_logs (site : Site) (body : Option Json) (seeds : SeedOutcome) (s : Server) :
    (phoneHome site body seeds s).1.logs = s.logs := by
  unfold phoneHome
  split
  · rfl
  · split <;> rfl

theorem phoneHome_files (site : Site) (body : Option Json) (seeds : SeedOutcome) (s : Server) :
    (phoneHome site body seeds s).1.files = s.files ∨
      ∃ job written, (phoneHome site body seeds s).1.files = writeSeeds job written s.files := by
  unfold phoneHome
  split
  · exact Or.inl rfl
  · split
    · exact Or.inl rfl
    · exact Or.inr ⟨_, _, rfl⟩

end Astro.ServerHandlers
