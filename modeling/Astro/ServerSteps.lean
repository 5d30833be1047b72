import Astro.LabelledRuns
import Astro.ServerHandlers

/-!
# The threading server as a labelled machine

Requests run in threads that share the trackers and the disk. Hooks, telemetry,
downloads and phone-homes are single steps; a custom-iso request takes a step for its
announcement, one for saving `job.json`, one for every command of the script and one for
the answer; a provisioning request records `STAGING` in one step and its runner in another.
A label whose request is not at that point does nothing.
-/

namespace Astro.ServerSteps

open IpxePipeline JobPaths LabelledRuns TelemetryHandler CustomIsoHandler ServerHandlers

inductive IsoPhase where
  | accepted
  | building (rest : List PipelineCommand)
  | broken
  | answered (status : ℕ)
  deriving DecidableEq

/-- The status a request can be answered with at this point. -/
def IsoPhase.status : IsoPhase → Option ℕ
  | building [] => some 200
  | broken => some 500
  | _ => none

structure IsoFlight where
  data : JobData
  phase : IsoPhase

inductive ProvisionPhase where
  | recorded
  | ended
  deriving DecidableEq

structure ProvisionFlight where
  job : Str
  phase : ProvisionPhase

/-- The server with its requests in flight, each under a number of its own. A runner has
the number of the request that started it. The last two fields are bookkeeping for
statements: which request wrote a job file last, and which provisioning request of a job
was begun last. -/
structure Config extends Server where
  isos : ℕ → Option IsoFlight
  provisions : ℕ → Option ProvisionFlight
  runners : ℕ → Option Runner
  savedBy : Path → Option ℕ
  latestProvision : Str → Option ℕ

def Config.started (logs : Path → Str) (files : Files) : Config where
  toServer := Server.started logs files
  isos _ := none
  provisions _ := none
  runners _ := none
  savedBy _ := none
  latestProvision _ := none

def Config.empty : Config := Config.started (fun _ => []) (fun _ => none)

inductive Label where
  | progress (body : Option Json)
  | telemetry (body : Option Json) (logWritten : Bool)
  | phoneHome (body : Option Json) (seeds : SeedOutcome)
  | get (path : Str)
  | head (path : Str)
  | isoBegin (n : ℕ) (host : Str) (body : Option Json)
  | isoSave (n : ℕ) (outcome : SaveOutcome)
  | isoCommand (n : ℕ) (outcome : Outcome)
  | isoAnswer (n : ℕ)
  | provisionBegin (n : ℕ) (body : Option Json)
  | provisionStart (n : ℕ) (started : Bool)
  | runnerStatus (n : ℕ) (runner : Runner)

section Steps
variable (site : Site)

def begunIso (c : Config) (n : ℕ) (host : Str) (body : Option Json) : Option JobData :=
  if (c.isos n).isNone then (accept site host body).toOption else none

def begunProvision (c : Config) (n : ℕ) (body : Option Json) : Option Str :=
  if (c.provisions n).isNone then provisionJob site body else none

def isoBegin (c : Config) (n : ℕ) (host : Str) (body : Option Json) : Config :=
  match begunIso site c n host body with
  | some data =>
    { c with
      toServer := c.toServer.setProgress (.text (jobId data)) bootingEntry
      isos := Function.update c.isos n (some ⟨data, .accepted⟩) }
  | none => c

def isoSave (c : Config) (n : ℕ) (outcome : SaveOutcome) : Config :=
  match c.isos n with
  | some ⟨data, .accepted⟩ =>
    let result := saveJob data outcome c.files
    { c with
      files := result.1
      isos := Function.update c.isos n
        (some ⟨data, if result.2 then .building pipeline else .broken⟩)
      savedBy := if outcome = .notOpened then c.savedBy
        else Function.update c.savedBy (jobJson (jobId data)) (some n) }
  | _ => c

def isoCommand (c : Config) (n : ℕ) (outcome : Outcome) : Config :=
  match c.isos n with
  | some ⟨data, .building (cmd :: rest)⟩ =>
    let result := perform site (jobId data) cmd outcome c.files
    { c with
      files := result.1
      isos := Function.update c.isos n (some ⟨data, if result.2 then .building rest else .broken⟩) }
  | _ => c

def isoStatus (c : Config) (n : ℕ) : Option ℕ := (c.isos n).bind fun flight => flight.phase.status

def isoAnswer (c : Config) (n : ℕ) : Config :=
  match c.isos n, isoStatus c n with
  | some flight, some status =>
    { c with isos := Function.update c.isos n (some { flight with phase := .answered status }) }
  | _, _ => c

def provisionBegin (c : Config) (n : ℕ) (body : Option Json) : Config :=
  match begunProvision site c n body with
  | some job =>
    { c with
      toServer := c.toServer.setProgress (.text job) stagingEntry
      provisions := Function.update c.provisions n (some ⟨job, .recorded⟩)
      latestProvision := Function.update c.latestProvision job (some n) }
  | none => c

def provisionStart (c : Config) (n : ℕ) (started : Bool) : Config :=
  match c.provisions n with
  | some ⟨job, .recorded⟩ =>
    let c := { c with provisions := Function.update c.provisions n (some ⟨job, .ended⟩) }
    if started then
      { c with
        jobTracker := c.jobTracker.set (.text job) n
        runners := Function.update c.runners n (some ⟨.unstarted, none⟩) }
    else c
  | _ => c

/-- A runner reports a new status; one that has failed keeps that status. -/
def runnerStatus (c : Config) (n : ℕ) (runner : Runner) : Config :=
  match c.runners n with
  | some old =>
    if old.status = .failed then c
    else { c with runners := Function.update c.runners n (some runner) }
  | none => c

def step (c : Config) : Label → Config
  | .progress body => { c with toServer := (progressHook site body c.toServer).1 }
  | .telemetry body logWritten =>
    { c with toServer := (telemetry site body logWritten c.toServer).1 }
  | .phoneHome body seeds => { c with toServer := (phoneHome site body seeds c.toServer).1 }
  | .get path => { c with progress := applyWrite c.progress (getWrite c.runners path c.toServer) }
  | .head _ => c
  | .isoBegin n host body => isoBegin site c n host body
  | .isoSave n outcome => isoSave c n outcome
  | .isoCommand n outcome => isoCommand site c n outcome
  | .isoAnswer n => isoAnswer c n
  | .provisionBegin n body => provisionBegin site c n body
  | .provisionStart n started => provisionStart c n started
  | .runnerStatus n runner => runnerStatus c n runner

/-- The states that a new server comes to, whatever was on its disk. -/
def Reachable (c : Config) : Prop :=
  ∃ logs files labels, c = run (step site) (Config.started logs files) labels

/-- The entry that a step stores in `PROGRESS_TRACKER`, if it stores one. -/
def written (c : Config) : Label → Option (Key × Entry)
  | .progress body => hookWrite site body
  | .telemetry body _ => telemetryWrite site body c.toServer
  | .phoneHome body _ => phoneHomeWrite site body c.toServer
  | .get path => getWrite c.runners path c.toServer
  | .isoBegin n host body =>
    (begunIso site c n host body).map fun data => (.text (jobId data), bootingEntry)
  | .provisionBegin n body =>
    (begunProvision site c n body).map fun job => (.text job, stagingEntry)
  | _ => none

end Steps

variable {site : Site}

theorem begunIso_eq_some {c : Config} {n : ℕ} {host : Str} {body : Option Json} {data : JobData} :
    begunIso site c n host body = some data ↔
      c.isos n = none ∧ accept site host body = .ok data := by
  unfold begunIso
  cases accept site host body <;> cases c.isos n <;> simp [Except.toOption]

theorem begunProvision_eq_some {c : Config} {n : ℕ} {body : Option Json} {job : Str} :
    begunProvision site c n body = some job ↔
      c.provisions n = none ∧ provisionJob site body = some job := by
  unfold begunProvision
  cases c.provisions n <;> simp

theorem isoSave_progress (c : Config) (n : ℕ) (outcome : SaveOutcome) :
    (isoSave c n outcome).progress = c.progress := by
  unfold isoSave
  split <;> rfl

theorem isoCommand_progress (c : Config) (n : ℕ) (outcome : Outcome) :
    (isoCommand site c n outcome).progress = c.progress := by
  unfold isoCommand
  split <;> rfl

theorem isoAnswer_toServer (c : Config) (n : ℕ) : (isoAnswer c n).toServer = c.toServer := by
  unfold isoAnswer
  split <;> rfl

theorem provisionStart_progress (c : Config) (n : ℕ) (started : Bool) :
    (provisionStart c n started).progress = c.progress := by
  unfold provisionStart
  split
  · cases started <;> rfl
  · rfl

theorem runnerStatus_toServer (c : Config) (n : ℕ) (runner : Runner) :
    (runnerStatus c n runner).toServer = c.toServer := by
  unfold runnerStatus
  split
  · split <;> rfl
  · rfl

/-- A step changes the tracker by the one entry it stores. -/
theorem step_progress (c : Config) (a : Label) :
    (step site c a).progress = applyWrite c.progress (written site c a) := by
  cases a with
  | progress body =>
    simp only [step, written, progressHook]
    cases hookWrite site body <;> rfl
  | telemetry body logWritten => exact telemetry_progress site body logWritten c.toServer
  | phoneHome body seeds => exact phoneHome_progress site body seeds c.toServer
  | get path => rfl
  | head path => rfl
  | isoBegin n host body =>
    simp only [step, written, isoBegin]
    cases begunIso site c n host body <;> rfl
  | isoSave n outcome => exact isoSave_progress c n outcome
  | isoCommand n outcome => exact isoCommand_progress c n outcome
  | isoAnswer n => exact congrArg Server.progress (isoAnswer_toServer c n)
  | provisionBegin n body =>
    simp only [step, written, provisionBegin]
    cases begunProvision site c n body <;> rfl
  | provisionStart n started => exact provisionStart_progress c n started
  | runnerStatus n runner => exact congrArg Server.progress (runnerStatus_toServer c n runner)

theorem step_get? (c : Config) (a : Label) (key : Key) :
    (step site c a).progress.get? key = match written site c a with
      | some (key', entry) => if key = key' then some entry else c.progress.get? key
      | none => c.progress.get? key := by
  rw [step_progress]
  cases written site c a with
  | none => rfl
  | some write => exact Dict.get?_set ..

theorem step_stage? (c : Config) (a : Label) (key : Key) :
    (step site c a).stage? key = match written site c a with
      | some (key', entry) => if key = key' then some entry.stage else c.stage? key
      | none => c.stage? key := by
  simp only [Server.stage?, step_get?]
  cases written site c a with
  | none => rfl
  | some write =>
    dsimp only
    split <;> rfl

/-- The steps of custom-iso requests, each with the state it leads to. -/
inductive IsoStep (site : Site) (c : Config) : Label → Config → Prop
  | begun {n : ℕ} {host : Str} {body : Option Json} {data : JobData}
      (h : begunIso site c n host body = some data) :
      IsoStep site c (.isoBegin n host body)
        { c with
          toServer := c.toServer.setProgress (.text (jobId data)) bootingEntry
          isos := Function.update c.isos n (some ⟨data, .accepted⟩) }
  | saved {n : ℕ} {outcome : SaveOutcome} {data : JobData} (h : c.isos n = some ⟨data, .accepted⟩) :
      IsoStep site c (.isoSave n outcome)
        { c with
          files := (saveJob data outcome c.files).1
          isos := Function.update c.isos n
            (some ⟨data, if (saveJob data outcome c.files).2 then .building pipeline else .broken⟩)
          savedBy := if outcome = .notOpened then c.savedBy
            else Function.update c.savedBy (jobJson (jobId data)) (some n) }
  | performed {n : ℕ} {outcome : Outcome} {data : JobData} {cmd : PipelineCommand}
      {rest : List PipelineCommand} (h : c.isos n = some ⟨data, .building (cmd :: rest)⟩) :
      IsoStep site c (.isoCommand n outcome)
        { c with
          files := (perform site (jobId data) cmd outcome c.files).1
          isos := Function.update c.isos n (some ⟨data,
            if (perform site (jobId data) cmd outcome c.files).2 then .building rest
            else .broken⟩) }
  | answered {n : ℕ} {flight : IsoFlight} {status : ℕ} (h : c.isos n = some flight)
      (hstatus : flight.phase.status = some status) :
      IsoStep site c (.isoAnswer n)
        { c with isos := Function.update c.isos n (some { flight with phase := .answered status }) }

theorem update_isos {isos : ℕ → Option IsoFlight} {n m : ℕ} {flight flight' : IsoFlight}
    (h : Function.update isos n (some flight) m = some flight') :
    (m = n ∧ flight = flight') ∨ (m ≠ n ∧ isos m = some flight') := by
  by_cases hm : m = n
  · rw [hm, Function.update_self] at h
    exact Or.inl ⟨hm, Option.some.inj h⟩
  · rw [Function.update_of_ne hm] at h
    exact Or.inr ⟨hm, h⟩

/-- Everything else leaves the requests alone and writes at most seed files. -/
structure IsosKept (c c' : Config) : Prop where
  isos : c'.isos = c.isos
  savedBy : c'.savedBy = c.savedBy
  files : c'.files = c.files ∨ ∃ job seeds, c'.files = writeSeeds job seeds c.files

theorem IsosKept.refl (c : Config) : IsosKept c c := ⟨rfl, rfl, Or.inl rfl⟩

theorem step_isos (site : Site) (c : Config) (a : Label) :
    IsoStep site c a (step site c a) ∨ IsosKept c (step site c a) := by
  cases a with
  | progress body =>
    refine Or.inr ⟨rfl, rfl, Or.inl ?_⟩
    simp only [step, progressHook]
    split <;> rfl
  | telemetry body logWritten =>
    exact Or.inr ⟨rfl, rfl, Or.inl (telemetry_files site body logWritten c.toServer)⟩
  | phoneHome body seeds =>
    exact Or.inr ⟨rfl, rfl, phoneHome_files site body seeds c.toServer⟩
  | get path => exact Or.inr ⟨rfl, rfl, Or.inl rfl⟩
  | head path => exact Or.inr (IsosKept.refl c)
  | isoBegin n host body =>
    simp only [step, isoBegin]
    split
    · rename_i data hdata
      exact Or.inl (.begun hdata)
    · exact Or.inr (IsosKept.refl c)
  | isoSave n outcome =>
    simp only [step, isoSave]
    split
    · rename_i data hflight
      exact Or.inl (.saved hflight)
    · exact Or.inr (IsosKept.refl c)
  | isoCommand n outcome =>
    simp only [step, isoCommand]
    split
    · rename_i data cmd rest hflight
      exact Or.inl (.performed hflight)
    · exact Or.inr (IsosKept.refl c)
  | isoAnswer n =>
    simp only [step, isoAnswer]
    split
    · rename_i flight status hflight hstatus
      rw [isoStatus, hflight] at hstatus
      exact Or.inl (.answered hflight hstatus)
    · exact Or.inr (IsosKept.refl c)
  | provisionBegin n body =>
    simp only [step, provisionBegin]
    split
    · exact Or.inr ⟨rfl, rfl, Or.inl rfl⟩
    · exact Or.inr (IsosKept.refl c)
  | provisionStart n started =>
    simp only [step, provisionStart]
    split
    · cases started <;> exact Or.inr ⟨rfl, rfl, Or.inl rfl⟩
    · exact Or.inr (IsosKept.refl c)
  | runnerStatus n runner =>
    simp only [step, runnerStatus]
    split
    · split_ifs
      · exact Or.inr (IsosKept.refl c)
      · exact Or.inr ⟨rfl, rfl, Or.inl rfl⟩
    · exact Or.inr (IsosKept.refl c)

def beforeAnswer (n : ℕ) (r : IsoRequest) : List Label :=
  .isoBegin n r.host r.body :: .isoSave n r.save ::
    pipeline.map (fun cmd => .isoCommand n (r.outcomes cmd))

def uninterrupted (n : ℕ) (r : IsoRequest) : List Label := beforeAnswer n r ++ [.isoAnswer n]

section Uninterrupted
variable {c : Config} {n : ℕ} {data : JobData} {outcomes : PipelineCommand → Outcome}

/-- A request without a script to run ignores the commands. -/
theorem run_commands_idle (h : ∀ data cmd rest, c.isos n ≠ some ⟨data, .building (cmd :: rest)⟩)
    (cmds : List PipelineCommand) :
    run (step site) c (cmds.map fun cmd => .isoCommand n (outcomes cmd)) = c := by
  induction cmds with
  | nil => rfl
  | cons cmd cmds ih =>
    have hidle : step site c (.isoCommand n (outcomes cmd)) = c := by
      simp only [step, isoCommand]
    rw [List.map_cons, run_cons, hidle, ih]

/-- The commands of a building request, one step each, are a run of the script. -/
theorem run_commands (site : Site) (outcomes : PipelineCommand → Outcome)
    (cmds : List PipelineCommand) (h : c.isos n = some ⟨data, .building cmds⟩) :
    (run (step site) c (cmds.map fun cmd => .isoCommand n (outcomes cmd))).toServer =
        { c.toServer with files := (runCommands site (jobId data) outcomes cmds c.files).1 } ∧
      (run (step site) c (cmds.map fun cmd => .isoCommand n (outcomes cmd))).isos n =
        some ⟨data, if (runCommands site (jobId data) outcomes cmds c.files).2 then .building []
          else .broken⟩ := by
  induction cmds generalizing c with
  | nil => exact ⟨rfl, h⟩
  | cons cmd cmds ih =>
    rw [List.map_cons, run_cons, runCommands]
    have hstep : step site c (.isoCommand n (outcomes cmd)) = isoCommand site c n (outcomes cmd) :=
      rfl
    cases hperform : perform site (jobId data) cmd (outcomes cmd) c.files with
    | mk files ok =>
      cases ok with
      | true =>
        have hnext : (step site c (.isoCommand n (outcomes cmd))).isos n =
            some ⟨data, .building cmds⟩ := by
          simp [hstep, isoCommand, h, hperform]
        obtain ⟨hserver, hphase⟩ := ih hnext
        rw [hserver, hphase]
        simp [hstep, isoCommand, h, hperform]
      | false =>
        have hbroken : (step site c (.isoCommand n (outcomes cmd))).isos n =
            some ⟨data, .broken⟩ := by
          simp [hstep, isoCommand, h, hperform]
        rw [run_commands_idle (fun _ _ _ hflight => by rw [hbroken] at hflight; cases hflight)]
        refine ⟨?_, hbroken⟩
        simp [hstep, isoCommand, h, hperform]

theorem step_answer (site : Site) {phase : IsoPhase} {status : ℕ}
    (h : c.isos n = some ⟨data, phase⟩) (hstatus : phase.status = some status) :
    (step site c (.isoAnswer n)).toServer = c.toServer ∧
      (step site c (.isoAnswer n)).isos n = some ⟨data, .answered status⟩ := by
  simp [step, isoAnswer, isoStatus, h, hstatus]

/-- The steps of an accepted request without interruption are the custom-iso handler. -/
theorem run_uninterrupted (r : IsoRequest) (hn : c.isos n = none)
    (hdata : accept site r.host r.body = .ok data) :
    (run (step site) c (uninterrupted n r)).toServer = (customIso site c.toServer r).1 ∧
      (run (step site) c (uninterrupted n r)).isos n =
        some ⟨data, .answered (customIso site c.toServer r).2⟩ := by
  have hbegun := begunIso_eq_some.mpr ⟨hn, hdata⟩
  obtain ⟨c₁, hc₁, hserver₁, hisos₁⟩ : ∃ c₁, step site c (.isoBegin n r.host r.body) = c₁ ∧
      c₁.toServer = c.toServer.setProgress (.text (jobId data)) bootingEntry ∧
      c₁.isos n = some ⟨data, .accepted⟩ := by
    refine ⟨_, rfl, ?_, ?_⟩ <;> simp [step, isoBegin, hbegun]
  obtain ⟨c₂, hc₂, hserver₂, hisos₂⟩ : ∃ c₂, step site c₁ (.isoSave n r.save) = c₂ ∧
      c₂.toServer = { c₁.toServer with files := (saveJob data r.save c₁.files).1 } ∧
      c₂.isos n = some ⟨data, if (saveJob data r.save c₁.files).2 then .building pipeline
        else .broken⟩ := by
    refine ⟨_, rfl, ?_, ?_⟩ <;> simp [step, isoSave, hisos₁]
  simp only [uninterrupted, beforeAnswer, run_append, run_cons, run_nil, hc₁, hc₂]
  rw [hserver₁] at hserver₂
  rw [congrArg Server.files hserver₁] at hisos₂
  have hbroken : (saveJob data r.save c.files).2 = false →
      run (step site) c₂ (pipeline.map fun cmd => .isoCommand n (r.outcomes cmd)) = c₂ := by
    intro hsave
    refine run_commands_idle (fun _ _ _ hflight => ?_) _
    simp [hisos₂, hsave] at hflight
  simp only [customIso, hdata]
  cases hsave : r.save with
  | saved =>
    rw [hsave] at hserver₂ hisos₂
    obtain ⟨hserver₃, hisos₃⟩ := run_commands site r.outcomes pipeline hisos₂
    rw [hserver₂] at hserver₃ hisos₃
    simp only [saveJob, Server.setProgress_files] at hserver₃ hisos₃ ⊢
    cases hrun : runCommands site (jobId data) r.outcomes pipeline
      (Function.update c.files (jobJson (jobId data)) (some (.jobJson data))) with
    | mk files ok =>
      simp only [hrun] at hserver₃ hisos₃ ⊢
      cases ok with
      | true =>
        obtain ⟨hserver, hphase⟩ := step_answer site hisos₃ rfl
        exact ⟨hserver.trans hserver₃, hphase⟩
      | false =>
        obtain ⟨hserver, hphase⟩ := step_answer site hisos₃ rfl
        exact ⟨hserver.trans hserver₃, hphase⟩
  | notOpened =>
    rw [hbroken (by rw [hsave]; rfl)]
    rw [hsave] at hserver₂ hisos₂
    obtain ⟨hserver, hphase⟩ := step_answer site hisos₂ rfl
    exact ⟨hserver.trans hserver₂, hphase⟩
  | interrupted =>
    rw [hbroken (by rw [hsave]; rfl)]
    rw [hsave] at hserver₂ hisos₂
    obtain ⟨hserver, hphase⟩ := step_answer site hisos₂ rfl
    exact ⟨hserver.trans hserver₂, hphase⟩

end Uninterrupted

end Astro.ServerSteps
