import Astro.ServerSteps

/-!
# Ansible staging and its failure

The stage of a job and its runner are kept in two dictionaries that are written at different
moments. A status query combines them: it reports `STAGING_FAILED` when the stage is still
`STAGING` and the runner found at that moment has failed.
-/

namespace Astro.StagingRuns

open JobPaths LabelledRuns TelemetryHandler CustomIsoHandler ServerHandlers ServerSteps

/-- The steps of provisioning requests and runners, each with the state it leads to. -/
inductive ProvisionStep (site : Site) (c : Config) : Label → Config → Prop
  | begun {n : ℕ} {body : Option Json} {job : Str} (h : begunProvision site c n body = some job) :
      ProvisionStep site c (.provisionBegin n body)
        { c with
          toServer := c.toServer.setProgress (.text job) stagingEntry
          provisions := Function.update c.provisions n (some ⟨job, .recorded⟩)
          latestProvision := Function.update c.latestProvision job (some n) }
  | started {n : ℕ} {job : Str} (h : c.provisions n = some ⟨job, .recorded⟩) :
      ProvisionStep site c (.provisionStart n true)
        { c with
          provisions := Function.update c.provisions n (some ⟨job, .ended⟩)
          jobTracker := c.jobTracker.set (.text job) n
          runners := Function.update c.runners n (some ⟨.unstarted, none⟩) }
  | notStarted {n : ℕ} {job : Str} (h : c.provisions n = some ⟨job, .recorded⟩) :
      ProvisionStep site c (.provisionStart n false)
        { c with provisions := Function.update c.provisions n (some ⟨job, .ended⟩) }
  | reported {n : ℕ} {old runner : Runner} (h : c.runners n = some old)
    (hold : old.status ≠ .failed) :
      ProvisionStep site c (.runnerStatus n runner)
        { c with runners := Function.update c.runners n (some runner) }

/-- Everything else leaves the requests and the runners alone. -/
structure ProvisionsKept (c c' : Config) : Prop where
  jobTracker : c'.jobTracker = c.jobTracker
  provisions : c'.provisions = c.provisions
  runners : c'.runners = c.runners
  latestProvision : c'.latestProvision = c.latestProvision

theorem ProvisionsKept.refl (c : Config) : ProvisionsKept c c := ⟨rfl, rfl, rfl, rfl⟩

section Step
variable {site : Site} {c : Config}

theorem step_provisions (site : Site) (c : Config) (a : Label) :
    ProvisionStep site c a (step site c a) ∨ ProvisionsKept c (step site c a) := by
  cases a with
  | progress body =>
    refine Or.inr ⟨?_, rfl, rfl, rfl⟩
    simp only [step, progressHook]
    split <;> rfl
  | telemetry body logWritten =>
    exact Or.inr ⟨telemetry_jobTracker site body logWritten c.toServer, rfl, rfl, rfl⟩
  | phoneHome body seeds =>
    exact Or.inr ⟨phoneHome_jobTracker site body seeds c.toServer, rfl, rfl, rfl⟩
  | get path => exact Or.inr ⟨rfl, rfl, rfl, rfl⟩
  | head path => exact Or.inr (ProvisionsKept.refl c)
  | isoBegin n host body =>
    simp only [step, isoBegin]
    split
    · exact Or.inr ⟨rfl, rfl, rfl, rfl⟩
    · exact Or.inr (ProvisionsKept.refl c)
  | isoSave n outcome =>
    simp only [step, isoSave]
    split
    · exact Or.inr ⟨rfl, rfl, rfl, rfl⟩
    · exact Or.inr (ProvisionsKept.refl c)
  | isoCommand n outcome =>
    simp only [step, isoCommand]
    split
    · exact Or.inr ⟨rfl, rfl, rfl, rfl⟩
    · exact Or.inr (ProvisionsKept.refl c)
  | isoAnswer n =>
    simp only [step, isoAnswer]
    split
    · exact Or.inr ⟨rfl, rfl, rfl, rfl⟩
    · exact Or.inr (ProvisionsKept.refl c)
  | provisionBegin n body =>
    simp only [step, provisionBegin]
    split
    · rename_i job hjob
      exact Or.inl (.begun hjob)
    · exact Or.inr (ProvisionsKept.refl c)
  | provisionStart n started =>
    simp only [step, provisionStart]
    split
    · rename_i job hflight
      cases started with
      | true => exact Or.inl (.started hflight)
      | false => exact Or.inl (.notStarted hflight)
    · exact Or.inr (ProvisionsKept.refl c)
  | runnerStatus n runner =>
    simp only [step, runnerStatus]
    split
    · rename_i old hrunner
      split_ifs with hold
      · exact Or.inr (ProvisionsKept.refl c)
      · exact Or.inl (.reported hrunner hold)
    · exact Or.inr (ProvisionsKept.refl c)

end Step

def ReportsFailed (c : Config) (path : Str) : Prop :=
  (statusReport c.runners path c.toServer).lifecycleStage = "STAGING_FAILED".toList

def RecordedFailed (c : Config) (job : Str) : Prop :=
  ∃ runner, recordedRunner c.runners c.toServer job = some runner ∧ runner.status = .failed

theorem text_eq_stagingFailed {stage : Stage} :
    stage.text = "STAGING_FAILED".toList ↔ stage = .stagingFailed := by
  constructor
  · intro h
    cases stage with
    | stagingFailed => rfl
    | other t =>
      have hmem : t.val ∈ stageNames := by
        rw [show t.val = "STAGING_FAILED".toList from h]
        decide
      exact absurd hmem t.property
    | _ => exact absurd h (by decide)
  · rintro rfl
    rfl

theorem statusWrite_eq_some {runners : ℕ → Option Runner} {path : Str} {s : Server}
    {runner : Runner} (hrunner : recordedRunner runners s (statusJob path) = some runner)
    (hfailed : runner.status = .failed)
    (hstage : s.stage? (.text (statusJob path)) = some .staging) :
    ∃ entry, statusWrite runners path s = some (.text (statusJob path), entry) ∧
      entry.stage = .stagingFailed := by
  obtain ⟨status, rc⟩ := runner
  cases hfailed
  simp [statusWrite, stagingFailedEntry, hrunner, hstage]

/-- A query reports the failure of a job that is `STAGING` with a failed runner, or one that
an earlier query has recorded. -/
theorem reportsFailed_iff (c : Config) (path : Str) :
    ReportsFailed c path ↔
      (c.stage? (.text (statusJob path)) = some .staging ∧ RecordedFailed c (statusJob path)) ∨
        c.stage? (.text (statusJob path)) = some .stagingFailed := by
  unfold ReportsFailed statusReport
  cases hw : statusWrite c.runners path c.toServer with
  | some write =>
    obtain ⟨key, entry⟩ := write
    obtain ⟨rfl, hstage, hfailed, -, hrunner⟩ := statusWrite_spec hw
    refine iff_of_true ?_ (Or.inl ⟨hstage, hrunner⟩)
    simp only [applyWrite, Dict.get?_set_self, hfailed]
    rfl
  | none =>
    have hnot : ¬ (c.stage? (.text (statusJob path)) = some .staging ∧
        RecordedFailed c (statusJob path)) := by
      rintro ⟨hstage, runner, hrunner, hfailed⟩
      obtain ⟨entry, hentry, -⟩ := statusWrite_eq_some hrunner hfailed hstage
      exact absurd (hw.symm.trans hentry) (Option.some_ne_none _).symm
    rw [or_iff_right hnot, applyWrite]
    cases hentry : c.progress.get? (.text (statusJob path)) with
    | none =>
      have hunknown : "UNKNOWN".toList ≠ "STAGING_FAILED".toList := by decide
      simp only [Server.stage?, hentry, Option.map_none, reduceCtorEq, hunknown]
    | some entry => simp only [Server.stage?, hentry, Option.map_some, Option.some.injEq,
        text_eq_stagingFailed]

/-- The runner of the most recently begun provisioning request of the job has failed. -/
def LatestFailed (c : Config) (job : Str) : Prop :=
  ∃ n runner, c.latestProvision job = some n ∧ c.runners n = some runner ∧ runner.status = .failed

/-- When a query finds a job `STAGING` and a failed runner, that runner is the one of the most
recently begun request. -/
def NotStale (c : Config) : Label → Prop
  | .get path => IsStatusPath path → c.stage? (.text (statusJob path)) = some .staging →
      RecordedFailed c (statusJob path) →
      c.jobTracker.get? (.text (statusJob path)) = c.latestProvision (statusJob path)
  | _ => True

/-- Runners belong to requests that have ended, and a recorded failure is that of the latest
runner. -/
structure FailuresCurrent (c : Config) : Prop where
  ended : ∀ n runner, c.runners n = some runner → ∃ job, c.provisions n = some ⟨job, .ended⟩
  latest : ∀ job, c.stage? (.text job) = some .stagingFailed → LatestFailed c job

section Latest
variable {site : Site} {c : Config} {a : Label}

theorem ended_step {n : ℕ} {job : Str} (h : c.provisions n = some ⟨job, .ended⟩) :
    (step site c a).provisions n = some ⟨job, .ended⟩ := by
  have hstep := step_provisions site c a
  generalize step site c a = c' at hstep ⊢
  rcases hstep with hprovision | hkept
  · cases hprovision with
    | @begun m body job' hbegun =>
      have hm : n ≠ m := by
        rintro rfl
        cases (begunProvision_eq_some.mp hbegun).1.symm.trans h
      exact (Function.update_of_ne hm _ _).trans h
    | @started m job' hflight =>
      have hm : n ≠ m := by
        rintro rfl
        cases hflight.symm.trans h
      exact (Function.update_of_ne hm _ _).trans h
    | @notStarted m job' hflight =>
      have hm : n ≠ m := by
        rintro rfl
        cases hflight.symm.trans h
      exact (Function.update_of_ne hm _ _).trans h
    | reported => exact h
  · rw [hkept.provisions]
    exact h

/-- A runner was there before the step, or the step has ended the request that starts it. -/
theorem runner_before_step {n : ℕ} {runner : Runner} (h : (step site c a).runners n = some runner) :
    (∃ old, c.runners n = some old) ∨ ∃ job, (step site c a).provisions n = some ⟨job, .ended⟩ := by
  have hstep := step_provisions site c a
  generalize step site c a = c' at hstep h ⊢
  rcases hstep with hprovision | hkept
  · cases hprovision with
    | begun => exact Or.inl ⟨runner, h⟩
    | @started m job hflight =>
      by_cases hm : n = m
      · exact Or.inr ⟨job, by rw [hm]; exact Function.update_self ..⟩
      · exact Or.inl ⟨runner, (Function.update_of_ne hm _ _).symm.trans h⟩
    | notStarted => exact Or.inl ⟨runner, h⟩
    | @reported m old runner' hold _ =>
      by_cases hm : n = m
      · exact Or.inl ⟨old, by rw [hm]; exact hold⟩
      · exact Or.inl ⟨runner, (Function.update_of_ne hm _ _).symm.trans h⟩
  · rw [hkept.runners] at h
    exact Or.inl ⟨runner, h⟩

theorem runner_step {n : ℕ} (h : ∃ runner, c.runners n = some runner) :
    ∃ runner, (step site c a).runners n = some runner := by
  have hstep := step_provisions site c a
  generalize step site c a = c' at hstep ⊢
  obtain ⟨runner, hrunner⟩ := h
  rcases hstep with hprovision | hkept
  · cases hprovision with
    | begun => exact ⟨runner, hrunner⟩
    | notStarted => exact ⟨runner, hrunner⟩
    | @started m job hflight =>
      by_cases hm : n = m
      · exact ⟨_, by rw [hm]; exact Function.update_self ..⟩
      · exact ⟨runner, (Function.update_of_ne hm _ _).trans hrunner⟩
    | @reported m old new hold _ =>
      by_cases hm : n = m
      · exact ⟨new, by rw [hm]; exact Function.update_self ..⟩
      · exact ⟨runner, (Function.update_of_ne hm _ _).trans hrunner⟩
  · rw [hkept.runners]
    exact ⟨runner, hrunner⟩

/-- A failed runner of a request that has ended stays failed. -/
theorem failed_step {n : ℕ} (hended : ∃ job, c.provisions n = some ⟨job, .ended⟩)
    {runner : Runner} (hrunner : c.runners n = some runner) (hfailed : runner.status = .failed) :
    (step site c a).runners n = some runner := by
  have hstep := step_provisions site c a
  generalize step site c a = c' at hstep ⊢
  rcases hstep with hprovision | hkept
  · cases hprovision with
    | begun => exact hrunner
    | notStarted => exact hrunner
    | @started m job hflight =>
      have hm : n ≠ m := by
        rintro rfl
        obtain ⟨job', hjob'⟩ := hended
        cases hflight.symm.trans hjob'
      exact (Function.update_of_ne hm _ _).trans hrunner
    | @reported m old runner' hold hnot =>
      have hm : n ≠ m := by
        rintro rfl
        cases hold.symm.trans hrunner
        exact hnot hfailed
      exact (Function.update_of_ne hm _ _).trans hrunner
  · rw [hkept.runners]
    exact hrunner

/-- Only a new request changes which request of the job is the latest. -/
theorem latestProvision_step (job : Str) :
    (step site c a).latestProvision job = c.latestProvision job ∨
      written site c a = some (.text job, stagingEntry) := by
  have hstep := step_provisions site c a
  generalize step site c a = c' at hstep ⊢
  rcases hstep with hprovision | hkept
  · cases hprovision with
    | @begun n body job' hbegun =>
      by_cases hjob : job = job'
      · right
        simp [written, hbegun, hjob]
      · exact Or.inl (Function.update_of_ne hjob _ _)
    | _ => exact Or.inl rfl
  · exact Or.inl (congrFun hkept.latestProvision job)

theorem calculatedStage_ne_stagingFailed {current next : Stage} {e : Event}
    (h : calculatedStage current e = some next) : next ≠ .stagingFailed := by
  rcases calculatedStage_spec h with ⟨hterm, rfl⟩ | ⟨-, rfl | hnext⟩
  · rintro rfl
    exact absurd hterm (by decide)
  · decide
  · rintro rfl
    exact absurd hnext (by decide)

/-- Without hooks, only status queries store `STAGING_FAILED`. -/
theorem written_stagingFailed (hhook : ∀ body, a ≠ .progress body) {key : Key} {entry : Entry}
    (h : written site c a = some (key, entry)) (hstage : entry.stage = .stagingFailed) :
    ∃ path, a = .get path ∧ IsStatusPath path ∧
      statusWrite c.runners path c.toServer = some (key, entry) := by
  cases a with
  | progress body => exact absurd rfl (hhook body)
  | telemetry body logWritten =>
    rcases telemetry_cases site body logWritten c.toServer with
      ⟨-, hw⟩ | ⟨fields, key', stage, -, -, hcalc, hw, -⟩
    · exact absurd (hw.symm.trans h) (Option.some_ne_none _).symm
    · cases hw.symm.trans h
      exact absurd hstage (calculatedStage_ne_stagingFailed hcalc)
  | phoneHome body seeds =>
    rw [(phoneHomeWrite_spec h).2.1] at hstage
    cases hstage
  | get path =>
    rcases getWrite_spec h with ⟨hpath, hstatus⟩ | ⟨-, job, -, -, rfl⟩
    · exact ⟨path, rfl, hpath, hstatus⟩
    · cases hstage
  | isoBegin n host body =>
    obtain ⟨data, -, hwrite⟩ := Option.map_eq_some_iff.mp h
    cases hwrite
    cases hstage
  | provisionBegin n body =>
    obtain ⟨job, -, hwrite⟩ := Option.map_eq_some_iff.mp h
    cases hwrite
    cases hstage
  | _ => cases h

theorem latestFailed_of_recorded {path : Str} (hguard : NotStale c (.get path))
    (hpath : IsStatusPath path) (hstage : c.stage? (.text (statusJob path)) = some .staging)
    (hfailed : RecordedFailed c (statusJob path)) : LatestFailed c (statusJob path) := by
  have htracker := hguard hpath hstage hfailed
  obtain ⟨runner, hrunner, hstatus⟩ := hfailed
  obtain ⟨n, hn, hrunner⟩ := Option.bind_eq_some_iff.mp hrunner
  exact ⟨n, runner, htracker.symm.trans hn, hrunner, hstatus⟩

/-- A recorded failure was recorded before the step, or the step is the query that records it. -/
theorem stagingFailed_before_step (hhook : ∀ body, a ≠ .progress body) {job : Str}
    (h : (step site c a).stage? (.text job) = some .stagingFailed) :
    c.stage? (.text job) = some .stagingFailed ∨
      ∃ path, a = .get path ∧ IsStatusPath path ∧ statusJob path = job ∧
        c.stage? (.text job) = some .staging ∧ RecordedFailed c job := by
  rw [step_stage?] at h
  cases hw : written site c a with
  | none =>
    rw [hw] at h
    exact Or.inl h
  | some write =>
    obtain ⟨key, entry⟩ := write
    rw [hw] at h
    dsimp only at h
    split_ifs at h with hkey
    · obtain ⟨path, hlabel, hpath, hstatus⟩ := written_stagingFailed hhook hw (Option.some.inj h)
      obtain ⟨hjob, hstaging, -, -, hrecorded⟩ := statusWrite_spec hstatus
      cases hkey.trans hjob
      exact Or.inr ⟨path, hlabel, hpath, rfl, hstaging, hrecorded⟩
    · exact Or.inl h

theorem failuresCurrent_step (h : FailuresCurrent c) (hhook : ∀ body, a ≠ .progress body)
    (hguard : NotStale c a) : FailuresCurrent (step site c a) := by
  constructor
  · intro n runner hrunner
    rcases runner_before_step hrunner with ⟨old, hold⟩ | hended
    · obtain ⟨job, hjob⟩ := h.ended n old hold
      exact ⟨job, ended_step hjob⟩
    · exact hended
  · intro job hstage
    have hfailed : LatestFailed c job := by
      rcases stagingFailed_before_step hhook hstage with
        hold | ⟨path, rfl, hpath, rfl, hstaging, hrecorded⟩
      · exact h.latest job hold
      · exact latestFailed_of_recorded hguard hpath hstaging hrecorded
    have hnew : written site c a ≠ some (.text job, stagingEntry) := by
      intro hw
      rw [step_stage?, hw] at hstage
      simp [stagingEntry] at hstage
    obtain ⟨n, runner, hlatest, hrunner, hstatus⟩ := hfailed
    exact ⟨n, runner, ((latestProvision_step job).resolve_right hnew).trans hlatest,
      failed_step (h.ended n runner hrunner) hrunner hstatus, hstatus⟩

end Latest

/-- A job is provisioned again, and its status asked for, only when no provisioning request of
it is between its two steps; and every runner is started. -/
def InTurn (site : Site) (c : Config) : Label → Prop
  | .provisionBegin n body => ∀ job, begunProvision site c n body = some job →
      ∀ m, c.provisions m ≠ some ⟨job, .recorded⟩
  | .provisionStart _ started => started = true
  | .get path => ∀ m, c.provisions m ≠ some ⟨statusJob path, .recorded⟩
  | _ => True

structure RecordsLatest (c : Config) : Prop where
  pending : ∀ n job, c.provisions n = some ⟨job, .recorded⟩ → c.latestProvision job = some n
  settled : ∀ job, (∀ n, c.provisions n ≠ some ⟨job, .recorded⟩) →
    c.jobTracker.get? (.text job) = c.latestProvision job

section InTurn
variable {site : Site} {c : Config}

theorem recordsLatest_begun (h : RecordsLatest c) {n : ℕ} {job : Str} (hn : c.provisions n = none)
    (hturn : ∀ m, c.provisions m ≠ some ⟨job, .recorded⟩) :
    RecordsLatest { c with
      toServer := c.toServer.setProgress (.text job) stagingEntry
      provisions := Function.update c.provisions n (some ⟨job, .recorded⟩)
      latestProvision := Function.update c.latestProvision job (some n) } := by
  constructor
  · intro m job' hm
    by_cases hmn : m = n
    · subst hmn
      cases (Function.update_self ..).symm.trans hm
      exact Function.update_self ..
    · have hold := (Function.update_of_ne hmn _ _).symm.trans hm
      have hjob : job' ≠ job := by
        rintro rfl
        exact hturn m hold
      exact (Function.update_of_ne hjob _ _).trans (h.pending m job' hold)
  · intro job' hnone
    have hjob : job' ≠ job := by
      rintro rfl
      exact hnone n (Function.update_self ..)
    change c.jobTracker.get? (.text job') = Function.update c.latestProvision job (some n) job'
    rw [Function.update_of_ne hjob]
    refine h.settled job' fun m hm => ?_
    have hmn : m ≠ n := by
      rintro rfl
      exact absurd (hn.symm.trans hm) (Option.some_ne_none _).symm
    exact hnone m ((Function.update_of_ne hmn _ _).trans hm)

theorem recordsLatest_started (h : RecordsLatest c) {n : ℕ} {job : Str}
    (hn : c.provisions n = some ⟨job, .recorded⟩) :
    RecordsLatest { c with
      provisions := Function.update c.provisions n (some ⟨job, .ended⟩)
      jobTracker := c.jobTracker.set (.text job) n
      runners := Function.update c.runners n (some ⟨.unstarted, none⟩) } := by
  have hold : ∀ m job', Function.update c.provisions n (some ⟨job, .ended⟩) m =
      some ⟨job', .recorded⟩ → c.provisions m = some ⟨job', .recorded⟩ := by
    intro m job' hm
    by_cases hmn : m = n
    · rw [hmn, Function.update_self] at hm
      cases hm
    · rwa [Function.update_of_ne hmn] at hm
  constructor
  · intro m job' hm
    exact h.pending m job' (hold m job' hm)
  · intro job' hnone
    by_cases hjob : job' = job
    · rw [hjob]
      exact (Dict.get?_set_self ..).trans (h.pending n job hn).symm
    · have hkey : Key.text job' ≠ .text job := fun hkey => hjob (Key.text.inj hkey)
      refine (Dict.get?_set_ne _ hkey _).trans (h.settled job' fun m hm => ?_)
      have hmn : m ≠ n := by
        rintro rfl
        cases hn.symm.trans hm
        exact hjob rfl
      exact hnone m ((Function.update_of_ne hmn _ _).trans hm)

theorem recordsLatest_step (h : RecordsLatest c) {a : Label} (hturn : InTurn site c a) :
    RecordsLatest (step site c a) := by
  have hstep := step_provisions site c a
  generalize step site c a = c' at hstep ⊢
  rcases hstep with hprovision | hkept
  · cases hprovision with
    | begun hbegun =>
      exact recordsLatest_begun h (begunProvision_eq_some.mp hbegun).1 (hturn _ hbegun)
    | started hn => exact recordsLatest_started h hn
    | notStarted => cases hturn
    | reported => exact ⟨h.pending, h.settled⟩
  · constructor
    · rw [hkept.provisions, hkept.latestProvision]
      exact h.pending
    · rw [hkept.provisions, hkept.latestProvision, hkept.jobTracker]
      exact h.settled

/-- A lock from the recording of `STAGING` to that of the runner, also held by queries, would
rule out stale runners. -/
theorem inTurn_notStale {labels : List Label} (hc : RecordsLatest c)
    (h : Guarded (step site) (InTurn site) c labels) : Guarded (step site) NotStale c labels := by
  refine h.imp (fun _ _ hc ha => recordsLatest_step hc ha) ?_ hc
  intro c a hc hturn
  cases a with
  | get path => exact fun _ _ _ => hc.settled _ hturn
  | _ => trivial

end InTurn

section Runs
variable {site : Site} {logs : Path → Str} {files : Files} {p : List Label} {path : Str}

/-- What a query finds at the end of a run without stale runners. -/
theorem latestFailed_of_guarded (hhooks : ∀ a ∈ p, ∀ body, a ≠ .progress body)
    (hbefore : Guarded (step site) NotStale (Config.started logs files) p)
    (hlast : NotStale (run (step site) (Config.started logs files) p) (.get path))
    (hpath : IsStatusPath path) (hreport :
      ReportsFailed (run (step site) (Config.started logs files) p) path) :
    LatestFailed (run (step site) (Config.started logs files) p) (statusJob path) := by
  have hhooks' : Guarded (step site) (fun _ a => ∀ body, a ≠ Label.progress body)
      (Config.started logs files) p := guarded_const.mpr hhooks
  have hstart : FailuresCurrent (Config.started logs files) := by
    refine ⟨?_, ?_⟩
    · intro n runner h
      cases h
    · intro job h
      cases h
  have hcurrent := (guarded_and.mpr ⟨hhooks', hbefore⟩).invariant
    (fun c a hc ha => failuresCurrent_step hc ha.1 ha.2) hstart
  rcases (reportsFailed_iff _ path).mp hreport with ⟨hstage, hfailed⟩ | hstage
  · exact latestFailed_of_recorded hlast hpath hstage hfailed
  · exact hcurrent.latest _ hstage

theorem recordsLatest_initial : RecordsLatest (Config.started logs files) :=
  ⟨fun _ _ hn => (nomatch hn), fun _ _ => rfl⟩

/-- With the lock, `STAGING_FAILED` is reported only if the runner of the most recently begun
request has failed. -/
theorem locked_failure_is_latest (hhooks : ∀ a ∈ p, ∀ body, a ≠ .progress body)
    (hlock : Guarded (step site) (InTurn site) (Config.started logs files) (p ++ [.get path]))
    (hpath : IsStatusPath path)
    (hreport : ReportsFailed (run (step site) (Config.started logs files) p) path) :
    LatestFailed (run (step site) (Config.started logs files) p) (statusJob path) := by
  obtain ⟨hbefore, hlast⟩ := (inTurn_notStale recordsLatest_initial hlock).cut (List.prefix_refl _)
  exact latestFailed_of_guarded hhooks hbefore hlast hpath hreport

end Runs

/-- In a run without progress hooks in which every query that finds a job `STAGING` and a failed
runner finds the runner of the most recently begun request, `STAGING_FAILED` is reported only
if that runner has failed. -/
theorem reported_failure_is_latest (site : Site) (logs : Path → Str) (files : Files)
    (labels : List Label) (hhooks : ∀ a ∈ labels, ∀ body, a ≠ .progress body)
    (hguard : Guarded (step site) NotStale (Config.started logs files) labels)
    (p : List Label) (path : Str) (hp : p ++ [.get path] <+: labels) (hpath : IsStatusPath path)
    (hreport : ReportsFailed (run (step site) (Config.started logs files) p) path) :
    LatestFailed (run (step site) (Config.started logs files) p) (statusJob path) := by
  obtain ⟨hbefore, hlast⟩ := hguard.cut hp
  have hsub : p ⊆ labels := ((List.prefix_append p _).trans hp).subset
  exact latestFailed_of_guarded (fun a ha => hhooks a (hsub ha)) hbefore hlast hpath hreport

def provisionBodyA : Option Json := some (RepositorySite.provisionBody "node-a" "10.0.0.2")

def failedStaging : List Label :=
  [.provisionBegin 0 provisionBodyA, .provisionStart 0 true, .runnerStatus 0 ⟨.failed, some 2⟩]

def statusPathA : Str := "/status?job_id=node-a"

theorem failedStaging_reported_is_latest :
    LatestFailed (run (step exampleSite) Config.empty failedStaging) "node-a" := by
  refine reported_failure_is_latest exampleSite (fun _ => []) (fun _ => none)
    (failedStaging ++ [.get statusPathA]) ?_ ?_ failedStaging statusPathA (List.prefix_refl _)
    (by decide) rfl
  · simp [failedStaging]
  · have hended : (run (step exampleSite) Config.empty failedStaging).provisions 0 =
        some ⟨"node-a".toList, .ended⟩ := rfl
    refine inTurn_notStale recordsLatest_initial ?_
    refine ⟨fun _ _ _ hm => (nomatch hm), rfl, trivial, ?_, trivial⟩
    intro m hm
    cases m with
    | zero => cases hended.symm.trans hm
    | succ m => cases hm

/-- The job is provisioned again; before the new runner is recorded, a query reports the
failure of the old one. -/
theorem stale_failure_reported :
    let c := run (step exampleSite) Config.empty
      (failedStaging ++ [.provisionBegin 1 provisionBodyA])
    ReportsFailed c statusPathA ∧ statusJob statusPathA = "node-a".toList ∧
      c.latestProvision "node-a".toList = some 1 ∧ (c.runners 1).isNone :=
  ⟨rfl, by decide, by decide, by decide⟩

end Astro.StagingRuns
