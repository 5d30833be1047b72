import Astro.StagingRuns

/-!
# Whether a failed staging run is visible

A status query looks at the runner only while the job is `STAGING`. The playbook that the runner
executes asks the server for an ISO, and the acceptance of that request already moves the job
on to `BOOTING`; if the playbook fails afterwards, no query says so.
-/

namespace Astro.StagingVisibility

open JobPaths LabelledRuns TelemetryHandler CustomIsoHandler ServerHandlers ServerSteps StagingRuns

def AcceptsIso (site : Site) (job : Str) (c : Config) (a : Label) : Prop :=
  ∃ m host body data, a = .isoBegin m host body ∧ begunIso site c m host body = some data ∧
    jobId data = job

/-- The label is no hook, event, phone-home, launcher download or new provisioning request for
the job. -/
def Quiet (site : Site) (job : Str) (c : Config) : Label → Prop
  | .progress body => ∀ entry, hookWrite site body ≠ some (.text job, entry)
  | .telemetry body _ => ∀ entry, telemetryWrite site body c.toServer ≠ some (.text job, entry)
  | .phoneHome body _ => ∀ entry, phoneHomeWrite site body c.toServer ≠ some (.text job, entry)
  | .get path => IsStatusPath path ∨ launcherJob path ≠ some job
  | .provisionBegin _ body => provisionJob site body ≠ some job
  | _ => True

/-- A provisioning request for the job gets to the point where it records its runner. -/
def Restarts (job : Str) (c : Config) (a : Label) : Prop :=
  ∃ m started, a = .provisionStart m started ∧ c.provisions m = some ⟨job, .recorded⟩

/-- Nothing that concerns the job happens but status queries and steps of requests that have
been announced before. -/
structure Undisturbed (site : Site) (job : Str) (c : Config) (a : Label) : Prop where
  quiet : Quiet site job c a
  noIso : ¬ AcceptsIso site job c a
  noRestart : ¬ Restarts job c a

/-- The runner of request `n` is the one recorded for the job. -/
structure Staged (job : Str) (n : ℕ) (c : Config) : Prop where
  recorded : c.jobTracker.get? (.text job) = some n
  ended : c.provisions n = some ⟨job, .ended⟩
  runner : ∃ runner, c.runners n = some runner

/-- The job is `STAGING`, or a query has found its runner failed. -/
def InStaging (job : Str) (c : Config) : Prop :=
  c.stage? (.text job) = some .staging ∨ c.stage? (.text job) = some .stagingFailed

section Visible
variable {site : Site} {job : Str} {n : ℕ} {c : Config} {a : Label}

theorem jobTracker_step (hstart : ¬ Restarts job c a) :
    (step site c a).jobTracker.get? (.text job) = c.jobTracker.get? (.text job) := by
  have hstep := step_provisions site c a
  generalize step site c a = c' at hstep ⊢
  rcases hstep with hprovision | hkept
  · cases hprovision with
    | @started m job' hflight =>
      have hjob : Key.text job ≠ Key.text job' := by
        intro heq
        cases heq
        exact hstart ⟨m, true, rfl, hflight⟩
      exact Dict.get?_set_ne _ hjob _
    | _ => rfl
  · rw [hkept.jobTracker]

theorem staged_step (h : Staged job n c) (hstart : ¬ Restarts job c a) :
    Staged job n (step site c a) :=
  ⟨(jobTracker_step hstart).trans h.recorded, ended_step h.ended, runner_step h.runner⟩

/-- In a reachable state, a recorded runner is that of a request for the job which has ended. -/
theorem reachable_staged (hc : Reachable site c) (h : c.jobTracker.get? (.text job) = some n) :
    Staged job n c := by
  obtain ⟨logs, files, labels, rfl⟩ := hc
  refine run_invariant (P := fun c : Config => ∀ job n,
    c.jobTracker.get? (.text job) = some n → Staged job n c) ?_ ?_ labels job n h
  · intro c a hstaged job n hn
    by_cases hstart : Restarts job c a
    · obtain ⟨m, started, rfl, hflight⟩ := hstart
      cases started with
      | true =>
        simp only [step, provisionStart, hflight, if_true, Dict.get?_set_self] at hn
        cases hn
        simp only [step, provisionStart, hflight]
        exact ⟨Dict.get?_set_self .., Function.update_self .., _, Function.update_self ..⟩
      | false =>
        have hm : n ≠ m := by
          rintro rfl
          simp only [step, provisionStart, hflight] at hn
          cases hflight.symm.trans (hstaged job n hn).ended
        simp only [step, provisionStart, hflight] at hn ⊢
        obtain ⟨hrecorded, hended, hrunner⟩ := hstaged job n hn
        exact ⟨hrecorded, (Function.update_of_ne hm _ _).trans hended, hrunner⟩
    · rw [jobTracker_step hstart] at hn
      exact staged_step (hstaged job n hn) hstart
  · intro job n hn
    cases hn

/-- In a quiet step the entry of the job is replaced only by an accepted custom-iso request or
by a query that finds the runner failed. -/
theorem quiet_written (hquiet : Quiet site job c a) {entry : Entry}
    (h : written site c a = some (.text job, entry)) :
    (entry.stage = .booting ∧ AcceptsIso site job c a) ∨
      (entry.stage = .stagingFailed ∧ c.stage? (.text job) = some .staging) := by
  cases a with
  | progress body => exact absurd h (hquiet entry)
  | telemetry body logWritten => exact absurd h (hquiet entry)
  | phoneHome body seeds => exact absurd h (hquiet entry)
  | get path =>
    rcases getWrite_spec h with ⟨-, hstatus⟩ | ⟨hpath, job', hjob, hkey, -⟩
    · obtain ⟨hkey, hstage, hfailed, -⟩ := statusWrite_spec hstatus
      exact Or.inr ⟨hfailed, by rw [hkey]; exact hstage⟩
    · cases hkey
      exact absurd hjob (hquiet.resolve_left hpath)
  | isoBegin m host body =>
    obtain ⟨data, hdata, hwrite⟩ := Option.map_eq_some_iff.mp h
    cases hwrite
    exact Or.inl ⟨rfl, m, host, body, data, rfl, hdata, rfl⟩
  | provisionBegin m body =>
    obtain ⟨job', hjob, hwrite⟩ := Option.map_eq_some_iff.mp h
    cases hwrite
    exact absurd (begunProvision_eq_some.mp hjob).2 hquiet
  | _ => cases h

theorem acceptsIso_booting (h : AcceptsIso site job c a) :
    (step site c a).stage? (.text job) = some .booting := by
  obtain ⟨m, host, body, data, rfl, hdata, rfl⟩ := h
  simp [step_stage?, written, hdata, bootingEntry]

theorem booting_step (hquiet : Quiet site job c a) (h : c.stage? (.text job) = some .booting) :
    (step site c a).stage? (.text job) = some .booting := by
  rw [step_stage?]
  cases hw : written site c a with
  | none => exact h
  | some write =>
    obtain ⟨key, entry⟩ := write
    dsimp only
    split_ifs with hkey
    · subst hkey
      rcases quiet_written hquiet hw with ⟨hentry, -⟩ | ⟨-, hstage⟩
      · rw [hentry]
      · cases h.symm.trans hstage
    · exact h

theorem inStaging_step_iff (hquiet : Quiet site job c a) (hiso : ¬ AcceptsIso site job c a) :
    InStaging job (step site c a) ↔ InStaging job c := by
  unfold InStaging
  rw [step_stage?]
  cases hw : written site c a with
  | none => exact Iff.rfl
  | some write =>
    obtain ⟨key, entry⟩ := write
    dsimp only
    split_ifs with hkey
    · subst hkey
      rcases quiet_written hquiet hw with ⟨-, hiso'⟩ | ⟨hentry, hstage⟩
      · exact absurd hiso' hiso
      · exact iff_of_true (Or.inr (by rw [hentry])) (Or.inl hstage)
    · exact Iff.rfl

/-- After a quiet run the job is still in staging exactly when no custom-iso request for it has
been accepted; otherwise it is `BOOTING`. -/
theorem inStaging_run_iff {labels : List Label} (h : InStaging job c)
    (hquiet : Guarded (step site) (Quiet site job) c labels) :
    InStaging job (run (step site) c labels) ↔
      Guarded (step site) (fun c a => ¬ AcceptsIso site job c a) c labels := by
  induction labels generalizing c with
  | nil => exact iff_of_true h trivial
  | cons a labels ih =>
    obtain ⟨ha, hrest⟩ := hquiet
    rw [run_cons, guarded_cons]
    by_cases hiso : AcceptsIso site job c a
    · have hbooting := hrest.invariant (P := fun c => c.stage? (.text job) = some .booting)
        (fun c a hc ha => booting_step ha hc) (acceptsIso_booting hiso)
      refine iff_of_false ?_ (fun hg => hg.1 hiso)
      rintro (hstage | hstage) <;> cases hbooting.symm.trans hstage
    · rw [ih ((inStaging_step_iff ha hiso).mpr h) hrest]
      exact (and_iff_right hiso).symm

theorem reportsFailed_iff_inStaging {path : Str} (hpath : statusJob path = job)
    (hfailed : RecordedFailed c job) : ReportsFailed c path ↔ InStaging job c := by
  rw [reportsFailed_iff, hpath, InStaging, and_iff_left hfailed]

def StagedFailed (job : Str) (n : ℕ) (c : Config) : Prop :=
  Staged job n c ∧ ∃ runner, c.runners n = some runner ∧ runner.status = .failed

theorem StagedFailed.recordedFailed (h : StagedFailed job n c) : RecordedFailed c job := by
  obtain ⟨hstaged, runner, hrunner, hfailed⟩ := h
  exact ⟨runner, by simp [recordedRunner, hstaged.recorded, hrunner], hfailed⟩

theorem stagedFailed_step (h : StagedFailed job n c) (hstart : ¬ Restarts job c a) :
    StagedFailed job n (step site c a) := by
  obtain ⟨hstaged, runner, hrunner, hfailed⟩ := h
  exact ⟨staged_step hstaged hstart, runner,
    failed_step ⟨job, hstaged.ended⟩ hrunner hfailed, hfailed⟩

theorem stagedFailed_reported (h : Staged job n c) (rc : Option ℤ) :
    StagedFailed job n (step site c (.runnerStatus n ⟨.failed, rc⟩)) := by
  refine ⟨staged_step h ?_, ?_⟩
  · rintro ⟨m, started, hlabel, -⟩
    cases hlabel
  · obtain ⟨old, hold⟩ := h.runner
    simp only [step, runnerStatus, hold]
    split_ifs with hfailed
    · exact ⟨old, hold, hfailed⟩
    · exact ⟨_, Function.update_self .., rfl⟩

end Visible

/-- In a reachable state the runner recorded for a job fails, and afterwards nothing concerns
the job but status queries. Then these report `STAGING_FAILED` exactly when the job was still
in staging at the failure. For a playbook that began in staging and was the only one to deal
with the job, this means that its custom-iso request had not been accepted. -/
theorem failed_staging_visible_iff (site : Site) (c : Config) (hc : Reachable site c) (job : Str)
    (n : ℕ) (hrecorded : c.jobTracker.get? (.text job) = some n) (rc : Option ℤ)
    (after : List Label)
    (hafter : Guarded (step site) (Undisturbed site job)
      (step site c (.runnerStatus n ⟨.failed, rc⟩)) after)
    (path : Str) (hpath : statusJob path = job) :
    (ReportsFailed (run (step site) c (.runnerStatus n ⟨.failed, rc⟩ :: after)) path ↔
      InStaging job c) ∧
    ∀ c₀ playbook, c = run (step site) c₀ playbook → InStaging job c₀ →
      Guarded (step site) (Quiet site job) c₀ playbook →
      (InStaging job c ↔
        Guarded (step site) (fun c a => ¬ AcceptsIso site job c a) c₀ playbook) := by
  have hfailed := hafter.invariant (fun c a hc ha => stagedFailed_step hc ha.noRestart)
    (stagedFailed_reported (reachable_staged hc hrecorded) rc)
  have hstage : InStaging job (step site c (.runnerStatus n ⟨.failed, rc⟩)) ↔ InStaging job c := by
    simp only [InStaging, step_stage?, written]
  have hkept := hafter.invariant (P := fun c' => InStaging job c' ↔ InStaging job c)
    (fun c' a hc' ha => (inStaging_step_iff ha.quiet ha.noIso).trans hc') hstage
  constructor
  · rw [run_cons, reportsFailed_iff_inStaging hpath hfailed.recordedFailed]
    exact hkept
  · rintro c₀ playbook rfl hstaging hquiet
    exact inStaging_run_iff hstaging hquiet

theorem failed_staging_visible : ReportsFailed (run (step exampleSite) Config.empty
    [.provisionBegin 0 provisionBodyA, .provisionStart 0 true, .runnerStatus 0 ⟨.failed, some 2⟩])
    statusPathA := by
  have hreachable : Reachable exampleSite (run (step exampleSite) Config.empty
      [.provisionBegin 0 provisionBodyA, .provisionStart 0 true]) := ⟨_, _, _, rfl⟩
  exact (failed_staging_visible_iff exampleSite _ hreachable "node-a" 0 rfl (some 2) [] trivial
    statusPathA (by decide)).1.mpr (Or.inl rfl)

/-- The playbook asks for its ISO, the build fails, and with it the run. -/
def failedPlaybook : List Label :=
  [.provisionBegin 0 provisionBodyA, .provisionStart 0 true, .isoBegin 0 "10.0.0.1".toList bodyA,
    .isoSave 0 .saved, .isoCommand 0 (.fails none), .isoAnswer 0,
    .runnerStatus 0 ⟨.failed, some 2⟩]

/-- The recorded runner of `node-a` has failed, and queries answer `BOOTING`. -/
theorem failed_playbook_hidden :
    let c := run (step exampleSite) Config.empty failedPlaybook
    recordedRunner c.runners c.toServer "node-a".toList = some ⟨.failed, some 2⟩ ∧
    (statusReport c.runners statusPathA c.toServer).lifecycleStage = "BOOTING".toList :=
  ⟨rfl, rfl⟩

end Astro.StagingVisibility
