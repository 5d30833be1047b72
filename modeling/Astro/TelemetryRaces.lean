import Astro.TelemetryFold

/-!
# Concurrent telemetry requests of one job

The handler reads the job's stage and writes the stage it computed from it later, and no
lock is held in between. Two threads can therefore decide on the same stage, and the later
write wins.
-/

namespace Astro.TelemetryRaces

open LabelledRuns TelemetryHandler

/-- A request before its read, between read and write, and after its write. -/
inductive Phase where
  | waiting
  | decided (seen : Stage)
  | finished
  deriving DecidableEq

structure Race where
  stage : Stage
  phase : ℕ → Phase

def Race.start (stage : Stage) : Race := ⟨stage, fun _ => .waiting⟩

inductive Turn where
  | read (n : ℕ)
  | write (n : ℕ)

section Step
variable (events : ℕ → Event)

/-- One thread takes its next step; a computation that raises writes nothing. -/
def step (r : Race) : Turn → Race
  | .read n => match r.phase n with
    | .waiting => { r with phase := Function.update r.phase n (.decided r.stage) }
    | _ => r
  | .write n => match r.phase n with
    | .decided seen =>
      { stage := (calculatedStage seen (events n)).getD r.stage
        phase := Function.update r.phase n .finished }
    | _ => r

/-- A write that lands on a terminal stage comes from a request that has read this very
stage, or that has read an earlier one and whose own event decides for it or raises. -/
def AgreesWithEnd (r : Race) : Turn → Prop
  | .read _ => True
  | .write n => ∀ seen, r.phase n = .decided seen → r.stage.Terminal →
      seen = r.stage ∨
        (¬ seen.Terminal ∧ (verdict (events n) = some r.stage ∨ Raises (events n)))

variable {events}

def EndKept (r r' : Race) : Prop := r.stage.Terminal → r'.stage = r.stage

theorem EndKept.trans {r r' r'' : Race} (h : EndKept r r') (h' : EndKept r' r'') :
    EndKept r r'' := by
  intro hterm
  have heq := h hterm
  exact (h' (heq.symm ▸ hterm)).trans heq

theorem nextStage_eq_terminal {seen last : Stage} {e : Event} (hlast : last.Terminal) :
    nextStage seen e = last ↔ seen = last ∨ (¬ seen.Terminal ∧ verdict e = some last) := by
  unfold nextStage
  split_ifs with hseen
  · simp [hseen]
  · have hne : seen ≠ last := fun h => hseen (h ▸ hlast)
    cases hv : verdict e with
    | some stage => simp [hseen, hne]
    | none =>
      have hinst : Stage.installing ≠ last := by
        rcases hlast with rfl | rfl <;> decide
      simp [hne, hinst]

theorem endKept_step_iff (r : Race) (t : Turn) :
    EndKept r (step events r t) ↔ AgreesWithEnd events r t := by
  cases t with
  | read n =>
    refine iff_of_true ?_ trivial
    intro _
    simp only [step]
    split <;> rfl
  | write n =>
    simp only [EndKept, AgreesWithEnd, step]
    cases hphase : r.phase n with
    | waiting => simp
    | finished => simp
    | decided seen =>
      simp only [Phase.decided.injEq, forall_eq']
      refine forall_congr' fun hlast => ?_
      by_cases hraises : ¬ seen.Terminal ∧ Raises (events n)
      · rw [calculatedStage_eq_none hraises.1 hraises.2]
        exact iff_of_true rfl (Or.inr ⟨hraises.1, Or.inr hraises.2⟩)
      · have hnext : seen.Terminal ∨ ¬ Raises (events n) := by tauto
        rw [calculatedStage_eq_nextStage hnext, Option.getD_some, nextStage_eq_terminal hlast]
        tauto

end Step

/-- A terminal stage, once reached, survives all later steps exactly when every write that
lands on it agrees with it. -/
theorem end_kept_iff (events : ℕ → Event) (stage : Stage) (turns : List Turn) :
    (∀ p q, p ++ q <+: turns → (run (step events) (.start stage) p).stage.Terminal →
      (run (step events) (.start stage) (p ++ q)).stage =
        (run (step events) (.start stage) p).stage) ↔
    Guarded (step events) (AgreesWithEnd events) (.start stage) turns := by
  have hguarded : Along (step events) EndKept (.start stage) turns ↔
      Guarded (step events) (AgreesWithEnd events) (.start stage) turns :=
    along_iff_guarded (fun r t (_ : True) => endKept_step_iff r t) (fun _ _ => trivial)
  rw [← hguarded]
  exact (along_iff_later (R := EndKept) (fun _ _ => rfl) (fun _ _ _ => EndKept.trans)).symm

/-- Two events of the last minute: one of no consequence, one that ends the installation. -/
def lastEvents : ℕ → Event
  | 0 => eventOf (report "subiquity/Late/run" "finish" "SUCCESS" [])
  | _ => eventOf (report "subiquity/Shutdown/shutdown" "finish" "SUCCESS" [])

/-- Both threads read `INSTALLING`; the one that writes `COMPLETED` is overwritten by the
one that only confirms what it has read. -/
theorem completion_overwritten :
    (run (step lastEvents) (.start .installing) [.read 0, .read 1, .write 1]).stage = .completed ∧
    (run (step lastEvents) (.start .installing) [.read 0, .read 1, .write 1, .write 0]).stage =
      .installing := by
  decide

/-- No request reads while another one is between its read and its write. -/
def OneAtATime (r : Race) : Turn → Prop
  | .read _ => ∀ m seen, r.phase m ≠ .decided seen
  | .write _ => True

structure Locked (r : Race) : Prop where
  unique : ∀ m n seen seen', r.phase m = .decided seen → r.phase n = .decided seen' → m = n
  current : ∀ n seen, r.phase n = .decided seen → seen = r.stage

theorem locked_step {events : ℕ → Event} {r : Race} (h : Locked r) {t : Turn}
    (hguard : OneAtATime r t) : Locked (step events r t) := by
  cases t with
  | read n =>
    simp only [step]
    split
    · have hnew : ∀ m seen, Function.update r.phase n (.decided r.stage) m = .decided seen →
          m = n ∧ seen = r.stage := by
        intro m seen hm
        by_cases hmn : m = n
        · rw [hmn, Function.update_self] at hm
          cases hm
          exact ⟨hmn, rfl⟩
        · rw [Function.update_of_ne hmn] at hm
          exact absurd hm (hguard m seen)
      exact ⟨fun m n' seen seen' hm hn' => (hnew m seen hm).1.trans (hnew n' seen' hn').1.symm,
        fun m seen hm => (hnew m seen hm).2⟩
    · exact h
  | write n =>
    simp only [step]
    split
    · rename_i seen hseen
      have hnone : ∀ m seen', Function.update r.phase n .finished m ≠ .decided seen' := by
        intro m seen' hm
        by_cases hmn : m = n
        · rw [hmn, Function.update_self] at hm
          cases hm
        · rw [Function.update_of_ne hmn] at hm
          exact hmn (h.unique m n seen' seen hm hseen)
      exact ⟨fun m _ seen' _ hm => absurd hm (hnone m seen'),
        fun m seen' hm => absurd hm (hnone m seen')⟩
    · exact h

/-- Under a lock around each request, every write agrees with a terminal stage. -/
theorem oneAtATime_agreesWithEnd {events : ℕ → Event} {stage : Stage} {turns : List Turn}
    (h : Guarded (step events) OneAtATime (.start stage) turns) :
    Guarded (step events) (AgreesWithEnd events) (.start stage) turns := by
  refine h.imp (fun _ _ hr ht => locked_step hr ht) ?_ (J := Locked) ?_
  · intro r t hr _
    cases t with
    | read n => trivial
    | write n => exact fun seen hseen _ => Or.inl (hr.current n seen hseen)
  · exact ⟨fun _ _ _ _ hm => Phase.noConfusion hm, fun _ _ hm => Phase.noConfusion hm⟩

/-- A request whose two steps are not interrupted does what the handler does. -/
theorem uninterrupted_is_telemetry (site : Site) (s : Server) (fields : Fields) (logWritten : Bool)
    {key : Key} {stage : Stage} (hstage : s.stage? key = some stage)
    (hmatch : matchedJob s.progress (eventOf fields) = some (some key)) :
    (telemetry site (some (.obj fields)) logWritten s).1.stage? key =
      some (run (step fun _ => eventOf fields) (.start stage) [.read 0, .write 0]).stage := by
  have hrace : (run (step fun _ => eventOf fields) (.start stage) [.read 0, .write 0]).stage =
      (calculatedStage stage (eventOf fields)).getD stage := by
    simp [step, Race.start]
  rw [hrace, Server.stage?, telemetry_progress]
  simp only [telemetryWrite, hmatch, hstage, Option.getD_some]
  cases calculatedStage stage (eventOf fields) with
  | none => exact hstage
  | some next => simp [applyWrite, eventEntry]

end Astro.TelemetryRaces
