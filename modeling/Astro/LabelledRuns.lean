import Mathlib.Data.List.Infix

/-!
# Runs of a labelled machine and the guards of their steps

A machine is a total step function; a run is the list of labels it is fed. A
guard says in which states a label may be taken. The rules below turn one-step
facts into facts about every state, or every pair of successive states, of a run.
-/

namespace Astro.LabelledRuns

universe u v
variable {σ : Type u} {α : Type v} (step : σ → α → σ)

def run (s : σ) (labels : List α) : σ := labels.foldl step s

@[simp] theorem run_nil (s : σ) : run step s [] = s := rfl

@[simp] theorem run_cons (s : σ) (a : α) (labels : List α) :
    run step s (a :: labels) = run step (step s a) labels := rfl

@[simp] theorem run_append (s : σ) (p q : List α) :
    run step s (p ++ q) = run step (run step s p) q := List.foldl_append

/-- Every label of the run is taken in a state where the guard admits it. -/
def Guarded (guard : σ → α → Prop) : σ → List α → Prop
  | _, [] => True
  | s, a :: labels => guard s a ∧ Guarded guard (step s a) labels

/-- Every two successive states of the run are related. -/
def Along (R : σ → σ → Prop) : σ → List α → Prop
  | _, [] => True
  | s, a :: labels => R s (step s a) ∧ Along R (step s a) labels

/-- A property of every state of the run, the first and the last included. -/
def Throughout (P : σ → Prop) (s : σ) (labels : List α) : Prop :=
  ∀ p, p <+: labels → P (run step s p)

variable {step}

@[simp] theorem guarded_nil (guard : σ → α → Prop) (s : σ) : Guarded step guard s [] := trivial

@[simp] theorem guarded_cons {guard : σ → α → Prop} {s : σ} {a : α} {labels : List α} :
    Guarded step guard s (a :: labels) ↔ guard s a ∧ Guarded step guard (step s a) labels := Iff.rfl

theorem guarded_append {guard : σ → α → Prop} {s : σ} {p q : List α} :
    Guarded step guard s (p ++ q) ↔
      Guarded step guard s p ∧ Guarded step guard (run step s p) q := by
  induction p generalizing s with
  | nil => simp
  | cons a p ih => simp [ih, and_assoc]

theorem guarded_congr {guard guard' : σ → α → Prop} (h : ∀ s a, guard s a ↔ guard' s a) {s : σ}
    {labels : List α} : Guarded step guard s labels ↔ Guarded step guard' s labels := by
  induction labels generalizing s with
  | nil => exact Iff.rfl
  | cons a labels ih => exact and_congr (h s a) ih

theorem guarded_and {guard guard' : σ → α → Prop} {s : σ} {labels : List α} :
    Guarded step (fun s a => guard s a ∧ guard' s a) s labels ↔
      Guarded step guard s labels ∧ Guarded step guard' s labels := by
  induction labels generalizing s with
  | nil => simp
  | cons a labels ih => simp only [guarded_cons, ih, and_and_and_comm]

theorem Guarded.cut {guard : σ → α → Prop} {s : σ} {p labels : List α} {a : α}
    (h : Guarded step guard s labels) (hp : p ++ [a] <+: labels) :
    Guarded step guard s p ∧ guard (run step s p) a := by
  obtain ⟨rest, rfl⟩ := hp
  obtain ⟨hp, ha, -⟩ := guarded_append.mp (guarded_append.mp h).1
  exact ⟨hp, ha⟩

theorem guarded_const {guard : α → Prop} {s : σ} {labels : List α} :
    Guarded step (fun _ a => guard a) s labels ↔ ∀ a ∈ labels, guard a := by
  induction labels generalizing s with
  | nil => simp
  | cons a labels ih => simp [ih]

theorem throughout_nil {P : σ → Prop} {s : σ} : Throughout step P s ([] : List α) ↔ P s := by
  simp [Throughout]

theorem throughout_cons {P : σ → Prop} {s : σ} {a : α} {labels : List α} :
    Throughout step P s (a :: labels) ↔ P s ∧ Throughout step P (step s a) labels := by
  constructor
  · intro h
    refine ⟨h [] List.nil_prefix, ?_⟩
    intro p hp
    exact h (a :: p) (List.cons_prefix_cons.mpr ⟨rfl, hp⟩)
  · rintro ⟨hs, h⟩ p hp
    cases p with
    | nil => exact hs
    | cons b p =>
      obtain ⟨hb, htail⟩ := List.cons_prefix_cons.mp hp
      subst hb
      exact h p htail

/-- What every admitted step preserves holds at the end of a guarded run. -/
theorem Guarded.invariant {guard : σ → α → Prop} {P : σ → Prop}
    (hstep : ∀ s a, P s → guard s a → P (step s a)) {s : σ} {labels : List α}
    (hg : Guarded step guard s labels) (hs : P s) : P (run step s labels) := by
  induction labels generalizing s with
  | nil => exact hs
  | cons a labels ih => exact ih hg.2 (hstep s a hs hg.1)

/-- Under an invariant of the admitted steps, a guard may be replaced by one it implies. -/
theorem Guarded.imp {guard guard' : σ → α → Prop} {J : σ → Prop}
    (hJ : ∀ s a, J s → guard s a → J (step s a))
    (himp : ∀ s a, J s → guard s a → guard' s a) {s : σ} {labels : List α}
    (hg : Guarded step guard s labels) (hs : J s) : Guarded step guard' s labels := by
  induction labels generalizing s with
  | nil => trivial
  | cons a labels ih => exact ⟨himp s a hs hg.1, ih hg.2 (hJ s a hs hg.1)⟩

theorem run_invariant {P : σ → Prop} (hstep : ∀ s a, P s → P (step s a)) {s : σ} (hs : P s)
    (labels : List α) : P (run step s labels) := by
  induction labels generalizing s with
  | nil => exact hs
  | cons a labels ih => exact ih (hstep s a hs)

/-- If, under an invariant `J` of all runs, a step keeps `P` exactly when the
guard admits it, then `P` holds in every state exactly of the guarded runs. -/
theorem throughout_iff_guarded {guard : σ → α → Prop} {J P : σ → Prop}
    (hJ : ∀ s a, J s → J (step s a))
    (hstep : ∀ s a, J s → P s → (P (step s a) ↔ guard s a)) {s : σ} {labels : List α}
    (hj : J s) (hs : P s) : Throughout step P s labels ↔ Guarded step guard s labels := by
  induction labels generalizing s with
  | nil => simpa [throughout_nil] using hs
  | cons a labels ih =>
    rw [throughout_cons, guarded_cons]
    constructor
    · rintro ⟨-, h⟩
      have ha : P (step s a) := h [] List.nil_prefix
      exact ⟨(hstep s a hj hs).mp ha, (ih (hJ s a hj) ha).mp h⟩
    · rintro ⟨hg, h⟩
      have ha := (hstep s a hj hs).mpr hg
      exact ⟨hs, (ih (hJ s a hj) ha).mpr h⟩

/-- If, on the labels a run uses, successive states are related exactly when the
guard admits the step, the whole run is related exactly when it is guarded. -/
theorem along_iff_guarded {guard : σ → α → Prop} {R : σ → σ → Prop} {allowed : α → Prop}
    (hstep : ∀ s a, allowed a → (R s (step s a) ↔ guard s a)) {s : σ} {labels : List α}
    (hl : ∀ a ∈ labels, allowed a) : Along step R s labels ↔ Guarded step guard s labels := by
  induction labels generalizing s with
  | nil => exact Iff.rfl
  | cons a labels ih =>
    have ha := hstep s a (hl a List.mem_cons_self)
    have ht := ih (s := step s a) (fun b hb => hl b (List.mem_cons_of_mem a hb))
    exact and_congr ha ht

/-- A reflexive and transitive relation holds between any earlier and any later state of
the run when it holds between successive ones. -/
theorem along_iff_later {R : σ → σ → Prop} (hrefl : ∀ s, R s s)
    (htrans : ∀ s t u, R s t → R t u → R s u) {s : σ} {labels : List α} :
    Along step R s labels ↔
      ∀ p q, p ++ q <+: labels → R (run step s p) (run step s (p ++ q)) := by
  induction labels generalizing s with
  | nil =>
    refine ⟨?_, fun _ => trivial⟩
    intro _ p q hpq
    obtain ⟨rfl, rfl⟩ := List.append_eq_nil_iff.mp (List.prefix_nil.mp hpq)
    exact hrefl s
  | cons a labels ih =>
    constructor
    · rintro ⟨ha, h⟩ p q hpq
      cases p with
      | cons b p =>
        obtain ⟨hb, htail⟩ := List.cons_prefix_cons.mp hpq
        subst hb
        exact ih.mp h p q htail
      | nil =>
        cases q with
        | nil => exact hrefl s
        | cons b q =>
          obtain ⟨hb, htail⟩ := List.cons_prefix_cons.mp hpq
          subst hb
          exact htrans s _ _ ha (ih.mp h [] q htail)
    · intro h
      refine ⟨h [] [a] (List.cons_prefix_cons.mpr ⟨rfl, List.nil_prefix⟩), ih.mpr ?_⟩
      intro p q hpq
      exact h (a :: p) q (List.cons_prefix_cons.mpr ⟨rfl, hpq⟩)

end Astro.LabelledRuns
