import Astro.LabelledRuns

/-!
# What can be observed of a run

A machine with outputs, seen through a function of its state. Labels that leave the view
as it was can be left out of a run without changing the outputs of the others, provided
that outputs and later views depend on the view alone. A view that only some labels change
is computed from those labels.
-/

namespace Astro.ObservedRuns

open LabelledRuns

universe u v w x y
variable {σ : Type u} {α : Type v} {ω : Type w} {ν : Type x} {β : Type y}

section Outputs
variable (step : σ → α → σ) (output : σ → α → ω)

def outputs : σ → List α → List ω
  | _, [] => []
  | s, a :: labels => output s a :: outputs (step s a) labels

/-- The outputs of the labels that are marked, in the run of all of them. -/
def markedOutputs : σ → List (α × Bool) → List ω
  | _, [] => []
  | s, (a, true) :: labels => output s a :: markedOutputs (step s a) labels
  | s, (a, false) :: labels => markedOutputs (step s a) labels

/-- The run without the labels that are not marked. -/
def marked : List (α × Bool) → List α
  | [] => []
  | (a, true) :: labels => a :: marked labels
  | (_, false) :: labels => marked labels

end Outputs

/-- Under an invariant, outputs and next views depend on the view alone. -/
structure Observes (step : σ → α → σ) (output : σ → α → ω) (J : σ → Prop)
    (view : σ → ν) : Prop where
  invariant : ∀ s a, J s → J (step s a)
  output : ∀ s t a, J s → J t → view s = view t → output s a = output t a
  step : ∀ s t a, J s → J t → view s = view t → view (step s a) = view (step t a)

/-- Labels that keep the view may be left out. -/
theorem Observes.markedOutputs_eq {step : σ → α → σ} {output : σ → α → ω} {J : σ → Prop}
    {view : σ → ν} (h : Observes step output J view) {hidden : α → Prop}
    (hhidden : ∀ s a, J s → hidden a → view (step s a) = view s) {labels : List (α × Bool)}
    (hlabels : ∀ a, (a, false) ∈ labels → hidden a) {s t : σ} (hs : J s) (ht : J t)
    (hview : view s = view t) :
    markedOutputs step output s labels = outputs step output t (marked labels) := by
  induction labels generalizing s t with
  | nil => rfl
  | cons label labels ih =>
    obtain ⟨a, mark⟩ := label
    have hrest : ∀ b, (b, false) ∈ labels → hidden b :=
      fun b hb => hlabels b (List.mem_cons_of_mem _ hb)
    cases mark with
    | true =>
      have htail := ih hrest (h.invariant s a hs) (h.invariant t a ht) (h.step s t a hs ht hview)
      exact congrArg₂ List.cons (h.output s t a hs ht hview) htail
    | false =>
      have hkept := hhidden s a hs (hlabels a List.mem_cons_self)
      exact ih hrest (h.invariant s a hs) ht (hkept.trans hview)

/-- What holds of every output of an admitted step, under an invariant of those steps. -/
theorem forall_outputs {step : σ → α → σ} {output : σ → α → ω} {J : σ → Prop} {admitted : α → Prop}
    {Q : ω → Prop} (hstep : ∀ s a, J s → admitted a → J (step s a))
    (houtput : ∀ s a, J s → admitted a → Q (output s a)) {labels : List α}
    (hlabels : ∀ a ∈ labels, admitted a) {s : σ} (hs : J s) :
    ∀ o ∈ outputs step output s labels, Q o := by
  induction labels generalizing s with
  | nil => exact fun o ho => absurd ho List.not_mem_nil
  | cons a labels ih =>
    have ha := hlabels a List.mem_cons_self
    intro o ho
    rcases List.mem_cons.mp ho with rfl | ho
    · exact houtput s a hs ha
    · exact ih (fun b hb => hlabels b (List.mem_cons_of_mem a hb)) (hstep s a hs ha) o ho

/-- A view that changes by the visible part of each label is the visible parts' run. -/
theorem view_run {step : σ → α → σ} {view : σ → ν} {visible : α → Option β} {act : ν → β → ν}
    {admitted : α → Prop}
    (hstep : ∀ s a, admitted a → view (step s a) = (visible a).elim (view s) (act (view s)))
    {labels : List α} (hlabels : ∀ a ∈ labels, admitted a) (s : σ) :
    view (run step s labels) = run act (view s) (labels.filterMap visible) := by
  induction labels generalizing s with
  | nil => rfl
  | cons a labels ih =>
    have htail := ih (fun b hb => hlabels b (List.mem_cons_of_mem a hb)) (step s a)
    rw [run_cons, htail, hstep s a (hlabels a List.mem_cons_self), List.filterMap_cons]
    cases visible a with
    | none => rfl
    | some b => rfl

end Astro.ObservedRuns
