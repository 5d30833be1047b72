import Mathlib.Data.List.Basic

/-!
# Readers of quoted text

A reader goes through a text one symbol at a time, looks ahead where it has to, and gives at most
one symbol for each that it reads, until it meets the closing quote. A text between quotes is
read as itself exactly when each of its symbols is: a reader that drops a symbol, for instance to
escape the next one, cannot make up for it later.
-/

namespace Astro.QuotedText

variable {α σ : Type*}

theorem mem_of_append_eq {a : α} {front back text rest : List α}
    (h : text ++ rest = front ++ a :: back) (hlt : front.length < text.length) : a ∈ text := by
  have hget : (text ++ rest)[front.length]? = some a := by
    rw [h, List.getElem?_append_right (Nat.le_refl _), Nat.sub_self, List.getElem?_cons_zero]
  rw [List.getElem?_append_left hlt] at hget
  exact List.mem_of_getElem? hget

/-- In an escaped state the quote is a symbol like others; such a state is only entered by a
symbol that gives nothing. -/
structure Reader (α σ : Type*) where
  quote : α
  ends : σ → Bool
  escaped : σ → Bool
  step : σ → α → List α → Option (σ × Option α)
  quote_step : ∀ {q s q' out}, ends q = false → step q quote s = some (q', out) →
    escaped q = true ∧ out = some quote
  silent : ∀ {q c s q' out}, step q c s = some (q', out) → escaped q' = true → out = none

namespace Reader

variable [DecidableEq α] (R : Reader α σ)

/-- What is read up to the closing quote, and what stands behind it. -/
def read : σ → List α → Option (List α × List α)
  | _, [] => none
  | q, c :: s =>
    if c = R.quote ∧ R.ends q = true then some ([], s)
    else (R.step q c s).bind fun next => (read next.1 s).map fun found =>
      (next.2.toList ++ found.1, found.2)

/-- Every symbol of the text is read as itself, and the quote behind it ends the text. -/
def Verbatim : σ → List α → List α → Prop
  | q, [], _ => R.ends q = true
  | q, c :: text, after =>
    (c = R.quote → R.ends q = false) ∧ ∃ q', R.step q c (text ++ after) = some (q', some c) ∧
      Verbatim q' text after

variable {R}

theorem read_cons {q : σ} {c : α} {s : List α} (h : c = R.quote → R.ends q = false)
    {value rest : List α} :
    R.read q (c :: s) = some (value, rest) ↔
      ∃ q' out value', R.step q c s = some (q', out) ∧ R.read q' s = some (value', rest) ∧
        value = out.toList ++ value' := by
  have hends : ¬ (c = R.quote ∧ R.ends q = true) := by
    rintro ⟨hc, hq⟩
    rw [h hc] at hq
    cases hq
  rw [read, if_neg hends, Option.bind_eq_some_iff]
  constructor
  · rintro ⟨⟨q', out⟩, hstep, hread⟩
    obtain ⟨⟨value', rest'⟩, hvalue, heq⟩ := Option.map_eq_some_iff.mp hread
    obtain ⟨rfl, rfl⟩ := Prod.mk.inj heq
    exact ⟨q', out, value', hstep, hvalue, rfl⟩
  · rintro ⟨q', out, value', hstep, hvalue, rfl⟩
    exact ⟨(q', out), hstep, Option.map_eq_some_iff.mpr ⟨(value', rest), hvalue, rfl⟩⟩

theorem Verbatim.read_eq {q : σ} {text rest : List α} (h : R.Verbatim q text (R.quote :: rest)) :
    R.read q (text ++ R.quote :: rest) = some (text, rest) := by
  induction text generalizing q with
  | nil => rw [List.nil_append, read, if_pos ⟨rfl, h⟩]
  | cons c text ih =>
    obtain ⟨hc, q', hstep, htext⟩ := h
    exact (read_cons hc).mpr ⟨q', some c, text, hstep, ih htext, rfl⟩

/-- Up to the first quote, a reader gives no more than it reads. If it goes on behind that quote,
it gives a quote before it has given as much as it has read. -/
theorem read_first_quote {text : List α} (htext : R.quote ∉ text)
    {rest value rest' : List α} {q : σ}
    (h : R.read q (text ++ R.quote :: rest) = some (value, rest')) :
    (value.length ≤ text.length ∧ (value = text → R.Verbatim q text (R.quote :: rest))) ∨
      ∃ front back, value = front ++ R.quote :: back ∧
        (front.length < text.length ∨ front.length ≤ text.length ∧ R.escaped q = true) := by
  induction text generalizing q value with
  | nil =>
    cases hends : R.ends q with
    | true =>
      rw [List.nil_append, read, if_pos ⟨rfl, hends⟩] at h
      obtain ⟨rfl, -⟩ := Prod.mk.inj (Option.some.inj h)
      exact Or.inl ⟨Nat.le_refl _, fun _ => hends⟩
    | false =>
      obtain ⟨q', out, value', hstep, -, rfl⟩ := (read_cons fun _ => hends).mp h
      obtain ⟨hescaped, rfl⟩ := R.quote_step hends hstep
      exact Or.inr ⟨[], value', rfl, Or.inr ⟨Nat.le_refl _, hescaped⟩⟩
  | cons c text ih =>
    rw [List.mem_cons, not_or] at htext
    obtain ⟨hc, htext⟩ := htext
    have hends : c = R.quote → R.ends q = false := fun heq => absurd heq.symm hc
    obtain ⟨q', out, value', hstep, hread, rfl⟩ := (read_cons hends).mp h
    have hout : out.toList.length ≤ 1 := by cases out <;> simp
    rcases ih htext hread with ⟨hlength, hverbatim⟩ | ⟨front, back, rfl, hfront⟩
    · refine Or.inl ⟨?_, fun heq => ?_⟩
      · rw [List.length_append, List.length_cons]
        omega
      · cases out with
        | none =>
          rw [Option.toList_none, List.nil_append] at heq
          rw [heq, List.length_cons] at hlength
          omega
        | some d =>
          obtain ⟨rfl, rfl⟩ := List.cons.inj heq
          exact ⟨hends, q', hstep, hverbatim rfl⟩
    · refine Or.inr ⟨out.toList ++ front, back, (List.append_assoc _ _ _).symm, Or.inl ?_⟩
      rw [List.length_append, List.length_cons]
      rcases hfront with hfront | ⟨hfront, hescaped⟩
      · omega
      · rw [R.silent hstep hescaped, Option.toList_none, List.length_nil]
        omega

/-- What stands behind the text does not matter, except for what the reader sees of it from
inside. -/
theorem read_eq_self_iff {q : σ} (hq : R.escaped q = false) (text rest : List α) :
    (R.read q (text ++ R.quote :: rest)).map Prod.fst = some text ↔
      R.Verbatim q text (R.quote :: rest) := by
  constructor
  · intro h
    obtain ⟨⟨value, rest'⟩, hread, rfl⟩ := Option.map_eq_some_iff.mp h
    by_cases hquote : R.quote ∈ value
    · obtain ⟨front, back, heq, hfront⟩ := List.eq_append_cons_of_mem hquote
      rw [heq, List.append_assoc, List.cons_append] at hread
      rcases read_first_quote hfront hread with ⟨hlength, -⟩ | ⟨front', back', heq', hlt⟩
      · rw [List.length_append, List.length_cons] at hlength
        omega
      · rcases hlt with hlt | ⟨-, hescaped⟩
        · exact absurd (mem_of_append_eq heq' hlt) hfront
        · rw [hq] at hescaped
          cases hescaped
    · rcases read_first_quote hquote hread with ⟨-, hverbatim⟩ | ⟨front, back, heq, -⟩
      · exact hverbatim rfl
      · exact absurd (heq ▸ List.mem_append_right _ List.mem_cons_self) hquote
  · intro h
    rw [h.read_eq, Option.map_some]

end Reader

end Astro.QuotedText
