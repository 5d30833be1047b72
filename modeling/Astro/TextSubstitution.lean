import Astro.PythonText

/-!
# Sequential substitution in a text

`content.replace(key, value)` for one pair after the other. A character that occurs in no
key separates a text into parts that are rewritten on their own, whatever the values are.
-/

namespace Astro.PythonText

theorem prefix_append_cons_iff {old front back : Str} {c : Char} (hc : c ∉ old) :
    old <+: front ++ c :: back ↔ old <+: front := by
  constructor
  · intro h
    rcases List.prefix_or_prefix_of_prefix h (List.prefix_append front (c :: back)) with
      h' | ⟨rest, rfl⟩
    · exact h'
    · rw [List.prefix_append_right_inj] at h
      cases rest with
      | nil => rw [List.append_nil]
      | cons d rest =>
        rw [List.cons_prefix_cons] at h
        rw [h.1] at hc
        exact absurd (List.mem_append_right _ List.mem_cons_self) hc
  · intro h
    exact h.trans (List.prefix_append _ _)

section Replace
variable {old new : Str}

theorem replaceFrom_skip (skip : ℕ) (c : Char) (rest : Str) :
    replaceFrom old new (skip + 1) (c :: rest) = replaceFrom old new skip rest := rfl

theorem replaceFrom_hit {c : Char} {rest : Str} (h : old <+: c :: rest) :
    replaceFrom old new 0 (c :: rest) = new ++ replaceFrom old new (old.length - 1) rest := if_pos h

theorem replaceFrom_miss {c : Char} {rest : Str} (h : ¬ old <+: c :: rest) :
    replaceFrom old new 0 (c :: rest) = c :: replaceFrom old new 0 rest := if_neg h

theorem replaceFrom_append_cons {front back : Str} {c : Char} {skip : ℕ} (hc : c ∉ old)
    (hskip : skip ≤ front.length) :
    replaceFrom old new skip (front ++ c :: back) =
      replaceFrom old new skip front ++ replaceFrom old new 0 (c :: back) := by
  induction front generalizing skip with
  | nil =>
    rw [Nat.le_zero.mp hskip]
    rfl
  | cons d front ih =>
    cases skip with
    | succ skip =>
      rw [List.cons_append, replaceFrom_skip, replaceFrom_skip]
      exact ih (Nat.le_of_succ_le_succ hskip)
    | zero =>
      have hiff : old <+: d :: (front ++ c :: back) ↔ old <+: d :: front := by
        rw [← List.cons_append]
        exact prefix_append_cons_iff hc
      rw [List.cons_append]
      by_cases hold : old <+: d :: front
      · have hlength : old.length - 1 ≤ front.length := by
          have := hold.length_le
          rw [List.length_cons] at this
          omega
        rw [replaceFrom_hit (hiff.mpr hold), replaceFrom_hit hold, ih hlength, List.append_assoc]
      · rw [replaceFrom_miss (mt hiff.mp hold), replaceFrom_miss hold, ih (Nat.zero_le _),
          List.cons_append]

theorem replaceFrom_cons_of_not_mem {back : Str} {c : Char} (hold : old ≠ []) (hc : c ∉ old) :
    replaceFrom old new 0 (c :: back) = c :: replaceFrom old new 0 back := by
  apply replaceFrom_miss
  intro h
  have hnil : old <+: [] := (@prefix_append_cons_iff old [] back c hc).mp h
  exact hold (List.prefix_nil.mp hnil)

theorem replace_append_cons (new front back : Str) {c : Char} (hold : old ≠ []) (hc : c ∉ old) :
    replace old new (front ++ c :: back) = replace old new front ++ c :: replace old new back := by
  rw [replace, replaceFrom_append_cons hc (Nat.zero_le _), replaceFrom_cons_of_not_mem hold hc]
  rfl

/-- A text in which the key does not occur is left alone. -/
theorem replace_of_absent {text : Str} (h : ¬ old <:+: text) : replace old new text = text := by
  unfold replace
  induction text with
  | nil => rfl
  | cons c text ih =>
    rw [List.infix_cons_iff, not_or] at h
    rw [replaceFrom_miss h.1, ih h.2]

theorem replaceFrom_length (text : Str) : replaceFrom old new text.length text = [] := by
  induction text with
  | nil => rfl
  | cons c text ih => exact ih

theorem replace_self (h : old ≠ []) : replace old new old = new := by
  obtain ⟨c, rest, rfl⟩ := List.exists_cons_of_ne_nil h
  rw [replace, replaceFrom_hit List.prefix_rfl, List.length_cons, Nat.add_sub_cancel,
    replaceFrom_length, List.append_nil]

theorem replaceFrom_eq_replace_drop (skip : ℕ) (text : Str) :
    replaceFrom old new skip text = replace old new (text.drop skip) := by
  induction text generalizing skip with
  | nil => cases skip <;> rfl
  | cons c text ih =>
    cases skip with
    | zero => rfl
    | succ skip => exact ih skip

theorem replace_append_self (hold : old ≠ []) (back : Str) :
    replace old new (old ++ back) = new ++ replace old new back := by
  obtain ⟨c, rest, rfl⟩ := List.exists_cons_of_ne_nil hold
  have hhit : c :: rest <+: c :: (rest ++ back) := ⟨back, rfl⟩
  rw [List.cons_append, replace, replaceFrom_hit hhit, replaceFrom_eq_replace_drop,
    List.length_cons, Nat.add_sub_cancel, List.drop_left]

example : replace "aa" "b" "aaaxaa" = ("baxb" : Str) := by decide

/-- The first occurrence is replaced, and what follows it is rewritten on its own. -/
theorem replace_first (hold : old ≠ []) {text : Str} (h : old <:+: text) :
    ∃ front back, text = front ++ (old ++ back) ∧
      replace old new text = front ++ (new ++ replace old new back) := by
  induction text with
  | nil => exact absurd (List.infix_nil.mp h) hold
  | cons c text ih =>
    by_cases hhead : old <+: c :: text
    · obtain ⟨back, hback⟩ := hhead
      refine ⟨[], back, hback.symm, ?_⟩
      rw [← hback, replace_append_self hold, List.nil_append]
    · obtain ⟨front, back, htext, hreplace⟩ := ih ((List.infix_cons_iff.mp h).resolve_left hhead)
      refine ⟨c :: front, back, by rw [htext, List.cons_append], ?_⟩
      rw [replace, replaceFrom_miss hhead]
      exact congrArg (List.cons c) hreplace

/-- Induction along the occurrences that are replaced. -/
@[elab_as_elim] theorem replace_induction (hold : old ≠ []) (new : Str) {motive : Str → Prop}
    (text : Str) (absent : ∀ text, ¬ old <:+: text → motive text)
    (present : ∀ front back, replace old new (front ++ (old ++ back)) =
      front ++ (new ++ replace old new back) → motive back → motive (front ++ (old ++ back))) :
    motive text := by
  by_cases hmem : old <:+: text
  · obtain ⟨front, back, htext, hreplace⟩ := @replace_first old new hold text hmem
    have hpos := List.length_pos_iff.mpr hold
    have hback : back.length < text.length := by
      rw [htext, List.length_append, List.length_append]
      omega
    have ih := replace_induction hold new back absent present
    rw [htext] at hreplace ⊢
    exact present front back hreplace ih
  · exact absent text hmem
termination_by text.length

theorem replace_self_self (hold : old ≠ []) (text : Str) : replace old old text = text := by
  induction text using replace_induction hold old with
  | absent text hmem => exact replace_of_absent hmem
  | present front back hreplace ih => rw [hreplace, ih]

theorem length_replace_le (hold : old ≠ []) (h : new.length ≤ old.length) (text : Str) :
    (replace old new text).length ≤ text.length := by
  induction text using replace_induction hold new with
  | absent text hmem => rw [replace_of_absent hmem]
  | present front back hreplace ih =>
    rw [hreplace]
    simp only [List.length_append]
    omega

theorem length_le_length_replace (hold : old ≠ []) (h : old.length ≤ new.length) (text : Str) :
    text.length ≤ (replace old new text).length := by
  induction text using replace_induction hold new with
  | absent text hmem => rw [replace_of_absent hmem]
  | present front back hreplace ih =>
    rw [hreplace]
    simp only [List.length_append]
    omega

/-- A replacement changes nothing only if it has nothing to replace, or replaces the key by
itself. -/
theorem replace_eq_self_iff (hold : old ≠ []) {text : Str} :
    replace old new text = text ↔ new = old ∨ ¬ old <:+: text := by
  constructor
  · intro h
    by_cases hmem : old <:+: text
    · obtain ⟨front, back, htext, hreplace⟩ := replace_first hold hmem
      have heq := hreplace.symm.trans (h.trans htext)
      have htail := List.append_cancel_left heq
      have hlength := congrArg List.length htail
      simp only [List.length_append] at hlength
      rcases Nat.le_total new.length old.length with hle | hle
      · have := length_replace_le hold hle back
        exact Or.inl (List.append_inj_left htail (by omega))
      · have := length_le_length_replace hold hle back
        exact Or.inl (List.append_inj_left htail (by omega))
    · exact Or.inr hmem
  · rintro (rfl | hmem)
    · exact replace_self_self hold text
    · exact replace_of_absent hmem

/-- A character that is not in the key is kept. -/
theorem count_le_count_replace {c : Char} (hold : old ≠ []) (hc : c ∉ old) (text : Str) :
    text.count c ≤ (replace old new text).count c := by
  have hzero := List.count_eq_zero.mpr hc
  induction text using replace_induction hold new with
  | absent text hmem => rw [replace_of_absent hmem]
  | present front back hreplace ih =>
    rw [hreplace]
    simp only [List.count_append]
    omega

theorem mem_replace (hold : old ≠ []) {text : Str} {c : Char} (h : c ∈ replace old new text) :
    c ∈ text ∨ c ∈ new := by
  induction text using replace_induction hold new with
  | absent text hmem =>
    rw [replace_of_absent hmem] at h
    exact Or.inl h
  | present front back hreplace ih =>
    rw [hreplace, List.mem_append, List.mem_append] at h
    rcases h with h | h | h
    · exact Or.inl (List.mem_append_left _ h)
    · exact Or.inr h
    · exact (ih h).imp_left fun h => List.mem_append_right _ (List.mem_append_right _ h)

end Replace

/-- No key of the pairs is empty or contains the character. -/
def Separates (c : Char) (pairs : List (Str × Str)) : Prop :=
  ∀ pair ∈ pairs, pair.1 ≠ [] ∧ c ∉ pair.1

theorem replaceAll_append_cons {pairs : List (Str × Str)} {c : Char} (h : Separates c pairs)
    (front back : Str) :
    replaceAll pairs (front ++ c :: back) = replaceAll pairs front ++ c ::
      replaceAll pairs back := by
  induction pairs generalizing front back with
  | nil => rfl
  | cons pair pairs ih =>
    obtain ⟨hold, hc⟩ := h pair List.mem_cons_self
    have hstep := replace_append_cons pair.2 front back hold hc
    change replaceAll pairs (replace pair.1 pair.2 (front ++ c :: back)) = _
    rw [hstep]
    exact ih (fun pair hpair => h pair (List.mem_cons_of_mem _ hpair)) _ _

theorem replaceAll_append (pairs pairs' : List (Str × Str)) (text : Str) :
    replaceAll (pairs ++ pairs') text = replaceAll pairs' (replaceAll pairs text) :=
  List.foldl_append

theorem replaceAll_eq_self {pairs : List (Str × Str)} {text : Str}
    (h : ∀ pair ∈ pairs, replace pair.1 pair.2 text = text) : replaceAll pairs text = text := by
  induction pairs with
  | nil => rfl
  | cons pair pairs ih =>
    change replaceAll pairs (replace pair.1 pair.2 text) = _
    rw [h pair List.mem_cons_self]
    exact ih fun pair hpair => h pair (List.mem_cons_of_mem _ hpair)

theorem replaceAll_of_absent {pairs : List (Str × Str)} {text : Str}
    (h : ∀ pair ∈ pairs, ¬ pair.1 <:+: text) : replaceAll pairs text = text :=
  replaceAll_eq_self fun pair hpair => replace_of_absent (h pair hpair)

theorem count_le_count_replaceAll {pairs : List (Str × Str)} {c : Char} (h : Separates c pairs)
    (text : Str) : text.count c ≤ (replaceAll pairs text).count c := by
  induction pairs generalizing text with
  | nil => exact le_rfl
  | cons pair pairs ih =>
    obtain ⟨hold, hc⟩ := h pair List.mem_cons_self
    have htail :=
      ih (fun pair hpair => h pair (List.mem_cons_of_mem _ hpair)) (replace pair.1 pair.2 text)
    exact (count_le_count_replace hold hc text).trans htail

theorem replaceAll_nil (pairs : List (Str × Str)) : replaceAll pairs [] = [] := by
  induction pairs with
  | nil => rfl
  | cons pair pairs ih => exact ih

theorem mem_replaceAll {pairs : List (Str × Str)} (hkeys : ∀ pair ∈ pairs, pair.1 ≠ []) {text : Str}
    {c : Char} (h : c ∈ replaceAll pairs text) : c ∈ text ∨ ∃ pair ∈ pairs, c ∈ pair.2 := by
  induction pairs generalizing text with
  | nil => exact Or.inl h
  | cons pair pairs ih =>
    obtain ⟨hkey, htail⟩ := List.forall_mem_cons.mp hkeys
    rcases ih htail h with h | ⟨pair', hpair', h⟩
    · exact (mem_replace hkey h).imp_right fun h => ⟨pair, List.mem_cons_self, h⟩
    · exact Or.inr ⟨pair', List.mem_cons_of_mem _ hpair', h⟩

/-- What a key becomes that no earlier key occurs in: its own value, rewritten by the pairs
that follow. -/
theorem replaceAll_append_key {front back : List (Str × Str)} {key : Str} (value : Str)
    (hkey : key ≠ []) (hfront : ∀ pair ∈ front, ¬ pair.1 <:+: key) :
    replaceAll (front ++ (key, value) :: back) key = replaceAll back value := by
  rw [replaceAll_append, replaceAll_of_absent hfront]
  change replaceAll back (replace key value key) = _
  rw [replace_self hkey]

end Astro.PythonText
