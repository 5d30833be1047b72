import Astro.JsonDump

/-!
# Where a JSON text ends

A string, a list and an object end with their closing character, and a number or a word inside
one of them with the comma, bracket or blank behind it. Text behind a complete object therefore
never changes how the object is read, and no text of an object is the beginning of another one.
-/

namespace Astro.JsonText

open PythonText

/-- The next character cannot belong to a number or a word. -/
def Stops (rest : Str) : Prop :=
  ∃ c tail, rest = c :: tail ∧ (isBlank c = true ∨ c = ',' ∨ c = ']' ∨ c = '}')

theorem skip_append {text : Str} (h : skip text ≠ []) (more : Str) :
    skip (text ++ more) = skip text ++ more := by
  induction text with
  | nil => exact absurd rfl h
  | cons c text ih =>
    by_cases hblank : isBlank c = true
    · have hskip : ∀ t, skip (c :: t) = skip t := fun t => List.dropWhile_cons_of_pos hblank
      rw [List.cons_append, hskip, hskip]
      exact ih (hskip text ▸ h)
    · rw [Bool.not_eq_true] at hblank
      rw [List.cons_append, skip_cons hblank, skip_cons hblank]
      rfl

theorem stops_of_skip {text rest : Str} {c : Char} (h : skip text = c :: rest)
    (hc : c = ',' ∨ c = ']' ∨ c = '}') :
    Stops text := by
  cases text with
  | nil => cases h
  | cons d text =>
    by_cases hblank : isBlank d = true
    · exact ⟨d, text, rfl, Or.inl hblank⟩
    · rw [Bool.not_eq_true] at hblank
      rw [skip_cons hblank] at h
      cases h
      exact ⟨_, _, rfl, Or.inr hc⟩

theorem hex4_append {text rest : Str} {code : ℕ} (h : hex4 text = some (code, rest)) (more : Str) :
    hex4 (text ++ more) = some (code, rest ++ more) := by
  unfold hex4 at h
  split at h
  · rename_i a b c d tail
    simp only [Option.bind_eq_bind, Option.bind_eq_some_iff, Option.pure_def, Option.some.injEq,
      Prod.mk.injEq] at h
    obtain ⟨x, hx, y, hy, z, hz, w, hw, rfl, rfl⟩ := h
    simp only [List.cons_append, hex4, hx, hy, hz, hw, Option.bind_eq_bind, Option.bind_some]
    rfl
  · cases h

theorem unicode_append {text rest : Str} {c : Char} (h : unicode text = some (c, rest))
    (more : Str) :
    unicode (text ++ more) = some (c, rest ++ more) := by
  simp only [unicode, Option.bind_eq_bind, Option.bind_eq_some_iff] at h
  obtain ⟨⟨code, tail⟩, hhex, h⟩ := h
  rw [unicode, hex4_append hhex, Option.bind_eq_bind, Option.bind_some]
  dsimp only at h ⊢
  split_ifs at h ⊢ with hhigh hlow
  · split at h
    · rename_i tail'
      simp only [Option.bind_eq_some_iff] at h
      obtain ⟨⟨low, tail''⟩, hhex', h⟩ := h
      simp only [List.cons_append, hex4_append hhex', Option.bind_some]
      by_cases hrange : 0xDC00 ≤ low ∧ low ≤ 0xDFFF
      · rw [if_pos hrange, Option.pure_def, Option.some.injEq, Prod.mk.injEq] at h
        rw [if_pos hrange, h.1, ← h.2]
        rfl
      · rw [if_neg hrange] at h
        cases h
    · cases h
  · rw [Option.pure_def, Option.some.injEq, Prod.mk.injEq] at h
    rw [h.1, h.2]
    rfl

theorem chars_append {n m : ℕ} {text s rest : Str} (h : chars n text = some (s, rest)) (hn : n ≤ m)
    (more : Str) :
    chars m (text ++ more) = some (s, rest ++ more) := by
  induction n generalizing m text s with
  | zero => cases h
  | succ n ih =>
    obtain ⟨m, rfl⟩ := Nat.exists_eq_succ_of_ne_zero (Nat.ne_zero_of_lt hn)
    have hle : n ≤ m := Nat.le_of_succ_le_succ hn
    rw [chars.eq_def] at h
    split at h
    · cases h
    · cases h
    · cases h
      rfl
    · rename_i tail hn'
      cases hn'
      simp only [Option.bind_eq_bind, Option.bind_eq_some_iff, Option.pure_def, Option.some.injEq,
        Prod.mk.injEq] at h
      obtain ⟨⟨c, tail'⟩, hunicode, ⟨s', rest'⟩, hchars, rfl, rfl⟩ := h
      rw [List.cons_append, List.cons_append, Nat.succ_eq_add_one, chars_unicode,
        unicode_append hunicode, Option.bind_some, ih hchars hle]
      rfl
    · rename_i e tail hunicode hn'
      cases hn'
      simp only [Option.bind_eq_bind, Option.bind_eq_some_iff, Option.pure_def, Option.some.injEq,
        Prod.mk.injEq] at h
      obtain ⟨c, hescaped, ⟨s', rest'⟩, hchars, rfl, rfl⟩ := h
      rw [List.cons_append, List.cons_append, Nat.succ_eq_add_one,
        chars_escaped m hunicode, hescaped, Option.bind_some, ih hchars hle]
      rfl
    · rename_i c tail hquote _ _ hn'
      cases hn'
      by_cases hraw : c.toNat < 0x20 ∨ c = '\\'
      · rw [if_pos hraw] at h
        cases h
      · rw [if_neg hraw, Option.map_eq_some_iff] at h
        obtain ⟨⟨s', rest'⟩, hchars, heq⟩ := h
        cases heq
        have hspecial : special c = false := by
          rw [not_or, not_lt] at hraw
          simp [special, hraw.1, hraw.2, show c ≠ '"' from hquote]
        rw [List.cons_append, Nat.succ_eq_add_one, chars_cons m hspecial, ih hchars hle]
        rfl

theorem Stops.ne {rest : Str} (h : Stops rest) {c : Char} {tail : Str} (hrest : rest = c :: tail)
    (hc : c = '.' ∨ c = 'e' ∨ c = 'E') : False := by
  obtain ⟨d, tail', rfl, hd⟩ := h
  cases hrest
  rcases hd with hd | rfl | rfl | rfl
  · rcases hc with rfl | rfl | rfl <;> cases hd
  all_goals simp at hc

theorem digits_append {text : Str} (h : (digits text).2 ≠ []) (more : Str) :
    digits (text ++ more) = ((digits text).1, (digits text).2 ++ more) := by
  induction text with
  | nil => exact absurd rfl h
  | cons c text ih =>
    by_cases hdigit : c.isDigit = true
    · have hstep : ∀ t, digits (c :: t) = (c :: (digits t).1, (digits t).2) := by
        intro t
        simp [digits, hdigit]
      rw [List.cons_append, hstep, hstep, ih (by simpa [hstep] using h)]
    · simp [digits, hdigit]

theorem natural_append {text whole rest : Str} (h : natural text = some (whole, rest))
    (hrest : rest ≠ []) (more : Str) :
    natural (text ++ more) = some (whole, rest ++ more) := by
  unfold natural at h
  split at h
  · cases h
    rfl
  · rename_i hzero
    split_ifs at h with hdigits
    cases h
    have hne : ∀ tail, text ++ more ≠ '0' :: tail := by
      intro tail htext
      cases text with
      | nil => exact hdigits rfl
      | cons c text =>
        cases htext
        exact hzero text rfl
    have happend := digits_append hrest more
    unfold natural
    split
    · rename_i heq
      exact absurd heq (hne _)
    · rw [happend, if_neg hdigits]
      rfl

theorem fraction_append {text : Str} (hne : (fraction text).2 ≠ [])
    (hdot : ∀ tail, (fraction text).2 ≠ '.' :: tail) (more : Str) : fraction (text ++ more) =
      ((fraction text).1, (fraction text).2 ++ more) := by
  cases text with
  | nil => exact absurd rfl hne
  | cons c text =>
    by_cases hc : c = '.'
    · subst hc
      by_cases hdigits : (digits text).1 = []
      · refine absurd ?_ (hdot text)
        simp [fraction, hdigits]
      · have hrest : (digits text).2 ≠ [] := by simpa [fraction, hdigits] using hne
        simp [fraction, hdigits, digits_append hrest]
    · have hplain : ∀ t, fraction (c :: t) = ([], c :: t) := by
        intro t
        unfold fraction
        split
        · rename_i heq
          exact absurd (List.cons.inj heq).1 hc
        · rfl
      rw [List.cons_append, hplain, hplain]
      rfl

theorem sign_append {text : Str} (hne : (sign text).2 ≠ []) (more : Str) :
    sign (text ++ more) = ((sign text).1, (sign text).2 ++ more) := by
  cases text with
  | nil => exact absurd rfl hne
  | cons c text =>
    by_cases hplus : c = '+'
    · subst hplus
      rfl
    by_cases hminus : c = '-'
    · subst hminus
      rfl
    have hplain : ∀ t, sign (c :: t) = ([], c :: t) := by
      intro t
      unfold sign
      split
      · rename_i heq
        exact absurd (List.cons.inj heq).1 hplus
      · rename_i heq
        exact absurd (List.cons.inj heq).1 hminus
      · rfl
    rw [List.cons_append, hplain, hplain]
    rfl

theorem exponent_append {text : Str} (hstops : Stops (exponent text).2) (more : Str) :
    exponent (text ++ more) = ((exponent text).1, (exponent text).2 ++ more) := by
  cases text with
  | nil =>
    obtain ⟨c, tail, h, -⟩ := hstops
    cases h
  | cons c text =>
    by_cases hc : c = 'e' ∨ c = 'E'
    · by_cases hdigits : (digits (sign text).2).1 = []
      · have hrest : (exponent (c :: text)).2 = c :: text := by simp [exponent, hc, hdigits]
        exact (hstops.ne hrest (Or.inr hc)).elim
      · have hrest : (exponent (c :: text)).2 = (digits (sign text).2).2 := by
          simp [exponent, hc, hdigits]
        have hnonempty : (digits (sign text).2).2 ≠ [] := by
          obtain ⟨d, tail, h, -⟩ := hstops
          rw [← hrest, h]
          exact List.cons_ne_nil _ _
        have hsign : (sign text).2 ≠ [] := by
          intro h
          rw [h] at hdigits
          exact hdigits rfl
        simp [exponent, hc, sign_append hsign, digits_append hnonempty, hdigits]
    · simp [exponent, hc]

/-- The value of a number with its parts. -/
def literal (float : Str → FloatValue) (negative : Bool) (whole frac exp : Str) : Json :=
  if frac = [] ∧ exp = [] then
    .int (if negative then -(Nat.ofDigitChars 10 whole 0 : ℤ) else (Nat.ofDigitChars 10
      whole 0 : ℤ))
  else .float (float ((if negative then ['-'] else []) ++ whole ++ frac ++ exp))

theorem number_eq (float : Str → FloatValue) (negative : Bool) (text : Str) :
    number float negative text = (natural text).map fun w =>
      (literal float negative w.1 (fraction w.2).1 (exponent (fraction w.2).2).1,
        (exponent (fraction w.2).2).2) := by
  unfold number
  cases natural text with
  | none => rfl
  | some w =>
    simp only [Option.bind_eq_bind, Option.bind_some, Option.map_some, literal]
    by_cases hint : (fraction w.2).1 = [] ∧ (exponent (fraction w.2).2).1 = []
    · rw [if_pos hint, if_pos hint]
      rfl
    · rw [if_neg hint, if_neg hint]
      rfl

theorem number_append (float : Str → FloatValue) {negative : Bool} {text rest : Str} {v : Json}
    (h : number float negative text = some (v, rest)) (hstops : Stops rest) (more : Str) :
    number float negative (text ++ more) = some (v, rest ++ more) := by
  rw [number_eq, Option.map_eq_some_iff] at h
  obtain ⟨⟨whole, tail⟩, hnatural, heq⟩ := h
  cases heq
  have hfraction : (fraction tail).2 ≠ [] := by
    intro hnil
    dsimp only at hstops
    rw [hnil] at hstops
    obtain ⟨c, t, hc, -⟩ := hstops
    cases hc
  have hdot : ∀ t, (fraction tail).2 ≠ '.' :: t := by
    intro t ht
    dsimp only at hstops
    rw [ht] at hstops
    exact hstops.ne rfl (Or.inl rfl)
  have htail : tail ≠ [] := by
    rintro rfl
    exact hfraction rfl
  rw [number_eq, natural_append hnatural htail, Option.map_some]
  dsimp only
  rw [fraction_append hfraction hdot]
  dsimp only
  rw [exponent_append hstops]

theorem word_eq_some_iff {text rest : Str} {v : Json} :
    word text = some (v, rest) ↔ ∃ w ∈ words, w.2 = v ∧ text = w.1 ++ rest := by
  constructor
  · intro h
    obtain ⟨w, hfind, heq⟩ := Option.map_eq_some_iff.mp h
    cases heq
    have hfront : w.1 <+: text := by simpa using List.find?_some hfind
    obtain ⟨tail, rfl⟩ := hfront
    exact ⟨w, List.mem_of_find?_eq_some hfind, rfl, by rw [List.drop_left]⟩
  · rintro ⟨w, hw, rfl, rfl⟩
    simp only [words, List.mem_cons, List.not_mem_nil, or_false] at hw
    rcases hw with rfl | rfl | rfl | rfl | rfl | rfl <;> rfl

theorem word_append {text rest : Str} {v : Json} (h : word text = some (v, rest)) (more : Str) :
    word (text ++ more) = some (v, rest ++ more) := by
  obtain ⟨w, hw, rfl, rfl⟩ := word_eq_some_iff.mp h
  exact word_eq_some_iff.mpr ⟨w, hw, rfl, List.append_assoc _ _ _⟩

/-- A number does not begin as a word does. -/
theorem word_eq_none_of_natural {text : Str} {r : Str × Str} (h : natural text = some r)
    (more : Str) :
    word (text ++ more) = none ∧ word ('-' :: text ++ more) = none := by
  obtain ⟨c, tail, rfl, hdigit⟩ : ∃ c tail, text = c :: tail ∧ c.isDigit = true := by
    unfold natural at h
    split at h
    · exact ⟨'0', _, rfl, rfl⟩
    · split_ifs at h with hdigits
      cases text with
      | nil => exact absurd rfl hdigits
      | cons c tail =>
        refine ⟨c, tail, rfl, ?_⟩
        by_contra hc
        exact hdigits (by simp [digits, hc])
  have hnone : ∀ {t : Str}, (∀ w ∈ words, ¬ w.1 <+: t) → word t = none := by
    intro t ht
    rw [word, Option.map_eq_none_iff, List.find?_eq_none]
    intro w hw hfront
    exact ht w hw (of_decide_eq_true hfront)
  have hne : ∀ d : Char, d.isDigit = false → d ≠ c := by
    rintro d hd rfl
    rw [hd] at hdigit
    cases hdigit
  constructor
  · apply hnone
    intro w hw hfront
    simp only [words, List.mem_cons, List.not_mem_nil, or_false] at hw
    rcases hw with rfl | rfl | rfl | rfl | rfl | rfl
    all_goals exact hne _ rfl (List.cons_prefix_cons.mp hfront).1
  · apply hnone
    intro w hw hfront
    simp only [words, List.mem_cons, List.not_mem_nil, or_false] at hw
    rcases hw with rfl | rfl | rfl | rfl | rfl | rfl
    iterate 5 exact absurd (List.cons_prefix_cons.mp hfront).1 (by decide)
    exact hne 'I' rfl (List.cons_prefix_cons.mp (List.cons_prefix_cons.mp hfront).2).1

theorem scalar_append (float : Str → FloatValue) {text rest : Str} {v : Json}
    (h : scalar float text = some (v, rest)) (hstops : Stops rest) (more : Str) :
    scalar float (text ++ more) = some (v, rest ++ more) := by
  unfold scalar at h
  split at h
  · rename_i hword
    cases h
    unfold scalar
    rw [word_append hword]
  · split at h
    · rename_i tail _
      obtain ⟨w, hnatural, -⟩ :=
        Option.map_eq_some_iff.mp ((number_eq float true tail).symm.trans h)
      unfold scalar
      rw [(word_eq_none_of_natural hnatural more).2]
      exact number_append float h hstops more
    · rename_i hminus
      obtain ⟨w, hnatural, -⟩ :=
        Option.map_eq_some_iff.mp ((number_eq float false text).symm.trans h)
      have hnumber := number_append float h hstops more
      unfold scalar
      rw [(word_eq_none_of_natural hnatural more).1]
      dsimp only
      split
      · rename_i heq
        cases text with
        | nil => cases hnatural
        | cons c text =>
          cases heq
          exact (hminus text rfl).elim
      · exact hnumber

/-- A value that ends with a closing character of its own. -/
def Json.Closed : Json → Prop
  | .str _ | .arr _ | .obj _ => True
  | .null | .bool _ | .int _ | .float _ => False

section Append
variable (float : Str → FloatValue)

/-- With so many calls, text behind a value, the items or the members is left as it is. -/
structure Undisturbed (n : ℕ) : Prop where
  value : ∀ {m text v rest}, JsonText.value float n text = some (v, rest) → n ≤ m →
    Json.Closed v ∨ Stops rest →
    ∀ more, JsonText.value float m (text ++ more) = some (v, rest ++ more)
  items : ∀ {m text vs rest}, JsonText.items float n text = some (vs, rest) → n ≤ m →
    ∀ more, JsonText.items float m (text ++ more) = some (vs, rest ++ more)
  members : ∀ {m text ms rest}, JsonText.members float n text = some (ms, rest) → n ≤ m →
    ∀ more, JsonText.members float m (text ++ more) = some (ms, rest ++ more)

theorem value_nil (n : ℕ) : value float n [] = none := by
  cases n <;> rfl

theorem items_nil (n : ℕ) : items float n [] = none := by
  cases n with
  | zero => rfl
  | succ n => rw [items, value_nil, Option.bind_none]

theorem members_nil (n : ℕ) : members float n [] = none := by
  cases n <;> rfl

theorem skip_append_cons {text rest : Str} {c : Char} (h : skip text = c :: rest) (more : Str) :
    skip (text ++ more) = c :: (rest ++ more) := by
  have hne : skip text ≠ [] := by
    rw [h]
    exact List.cons_ne_nil _ _
  rw [skip_append hne, h, List.cons_append]

variable {n : ℕ}

/-- Up to the value of the first member the same text is read. -/
theorem members_read {m : ℕ} {text key tail tail' : Str} (hkey : chars n text = some (key, tail))
    (hle : n ≤ m) (hcolon : skip tail = ':' :: tail') (hne : skip tail' ≠ []) (more : Str) :
    members float (m + 1) ('"' :: text ++ more) =
      (value float m (skip tail' ++ more)).bind fun r => match skip r.2 with
        | '}' :: rest => some ([(key, r.1)], rest)
        | ',' :: rest =>
            (members float m (skip rest)).map fun tail => ((key, r.1) :: tail.1, tail.2)
        | _ => none := by
  rw [members.eq_def]
  change (chars m (text ++ more)).bind _ = _
  rw [chars_append hkey hle, Option.bind_some]
  dsimp only
  rw [skip_append_cons hcolon]
  change (value float m (skip (tail' ++ more))).bind _ = _
  -- not `rw`, which may already close the goal by the equality of the two matches
  rewrite [skip_append hne]
  rfl

variable {float} (hundisturbed : Undisturbed float n)
include hundisturbed

theorem items_append {m : ℕ} {text rest : Str} {vs : List Json}
    (h : items float (n + 1) text = some (vs, rest)) (hm : n + 1 ≤ m) (more : Str) :
    items float m (text ++ more) = some (vs, rest ++ more) := by
  obtain ⟨m, rfl⟩ := Nat.exists_eq_succ_of_ne_zero (Nat.ne_zero_of_lt hm)
  have hle : n ≤ m := Nat.le_of_succ_le_succ hm
  rw [items, Option.bind_eq_some_iff] at h
  obtain ⟨⟨v, tail⟩, hvalue, h⟩ := h
  dsimp only at h
  split at h
  · rename_i heq
    cases h
    have hstops := stops_of_skip heq (Or.inr (Or.inl rfl))
    rw [items, hundisturbed.value hvalue hle (Or.inr hstops), Option.bind_some]
    dsimp only
    rw [skip_append_cons heq]
    rfl
  · rename_i tail' heq
    obtain ⟨⟨vs', rest'⟩, hitems, h⟩ := Option.map_eq_some_iff.mp h
    cases h
    have hstops := stops_of_skip heq (Or.inl rfl)
    have hne : skip tail' ≠ [] := by
      intro hnil
      rw [hnil, items_nil] at hitems
      cases hitems
    rw [items, hundisturbed.value hvalue hle (Or.inr hstops), Option.bind_some]
    dsimp only
    rw [skip_append_cons heq]
    change Option.map _ (items float m (skip (tail' ++ more))) = _
    rw [skip_append hne, hundisturbed.items hitems hle]
    rfl
  · cases h

theorem members_append {m : ℕ} {text rest : Str} {ms : Fields}
    (h : members float (n + 1) text = some (ms, rest)) (hm : n + 1 ≤ m) (more : Str) :
    members float m (text ++ more) = some (ms, rest ++ more) := by
  obtain ⟨m, rfl⟩ := Nat.exists_eq_succ_of_ne_zero (Nat.ne_zero_of_lt hm)
  have hle : n ≤ m := Nat.le_of_succ_le_succ hm
  rw [members.eq_def] at h
  dsimp only at h
  split at h
  · rename_i text
    rw [Option.bind_eq_some_iff] at h
    obtain ⟨⟨key, tail⟩, hkey, h⟩ := h
    dsimp only at h
    split at h
    · rename_i tail₁ hcolon
      rw [Option.bind_eq_some_iff] at h
      obtain ⟨⟨v, tail₂⟩, hvalue, h⟩ := h
      have hne₁ : skip tail₁ ≠ [] := by
        intro hnil
        rw [hnil, value_nil] at hvalue
        cases hvalue
      have hread := members_read float hkey hle hcolon hne₁ more
      dsimp only at h
      split at h
      · rename_i heq
        cases h
        have hstops := stops_of_skip heq (Or.inr (Or.inr rfl))
        rw [hread, hundisturbed.value hvalue hle (Or.inr hstops), Option.bind_some]
        dsimp only
        rw [skip_append_cons heq]
        rfl
      · rename_i tail₃ heq
        obtain ⟨⟨ms', rest'⟩, hmembers, h⟩ := Option.map_eq_some_iff.mp h
        cases h
        have hstops := stops_of_skip heq (Or.inl rfl)
        have hne : skip tail₃ ≠ [] := by
          intro hnil
          rw [hnil, members_nil] at hmembers
          cases hmembers
        rw [hread, hundisturbed.value hvalue hle (Or.inr hstops), Option.bind_some]
        dsimp only
        rw [skip_append_cons heq]
        change Option.map _ (members float m (skip (tail₃ ++ more))) = _
        rw [skip_append hne, hundisturbed.members hmembers hle]
        rfl
      · cases h
    · cases h
  · cases h

theorem brace_append {m : ℕ} {text rest : Str} {v : Json}
    (h : value float (n + 1) ('{' :: text) = some (v, rest)) (hle : n ≤ m) (more : Str) :
    value float (m + 1) ('{' :: text ++ more) = some (v, rest ++ more) := by
  simp only [value] at h
  simp only [List.cons_append, value]
  split at h
  · rename_i heq
    cases h
    rw [skip_append_cons heq]
    rfl
  · rename_i hopen
    obtain ⟨⟨ms, rest'⟩, hmembers, h⟩ := Option.map_eq_some_iff.mp h
    cases h
    have hne : skip text ≠ [] := by
      intro hnil
      rw [hnil, members_nil] at hmembers
      cases hmembers
    obtain ⟨c, tail, hskip⟩ := List.exists_cons_of_ne_nil hne
    rw [skip_append hne]
    split
    · rename_i heq
      rw [hskip, List.cons_append] at heq
      cases heq
      exact (hopen tail hskip).elim
    · rw [hundisturbed.members hmembers hle]
      rfl

theorem bracket_append {m : ℕ} {text rest : Str} {v : Json}
    (h : value float (n + 1) ('[' :: text) = some (v, rest)) (hle : n ≤ m) (more : Str) :
    value float (m + 1) ('[' :: text ++ more) = some (v, rest ++ more) := by
  simp only [value] at h
  simp only [List.cons_append, value]
  split at h
  · rename_i heq
    cases h
    rw [skip_append_cons heq]
    rfl
  · rename_i hopen
    obtain ⟨⟨vs, rest'⟩, hitems, h⟩ := Option.map_eq_some_iff.mp h
    cases h
    have hne : skip text ≠ [] := by
      intro hnil
      rw [hnil, items_nil] at hitems
      cases hitems
    obtain ⟨c, tail, hskip⟩ := List.exists_cons_of_ne_nil hne
    rw [skip_append hne]
    split
    · rename_i heq
      rw [hskip, List.cons_append] at heq
      cases heq
      exact (hopen tail hskip).elim
    · rw [hundisturbed.items hitems hle]
      rfl

omit hundisturbed in
theorem value_scalar {c : Char} (hquote : c ≠ '"') (hbrace : c ≠ '{') (hbracket : c ≠ '[') (m : ℕ)
    (text : Str) :
    value float (m + 1) (c :: text) = scalar float (c :: text) := by
  rw [value.eq_def]
  dsimp only
  split
  · rename_i h
    exact absurd (List.cons.inj h).1 hquote
  · rename_i h
    exact absurd (List.cons.inj h).1 hbrace
  · rename_i h
    exact absurd (List.cons.inj h).1 hbracket
  · rfl

omit hundisturbed in
/-- A number and a word have no closing character. -/
theorem not_closed_of_scalar {text rest : Str} {v : Json} (h : scalar float text = some (v, rest)) :
    ¬ Json.Closed v := by
  have hnumber : ∀ {negative text}, number float negative text = some (v, rest) →
      ¬ Json.Closed v := by
    intro negative text hnumber
    obtain ⟨w, -, heq⟩ :=
      Option.map_eq_some_iff.mp ((number_eq float negative text).symm.trans hnumber)
    cases heq
    unfold literal
    split_ifs <;> exact id
  unfold scalar at h
  split at h
  · rename_i hword
    cases h
    obtain ⟨w, hw, rfl, -⟩ := word_eq_some_iff.mp hword
    simp only [words, List.mem_cons, List.not_mem_nil, or_false] at hw
    rcases hw with rfl | rfl | rfl | rfl | rfl | rfl <;> exact id
  · split at h <;> exact hnumber h

theorem value_append {m : ℕ} {text rest : Str} {v : Json}
    (h : value float (n + 1) text = some (v, rest)) (hm : n + 1 ≤ m)
    (hend : Json.Closed v ∨ Stops rest) (more : Str) :
    value float m (text ++ more) = some (v, rest ++ more) := by
  obtain ⟨m, rfl⟩ := Nat.exists_eq_succ_of_ne_zero (Nat.ne_zero_of_lt hm)
  have hle : n ≤ m := Nat.le_of_succ_le_succ hm
  cases text with
  | nil =>
    rw [value_nil] at h
    cases h
  | cons c text =>
    by_cases hquote : c = '"'
    · subst hquote
      obtain ⟨⟨s, rest'⟩, hchars, h⟩ := Option.map_eq_some_iff.mp h
      cases h
      change Option.map _ (chars m (text ++ more)) = _
      rw [chars_append hchars hle]
      rfl
    by_cases hbrace : c = '{'
    · subst hbrace
      exact brace_append hundisturbed h hle more
    by_cases hbracket : c = '['
    · subst hbracket
      exact bracket_append hundisturbed h hle more
    rw [value_scalar hquote hbrace hbracket] at h
    rw [List.cons_append, Nat.succ_eq_add_one, value_scalar hquote hbrace hbracket]
    exact scalar_append float h (hend.resolve_left (not_closed_of_scalar h)) more

omit hundisturbed in
theorem undisturbed (float : Str → FloatValue) (n : ℕ) : Undisturbed float n := by
  induction n with
  | zero =>
    refine ⟨?_, ?_, ?_⟩
    · intro m text v rest h
      cases h
    · intro m text vs rest h
      cases h
    · intro m text ms rest h
      cases h
  | succ n ih =>
    refine ⟨?_, ?_, ?_⟩
    · intro m text v rest h hm hend more
      exact value_append ih h hm hend more
    · intro m text vs rest h hm more
      exact items_append ih h hm more
    · intro m text ms rest h hm more
      exact members_append ih h hm more

end Append

/-- The beginning of the text of an object is not a JSON text. -/
theorem loads_take (float : Str → FloatValue) (repr : FloatValue → Str) (indent : ℕ)
    {fields : Fields} (h : Textual (.obj fields)) {k : ℕ}
    (hk : k < (dump repr indent 0 (.obj fields)).length) :
    loads float ((dump repr indent 0 (.obj fields)).take k) = none := by
  obtain ⟨tail, hdump⟩ : ∃ tail, dump repr indent 0 (.obj fields) = '{' :: tail := by
    cases fields with
    | nil => exact ⟨_, rfl⟩
    | cons m ms => exact ⟨_, rfl⟩
  have hwhole :=
    decodes_dump float repr indent h 0 ((dump repr indent 0 (.obj fields)).length + 1) []
      (Nat.le_succ _)
  rw [List.append_nil, hdump] at hwhole
  rw [hdump] at hk ⊢
  cases k with
  | zero => rfl
  | succ k =>
    rw [List.take_succ_cons]
    -- what the beginning is read as, the whole text is read as, with something left over
    cases hloads : value float ((('{' :: tail.take k).length) + 1) ('{' :: tail.take k) with
    | none =>
      rw [loads, skip_cons rfl, hloads]
      rfl
    | some r =>
      obtain ⟨v, rest⟩ := r
      have hlength : (('{' :: tail.take k).length) ≤ ('{' :: tail).length := by
        simp only [List.length_cons, List.length_take]
        omega
      have hmore := brace_append (undisturbed float _) hloads hlength (tail.drop k)
      rw [List.cons_append, List.take_append_drop, hwhole] at hmore
      have hrest : rest ++ tail.drop k = [] := (congrArg Prod.snd (Option.some.inj hmore)).symm
      have hdrop : tail.drop k = [] := (List.append_eq_nil_iff.mp hrest).2
      rw [List.length_cons] at hk
      rw [List.drop_eq_nil_iff] at hdrop
      omega

end Astro.JsonText
