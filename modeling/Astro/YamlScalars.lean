import Astro.QuotedText
import Astro.PythonText

/-!
# Double-quoted scalars

How the YAML reader of Python reads a text after an opening quote: escapes, line breaks that fold,
blanks around them that are dropped. A value comes back as it was put in when it has only
printable characters, no quote, no backslash, and no line break that folds.
-/

namespace Astro.YamlScalars

open PythonText QuotedText

/-- Every other character is refused wherever it stands in a document. -/
def isPrintable (c : Char) : Bool :=
  c = '\t' || c = '\n' || c = '\x0d' || (0x20 ≤ c.toNat && c.toNat ≤ 0x7e) || c = '\u0085' ||
    (0xa0 ≤ c.toNat && c.toNat ≤ 0xd7ff) || (0xe000 ≤ c.toNat && c.toNat ≤ 0xfffd) ||
      0x10000 ≤ c.toNat

def isBlank (c : Char) : Bool := c = ' ' || c = '\t'

def isBreak (c : Char) : Bool :=
  c = '\n' || c = '\x0d' || c = '\u0085' || c = '\u2028' || c = '\u2029'

/-- A line break as it is read. -/
def breakValue (c : Char) : Char := if c = '\u2028' ∨ c = '\u2029' then c else '\n'

/-- A carriage return that belongs to the line feed behind it. -/
def isPaired (c : Char) (s : Str) : Bool := c = '\x0d' && s.head? = some '\n'

/-- A line break follows, after blanks at most. -/
def startsBreak (s : Str) : Bool := (s.dropWhile isBlank).head?.any isBreak

/-- At the start of a line, the end of the document. -/
def startsMarker (s : Str) : Bool :=
  (s.take 3 = "---".toList || s.take 3 = "...".toList) && (s.drop 3).head?.all fun c =>
    isBlank c || isBreak c

inductive Mode where
  | text
  /-- After a line break, where blanks are dropped. -/
  | folded
  | escape
  /-- In an escape with a code, with the digits that are left and the value of those before. -/
  | code (left value : ℕ)
  deriving DecidableEq

/-- The escapes of one character. -/
def replacement (c : Char) : Option Char :=
  ([('0', '\x00'), ('a', '\x07'), ('b', '\x08'), ('t', '\t'), ('\t', '\t'), ('n', '\n'),
    ('v', '\x0b'), ('f', '\x0c'), ('r', '\x0d'), ('e', '\x1b'), (' ', ' '), ('"', '"'),
    ('\\', '\\'), ('/', '/'),
    ('N', '\u0085'), ('_', '\xa0'), ('L', '\u2028'), ('P', '\u2029')] : List (Char × Char)).lookup c

/-- The number of digits after `x`, `u` and `U`. -/
def codeLength (c : Char) : Option ℕ := ([('x', 2), ('u', 4), ('U', 8)] : List (Char × ℕ)).lookup c

def hexValue (c : Char) : Option ℕ :=
  if c.isDigit then some (c.toNat - '0'.toNat)
  else if 'a' ≤ c ∧ c ≤ 'f' then some (c.toNat - 'a'.toNat + 10)
  else if 'A' ≤ c ∧ c ≤ 'F' then some (c.toNat - 'A'.toNat + 10)
  else none

def codeStep (left value digit : ℕ) : Option (Mode × Option Char) :=
  if left = 1 then
    if Nat.isValidChar (16 * value + digit) then some (.text,
      some (Char.ofNat (16 * value + digit))) else none
  else some (.code (left - 1) (16 * value + digit), none)

def modeOf (afterBreak : Bool) : Mode := if afterBreak then .folded else .text

/-- One character outside an escape. -/
def textStep (folded : Bool) (c : Char) (s : Str) : Option (Mode × Option Char) :=
  if c = '\\' then some (.escape, none)
  else if isBlank c then
    if folded then some (.folded, none)
    else some (.text, if startsBreak s then none else some c)
  else if isBreak c then
    if isPaired c s then some (modeOf folded, none)
    else if startsMarker s then none
    else if folded || breakValue c ≠ '\n' then some (.folded, some (breakValue c))
    else some (.folded, if startsBreak s then none else some ' ')
  else some (.text, some c)

theorem textStep_escape {folded : Bool} {c : Char} {s : Str} {out : Option Char}
    (h : textStep folded c s = some (.escape, out)) : out = none := by
  have hmode : modeOf folded ≠ .escape := by cases folded <;> decide
  unfold textStep at h
  split_ifs at h
  · exact (Prod.mk.inj (Option.some.inj h)).2.symm
  · cases (Prod.mk.inj (Option.some.inj h)).1
  · cases (Prod.mk.inj (Option.some.inj h)).1
  · cases (Prod.mk.inj (Option.some.inj h)).1
  · exact absurd (Prod.mk.inj (Option.some.inj h)).1 hmode
  all_goals cases (Prod.mk.inj (Option.some.inj h)).1

def escapeStep (c : Char) (s : Str) : Option (Mode × Option Char) :=
  if isBreak c then
    if isPaired c s then some (.escape, none)
    else if startsMarker s then none
    else some (.folded, none)
  else match codeLength c with
    | some n => some (.code n 0, none)
    | none => (replacement c).map fun r => (.text, some r)

theorem escapeStep_escape {c : Char} {s : Str} {out : Option Char}
    (h : escapeStep c s = some (.escape, out)) : out = none := by
  unfold escapeStep at h
  split_ifs at h
  · exact (Prod.mk.inj (Option.some.inj h)).2.symm
  · cases (Prod.mk.inj (Option.some.inj h)).1
  · split at h
    · cases (Prod.mk.inj (Option.some.inj h)).1
    · obtain ⟨r, -, heq⟩ := Option.map_eq_some_iff.mp h
      cases (Prod.mk.inj heq).1

def step (mode : Mode) (c : Char) (s : Str) : Option (Mode × Option Char) :=
  if isPrintable c then
    match mode with
    | .text => textStep false c s
    | .folded => textStep true c s
    | .escape => escapeStep c s
    | .code left value => (hexValue c).bind (codeStep left value)
  else none

/-- Nothing is given for what starts an escape. -/
theorem step_escape {mode : Mode} {c : Char} {s : Str} {out : Option Char}
    (h : step mode c s = some (.escape, out)) : out = none := by
  unfold step at h
  split_ifs at h
  cases mode with
  | text => exact textStep_escape h
  | folded => exact textStep_escape h
  | escape => exact escapeStep_escape h
  | code left value =>
    obtain ⟨digit, -, h⟩ := Option.bind_eq_some_iff.mp h
    unfold codeStep at h
    split_ifs at h
    · cases (Prod.mk.inj (Option.some.inj h)).1
    · cases (Prod.mk.inj (Option.some.inj h)).1

/-- The reader of a double-quoted scalar. -/
def scalar : Reader Char Mode where
  quote := '"'
  ends mode := mode = .text || mode = .folded
  escaped mode := mode = .escape
  step := step
  quote_step := by
    rintro (_ | _ | _ | ⟨left, value⟩) s q' out hends hstep
    · cases hends
    · cases hends
    · obtain ⟨rfl, rfl⟩ := Prod.mk.inj (Option.some.inj hstep)
      exact ⟨rfl, rfl⟩
    · cases hstep
  silent := by
    rintro mode c s q' out hstep hescaped
    obtain rfl : q' = .escape := of_decide_eq_true hescaped
    exact step_escape hstep

def scalarValue (s : Str) : Option Str := (scalar.read .text s).map Prod.fst

/-- Each character is printable, no quote and no backslash. A blank does not stand beside a line
break, and a line break is one that does not fold. -/
def IsExact : Bool → Str → Prop
  | _, [] => True
  | afterBreak, c :: text =>
    (isPrintable c = true ∧ c ≠ '"' ∧ c ≠ '\\') ∧
    (isBlank c = true → afterBreak = false ∧ startsBreak text = false) ∧
    (isBreak c = true → (breakValue c = c ∧ (c = '\n' → afterBreak = true)) ∧
      startsMarker (text ++ ['"']) = false) ∧
    IsExact (isBreak c) text

instance : (afterBreak : Bool) → (text : Str) → Decidable (IsExact afterBreak text)
  | _, [] => inferInstanceAs (Decidable True)
  | _, c :: text =>
    have := instDecidableIsExact (isBreak c) text
    inferInstanceAs (Decidable (_ ∧ _ ∧ _ ∧ _))

theorem step_modeOf (afterBreak : Bool) (c : Char) (s : Str) :
    step (modeOf afterBreak) c s = if isPrintable c then textStep afterBreak c s else none := by
  cases afterBreak <;> rfl

theorem isBreak_of_isBlank {c : Char} (h : isBlank c = true) : isBreak c = false := by
  simp only [isBlank, Bool.or_eq_true, decide_eq_true_eq] at h
  rcases h with rfl | rfl <;> rfl

theorem isPaired_of_breakValue {c : Char} (h : breakValue c = c) (s : Str) :
    isPaired c s = false := by
  have hc : c ≠ '\x0d' := by
    rintro rfl
    exact absurd h (by decide)
  simp [isPaired, hc]

/-- A line break that is read as itself. -/
theorem breakStep_eq_self_iff {afterBreak : Bool} {c : Char} {s : Str} {mode : Mode}
    (hbreak : isBreak c = true) :
    (if isPaired c s then some (modeOf afterBreak, none)
      else if startsMarker s then none
      else if afterBreak || breakValue c ≠ '\n' then some (.folded, some (breakValue c))
      else some (.folded, if startsBreak s then none else some ' ')) = some (mode, some c) ↔
    ((breakValue c = c ∧ (c = '\n' → afterBreak = true)) ∧ startsMarker s = false) ∧
      mode = .folded := by
  constructor
  · intro h
    split_ifs at h with hpaired hmarker hkept
    · cases (Prod.mk.inj (Option.some.inj h)).2
    · obtain ⟨rfl, hvalue⟩ := Prod.mk.inj (Option.some.inj h)
      have hvalue : breakValue c = c := Option.some.inj hvalue
      refine ⟨⟨⟨hvalue, fun hc => ?_⟩, Bool.eq_false_iff.mpr hmarker⟩, rfl⟩
      rw [hvalue, hc] at hkept
      simpa using hkept
    · cases (Prod.mk.inj (Option.some.inj h)).2
    · obtain rfl : ' ' = c := Option.some.inj (Prod.mk.inj (Option.some.inj h)).2
      exact absurd hbreak (by decide)
  · rintro ⟨⟨⟨hvalue, hfeed⟩, hmarker⟩, rfl⟩
    have hkept : (afterBreak || decide (breakValue c ≠ '\n')) = true := by
      rw [hvalue, Bool.or_eq_true, decide_eq_true_eq]
      by_cases hc : c = '\n'
      · exact Or.inl (hfeed hc)
      · exact Or.inr hc
    rw [isPaired_of_breakValue hvalue, hmarker, if_neg Bool.false_ne_true,
      if_neg Bool.false_ne_true, if_pos hkept, hvalue]

/-- A character that is read as itself. -/
theorem textStep_eq_self_iff {afterBreak : Bool} {c : Char} {s : Str} {mode : Mode} :
    textStep afterBreak c s = some (mode, some c) ↔
      c ≠ '\\' ∧ (isBlank c = true → afterBreak = false ∧ startsBreak s = false) ∧
        (isBreak c = true → (breakValue c = c ∧ (c = '\n' → afterBreak = true)) ∧
          startsMarker s = false) ∧
        mode = modeOf (isBreak c) := by
  unfold textStep
  by_cases hback : c = '\\'
  · rw [if_pos hback]
    simp [hback]
  rw [if_neg hback, and_iff_right hback]
  by_cases hblank : isBlank c = true
  · have hbreak := isBreak_of_isBlank hblank
    rw [if_pos hblank, forall_prop_of_true hblank, hbreak]
    cases afterBreak <;> cases startsBreak s <;> simp [modeOf, @eq_comm _ mode]
  rw [if_neg hblank, forall_prop_of_false hblank, true_and]
  by_cases hbreak : isBreak c = true
  · rw [if_pos hbreak, forall_prop_of_true hbreak, hbreak]
    exact breakStep_eq_self_iff hbreak
  · rw [if_neg hbreak, forall_prop_of_false hbreak, true_and, Bool.eq_false_iff.mpr hbreak]
    simp [modeOf, @eq_comm _ mode]

theorem startsBreak_append_quote (text rest : Str) : startsBreak (text ++ '"' :: rest) =
    startsBreak text := by
  induction text with
  | nil => rfl
  | cons c text ih =>
    unfold startsBreak at ih ⊢
    by_cases hblank : isBlank c = true
    · rw [List.cons_append, List.dropWhile_cons_of_pos hblank,
        List.dropWhile_cons_of_pos hblank, ih]
    · rw [List.cons_append, List.dropWhile_cons_of_neg hblank, List.dropWhile_cons_of_neg hblank]
      rfl

theorem startsMarker_append_quote (text rest : Str) :
    startsMarker (text ++ '"' :: rest) = startsMarker (text ++ ['"']) := by
  rcases text with _ | ⟨a, _ | ⟨b, _ | ⟨c, _ | ⟨d, text⟩⟩⟩⟩ <;> simp [startsMarker]

theorem verbatim_iff (afterBreak : Bool) (text rest : Str) :
    scalar.Verbatim (modeOf afterBreak) text ('"' :: rest) ↔ IsExact afterBreak text := by
  induction text generalizing afterBreak with
  | nil =>
    have hends : scalar.ends (modeOf afterBreak) = true := by cases afterBreak <;> rfl
    exact iff_of_true hends trivial
  | cons c text ih =>
    have hends : scalar.ends (modeOf afterBreak) ≠ false := by cases afterBreak <;> decide
    have hstep : ∀ mode, scalar.step (modeOf afterBreak) c (text ++ '"' :: rest) =
      some (mode, some c) ↔
        isPrintable c = true ∧ textStep afterBreak c (text ++ '"' :: rest) =
            some (mode, some c) := by
      intro mode
      change step (modeOf afterBreak) c (text ++ '"' :: rest) = some (mode, some c) ↔ _
      rw [step_modeOf]
      by_cases hprintable : isPrintable c = true
      · rw [if_pos hprintable, and_iff_right hprintable]
      · rw [if_neg hprintable]
        simp [hprintable]
    have hquote : (c = scalar.quote → scalar.ends (modeOf afterBreak) = false) ↔ c ≠ '"' :=
      ⟨fun h hc => hends (h hc), fun h hc => absurd hc h⟩
    simp only [Reader.Verbatim, IsExact, hstep, textStep_eq_self_iff,
      startsBreak_append_quote, hquote]
    rw [startsMarker_append_quote text rest, ← ih]
    constructor
    · rintro ⟨hc, mode, ⟨hprintable, hback, hblank, hbreak, rfl⟩, htext⟩
      exact ⟨⟨hprintable, hc, hback⟩, hblank, hbreak, htext⟩
    · rintro ⟨⟨hprintable, hc, hback⟩, hblank, hbreak, htext⟩
      exact ⟨hc, _, ⟨hprintable, hback, hblank, hbreak, rfl⟩, htext⟩

/-- For every value and whatever stands behind it. -/
theorem scalarValue_eq_self_iff (text rest : Str) :
    scalarValue (text ++ '"' :: rest) = some text ↔ IsExact false text := by
  rw [← verbatim_iff false text rest]
  exact Reader.read_eq_self_iff rfl text rest

example : scalarValue "a\\x41\\\" \n  b\"c" = some "aA\" b".toList := by decide

/-- Without line breaks the characters alone decide. -/
theorem isExact_iff_of_no_break {text : Str} (h : ∀ c ∈ text, isBreak c = false) :
    IsExact false text ↔ ∀ c ∈ text, isPrintable c = true ∧ c ≠ '"' ∧ c ≠ '\\' := by
  induction text with
  | nil => exact iff_of_true trivial (List.forall_mem_nil _)
  | cons c text ih =>
    obtain ⟨hc, htext⟩ := List.forall_mem_cons.mp h
    have hstart : startsBreak text = false := by
      cases hhead : (text.dropWhile isBlank).head? with
      | none => rw [startsBreak, hhead]; rfl
      | some d =>
        rw [startsBreak, hhead]
        exact htext d ((List.dropWhile_suffix isBlank).subset (List.mem_of_mem_head? hhead))
    rw [List.forall_mem_cons, ← ih htext, IsExact, hc]
    simp [hstart]

end Astro.YamlScalars
