import Astro.YamlScalars

/-!
# Quoted words in a block of text

How a script that stands in a literal block of a YAML document reads its settings, a name and a
quoted word on each line. The block drops the indentation of each line and ends with a line that has
less. In double quotes the shell drops a backslash before some characters and expands `$` and
backquotes; in single quotes it reads on to the next quote. Such a word is the text between the
quotes when there is nothing to expand, to unescape or to unindent, and then the next line is the
next setting.
-/

namespace Astro.ShellSettings

open PythonText QuotedText YamlScalars

inductive Quotes where
  | double
  | single
  deriving DecidableEq

def Quotes.mark : Quotes → Char
  | .double => '"'
  | .single => '\x27'

inductive Mode where
  | text
  | escape
  /-- At the start of a line, with the blanks that are left of the indentation. -/
  | indent (left : ℕ)
  deriving DecidableEq

/-- A parameter, a command or an expression follows the `$`. -/
def startsExpansion (s : Str) : Bool :=
  s.head?.any fun c => c.isAlphanum || c ∈
    ['_', '*', '@', '#', '?', '-', '$', '!', '\x7b', '(', '[']

/-- A character follows that a backslash escapes. -/
def startsEscaped (s : Str) : Bool :=
  s.head?.any fun c => c ∈ ['$', '\x60', '"', '\\'] || isBreak c && breakValue c = '\n'

section Block
variable (n : ℕ)

/-- A line break starts the next line of the block. -/
def breakStep (mode : Mode) (c : Char) (s : Str) : Option (Mode × Option Char) :=
  if isPaired c s then some (mode, none) else some (.indent n, some (breakValue c))

/-- A character that is no line break. -/
def charStep (quotes : Quotes) (c : Char) (s : Str) : Option (Mode × Option Char) :=
  match quotes with
  | .single => some (.text, some c)
  | .double =>
    if c = '\x60' then none
    else if c = '$' then if startsExpansion s then none else some (.text, some c)
    else if c = '\\' then some (if startsEscaped s then (.escape, none) else (.text, some c))
    else some (.text, some c)

def textStep (quotes : Quotes) (c : Char) (s : Str) : Option (Mode × Option Char) :=
  if isBreak c then breakStep n .text c s else charStep quotes c s

def escapeStep (c : Char) (s : Str) : Option (Mode × Option Char) :=
  if isBreak c then if isPaired c s then some (.escape, none) else some (.indent n, none)
  else some (.text, some c)

def indentStep (left : ℕ) (c : Char) (s : Str) : Option (Mode × Option Char) :=
  if isBreak c then breakStep n (.indent left) c s
  else if c = ' ' then some (if left ≤ 1 then .text else .indent (left - 1), none)
  else none

def step (quotes : Quotes) (mode : Mode) (c : Char) (s : Str) : Option (Mode × Option Char) :=
  if isPrintable c then
    match mode with
    | .text => textStep n quotes c s
    | .escape => escapeStep n c s
    | .indent left => indentStep n left c s
  else none

theorem breakStep_ne_escape {mode : Mode} (hmode : mode ≠ .escape) {c : Char} {s : Str}
    {out : Option Char} :
    breakStep n mode c s ≠ some (.escape, out) := by
  unfold breakStep
  split_ifs
  · exact fun h => hmode (Prod.mk.inj (Option.some.inj h)).1
  · intro h
    cases (Prod.mk.inj (Option.some.inj h)).1

theorem charStep_escape {quotes : Quotes} {c : Char} {s : Str} {out : Option Char}
    (h : charStep quotes c s = some (.escape, out)) : out = none := by
  cases quotes with
  | single => cases (Prod.mk.inj (Option.some.inj h)).1
  | double =>
    unfold charStep at h
    dsimp only at h
    split_ifs at h
    · cases (Prod.mk.inj (Option.some.inj h)).1
    · exact (Prod.mk.inj (Option.some.inj h)).2.symm
    · cases (Prod.mk.inj (Option.some.inj h)).1
    · cases (Prod.mk.inj (Option.some.inj h)).1

/-- Nothing is given for what starts an escape. -/
theorem step_escape {quotes : Quotes} {mode : Mode} {c : Char} {s : Str} {out : Option Char}
    (h : step n quotes mode c s = some (.escape, out)) : out = none := by
  unfold step at h
  split_ifs at h
  cases mode with
  | text =>
    change textStep n quotes c s = _ at h
    unfold textStep at h
    split_ifs at h
    · exact absurd h (breakStep_ne_escape n (by decide))
    · exact charStep_escape h
  | escape =>
    change escapeStep n c s = _ at h
    unfold escapeStep at h
    split_ifs at h
    · exact (Prod.mk.inj (Option.some.inj h)).2.symm
    · cases (Prod.mk.inj (Option.some.inj h)).1
    · cases (Prod.mk.inj (Option.some.inj h)).1
  | indent left =>
    change indentStep n left c s = _ at h
    unfold indentStep at h
    split_ifs at h
    · exact absurd h (breakStep_ne_escape n (by simp))
    · cases (Prod.mk.inj (Option.some.inj h)).1
    · cases (Prod.mk.inj (Option.some.inj h)).1

/-- The reader of a quoted word, in a block with this indentation. It stops where something would
be expanded or executed. -/
def word (quotes : Quotes) : Reader Char Mode where
  quote := quotes.mark
  ends mode := mode = .text
  escaped mode := mode = .escape
  step := step n quotes
  quote_step := by
    rintro (_ | _ | left) s q' out hends hstep
    · cases hends
    · cases quotes <;>
      · obtain ⟨rfl, rfl⟩ := Prod.mk.inj (Option.some.inj hstep)
        exact ⟨rfl, rfl⟩
    · cases quotes <;> cases hstep
  silent := by
    rintro mode c s q' out hstep hescaped
    obtain rfl : q' = .escape := of_decide_eq_true hescaped
    exact step_escape n hstep

end Block

/-- Every character is printable and none is a line break, a quote or a backquote; no `$` and no
backslash stands before a character that it acts on. -/
def IsLiteral : Str → Prop
  | [] => True
  | c :: text =>
    (isPrintable c = true ∧ isBreak c = false ∧ c ≠ '"' ∧ c ≠ '\x60') ∧
    (c = '$' → startsExpansion (text ++ ['"']) = false) ∧
    (c = '\\' → startsEscaped (text ++ ['"']) = false) ∧
    IsLiteral text

instance : (text : Str) → Decidable (IsLiteral text)
  | [] => inferInstanceAs (Decidable True)
  | _ :: text =>
    have := instDecidableIsLiteral text
    inferInstanceAs (Decidable (_ ∧ _ ∧ _ ∧ _))

theorem head?_append_quote (text rest : Str) : (text ++ '"' :: rest).head? =
    (text ++ ['"']).head? := by
  cases text <;> rfl

/-- Every character is printable, and none is a line break or the quote. -/
def IsQuotable (text : Str) : Prop :=
  ∀ c ∈ text, isPrintable c = true ∧ isBreak c = false ∧ c ≠ '\x27'

def Quotes.IsPlain : Quotes → Str → Prop
  | .double => IsLiteral
  | .single => IsQuotable

/-- A line break inside a word takes away the indentation of the next line. -/
theorem not_verbatim_indent (n left : ℕ) (quotes : Quotes) (text after : Str) :
    ¬ (word n quotes).Verbatim (.indent left) text after := by
  induction text generalizing left with
  | nil => exact Bool.false_ne_true
  | cons c text ih =>
    rintro ⟨-, mode, hstep, htext⟩
    change step n quotes (.indent left) c (text ++ after) = _ at hstep
    unfold step at hstep
    split_ifs at hstep
    change indentStep n left c (text ++ after) = _ at hstep
    unfold indentStep breakStep at hstep
    split_ifs at hstep
    · cases (Prod.mk.inj (Option.some.inj hstep)).2
    · obtain ⟨rfl, -⟩ := Prod.mk.inj (Option.some.inj hstep)
      exact ih n htext
    · cases (Prod.mk.inj (Option.some.inj hstep)).2
    · cases (Prod.mk.inj (Option.some.inj hstep)).2

theorem not_verbatim_break {n : ℕ} {quotes : Quotes} {c : Char} (hc : isBreak c = true)
    (text after : Str) :
    ¬ (word n quotes).Verbatim .text (c :: text) after := by
  rintro ⟨-, mode, hstep, htext⟩
  change step n quotes .text c (text ++ after) = _ at hstep
  unfold step at hstep
  split_ifs at hstep
  change textStep n quotes c (text ++ after) = _ at hstep
  unfold textStep breakStep at hstep
  rw [if_pos hc] at hstep
  split_ifs at hstep
  · cases (Prod.mk.inj (Option.some.inj hstep)).2
  · obtain ⟨rfl, -⟩ := Prod.mk.inj (Option.some.inj hstep)
    exact not_verbatim_indent n n quotes text after htext

/-- A character that is read as itself. -/
theorem verbatim_cons_iff {n : ℕ} {quotes : Quotes} {c : Char} {text after : Str} :
    (word n quotes).Verbatim .text (c :: text) after ↔
      isPrintable c = true ∧ isBreak c = false ∧ c ≠ quotes.mark ∧
        ∃ mode, charStep quotes c (text ++ after) = some (mode, some c) ∧
          (word n quotes).Verbatim mode text after := by
  cases hbreak : isBreak c with
  | true =>
    refine iff_of_false (not_verbatim_break hbreak _ _) ?_
    rintro ⟨-, hc, -⟩
    cases hc
  | false =>
    have hstep : ∀ mode, (word n quotes).step .text c (text ++ after) = some (mode, some c) ↔
        isPrintable c = true ∧ charStep quotes c (text ++ after) = some (mode, some c) := by
      intro mode
      change step n quotes .text c (text ++ after) = some (mode, some c) ↔ _
      unfold step textStep
      rw [hbreak]
      cases isPrintable c <;> simp
    have hquote : (c = (word n quotes).quote → (word n quotes).ends .text = false) ↔
        c ≠ quotes.mark :=
      ⟨fun h hc => Bool.false_ne_true (h hc).symm, fun h hc => absurd hc h⟩
    simp only [Reader.Verbatim, hstep, hquote, true_and]
    constructor
    · rintro ⟨hc, mode, ⟨hprintable, hchar⟩, htext⟩
      exact ⟨hprintable, hc, mode, hchar, htext⟩
    · rintro ⟨hprintable, hc, mode, hchar, htext⟩
      exact ⟨hc, mode, ⟨hprintable, hchar⟩, htext⟩

theorem charStep_double_iff {c : Char} {s : Str} {mode : Mode} :
    charStep .double c s = some (mode, some c) ↔
      c ≠ '\x60' ∧ (c = '$' → startsExpansion s = false) ∧ (c = '\\' → startsEscaped s = false) ∧
        mode = .text := by
  unfold charStep
  dsimp only
  by_cases hback : c = '\x60'
  · rw [if_pos hback]
    simp [hback]
  rw [if_neg hback, and_iff_right hback]
  by_cases hdollar : c = '$'
  · rw [if_pos hdollar, forall_prop_of_true hdollar,
      forall_prop_of_false (by rw [hdollar]; decide), true_and]
    cases startsExpansion s <;> simp [@eq_comm _ mode]
  rw [if_neg hdollar, forall_prop_of_false hdollar, true_and]
  by_cases hslash : c = '\\'
  · rw [if_pos hslash, forall_prop_of_true hslash]
    cases startsEscaped s <;> simp [@eq_comm _ mode]
  · rw [if_neg hslash, forall_prop_of_false hslash, true_and]
    simp [@eq_comm _ mode]

theorem verbatim_double_iff (n : ℕ) (text rest : Str) :
    (word n .double).Verbatim .text text ('"' :: rest) ↔ IsLiteral text := by
  induction text with
  | nil => exact iff_of_true rfl trivial
  | cons c text ih =>
    have hexpansion : startsExpansion (text ++ '"' :: rest) = startsExpansion (text ++ ['"']) := by
      unfold startsExpansion
      rw [head?_append_quote]
    have hescaped : startsEscaped (text ++ '"' :: rest) = startsEscaped (text ++ ['"']) := by
      unfold startsEscaped
      rw [head?_append_quote]
    simp only [verbatim_cons_iff, charStep_double_iff, hexpansion, hescaped, IsLiteral, ← ih]
    constructor
    · rintro ⟨hprintable, hbreak, hc, mode, ⟨hback, hdollar, hslash, rfl⟩, htext⟩
      exact ⟨⟨hprintable, hbreak, hc, hback⟩, hdollar, hslash, htext⟩
    · rintro ⟨⟨hprintable, hbreak, hc, hback⟩, hdollar, hslash, htext⟩
      exact ⟨hprintable, hbreak, hc, _, ⟨hback, hdollar, hslash, rfl⟩, htext⟩

theorem verbatim_single_iff (n : ℕ) (text rest : Str) :
    (word n .single).Verbatim .text text ('\x27' :: rest) ↔ IsQuotable text := by
  induction text with
  | nil => exact iff_of_true rfl (List.forall_mem_nil _)
  | cons c text ih =>
    have hcons : IsQuotable (c :: text) ↔
        (isPrintable c = true ∧ isBreak c = false ∧ c ≠ '\x27') ∧ IsQuotable text :=
          List.forall_mem_cons
    rw [verbatim_cons_iff, hcons, ← ih]
    constructor
    · rintro ⟨hprintable, hbreak, hc, mode, hchar, htext⟩
      obtain ⟨rfl, -⟩ := Prod.mk.inj (Option.some.inj hchar)
      exact ⟨⟨hprintable, hbreak, hc⟩, htext⟩
    · rintro ⟨⟨hprintable, hbreak, hc⟩, htext⟩
      exact ⟨hprintable, hbreak, hc, .text, rfl, htext⟩

theorem verbatim_iff (n : ℕ) (quotes : Quotes) (text rest : Str) :
    (word n quotes).Verbatim .text text (quotes.mark :: rest) ↔ quotes.IsPlain text := by
  cases quotes with
  | double => exact verbatim_double_iff n text rest
  | single => exact verbatim_single_iff n text rest

/-- A name that a quoted word is assigned to. -/
structure Setting where
  name : Str
  quotes : Quotes

/-- What stands on the line before the word. -/
def Setting.opening (n : ℕ) (setting : Setting) : Str :=
  List.replicate n ' ' ++ (setting.name ++ '=' :: [setting.quotes.mark])

def Setting.line (n : ℕ) (setting : Setting) (word : Str) : Str :=
  setting.opening n ++ (word ++ [setting.quotes.mark])

/-- The settings with the words that they are assigned, one line after the other. There is no
value if something else stands on one of the lines. -/
def readSettings (n : ℕ) : List Setting → Str → Option (List (Str × Str))
  | [], _ => some []
  | setting :: settings, text => do
    let quoted ← text.dropPrefix? (setting.opening n)
    let (value, rest) ← (word n setting.quotes).read .text quoted
    let next ← rest.dropPrefix? ['\n']
    let values ← readSettings n settings next
    return (setting.name, value) :: values

/-- The lines of settings with these texts between their quotes. -/
def settingsText (n : ℕ) (given : List (Setting × Str)) : Str :=
  given.flatMap fun g => g.1.line n g.2 ++ ['\n']

theorem settingsText_cons (n : ℕ) (setting : Setting) (text : Str) (given : List (Setting × Str))
    (rest : Str) :
    settingsText n ((setting, text) :: given) ++ rest =
      setting.opening n ++ (text ++ setting.quotes.mark :: '\n' ::
        (settingsText n given ++ rest)) := by
  simp only [settingsText, List.flatMap_cons, Setting.line, List.append_assoc, List.cons_append,
    List.nil_append]

/-- A first line whose word is read as it stands. -/
theorem readSettings_cons_iff {n : ℕ} {setting : Setting} {settings : List Setting}
    {text more : Str} {values : List (Str × Str)} :
    readSettings n (setting :: settings)
        (setting.opening n ++ (text ++ setting.quotes.mark :: '\n' :: more)) =
          some ((setting.name, text) :: values) ↔
      setting.quotes.IsPlain text ∧ readSettings n settings more = some values := by
  have hopening : (setting.opening n ++ (text ++ setting.quotes.mark :: '\n' :: more)).dropPrefix?
      (setting.opening n) = some (text ++ setting.quotes.mark :: '\n' :: more) :=
    List.dropPrefix?_append_of_beq _ (beq_self_eq_true _)
  have hbreak : ('\n' :: more).dropPrefix? ['\n'] = some more :=
    @List.dropPrefix?_append_of_beq _ _ ['\n'] ['\n'] more (beq_self_eq_true _)
  rw [← verbatim_iff n setting.quotes text ('\n' :: more), readSettings, hopening]
  simp only [Option.bind_eq_bind, Option.bind_some, Option.bind_eq_some_iff, Option.pure_def,
    Option.some.injEq, List.cons.injEq, Prod.mk.injEq, true_and, Prod.exists]
  constructor
  · rintro ⟨value, rest, hread, next, hnext, values', hvalues, rfl, rfl⟩
    have hself := congrArg (Option.map Prod.fst) hread
    have hverbatim := (Reader.read_eq_self_iff rfl value ('\n' :: more)).mp hself
    obtain rfl : '\n' :: more = rest :=
      (Prod.mk.inj (Option.some.inj (hverbatim.read_eq.symm.trans hread))).2
    obtain rfl := Option.some.inj (hbreak.symm.trans hnext)
    exact ⟨hverbatim, hvalues⟩
  · rintro ⟨hverbatim, hvalues⟩
    exact ⟨text, '\n' :: more, hverbatim.read_eq, more, hbreak, values, hvalues, rfl, rfl⟩

/-- Every setting is read with the text between its quotes exactly when all the texts are plain. -/
theorem readSettings_eq_iff (n : ℕ) (given : List (Setting × Str)) (rest : Str) :
    readSettings n (given.map Prod.fst) (settingsText n given ++ rest) =
        some (given.map fun g => (g.1.name, g.2)) ↔
      ∀ g ∈ given, g.1.quotes.IsPlain g.2 := by
  induction given with
  | nil => exact iff_of_true rfl (List.forall_mem_nil _)
  | cons g given ih =>
    obtain ⟨setting, text⟩ := g
    rw [List.forall_mem_cons, ← ih, settingsText_cons]
    exact readSettings_cons_iff

example : readSettings 2 [⟨"A", .double⟩, ⟨"B", .single⟩] "  A=\"a\\$b \\n$\"\n  B='$c'\n" =
    some [("A".toList, "a$b \\n$".toList), ("B".toList, "$c".toList)] := by decide

example : readSettings 2 [⟨"A", .double⟩, ⟨"B", .double⟩] "  A=\"a\"; exit 0; \"\"\n  B=\"b\"\n" =
    none := by
  decide

theorem isLiteral_of_forall {text : Str}
    (h : ∀ c ∈ text, isPrintable c = true ∧ isBreak c = false ∧ c ≠ '"' ∧
    c ≠ '\x60' ∧ c ≠ '$' ∧ c ≠ '\\') : IsLiteral text := by
  induction text with
  | nil => exact trivial
  | cons c text ih =>
    obtain ⟨⟨hprintable, hbreak, hquote, hback, hdollar, hslash⟩, htext⟩ :=
      List.forall_mem_cons.mp h
    exact ⟨⟨hprintable, hbreak, hquote, hback⟩, fun h => absurd h hdollar, fun h =>
      absurd h hslash, ih htext⟩

theorem IsLiteral.not_break {text : Str} (h : IsLiteral text) : ∀ c ∈ text, isBreak c = false := by
  induction text with
  | nil => exact List.forall_mem_nil _
  | cons c text ih =>
    obtain ⟨⟨-, hc, -⟩, -, -, htext⟩ := h
    exact List.forall_mem_cons.mpr ⟨hc, ih htext⟩

theorem IsLiteral.chars {text : Str} (h : IsLiteral text) : ∀ c ∈ text, isPrintable c = true ∧
    c ≠ '"' := by
  induction text with
  | nil => exact List.forall_mem_nil _
  | cons c text ih =>
    obtain ⟨⟨hprintable, -, hquote, -⟩, -, -, htext⟩ := h
    exact List.forall_mem_cons.mpr ⟨⟨hprintable, hquote⟩, ih htext⟩

/-- In a scalar, such a word has only its backslashes to lose. -/
theorem IsLiteral.isExact_iff {text : Str} (h : IsLiteral text) : IsExact false text ↔
    '\\' ∉ text := by
  rw [isExact_iff_of_no_break h.not_break]
  constructor
  · exact fun hchars hmem => (hchars _ hmem).2.2 rfl
  · intro hback c hc
    obtain ⟨hprintable, hquote⟩ := h.chars c hc
    exact ⟨hprintable, hquote, ne_of_mem_of_not_mem hc hback⟩

end Astro.ShellSettings
