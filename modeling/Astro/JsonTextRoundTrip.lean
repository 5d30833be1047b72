import Astro.JsonTextWeight
import Mathlib.Data.List.Nodup

/-!
# Texts that are decoded to the value they were made of

The text of a value in which no string needs an escape and no object repeats a key is
decoded to that value, with fuel to spare: a call takes at least one character.
-/

namespace Astro.JsonText

open PythonText

/-- The values of a script: texts that need no escape, natural numbers, lists and objects
with distinct keys. -/
inductive Plain : Json → Prop
  | nat (n : ℕ) : Plain (.int n)
  | str {s : Str} (h : specials s = 0) : Plain (.str s)
  | arr {vs : List Json} (h : ∀ v ∈ vs, Plain v) : Plain (.arr vs)
  | obj {fields : Fields} (hkeys : ∀ m ∈ fields, specials m.1 = 0)
      (hdistinct : (fields.map Prod.fst).Nodup) (h : ∀ m ∈ fields, Plain m.2) : Plain (.obj fields)

/-- What can follow a value in such a text. -/
def Closes (rest : Str) : Prop :=
  rest = [] ∨ ∃ c tail, rest = c :: tail ∧ (c = ',' ∨ c = ']' ∨ c = '}')

theorem chars_cons (n : ℕ) {c : Char} (hc : special c = false) (rest : Str) :
    chars (n + 1) (c :: rest) = (chars n rest).map fun r => (c :: r.1, r.2) := by
  simp only [special, Bool.or_eq_false_iff, decide_eq_false_iff_not, not_lt] at hc
  obtain ⟨⟨hquote, hslash⟩, hcontrol⟩ := hc
  rw [chars.eq_def]
  split
  · omega
  · rename_i h
    cases h
  · rename_i h
    exact absurd (List.cons.inj h).1 hquote
  · rename_i h
    exact absurd (List.cons.inj h).1 hslash
  · rename_i h
    exact absurd (List.cons.inj h).1 hslash
  · rename_i hn h
    cases h
    cases hn
    exact if_neg (not_or.mpr ⟨not_lt.mpr hcontrol, hslash⟩)

theorem special_false_of_mem {s : Str} (h : specials s = 0) {c : Char} (hc : c ∈ s) :
    special c = false := by
  rw [specials, List.countP_eq_zero] at h
  exact Bool.not_eq_true _ ▸ h c hc

theorem chars_plain {n : ℕ} {s rest : Str} (hs : specials s = 0) (hn : s.length < n) :
    chars n (s ++ '"' :: rest) = some (s, rest) := by
  induction s generalizing n with
  | nil =>
    obtain ⟨m, rfl⟩ := Nat.exists_eq_succ_of_ne_zero (Nat.ne_of_gt hn)
    rfl
  | cons c s ih =>
    obtain ⟨m, rfl⟩ := Nat.exists_eq_succ_of_ne_zero (Nat.ne_zero_of_lt hn)
    have htail : specials s = 0 := by
      rw [specials_cons] at hs
      omega
    rw [List.cons_append, Nat.succ_eq_add_one,
      chars_cons m (special_false_of_mem hs List.mem_cons_self),
      ih htail (Nat.lt_of_succ_lt_succ hn)]
    rfl

theorem decimal_ne_zero_cons {k : ℕ} (hk : 0 < k) (tail : Str) : decimal k ≠ '0' :: tail := by
  induction k using Nat.strong_induction_on generalizing tail with
  | _ k ih =>
    intro h
    unfold decimal at h ih
    rw [Nat.toDigits_eq_if (by decide)] at h
    split_ifs at h with hlt
    · have hzero : k.digitChar = '0' := (List.cons.inj h).1
      rw [Nat.digitChar_eq_zero] at hzero
      omega
    · obtain ⟨c, front, hfront⟩ :=
        List.exists_cons_of_ne_nil (Nat.toDigits_ne_nil (n := k / 10) (b := 10))
      rw [hfront] at h
      have hc : c = '0' := (List.cons.inj h).1
      exact ih (k / 10) (by omega) (by omega) front (hc ▸ hfront)

theorem digits_decimal {k : ℕ} {rest : Str} (hrest : Closes rest) :
    digits (decimal k ++ rest) = (decimal k, rest) := by
  have hstop : rest.takeWhile Char.isDigit = [] ∧ rest.dropWhile Char.isDigit = rest := by
    rcases hrest with rfl | ⟨c, tail, rfl, rfl | rfl | rfl⟩ <;> exact ⟨rfl, rfl⟩
  have hall : ∀ c ∈ decimal k, c.isDigit = true := fun c hc => isDigit_of_mem_decimal hc
  rw [digits, List.takeWhile_append_of_pos hall, List.dropWhile_append_of_pos hall,
    hstop.1, hstop.2, List.append_nil]

theorem natural_decimal {k : ℕ} {rest : Str} (hrest : Closes rest) :
    natural (decimal k ++ rest) = some (decimal k, rest) := by
  unfold natural
  split
  · rename_i tail htext
    have hk : k = 0 := by
      by_contra hne
      obtain ⟨c, front, hfront⟩ :=
        List.exists_cons_of_ne_nil (Nat.toDigits_ne_nil (n := k) (b := 10))
      have hcons : decimal k = c :: front := hfront
      rw [hcons] at htext
      have hc : c = '0' := (List.cons.inj htext).1
      exact decimal_ne_zero_cons (Nat.pos_of_ne_zero hne) front (hc ▸ hcons)
    rw [hk] at htext ⊢
    cases htext
    rfl
  · rw [digits_decimal hrest]
    exact if_neg Nat.toDigits_ne_nil

theorem number_decimal (float : Str → FloatValue) {k : ℕ} {rest : Str} (hrest : Closes rest) :
    number float false (decimal k ++ rest) = some (.int k, rest) := by
  have hfraction : fraction rest = ([], rest) := by
    rcases hrest with rfl | ⟨c, tail, rfl, rfl | rfl | rfl⟩ <;> rfl
  have hexponent : exponent rest = ([], rest) := by
    rcases hrest with rfl | ⟨c, tail, rfl, rfl | rfl | rfl⟩ <;> rfl
  rw [number, natural_decimal hrest, Option.bind_eq_bind, Option.bind_some]
  dsimp only
  rw [hfraction]
  dsimp only
  rw [hexponent]
  dsimp only
  rw [if_pos ⟨rfl, rfl⟩, decimal, Nat.ofDigitChars_ten_toDigits]
  rfl

theorem value_decimal (float : Str → FloatValue) (n k : ℕ) {rest : Str} (hrest : Closes rest) :
    value float (n + 1) (decimal k ++ rest) = some (.int k, rest) := by
  obtain ⟨c, front, hfront⟩ := List.exists_cons_of_ne_nil (Nat.toDigits_ne_nil (n := k) (b := 10))
  have htext : decimal k ++ rest = c :: (front ++ rest) := by
    rw [decimal, hfront, List.cons_append]
  have hdigit : c.isDigit = true :=
    isDigit_of_mem_decimal (n := k) (by rw [decimal, hfront]; exact List.mem_cons_self)
  have hne : ∀ d : Char, d.isDigit = false → c ≠ d := by
    rintro d hd rfl
    rw [hd] at hdigit
    cases hdigit
  have hword : word (c :: (front ++ rest)) = none := by
    rw [word, Option.map_eq_none_iff, List.find?_eq_none]
    intro w hw hprefixed
    have hhead : ∀ d tail, w.1 = d :: tail → d.isDigit = false → False := by
      intro d tail hd hdigit'
      rw [decide_eq_true_eq, hd, List.cons_prefix_cons] at hprefixed
      exact hne d hdigit' hprefixed.1.symm
    simp only [words, List.mem_cons, List.not_mem_nil, or_false] at hw
    rcases hw with rfl | rfl | rfl | rfl | rfl | rfl
    all_goals exact hhead _ _ rfl rfl
  have hscalar : scalar float (c :: (front ++ rest)) = number float false (decimal k ++ rest) := by
    unfold scalar
    rw [hword, htext]
    dsimp only
    split
    · rename_i h
      exact absurd (List.cons.inj h).1 (hne '-' rfl)
    · rfl
  rw [htext, value.eq_def]
  dsimp only
  split
  · rename_i h
    exact absurd (List.cons.inj h).1 (hne '"' rfl)
  · rename_i h
    exact absurd (List.cons.inj h).1 (hne '{' rfl)
  · rename_i h
    exact absurd (List.cons.inj h).1 (hne '[' rfl)
  · rw [hscalar]
    exact number_decimal float hrest

/-- A text of a value starts with a character that is neither a blank nor a closing bracket. -/
theorem compact_head {v : Json} (h : Plain v) :
    ∃ c tail, compact v = c :: tail ∧ isBlank c = false ∧ c ≠ ']' := by
  cases h with
  | nat n =>
    obtain ⟨c, front, hfront⟩ := List.exists_cons_of_ne_nil (Nat.toDigits_ne_nil (n := n) (b := 10))
    have hdigit : c.isDigit = true :=
      isDigit_of_mem_decimal (n := n) (by rw [decimal, hfront]; exact List.mem_cons_self)
    refine ⟨c, front, ?_, ?_, ?_⟩
    · rw [compact]
      exact hfront
    · by_contra hblank
      simp only [isBlank, Bool.not_eq_false, Bool.or_eq_true, decide_eq_true_eq] at hblank
      rcases hblank with ((rfl | rfl) | rfl) | rfl <;> cases hdigit
    · rintro rfl
      cases hdigit
  | str hs => exact ⟨'"', _, by rw [compact, quoted]; rfl, rfl, by decide⟩
  | arr hvs => exact ⟨'[', _, by rw [compact]; rfl, rfl, by decide⟩
  | obj hkeys hdistinct hms => exact ⟨'{', _, by rw [compact]; rfl, rfl, by decide⟩

theorem skip_cons {c : Char} (h : isBlank c = false) (rest : Str) :
    skip (c :: rest) = c :: rest := by
  rw [skip, List.dropWhile_cons_of_neg (by rw [h]; exact Bool.false_ne_true)]

theorem skip_compact {v : Json} (h : Plain v) (rest : Str) :
    skip (compact v ++ rest) = compact v ++ rest := by
  obtain ⟨c, tail, htext, hblank, -⟩ := compact_head h
  rw [htext, List.cons_append, skip_cons hblank]

section RoundTrip
variable (float : Str → FloatValue)

def Decodes (v : Json) : Prop :=
  ∀ n rest, Closes rest → (compact v).length ≤ n →
    value float n (compact v ++ rest) = some (v, rest)

theorem compactItems_head {v : Json} (vs : List Json) (h : Plain v) (rest : Str) :
    ∃ c tail, compactItems (v :: vs) ++ rest = c :: tail ∧ isBlank c = false ∧ c ≠ ']' := by
  obtain ⟨c, tail, htext, hblank, hbracket⟩ := compact_head h
  cases vs with
  | nil => exact ⟨c, tail ++ rest, by rw [compactItems, htext]; rfl, hblank, hbracket⟩
  | cons v' vs =>
    exact ⟨c, tail ++ ',' :: compactItems (v' :: vs) ++ rest, by rw [compactItems, htext]; rfl,
      hblank, hbracket⟩

theorem skip_compactItems {v : Json} {vs : List Json} (h : Plain v) (rest : Str) :
    skip (compactItems (v :: vs) ++ rest) = compactItems (v :: vs) ++ rest := by
  obtain ⟨c, tail, htext, hblank, -⟩ := compactItems_head vs h rest
  rw [htext, skip_cons hblank]

theorem items_plain {v : Json} {vs : List Json} (hplain : ∀ w ∈ v :: vs, Plain w)
    (h : ∀ w ∈ v :: vs, Decodes float w) (n : ℕ) (rest : Str)
    (hn : (compactItems (v :: vs)).length < n) :
    items float n (compactItems (v :: vs) ++ ']' :: rest) = some (v :: vs, rest) := by
  induction vs generalizing v n with
  | nil =>
    obtain ⟨m, rfl⟩ := Nat.exists_eq_succ_of_ne_zero (Nat.ne_zero_of_lt hn)
    rw [compactItems] at hn ⊢
    rw [items, h v List.mem_cons_self m _ (Or.inr ⟨']', rest, rfl, by decide⟩) (by omega)]
    rfl
  | cons v' vs ih =>
    obtain ⟨m, rfl⟩ := Nat.exists_eq_succ_of_ne_zero (Nat.ne_zero_of_lt hn)
    rw [compactItems, List.length_append, List.length_cons] at hn
    have htail := ih (fun w hw => hplain w (List.mem_cons_of_mem _ hw))
      (fun w hw => h w (List.mem_cons_of_mem _ hw)) m (by omega)
    have hhead := h v List.mem_cons_self m (',' :: compactItems (v' :: vs) ++ ']' :: rest)
      (Or.inr ⟨',', _, rfl, by decide⟩) (by omega)
    rw [compactItems, List.append_assoc, List.cons_append, items]
    rw [List.cons_append] at hhead
    rw [hhead, Option.bind_some]
    change Option.map _ (items float m (skip (compactItems (v' :: vs) ++ ']' :: rest))) = _
    rw [skip_compactItems (hplain v' (by simp)), htail]
    rfl

theorem compactMembers_head (key : Str) (v : Json) (ms : Fields) (rest : Str) :
    ∃ tail, compactMembers ((key, v) :: ms) ++ rest = '"' :: tail := by
  cases ms <;> exact ⟨_, by rw [compactMembers, quoted]; rfl⟩

theorem members_step {key : Str} {v : Json} (hkey : specials key = 0) (hplain : Plain v)
    (h : Decodes float v) {m : ℕ} {tail : Str} (htail : Closes tail) (hm : key.length < m)
    (hv : (compact v).length ≤ m) :
    members float (m + 1) (quoted key ++ ':' :: compact v ++ tail) =
      match skip tail with
      | '}' :: rest => some ([(key, v)], rest)
      | ',' :: rest => (members float m (skip rest)).map fun r => ((key, v) :: r.1, r.2)
      | _ => none := by
  have htext : quoted key ++ ':' :: compact v ++ tail =
      '"' :: (key ++ '"' :: ':' :: (compact v ++ tail)) := by simp [quoted]
  rw [htext, members.eq_def]
  change (chars m (key ++ '"' :: ':' :: (compact v ++ tail))).bind _ = _
  rw [chars_plain hkey hm, Option.bind_some]
  change (value float m (skip (compact v ++ tail))).bind _ = _
  rw [skip_compact hplain, h m tail htail hv]
  rfl

theorem members_plain {key : Str} {v : Json} {ms : Fields}
    (hkeys : ∀ m ∈ (key, v) :: ms, specials m.1 = 0) (hplain : ∀ m ∈ (key, v) :: ms, Plain m.2)
    (h : ∀ m ∈ (key, v) :: ms, Decodes float m.2) (n : ℕ) (rest : Str)
    (hn : (compactMembers ((key, v) :: ms)).length < n) :
    members float n (compactMembers ((key, v) :: ms) ++ '}' :: rest) =
      some ((key, v) :: ms, rest) := by
  have hkey : specials key = 0 := hkeys _ List.mem_cons_self
  have hv : Plain v := hplain _ List.mem_cons_self
  have hdecodes : Decodes float v := h _ List.mem_cons_self
  induction ms generalizing key v n with
  | nil =>
    obtain ⟨m, rfl⟩ := Nat.exists_eq_succ_of_ne_zero (Nat.ne_zero_of_lt hn)
    simp only [compactMembers, quoted, List.length_append, List.length_cons] at hn
    rw [compactMembers, members_step float hkey hv hdecodes
      (Or.inr ⟨'}', rest, rfl, by decide⟩) (by omega) (by omega)]
    rfl
  | cons entry ms ih =>
    obtain ⟨key', v'⟩ := entry
    obtain ⟨m, rfl⟩ := Nat.exists_eq_succ_of_ne_zero (Nat.ne_zero_of_lt hn)
    simp only [compactMembers, quoted, List.length_append, List.length_cons] at hn
    have htail := ih (fun w hw => hkeys w (List.mem_cons_of_mem _ hw))
      (fun w hw => hplain w (List.mem_cons_of_mem _ hw))
        (fun w hw => h w (List.mem_cons_of_mem _ hw))
      m (by omega) (hkeys (key', v') (by simp)) (hplain (key', v') (by simp))
        (h (key', v') (by simp))
    have hclose : Closes (',' :: compactMembers ((key', v') :: ms) ++ '}' :: rest) :=
      Or.inr ⟨',', _, rfl, by decide⟩
    rw [compactMembers, List.append_assoc, members_step float hkey hv hdecodes hclose (by omega)
      (by omega)]
    change Option.map _ (members float m
      (skip (compactMembers ((key', v') :: ms) ++ '}' :: rest))) = _
    obtain ⟨tail, htext⟩ := compactMembers_head key' v' ms ('}' :: rest)
    rw [htext, skip_cons rfl, ← htext, htail]
    rfl

theorem store_new {key : Str} (v : Json) {fields : Fields} (h : key ∉ fields.map Prod.fst) :
    store key v fields = fields ++ [(key, v)] := by
  induction fields with
  | nil => rfl
  | cons field fields ih =>
    rw [List.map_cons, List.mem_cons, not_or] at h
    rw [store, if_neg (Ne.symm h.1), ih h.2]
    rfl

theorem dict_of_nodup {ms : Fields} (h : (ms.map Prod.fst).Nodup) : dict ms = ms := by
  have hfold : ∀ (ms d : Fields), ((d ++ ms).map Prod.fst).Nodup →
      ms.foldl (fun d m => store m.1 m.2 d) d = d ++ ms := by
    intro ms
    induction ms with
    | nil => intro d _; rw [List.append_nil]; rfl
    | cons m ms ih =>
      intro d hd
      have hnew : m.1 ∉ d.map Prod.fst := by
        rw [List.map_append, List.map_cons] at hd
        intro hmem
        exact (List.nodup_append.mp hd).2.2 _ hmem _ List.mem_cons_self rfl
      rw [List.foldl_cons, store_new _ hnew, ih]
      · simp
      · simpa using hd
  exact hfold ms [] h

theorem value_items (m : ℕ) {c : Char} (hblank : isBlank c = false) (hne : c ≠ ']') (tail : Str) :
    value float (m + 1) ('[' :: c :: tail) =
      (items float m (c :: tail)).map fun r => (.arr r.1, r.2) := by
  simp only [value, skip_cons hblank]
  split
  · rename_i h
    exact absurd (List.cons.inj h).1 hne
  · rfl

theorem value_members (m : ℕ) (tail : Str) :
    value float (m + 1) ('{' :: '"' :: tail) =
      (members float m ('"' :: tail)).map fun r => (.obj (dict r.1), r.2) := by
  rw [value.eq_def]
  rfl

theorem decodes_of_plain {v : Json} (h : Plain v) : Decodes float v := by
  induction h with
  | nat k =>
    intro n rest hrest hn
    have hpos : 0 < (decimal k).length := List.length_pos_iff.mpr Nat.toDigits_ne_nil
    have hcompact : compact (.int k) = decimal k := by rw [compact]; rfl
    rw [hcompact] at hn ⊢
    obtain ⟨m, rfl⟩ := Nat.exists_eq_succ_of_ne_zero (Nat.ne_zero_of_lt (hpos.trans_le hn))
    exact value_decimal float m k hrest
  | @str s hs =>
    intro n rest hrest hn
    rw [compact, quoted] at hn ⊢
    simp only [List.length_append, List.length_cons] at hn
    obtain ⟨m, rfl⟩ := Nat.exists_eq_succ_of_ne_zero (Nat.ne_zero_of_lt hn)
    rw [List.append_assoc, List.cons_append, value.eq_def]
    change Option.map _ (chars m (s ++ '"' :: rest)) = _
    rw [chars_plain hs (by omega)]
    rfl
  | @arr vs hplain ih =>
    intro n rest hrest hn
    rw [compact] at hn ⊢
    simp only [List.length_append, List.length_cons] at hn
    obtain ⟨m, rfl⟩ := Nat.exists_eq_succ_of_ne_zero (Nat.ne_zero_of_lt hn)
    rw [List.append_assoc, List.cons_append]
    cases vs with
    | nil =>
      rw [compactItems, value.eq_def]
      rfl
    | cons v vs =>
      obtain ⟨c, tail, htext, hblank, hbracket⟩ :=
        compactItems_head vs (hplain v List.mem_cons_self) (']' :: rest)
      have hitems := items_plain float hplain ih m rest (by omega)
      rw [List.singleton_append, htext, value_items float m hblank hbracket, ← htext, hitems]
      rfl
  | @obj fields hkeys hdistinct hplain ih =>
    intro n rest hrest hn
    rw [compact] at hn ⊢
    simp only [List.length_append, List.length_cons] at hn
    obtain ⟨m, rfl⟩ := Nat.exists_eq_succ_of_ne_zero (Nat.ne_zero_of_lt hn)
    rw [List.append_assoc, List.cons_append]
    cases fields with
    | nil =>
      rw [compactMembers, value.eq_def]
      rfl
    | cons entry ms =>
      obtain ⟨key, v⟩ := entry
      obtain ⟨tail, htext⟩ := compactMembers_head key v ms ('}' :: rest)
      have hmembers := members_plain float hkeys hplain ih m rest (by omega)
      rw [List.singleton_append, htext, value_members, ← htext, hmembers]
      exact congrArg (fun d => some (Json.obj d, rest)) (dict_of_nodup hdistinct)

/-- The text of a value without escapes is decoded to that value. -/
theorem loads_compact {v : Json} (h : Plain v) : loads float (compact v) = some v := by
  have hskip : skip (compact v) = compact v := by
    have := skip_compact h []
    rwa [List.append_nil] at this
  have hvalue := decodes_of_plain float h ((compact v).length + 1) [] (Or.inl rfl) (Nat.le_succ _)
  rw [List.append_nil] at hvalue
  rw [loads, hskip, hvalue]
  rfl

example : (loads (fun _ => .nan) "[ 1, \"a\\u0021\\n\", -20]").map compact =
    some "[1,\"a!\n\",-20]".toList := by decide +kernel

end RoundTrip

end Astro.JsonText
