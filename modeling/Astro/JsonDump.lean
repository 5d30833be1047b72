import Astro.JsonTextRoundTrip

/-!
# The texts that `json.dump` writes

With an indentation every member stands on a line of its own, and every character outside the
printable ASCII range is written as an escape. `json.loads` takes such a text back to the value
it was made of.
-/

namespace Astro.JsonText

open PythonText

/-- The letter behind the backslash, where there is a short escape. -/
def shortEscape (c : Char) : Option Char :=
  if c = '"' then some '"'
  else if c = '\\' then some '\\'
  else if c = '\x08' then some 'b'
  else if c = '\x0c' then some 'f'
  else if c = '\n' then some 'n'
  else if c = '\r' then some 'r'
  else if c = '\t' then some 't'
  else none

/-- `\u` and four hexadecimal digits. -/
def unicodeEscape (code : ℕ) : Str :=
  ['\\', 'u', (code / 4096 % 16).digitChar, (code / 256 % 16).digitChar, (code / 16 % 16).digitChar,
    (code % 16).digitChar]

/-- A character in a text with `ensure_ascii`; one beyond the basic plane is two surrogates. -/
def escape (c : Char) : Str :=
  match shortEscape c with
  | some letter => ['\\', letter]
  | none =>
    if 0x20 ≤ c.toNat ∧ c.toNat ≤ 0x7e then [c]
    else if c.toNat < 0x10000 then unicodeEscape c.toNat
    else unicodeEscape (0xD800 + (c.toNat - 0x10000) / 1024) ++
      unicodeEscape (0xDC00 + (c.toNat - 0x10000) % 1024)

def escapeAll (s : Str) : Str := s.flatMap escape

def encodeStr (s : Str) : Str := '"' :: escapeAll s ++ ['"']

/-- The end of a line and the indentation of the next one. -/
def newline (indent level : ℕ) : Str := '\n' :: List.replicate (indent * level) ' '

section Dump
variable (repr : FloatValue → Str) (indent : ℕ)

mutual

/-- `json.dumps(value, indent=indent)` at a level of nesting; `repr` writes the floats. -/
def dump (level : ℕ) : Json → Str
  | .null => "null".toList
  | .bool b => if b then "true".toList else "false".toList
  | .int n => compactInt n
  | .float x => repr x
  | .str s => encodeStr s
  | .arr [] => "[]".toList
  | .arr (v :: vs) =>
    '[' :: newline indent (level + 1) ++ dumpItems (level + 1) (v :: vs) ++
      newline indent level ++ [']']
  | .obj [] => "\x7b\x7d".toList
  | .obj (m :: ms) =>
    '{' :: newline indent (level + 1) ++ dumpMembers (level + 1) (m :: ms) ++
      newline indent level ++ ['}']

def dumpItems (level : ℕ) : List Json → Str
  | [] => []
  | [v] => dump level v
  | v :: v' :: vs => dump level v ++ ',' :: newline indent level ++ dumpItems level (v' :: vs)

def dumpMembers (level : ℕ) : List (Str × Json) → Str
  | [] => []
  | [(key, v)] => encodeStr key ++ ':' :: ' ' :: dump level v
  | (key, v) :: m :: ms =>
    encodeStr key ++ ':' :: ' ' :: dump level v ++ ',' :: newline indent level ++
      dumpMembers level (m :: ms)

end

theorem dump_arr_cons (level : ℕ) (v : Json) (vs : List Json) :
    dump repr indent level (.arr (v :: vs)) =
      '[' :: newline indent (level + 1) ++ dumpItems repr indent (level + 1) (v :: vs) ++
        newline indent level ++ [']'] := rfl

theorem dump_obj_cons (level : ℕ) (m : Str × Json) (ms : Fields) :
    dump repr indent level (.obj (m :: ms)) =
      '{' :: newline indent (level + 1) ++ dumpMembers repr indent (level + 1) (m :: ms) ++
        newline indent level ++ ['}'] := rfl

end Dump

theorem hexDigit_digitChar {d : ℕ} (h : d < 16) : hexDigit d.digitChar = some d := by
  have hall : ∀ d < 16, hexDigit d.digitChar = some d := by decide
  exact hall d h

theorem hex4_unicodeEscape {code : ℕ} (h : code < 0x10000) (rest : Str) :
    hex4 ((unicodeEscape code).drop 2 ++ rest) = some (code, rest) := by
  have hvalue : 4096 * (code / 4096 % 16) + 256 * (code / 256 % 16) + 16 * (code / 16 % 16) + code %
      16 = code := by
    omega
  have hlt : ∀ n, n % 16 < 16 := fun n => Nat.mod_lt n (by omega)
  simp only [unicodeEscape, List.drop_succ_cons, List.drop_zero, List.cons_append,
    List.nil_append, hex4, hexDigit_digitChar (hlt _), Option.bind_eq_bind,
    Option.bind_some, hvalue]
  rfl

theorem chars_unicode (n : ℕ) (rest : Str) :
    chars (n + 1) ('\\' :: 'u' :: rest) =
      (unicode rest).bind fun c => (chars n c.2).bind fun s => some (c.1 :: s.1, s.2) := rfl

theorem unicode_basic {c : Char} (h : c.toNat < 0x10000) (rest : Str) :
    unicode ((unicodeEscape c.toNat).drop 2 ++ rest) = some (c, rest) := by
  have hvalid : c.toNat < 0xD800 ∨ 0xDFFF < c.toNat ∧ c.toNat < 0x110000 := c.valid
  rw [unicode, hex4_unicodeEscape h, Option.bind_eq_bind, Option.bind_some]
  dsimp only
  rw [if_neg (by omega), if_neg (by omega), Char.ofNat_toNat]
  rfl

theorem unicode_surrogates {c : Char} (h : 0x10000 ≤ c.toNat) (rest : Str) :
    unicode ((unicodeEscape (0xD800 + (c.toNat - 0x10000) / 1024)).drop 2 ++
      (unicodeEscape (0xDC00 + (c.toNat - 0x10000) % 1024) ++ rest)) = some (c, rest) := by
  have hvalid : c.toNat < 0xD800 ∨ 0xDFFF < c.toNat ∧ c.toNat < 0x110000 := c.valid
  have hcode : 0x10000 + 1024 * (0xD800 + (c.toNat - 0x10000) / 1024 - 0xD800) +
      (0xDC00 + (c.toNat - 0x10000) % 1024 - 0xDC00) = c.toNat := by
    omega
  have hbound : 0xDC00 + (c.toNat - 0x10000) % 1024 < 0x10000 := by omega
  rw [unicode, hex4_unicodeEscape (by omega), Option.bind_eq_bind, Option.bind_some]
  dsimp only
  rw [if_pos (by omega)]
  change (hex4 ((unicodeEscape (0xDC00 + (c.toNat - 0x10000) % 1024)).drop 2 ++ rest)).bind _ = _
  rw [hex4_unicodeEscape hbound, Option.bind_some]
  dsimp only
  rw [if_pos (by omega), hcode, Char.ofNat_toNat]
  rfl

theorem bind_cons (c : Char) (r : Option (Str × Str)) :
    (r.bind fun s => some (c :: s.1, s.2)) = r.map fun s => (c :: s.1, s.2) := by
  cases r <;> rfl

theorem chars_escaped (n : ℕ) {e : Char} (he : e ≠ 'u') (rest : Str) :
    chars (n + 1) ('\\' :: e :: rest) =
      (escaped e).bind fun c => (chars n rest).bind fun s => some (c :: s.1, s.2) := by
  rw [chars.eq_def]
  split
  · omega
  · rename_i h
    cases h
  · rename_i h
    exact absurd (List.cons.inj h).1 (by decide)
  · rename_i h
    exact absurd (List.cons.inj (List.cons.inj h).2).1 he
  · rename_i hn h
    cases h
    cases hn
    rfl
  · rename_i hescape hn h
    cases h
    exact (hescape e rest rfl rfl).elim

theorem shortEscape_spec {c letter : Char} (h : shortEscape c = some letter) :
    letter ≠ 'u' ∧ escaped letter = some c := by
  unfold shortEscape at h
  split_ifs at h with h₁ h₂ h₃ h₄ h₅ h₆ h₇
  all_goals
    cases h
    subst c
    exact ⟨by decide, rfl⟩

theorem special_of_shortEscape {c : Char} (h : shortEscape c = none) (hprintable : 0x20 ≤ c.toNat) :
    special c = false := by
  unfold shortEscape at h
  split_ifs at h with h₁ h₂
  simp [special, h₁, h₂, hprintable]

/-- Decoding takes one character from its escape, whatever form the escape has. -/
theorem chars_escape (n : ℕ) (c : Char) (rest : Str) :
    chars (n + 1) (escape c ++ rest) = (chars n rest).map fun r => (c :: r.1, r.2) := by
  cases hshort : shortEscape c with
  | some letter =>
    obtain ⟨hletter, hescaped⟩ := shortEscape_spec hshort
    have htext : escape c ++ rest = '\\' :: letter :: rest := by
      simp [escape, hshort]
    rw [htext, chars_escaped n hletter, hescaped, Option.bind_some, bind_cons]
  | none =>
    by_cases hprintable : 0x20 ≤ c.toNat ∧ c.toNat ≤ 0x7e
    · have htext : escape c ++ rest = c :: rest := by
        simp [escape, hshort, hprintable]
      rw [htext, chars_cons n (special_of_shortEscape hshort hprintable.1)]
    by_cases hbasic : c.toNat < 0x10000
    · have htext : escape c ++ rest = '\\' :: 'u' :: ((unicodeEscape c.toNat).drop 2 ++ rest) := by
        simp [escape, hshort, hprintable, hbasic, unicodeEscape]
      rw [htext, chars_unicode, unicode_basic hbasic, Option.bind_some, bind_cons]
    · have htext : escape c ++ rest =
          '\\' :: 'u' :: ((unicodeEscape (0xD800 + (c.toNat - 0x10000) / 1024)).drop 2 ++
            (unicodeEscape (0xDC00 + (c.toNat - 0x10000) % 1024) ++ rest)) := by
        simp [escape, hshort, hprintable, hbasic, unicodeEscape]
      rw [htext, chars_unicode, unicode_surrogates (not_lt.mp hbasic), Option.bind_some, bind_cons]

theorem chars_escapeAll {n : ℕ} {s rest : Str} (hn : s.length < n) :
    chars n (escapeAll s ++ '"' :: rest) = some (s, rest) := by
  induction s generalizing n with
  | nil =>
    obtain ⟨m, rfl⟩ := Nat.exists_eq_succ_of_ne_zero (Nat.ne_zero_of_lt hn)
    rfl
  | cons c s ih =>
    obtain ⟨m, rfl⟩ := Nat.exists_eq_succ_of_ne_zero (Nat.ne_zero_of_lt hn)
    have htext : escapeAll (c :: s) ++ '"' :: rest = escape c ++ (escapeAll s ++ '"' :: rest) := by
      simp [escapeAll]
    rw [htext, chars_escape, ih (Nat.lt_of_succ_lt_succ hn)]
    rfl

theorem escape_ne_nil (c : Char) : escape c ≠ [] := by
  unfold escape
  split
  · exact List.cons_ne_nil _ _
  · split_ifs
    all_goals exact List.cons_ne_nil _ _

theorem length_le_escapeAll (s : Str) : s.length ≤ (escapeAll s).length := by
  induction s with
  | nil => exact Nat.zero_le _
  | cons c s ih =>
    have hpos : 0 < (escape c).length := List.length_pos_iff.mpr (escape_ne_nil c)
    simp only [escapeAll, List.flatMap_cons, List.length_append, List.length_cons] at ih ⊢
    omega

def IsAscii (text : Str) : Prop := ∀ c ∈ text, c.toNat < 128

theorem isAscii_append {text text' : Str} : IsAscii (text ++ text') ↔
    IsAscii text ∧ IsAscii text' :=
  List.forall_mem_append

theorem isAscii_cons {c : Char} {text : Str} : IsAscii (c :: text) ↔ c.toNat < 128 ∧ IsAscii text :=
  List.forall_mem_cons

theorem isAscii_nil : IsAscii [] := List.forall_mem_nil _

theorem digitChar_lt {d : ℕ} (h : d < 16) : d.digitChar.toNat < 128 := by
  have hall : ∀ d < 16, d.digitChar.toNat < 128 := by decide
  exact hall d h

theorem isAscii_unicodeEscape (code : ℕ) : IsAscii (unicodeEscape code) := by
  have hlt : ∀ n, (n % 16).digitChar.toNat < 128 := fun n => digitChar_lt (Nat.mod_lt n (by omega))
  simp only [unicodeEscape, isAscii_cons]
  exact ⟨by decide, by decide, hlt _, hlt _, hlt _, hlt _, isAscii_nil⟩

theorem isAscii_escape (c : Char) : IsAscii (escape c) := by
  unfold escape
  split
  · rename_i letter hshort
    unfold shortEscape at hshort
    split_ifs at hshort
    all_goals
      cases hshort
      simp only [isAscii_cons]
      exact ⟨by decide, by decide, isAscii_nil⟩
  · split_ifs with hprintable hbasic
    · exact isAscii_cons.mpr ⟨by omega, isAscii_nil⟩
    · exact isAscii_unicodeEscape _
    · exact isAscii_append.mpr ⟨isAscii_unicodeEscape _, isAscii_unicodeEscape _⟩

theorem isAscii_encodeStr (s : Str) : IsAscii (encodeStr s) := by
  have hall : IsAscii (escapeAll s) := by
    intro c hc
    obtain ⟨a, -, hmem⟩ := List.mem_flatMap.mp hc
    exact isAscii_escape a c hmem
  exact isAscii_cons.mpr ⟨by decide,
    isAscii_append.mpr ⟨hall, isAscii_cons.mpr ⟨by decide, isAscii_nil⟩⟩⟩

/-- The values without numbers whose objects repeat no key. -/
inductive Textual : Json → Prop
  | null : Textual .null
  | bool (b : Bool) : Textual (.bool b)
  | str (s : Str) : Textual (.str s)
  | arr {vs : List Json} (h : ∀ v ∈ vs, Textual v) : Textual (.arr vs)
  | obj {fields : Fields} (hdistinct : (fields.map Prod.fst).Nodup)
    (h : ∀ m ∈ fields, Textual m.2) :
      Textual (.obj fields)

section RoundTrip
variable (float : Str → FloatValue) (repr : FloatValue → Str) (indent : ℕ)

theorem skip_newline (level : ℕ) (rest : Str) : skip (newline indent level ++ rest) =
    skip rest := by
  have hblank : ∀ c ∈ newline indent level, isBlank c = true := by
    intro c hc
    rcases List.mem_cons.mp hc with rfl | hc
    · rfl
    · rw [List.eq_of_mem_replicate hc]
      rfl
  exact List.dropWhile_append_of_pos hblank

theorem isAscii_newline (level : ℕ) : IsAscii (newline indent level) := by
  refine isAscii_cons.mpr ⟨by decide, ?_⟩
  intro c hc
  rw [List.eq_of_mem_replicate hc]
  decide

/-- A text of a value starts with a character that is neither a blank nor a closing bracket. -/
def Opens (text : Str) : Prop := ∃ c tail, text = c :: tail ∧ isBlank c = false ∧ c ≠ ']'

theorem Opens.append {text : Str} (h : Opens text) (rest : Str) : Opens (text ++ rest) := by
  obtain ⟨c, tail, rfl, hblank, hne⟩ := h
  exact ⟨c, tail ++ rest, rfl, hblank, hne⟩

theorem Opens.skip {text : Str} (h : Opens text) : skip text = text := by
  obtain ⟨c, tail, rfl, hblank, -⟩ := h
  exact skip_cons hblank tail

theorem Opens.fuel {text : Str} (h : Opens text) {n : ℕ} (hn : text.length ≤ n) : ∃ m,
    n = m + 1 := by
  obtain ⟨c, tail, rfl, -⟩ := h
  exact Nat.exists_eq_succ_of_ne_zero (Nat.ne_zero_of_lt hn)

theorem opens_dump (level : ℕ) {v : Json} (h : Textual v) : Opens (dump repr indent level v) := by
  cases h with
  | null => exact ⟨'n', _, rfl, rfl, by decide⟩
  | bool b =>
    cases b
    · exact ⟨'f', _, rfl, rfl, by decide⟩
    · exact ⟨'t', _, rfl, rfl, by decide⟩
  | str s => exact ⟨'"', _, rfl, rfl, by decide⟩
  | @arr vs _ =>
    cases vs
    · exact ⟨'[', _, rfl, rfl, by decide⟩
    · exact ⟨'[', _, rfl, rfl, by decide⟩
  | @obj fields _ _ =>
    cases fields
    · exact ⟨'{', _, rfl, rfl, by decide⟩
    · exact ⟨'{', _, rfl, rfl, by decide⟩

theorem opens_dumpItems (level : ℕ) {v : Json} (h : Textual v) (vs : List Json) :
    Opens (dumpItems repr indent level (v :: vs)) := by
  cases vs with
  | nil =>
    rw [dumpItems]
    exact opens_dump repr indent level h
  | cons v' vs =>
    rw [dumpItems, List.append_assoc]
    exact (opens_dump repr indent level h).append _

theorem opens_dumpMembers (level : ℕ) (key : Str) (v : Json) (ms : Fields) :
    ∃ tail, dumpMembers repr indent level ((key, v) :: ms) = '"' :: tail := by
  cases ms with
  | nil => exact ⟨_, by rw [dumpMembers, encodeStr]; rfl⟩
  | cons m ms => exact ⟨_, by rw [dumpMembers, encodeStr]; rfl⟩

/-- Whatever follows, the text of the value is decoded to the value. -/
def DecodesDump (v : Json) : Prop :=
  ∀ level n rest, (dump repr indent level v).length ≤ n →
    value float n (dump repr indent level v ++ rest) = some (v, rest)

theorem value_str (m : ℕ) (s rest : Str) (h : s.length < m) :
    value float (m + 1) (encodeStr s ++ rest) = some (.str s, rest) := by
  have htext : encodeStr s ++ rest = '"' :: (escapeAll s ++ '"' :: rest) := by simp [encodeStr]
  rw [htext, value.eq_def]
  change Option.map _ (chars m (escapeAll s ++ '"' :: rest)) = _
  rw [chars_escapeAll h]
  rfl

theorem items_dump (level : ℕ) {v : Json} {vs : List Json} (htextual : ∀ w ∈ v :: vs, Textual w)
    (h : ∀ w ∈ v :: vs, DecodesDump float repr indent w) (n : ℕ) (tail rest : Str)
    (htail : skip tail = ']' :: rest) (hn : (dumpItems repr indent level (v :: vs)).length < n) :
    items float n (dumpItems repr indent level (v :: vs) ++ tail) = some (v :: vs, rest) := by
  induction vs generalizing v n with
  | nil =>
    obtain ⟨m, rfl⟩ := Nat.exists_eq_succ_of_ne_zero (Nat.ne_zero_of_lt hn)
    rw [dumpItems] at hn ⊢
    rw [items, h v List.mem_cons_self level m tail (by omega), Option.bind_some]
    dsimp only
    rw [htail]
    rfl
  | cons v' vs ih =>
    obtain ⟨m, rfl⟩ := Nat.exists_eq_succ_of_ne_zero (Nat.ne_zero_of_lt hn)
    rw [dumpItems] at hn ⊢
    simp only [List.length_append, List.length_cons] at hn
    have hrest := ih (fun w hw => htextual w (List.mem_cons_of_mem _ hw))
      (fun w hw => h w (List.mem_cons_of_mem _ hw)) m (by omega)
    have hopens := (opens_dumpItems repr indent level (htextual v' (by simp)) vs).append tail
    simp only [List.append_assoc, List.cons_append]
    rw [items, h v List.mem_cons_self level m _ (by omega), Option.bind_some]
    change Option.map _
      (items float m (skip (newline indent level ++
        (dumpItems repr indent level (v' :: vs) ++ tail)))) = _
    rw [skip_newline, hopens.skip, hrest]
    rfl

theorem member_dump (level : ℕ) {key : Str} {v : Json} (htextual : Textual v)
    (h : DecodesDump float repr indent v) {m : ℕ} (tail : Str) (hkey : key.length < m)
    (hv : (dump repr indent level v).length ≤ m) :
    members float (m + 1) (encodeStr key ++ ':' :: ' ' :: dump repr indent level v ++ tail) =
      match skip tail with
      | '}' :: rest => some ([(key, v)], rest)
      | ',' :: rest => (members float m (skip rest)).map fun r => ((key, v) :: r.1, r.2)
      | _ => none := by
  have htext : encodeStr key ++ ':' :: ' ' :: dump repr indent level v ++ tail =
      '"' :: (escapeAll key ++ '"' :: ':' :: ' ' :: (dump repr indent level v ++ tail)) := by
        simp [encodeStr]
  rw [htext, members.eq_def]
  change (chars m
    (escapeAll key ++ '"' :: ':' :: ' ' :: (dump repr indent level v ++ tail))).bind _ = _
  rw [chars_escapeAll hkey, Option.bind_some]
  change (value float m (skip (dump repr indent level v ++ tail))).bind _ = _
  rw [((opens_dump repr indent level htextual).append tail).skip, h level m tail hv]
  rfl

theorem members_dump (level : ℕ) {key : Str} {v : Json} {ms : Fields}
    (htextual : ∀ m ∈ (key, v) :: ms, Textual m.2)
    (h : ∀ m ∈ (key, v) :: ms, DecodesDump float repr indent m.2) (n : ℕ) (tail rest : Str)
    (htail : skip tail = '}' :: rest)
    (hn : (dumpMembers repr indent level ((key, v) :: ms)).length < n) :
    members float n (dumpMembers repr indent level ((key, v) :: ms) ++ tail) =
      some ((key, v) :: ms, rest) := by
  induction ms generalizing key v n with
  | nil =>
    obtain ⟨m, rfl⟩ := Nat.exists_eq_succ_of_ne_zero (Nat.ne_zero_of_lt hn)
    have hkey := length_le_escapeAll key
    have hv : Textual v := htextual (key, v) List.mem_cons_self
    have hdecodes : DecodesDump float repr indent v := h (key, v) List.mem_cons_self
    rw [dumpMembers] at hn ⊢
    simp only [encodeStr, List.length_append, List.length_cons] at hn
    rw [member_dump float repr indent level hv hdecodes tail (by omega) (by omega), htail]
    rfl
  | cons entry ms ih =>
    obtain ⟨key', v'⟩ := entry
    obtain ⟨m, rfl⟩ := Nat.exists_eq_succ_of_ne_zero (Nat.ne_zero_of_lt hn)
    have hkey := length_le_escapeAll key
    have hv : Textual v := htextual (key, v) List.mem_cons_self
    have hdecodes : DecodesDump float repr indent v := h (key, v) List.mem_cons_self
    rw [dumpMembers] at hn ⊢
    simp only [encodeStr, List.length_append, List.length_cons] at hn
    have hrest := ih (fun w hw => htextual w (List.mem_cons_of_mem _ hw))
      (fun w hw => h w (List.mem_cons_of_mem _ hw)) m (by omega)
    rw [List.append_assoc, List.append_assoc,
      member_dump float repr indent level hv hdecodes _ (by omega) (by omega)]
    change Option.map _
      (members float m (skip (newline indent level ++
        (dumpMembers repr indent level ((key', v') :: ms) ++ tail)))) = _
    obtain ⟨front, hfront⟩ := opens_dumpMembers repr indent level key' v' ms
    rw [skip_newline]
    rw [hfront] at hrest ⊢
    rw [List.cons_append, skip_cons rfl, ← List.cons_append, hrest]
    rfl

theorem value_skip_items (m : ℕ) {text text' : Str} (h : skip text = skip text') :
    value float (m + 1) ('[' :: text) = value float (m + 1) ('[' :: text') := by
  simp only [value, h]

theorem value_skip_members (m : ℕ) {text text' : Str} (h : skip text = skip text') :
    value float (m + 1) ('{' :: text) = value float (m + 1) ('{' :: text') := by
  simp only [value, h]

theorem decodes_arr {v : Json} {vs : List Json} (htextual : ∀ w ∈ v :: vs, Textual w)
    (h : ∀ w ∈ v :: vs, DecodesDump float repr indent w) :
    DecodesDump float repr indent (.arr (v :: vs)) := by
  intro level n rest hn
  obtain ⟨m, rfl⟩ := (opens_dump repr indent level (.arr htextual)).fuel hn
  rw [dump_arr_cons] at hn ⊢
  simp only [List.length_append, List.length_cons] at hn
  have hclose : skip (newline indent level ++ ']' :: rest) = ']' :: rest := by
    rw [skip_newline]
    rfl
  have hitems := items_dump float repr indent (level + 1) htextual h m _ rest hclose (by omega)
  obtain ⟨c, tail, htext, hblank, hne⟩ :=
    (opens_dumpItems repr indent (level + 1) (htextual v List.mem_cons_self) vs).append
      (newline indent level ++ ']' :: rest)
  simp only [List.append_assoc, List.cons_append, List.nil_append]
  rw [value_skip_items float m (skip_newline indent (level + 1) _)]
  rw [htext] at hitems ⊢
  rw [value_items float m hblank hne, hitems]
  rfl

theorem decodes_obj {key : Str} {v : Json} {ms : Fields}
    (hdistinct : (((key, v) :: ms).map Prod.fst).Nodup)
    (htextual : ∀ m ∈ (key, v) :: ms, Textual m.2)
    (h : ∀ m ∈ (key, v) :: ms, DecodesDump float repr indent m.2) :
    DecodesDump float repr indent (.obj ((key, v) :: ms)) := by
  intro level n rest hn
  obtain ⟨m, rfl⟩ := (opens_dump repr indent level (.obj hdistinct htextual)).fuel hn
  rw [dump_obj_cons] at hn ⊢
  simp only [List.length_append, List.length_cons] at hn
  have hclose : skip (newline indent level ++ '}' :: rest) = '}' :: rest := by
    rw [skip_newline]
    rfl
  have hmembers := members_dump float repr indent (level + 1) htextual h m _ rest hclose (by omega)
  obtain ⟨tail, htext⟩ := opens_dumpMembers repr indent (level + 1) key v ms
  simp only [List.append_assoc, List.cons_append, List.nil_append]
  rw [value_skip_members float m (skip_newline indent (level + 1) _)]
  rw [htext, List.cons_append] at hmembers ⊢
  rw [value_members, hmembers]
  exact congrArg (fun d => some (Json.obj d, rest)) (dict_of_nodup hdistinct)

theorem decodes_dump {v : Json} (h : Textual v) : DecodesDump float repr indent v := by
  induction h with
  | null =>
    intro level n rest hn
    obtain ⟨m, rfl⟩ := (opens_dump repr indent level .null).fuel hn
    rfl
  | bool b =>
    intro level n rest hn
    obtain ⟨m, rfl⟩ := (opens_dump repr indent level (.bool b)).fuel hn
    cases b
    · rfl
    · rfl
  | str s =>
    intro level n rest hn
    obtain ⟨m, rfl⟩ := (opens_dump repr indent level (.str s)).fuel hn
    have htext : dump repr indent level (.str s) = encodeStr s := rfl
    rw [htext] at hn ⊢
    have hlength := length_le_escapeAll s
    simp only [encodeStr, List.length_append, List.length_cons] at hn
    exact value_str float m s rest (by omega)
  | @arr vs htextual ih =>
    cases vs with
    | nil =>
      intro level n rest hn
      obtain ⟨m, rfl⟩ := (opens_dump repr indent level (.arr htextual)).fuel hn
      rfl
    | cons v vs => exact decodes_arr float repr indent htextual ih
  | @obj fields hdistinct htextual ih =>
    cases fields with
    | nil =>
      intro level n rest hn
      obtain ⟨m, rfl⟩ := (opens_dump repr indent level (.obj hdistinct htextual)).fuel hn
      rfl
    | cons m ms => exact decodes_obj float repr indent hdistinct htextual ih

/-- What `json.dump` writes for a value, `json.load` takes back to that value. -/
theorem loads_dump {v : Json} (h : Textual v) : loads float (dump repr indent 0 v) = some v := by
  have hvalue :=
    decodes_dump float repr indent h 0 ((dump repr indent 0 v).length + 1) [] (Nat.le_succ _)
  rw [List.append_nil] at hvalue
  rw [loads, (opens_dump repr indent 0 h).skip, hvalue]
  rfl

theorem isAscii_dumpItems {vs : List Json}
    (h : ∀ v ∈ vs, ∀ level, IsAscii (dump repr indent level v)) (level : ℕ) :
    IsAscii (dumpItems repr indent level vs) := by
  induction vs with
  | nil =>
    rw [dumpItems]
    exact isAscii_nil
  | cons v vs ih =>
    have htail := ih fun w hw => h w (List.mem_cons_of_mem _ hw)
    have hhead := h v List.mem_cons_self level
    cases vs with
    | nil => rwa [dumpItems]
    | cons v' vs =>
      rw [dumpItems, isAscii_append, isAscii_append, isAscii_cons]
      exact ⟨⟨hhead, by decide, isAscii_newline indent level⟩, htail⟩

theorem isAscii_dumpMembers {ms : Fields}
    (h : ∀ m ∈ ms, ∀ level, IsAscii (dump repr indent level m.2)) (level : ℕ) :
    IsAscii (dumpMembers repr indent level ms) := by
  induction ms with
  | nil =>
    rw [dumpMembers]
    exact isAscii_nil
  | cons m ms ih =>
    obtain ⟨key, v⟩ := m
    have htail := ih fun w hw => h w (List.mem_cons_of_mem _ hw)
    have hmember : IsAscii (encodeStr key ++ ':' :: ' ' :: dump repr indent level v) := by
      rw [isAscii_append, isAscii_cons, isAscii_cons]
      exact ⟨isAscii_encodeStr key, by decide, by decide, h (key, v) List.mem_cons_self level⟩
    cases ms with
    | nil => rwa [dumpMembers]
    | cons m' ms =>
      rw [dumpMembers, isAscii_append, isAscii_append, isAscii_cons]
      exact ⟨⟨hmember, by decide, isAscii_newline indent level⟩, htail⟩

/-- The file is the same in every encoding that extends ASCII. -/
theorem isAscii_dump {v : Json} (h : Textual v) : ∀ level, IsAscii (dump repr indent level v) := by
  have hword : ∀ {text : Str}, text.all (fun c => decide (c.toNat < 128)) = true →
      IsAscii text := by
    intro text htext c hc
    exact of_decide_eq_true (List.all_eq_true.mp htext c hc)
  have hclose : ∀ c, c = ']' ∨ c = '}' → IsAscii [c] := by
    rintro c (rfl | rfl)
    · exact hword rfl
    · exact hword rfl
  induction h with
  | null =>
    intro level
    exact hword rfl
  | bool b =>
    intro level
    cases b
    · exact hword rfl
    · exact hword rfl
  | str s =>
    intro level
    exact isAscii_encodeStr s
  | @arr vs _ ih =>
    intro level
    cases vs with
    | nil => exact hword rfl
    | cons v vs =>
      rw [dump_arr_cons, isAscii_append, isAscii_append, isAscii_append, isAscii_cons]
      exact ⟨⟨⟨⟨by decide, isAscii_newline indent _⟩, isAscii_dumpItems repr indent ih _⟩,
        isAscii_newline indent _⟩, hclose _ (Or.inl rfl)⟩
  | @obj fields _ _ ih =>
    intro level
    cases fields with
    | nil => exact hword rfl
    | cons m ms =>
      rw [dump_obj_cons, isAscii_append, isAscii_append, isAscii_append, isAscii_cons]
      exact ⟨⟨⟨⟨by decide, isAscii_newline indent _⟩, isAscii_dumpMembers repr indent ih _⟩,
        isAscii_newline indent _⟩, hclose _ (Or.inr rfl)⟩

end RoundTrip

end Astro.JsonText
