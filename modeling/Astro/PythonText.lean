import Mathlib.Data.List.Infix

/-!
# Python text operations on lists of code points

`str` values are lists of characters, `needle in hay` is the infix relation, and
the other methods follow the standard library on the arguments the server uses.
-/

namespace Astro

/-- A Python `str`, as its sequence of code points. -/
abbrev Str := List Char

instance : LawfulBEq Str := inferInstance

instance : Coe String Str := ⟨String.toList⟩

namespace PythonText

def split (sep : Char) (text : Str) : List Str := text.splitOn sep

def lastPiece (sep : Char) (text : Str) : Str := (split sep text).getLastD []

def strip (c : Char) (text : Str) : Str :=
  ((text.dropWhile (· = c)).reverse.dropWhile (· = c)).reverse

/-- `c.isspace()`: the white space of Unicode and the four separators before the blank. -/
def isPythonSpace (c : Char) : Bool :=
  c.toNat ∈ [0x09, 0x0a, 0x0b, 0x0c, 0x0d, 0x1c, 0x1d, 0x1e, 0x1f, 0x20, 0x85, 0xa0, 0x1680,
    0x2000, 0x2001, 0x2002, 0x2003, 0x2004, 0x2005, 0x2006, 0x2007, 0x2008, 0x2009, 0x200a,
    0x2028, 0x2029, 0x202f, 0x205f, 0x3000]

/-- `text.strip()`. -/
def stripBlanks (text : Str) : Str :=
  ((text.dropWhile isPythonSpace).reverse.dropWhile isPythonSpace).reverse

def join (sep : Str) (pieces : List Str) : Str := sep.intercalate pieces

theorem dropWhile_ne_append_cons {α : Type} [DecidableEq α] {a : α} {front : List α} (h : a ∉ front)
    (back : List α) : (front ++ a :: back).dropWhile (· ≠ a) = a :: back := by
  have hfront : ∀ b ∈ front, decide (b ≠ a) = true :=
    fun b hb => decide_eq_true (ne_of_mem_of_not_mem hb h)
  rw [List.dropWhile_append_of_pos hfront, List.dropWhile_cons_of_neg (by simp)]

theorem join_cons_cons (sep piece piece' : Str) (pieces : List Str) :
    join sep (piece :: piece' :: pieces) = piece ++ (sep ++ join sep (piece' :: pieces)) := by
  simp [join, List.intercalate]

theorem mem_join {sep : Str} {pieces : List Str} {c : Char} (h : c ∈ join sep pieces) :
    c ∈ sep ∨ ∃ piece ∈ pieces, c ∈ piece := by
  induction pieces with
  | nil => cases h
  | cons piece pieces ih =>
    cases pieces with
    | nil => exact Or.inr ⟨piece, List.mem_cons_self, by simpa [join, List.intercalate] using h⟩
    | cons piece' pieces =>
      rw [join_cons_cons, List.mem_append, List.mem_append] at h
      rcases h with h | h | h
      · exact Or.inr ⟨piece, List.mem_cons_self, h⟩
      · exact Or.inl h
      · exact (ih h).imp_right fun ⟨p, hp, hc⟩ => ⟨p, List.mem_cons_of_mem _ hp, hc⟩

/-- `text.lower()`. Only ASCII letters are mapped: no other character has a lower
case form with one of the letters of `reboot`, the one word that is searched for. -/
def lower (text : Str) : Str := text.map Char.toLower

/-- `str(n)`. -/
def decimal (n : ℕ) : Str := Nat.toDigits 10 n

theorem isDigit_of_mem_decimal {n : ℕ} {c : Char} (h : c ∈ decimal n) : c.isDigit = true :=
  Nat.isDigit_of_mem_toDigits (by decide) (by decide) h

theorem decimal_ne_nil (n : ℕ) : decimal n ≠ [] := Nat.toDigits_ne_nil

theorem length_decimal_mono {n n' : ℕ} (h : n ≤ n') : (decimal n).length ≤ (decimal n').length := by
  have hpos : 0 < (decimal n').length := List.length_pos_iff.mpr (decimal_ne_nil n')
  have hlt : n' < 10 ^ (decimal n').length :=
    (Nat.length_toDigits_le_iff (by decide) hpos).mp le_rfl
  exact (Nat.length_toDigits_le_iff (by decide) hpos).mpr (h.trans_lt hlt)

theorem decimal_injective {n n' : ℕ} (h : decimal n = decimal n') : n = n' := by
  have hvalue := congrArg (fun digits => Nat.ofDigitChars 10 digits 0) h
  simpa only [decimal, Nat.ofDigitChars_ten_toDigits] using hvalue

/-- Scan for `old` from left to right; `skip` characters of an occurrence that was
already replaced are still to be passed over. -/
def replaceFrom (old new : Str) : ℕ → Str → Str
  | _, [] => []
  | skip + 1, _ :: rest => replaceFrom old new skip rest
  | 0, c :: rest =>
    if old <+: c :: rest then new ++ replaceFrom old new (old.length - 1) rest
    else c :: replaceFrom old new 0 rest

/-- `text.replace(old, new)` for a nonempty `old`. -/
def replace (old new text : Str) : Str := replaceFrom old new 0 text

def replaceAll (pairs : List (Str × Str)) (text : Str) : Str :=
  pairs.foldl (fun text pair => replace pair.1 pair.2 text) text

end PythonText
end Astro
