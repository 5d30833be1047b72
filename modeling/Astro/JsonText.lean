import Astro.JsonValues

/-!
# JSON texts

`json.loads` on a text, and the text that a script makes of a value by putting quotes,
commas and brackets around its parts without escaping anything.
-/

namespace Astro.JsonText

open PythonText

def isBlank (c : Char) : Bool := c = ' ' || c = '\t' || c = '\n' || c = '\r'

def skip (text : Str) : Str := text.dropWhile isBlank

def escaped : Char → Option Char
  | '"' => some '"'
  | '\\' => some '\\'
  | '/' => some '/'
  | 'b' => some '\x08'
  | 'f' => some '\x0c'
  | 'n' => some '\n'
  | 'r' => some '\r'
  | 't' => some '\t'
  | _ => none

def hexDigit (c : Char) : Option ℕ :=
  if c.isDigit then some (c.toNat - '0'.toNat)
  else if 'a' ≤ c ∧ c ≤ 'f' then some (c.toNat - 'a'.toNat + 10)
  else if 'A' ≤ c ∧ c ≤ 'F' then some (c.toNat - 'A'.toNat + 10)
  else none

def hex4 : Str → Option (ℕ × Str)
  | a :: b :: c :: d :: rest => do
    let a ← hexDigit a
    let b ← hexDigit b
    let c ← hexDigit c
    let d ← hexDigit d
    return (4096 * a + 256 * b + 16 * c + d, rest)
  | _ => none

/-- The character after `\u`. Two surrogates make one character; a text with a surrogate
that is left alone is no text of the model, and is not decoded. -/
def unicode (text : Str) : Option (Char × Str) := do
  let (code, rest) ← hex4 text
  if 0xD800 ≤ code ∧ code ≤ 0xDBFF then
    match rest with
    | '\\' :: 'u' :: rest => do
      let (low, rest) ← hex4 rest
      if 0xDC00 ≤ low ∧ low ≤ 0xDFFF then
        return (Char.ofNat (0x10000 + 1024 * (code - 0xD800) + (low - 0xDC00)), rest)
      else none
    | _ => none
  else if 0xDC00 ≤ code ∧ code ≤ 0xDFFF then none
  else return (Char.ofNat code, rest)

/-- The rest of a string literal, up to its closing quote. -/
def chars : ℕ → Str → Option (Str × Str)
  | 0, _ => none
  | _ + 1, [] => none
  | _ + 1, '"' :: rest => some ([], rest)
  | n + 1, '\\' :: 'u' :: rest => do
    let (c, rest) ← unicode rest
    let (s, rest) ← chars n rest
    return (c :: s, rest)
  | n + 1, '\\' :: e :: rest => do
    let c ← escaped e
    let (s, rest) ← chars n rest
    return (c :: s, rest)
  | n + 1, c :: rest =>
    if c.toNat < 0x20 ∨ c = '\\' then none
    else (chars n rest).map fun r => (c :: r.1, r.2)

/-- The longest digits at the front. -/
def digits (text : Str) : Str × Str := (text.takeWhile Char.isDigit, text.dropWhile Char.isDigit)

/-- An optional part of a number: `lead` followed by at least one digit. -/
def fraction (text : Str) : Str × Str :=
  match text with
  | '.' :: rest =>
    if (digits rest).1 = [] then ([], text) else ('.' :: (digits rest).1, (digits rest).2)
  | _ => ([], text)

def sign : Str → Str × Str
  | '+' :: rest => (['+'], rest)
  | '-' :: rest => (['-'], rest)
  | text => ([], text)

def exponent (text : Str) : Str × Str :=
  match text with
  | c :: rest =>
    if c = 'e' ∨ c = 'E' then
      let (s, rest) := sign rest
      if (digits rest).1 = [] then ([], text) else (c :: s ++ (digits rest).1, (digits rest).2)
    else ([], text)
  | [] => ([], [])

/-- The digits of an integer: `0` is not followed by more of them. -/
def natural : Str → Option (Str × Str)
  | '0' :: rest => some (['0'], rest)
  | text => if (digits text).1 = [] then none else some (digits text)

/-- A number without its sign: an `int` unless it has a fraction or an exponent. -/
def number (float : Str → FloatValue) (negative : Bool) (text : Str) : Option (Json × Str) := do
  let (whole, rest) ← natural text
  let (frac, rest) := fraction rest
  let (exp, rest) := exponent rest
  if frac = [] ∧ exp = [] then
    let n : ℤ := Nat.ofDigitChars 10 whole 0
    return (.int (if negative then -n else n), rest)
  else return (.float (float ((if negative then ['-'] else []) ++ whole ++ frac ++ exp)), rest)

/-- The words that stand for a value. -/
def words : List (Str × Json) :=
  [("null".toList, .null), ("true".toList, .bool true), ("false".toList, .bool false),
    ("NaN".toList, .float .nan), ("Infinity".toList, .float (.infinity false)),
    ("-Infinity".toList, .float (.infinity true))]

def word (text : Str) : Option (Json × Str) :=
  (words.find? (fun w => w.1 <+: text)).map fun w => (w.2, text.drop w.1.length)

def scalar (float : Str → FloatValue) (text : Str) : Option (Json × Str) :=
  match word text with
  | some result => some result
  | none => match text with
    | '-' :: rest => number float true rest
    | _ => number float false text

/-- `dict[key] = value`: an old key keeps its place. -/
def store (key : Str) (value : Json) : Fields → Fields
  | [] => [(key, value)]
  | field :: fields =>
      if field.1 = key then (key, value) :: fields else field :: store key value fields

def dict (members : Fields) : Fields := members.foldl (fun d m => store m.1 m.2 d) []

mutual

def value (float : Str → FloatValue) : ℕ → Str → Option (Json × Str)
  | 0, _ => none
  | n + 1, text => match text with
    | '"' :: rest => (chars n rest).map fun r => (.str r.1, r.2)
    | '{' :: rest => match skip rest with
      | '}' :: rest => some (.obj [], rest)
      | rest => (members float n rest).map fun r => (.obj (dict r.1), r.2)
    | '[' :: rest => match skip rest with
      | ']' :: rest => some (.arr [], rest)
      | rest => (items float n rest).map fun r => (.arr r.1, r.2)
    | _ => scalar float text

def items (float : Str → FloatValue) : ℕ → Str → Option (List Json × Str)
  | 0, _ => none
  | n + 1, text => (value float n text).bind fun r => match skip r.2 with
    | ']' :: rest => some ([r.1], rest)
    | ',' :: rest => (items float n (skip rest)).map fun tail => (r.1 :: tail.1, tail.2)
    | _ => none

def members (float : Str → FloatValue) : ℕ → Str → Option (Fields × Str)
  | 0, _ => none
  | n + 1, text => match text with
    | '"' :: text => (chars n text).bind fun key => match skip key.2 with
      | ':' :: rest => (value float n (skip rest)).bind fun r => match skip r.2 with
        | '}' :: rest => some ([(key.1, r.1)], rest)
        | ',' :: rest => (members float n (skip rest)).map fun tail =>
          ((key.1, r.1) :: tail.1, tail.2)
        | _ => none
      | _ => none
    | _ => none

end

/-- `json.loads(text)`; `none` when it raises. Every call takes at least one character, so
that the length of the text bounds the depth of the calls. -/
def loads (float : Str → FloatValue) (text : Str) : Option Json := do
  let (v, rest) ← value float (text.length + 1) (skip text)
  if skip rest = [] then return v else none

def compactInt : ℤ → Str
  | .ofNat n => decimal n
  | .negSucc n => '-' :: decimal (n + 1)

theorem compactInt_natCast (n : ℕ) : compactInt n = decimal n := rfl

def quoted (s : Str) : Str := '"' :: s ++ ['"']

mutual

def compact : Json → Str
  | .null => "null".toList
  | .bool b => if b then "true".toList else "false".toList
  | .int n => compactInt n
  | .float _ => []
  | .str s => quoted s
  | .arr vs => '[' :: compactItems vs ++ [']']
  | .obj fields => '{' :: compactMembers fields ++ ['}']

def compactItems : List Json → Str
  | [] => []
  | [v] => compact v
  | v :: v' :: vs => compact v ++ ',' :: compactItems (v' :: vs)

def compactMembers : List (Str × Json) → Str
  | [] => []
  | [(key, v)] => quoted key ++ ':' :: compact v
  | (key, v) :: m :: ms => quoted key ++ ':' :: compact v ++ ',' :: compactMembers (m :: ms)

end

end Astro.JsonText
