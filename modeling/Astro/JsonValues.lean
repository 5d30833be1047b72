import Astro.PythonText
import Mathlib.Data.Rat.Defs

/-!
# JSON values as the handlers see them

`json.loads` returns one of seven kinds of value, and the handlers use the fields
of a body without looking at their type first. Truth values, dictionary keys and
the `in` operator are therefore defined on every kind, with the type errors.
-/

namespace Astro

/-- A Python float. A finite one is the rational number it denotes. -/
inductive FloatValue where
  | finite (q : ℚ)
  | infinity (negative : Bool)
  | nan
  deriving DecidableEq

/-- What `json.loads` can return. Objects keep the order of their members. -/
inductive Json where
  | null
  | bool (b : Bool)
  | int (n : ℤ)
  | float (x : FloatValue)
  | str (s : Str)
  | arr (items : List Json)
  | obj (fields : List (Str × Json))

abbrev Fields := List (Str × Json)

def Fields.get? (fields : Fields) (name : Str) : Option Json :=
  (fields.find? (fun f => f.1 = name)).map Prod.snd

def Fields.getD (fields : Fields) (name : Str) (default : Json) : Json :=
  (fields.get? name).getD default

/-- A hashable value used as a dictionary key. Equal numbers are one key, whatever
their type: `True`, `1` and `1.0` coincide. -/
inductive Key where
  | text (s : Str)
  | number (x : FloatValue)
  deriving DecidableEq

namespace Json

def truthy : Json → Bool
  | null => false
  | bool b => b
  | int n => n ≠ 0
  | float x => x ≠ .finite 0
  | str s => s ≠ []
  | arr items => !items.isEmpty
  | obj fields => !fields.isEmpty

def orElse (left right : Json) : Json := if left.truthy then left else right

def isText (value : Json) (text : Str) : Bool :=
  match value with
  | str s => s = text
  | _ => false

/-- The key a truthy value is stored under; lists and objects are not hashable. -/
def key? : Json → Option Key
  | bool b => some (.number (.finite (if b then 1 else 0)))
  | int n => some (.number (.finite n))
  | float x => some (.number x)
  | str s => some (.text s)
  | null | arr _ | obj _ => none

end Json

namespace Key

def truthy : Key → Bool
  | text s => s ≠ []
  | number x => x ≠ .finite 0

/-- `key in value`; `none` is the `TypeError` of a number sought in a text or of a
value that is no container. -/
def isIn (key : Key) : Json → Option Bool
  | .str s => match key with
    | text t => some (t <:+: s)
    | number _ => none
  | .arr items => some (items.any (fun item => item.key? = some key))
  | .obj fields => some (fields.any (fun field => text field.1 = key))
  | .null | .bool _ | .int _ | .float _ => none

@[simp] theorem isIn_text_str (t s : Str) : (text t).isIn (.str s) = some (decide (t <:+: s)) := rfl

@[simp] theorem isIn_number_str (x : FloatValue) (s : Str) : (number x).isIn (.str s) = none := rfl

@[simp] theorem truthy_text (s : Str) : (text s).truthy = true ↔ s ≠ [] := by simp [truthy]

end Key

/-- The two conversions to text that the model leaves open: `str` of a value that
is not a text, and `upper`. -/
structure PythonStr where
  repr : Json → Str
  upper : Str → Str

def PythonStr.str (py : PythonStr) : Json → Str
  | .str s => s
  | value => py.repr value

@[simp] theorem PythonStr.str_str (py : PythonStr) (s : Str) : py.str (.str s) = s := rfl

end Astro
