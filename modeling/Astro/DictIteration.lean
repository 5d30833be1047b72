import Astro.InsertionDict
import Mathlib.Data.List.Infix

/-!
# Iterating over a dictionary that others write to

An iterator remembers how many entries there were when it was made, and at what place it is. It
notices that the number of entries has changed, but not that a value was replaced.
-/

namespace Astro.DictIteration

universe u v
variable {κ : Type u} {ν : Type v}

structure Cursor where
  used : ℕ
  index : ℕ
  deriving DecidableEq

def start (d : Dict κ ν) : Cursor := ⟨d.entries.length, 0⟩

inductive Next (κ : Type u) (ν : Type v) where
  | changed
  | exhausted
  | item (key : κ) (value : ν) (cursor : Cursor)

def next (d : Dict κ ν) (c : Cursor) : Next κ ν :=
  if d.entries.length = c.used then
    match d.entries[c.index]? with
    | some (key, value) => .item key value ⟨c.used, c.index + 1⟩
    | none => .exhausted
  else .changed

section Next
variable {d d' : Dict κ ν} {c : Cursor}

theorem next_changed (h : d.entries.length ≠ c.used) : next d c = .changed := if_neg h

theorem next_exhausted (h : d.entries.length = c.used) (hdrop : d.entries.drop c.index = []) :
    next d c = .exhausted := by
  have hnone : d.entries[c.index]? = none := by
    rw [← List.head?_drop, hdrop]
    rfl
  rw [next, if_pos h, hnone]

theorem next_item (h : d.entries.length = c.used) {key : κ} {value : ν} {rest : List (κ × ν)}
    (hdrop : d.entries.drop c.index = (key, value) :: rest) :
    next d c = .item key value ⟨c.used, c.index + 1⟩ := by
  have hsome : d.entries[c.index]? = some (key, value) := by
    rw [← List.head?_drop, hdrop]
    rfl
  rw [next, if_pos h, hsome]

theorem drop_succ {key : κ} {value : ν} {rest : List (κ × ν)}
    (hdrop : d.entries.drop c.index = (key, value) :: rest) :
    d.entries.drop (c.index + 1) = rest := by
  rw [← List.drop_drop, hdrop]
  rfl

theorem index_lt {entry : κ × ν} {rest : List (κ × ν)}
    (hdrop : d.entries.drop c.index = entry :: rest) :
    c.index < d.entries.length := by
  by_contra hge
  rw [List.drop_eq_nil_of_le (not_lt.mp hge)] at hdrop
  cases hdrop

theorem length_keys (d : Dict κ ν) : d.keys.length = d.entries.length := List.length_map _

/-- Keys are never removed: with as many entries as before the keys are the same. -/
theorem keys_eq (hgrow : d.keys <+: d'.keys) (hlength : d'.entries.length = d.entries.length) :
    d'.keys = d.keys := by
  refine (hgrow.eq_of_length ?_).symm
  rw [length_keys, length_keys, hlength]

theorem keys_set [DecidableEq κ] (d : Dict κ ν) (key : κ) (value : ν) :
    d.keys <+: (d.set key value).keys := by
  by_cases h : key ∈ d.keys
  · rw [Dict.keys_set_of_mem h]
  · rw [Dict.keys_set_of_notMem h]
    exact List.prefix_append _ _

end Next

end Astro.DictIteration
