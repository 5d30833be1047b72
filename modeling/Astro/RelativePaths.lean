import Astro.JobPaths

/-!
# Relative paths

A relative path first climbs some directories above its start and then names others. With
these two parts it is decided whether it leads back below its start.
-/

namespace Astro.JobPaths

open PythonText

theorem not_mem_of_mem_split {c : Char} {text piece : Str} (h : piece ∈ split c text) :
    c ∉ piece := by
  by_cases hc : c ∈ text
  · obtain ⟨front, back, htext, hfront⟩ := List.eq_append_cons_of_mem hc
    rw [htext, split, List.splitOn_append_cons_self, List.splitOn_eq_singleton hfront,
      List.singleton_append, List.mem_cons] at h
    rcases h with rfl | h
    · exact hfront
    · exact not_mem_of_mem_split h
  · rw [split, List.splitOn_eq_singleton hc, List.mem_singleton] at h
    rwa [h]
termination_by text.length
decreasing_by
  rw [htext, List.length_append, List.length_cons]
  omega

/-- One more piece, after `climbed` directories were left and `named` ones entered. -/
def relativeStep (state : ℕ × Path) (piece : Str) : ℕ × Path :=
  if piece = [] ∨ piece = "." then state
  else if piece = ".." then
    if state.2 = [] then (state.1 + 1, []) else (state.1, state.2.dropLast)
  else (state.1, state.2 ++ [piece])

/-- How far the pieces climb above their start, and what they name from there. -/
def relative (pieces : List Str) : ℕ × Path := pieces.foldl relativeStep (0, [])

theorem descend_relativeStep (base : Path) (state : ℕ × Path) (piece : Str) :
    descend (base.take (base.length - state.1) ++ state.2) piece =
      base.take (base.length - (relativeStep state piece).1) ++ (relativeStep state piece).2 := by
  obtain ⟨climbed, named⟩ := state
  unfold descend relativeStep
  dsimp only
  split_ifs with hsame hup hnamed
  · rfl
  · rw [hnamed, List.append_nil, List.append_nil, List.dropLast_eq_take, List.take_take,
      List.length_take]
    congr 1
    omega
  · rw [List.dropLast_append_of_ne_nil hnamed]
  · rw [List.append_assoc]

theorem foldl_descend (base : Path) (pieces : List Str) :
    pieces.foldl descend base =
      base.take (base.length - (relative pieces).1) ++ (relative pieces).2 := by
  have hgeneral : ∀ state : ℕ × Path,
      pieces.foldl descend (base.take (base.length - state.1) ++ state.2) =
        base.take (base.length - (pieces.foldl relativeStep state).1) ++
          (pieces.foldl relativeStep state).2 := by
    induction pieces with
    | nil => intro state; rfl
    | cons piece pieces ih =>
      intro state
      rw [List.foldl_cons, List.foldl_cons, descend_relativeStep]
      exact ih _
  have hstart := hgeneral (0, [])
  rwa [Nat.sub_zero, List.take_length, List.append_nil] at hstart

example : relative (split '/' "a/../../b/./c") = (1, ["b".toList, "c".toList]) := by decide

/-- The directories that are left are named again, and something below them. -/
def StaysUnder (base : Path) (pieces : List Str) : Prop :=
  base.drop (base.length - (relative pieces).1) <+: (relative pieces).2 ∧
    (relative pieces).2 ≠ base.drop (base.length - (relative pieces).1)

instance (base : Path) (pieces : List Str) : Decidable (StaysUnder base pieces) :=
  inferInstanceAs (Decidable (_ ∧ _))

theorem staysUnder_iff {base : Path} {pieces : List Str} :
    StaysUnder base pieces ↔ base <+: pieces.foldl descend base ∧
      pieces.foldl descend base ≠ base := by
  rw [foldl_descend, StaysUnder]
  generalize hn : base.length - (relative pieces).1 = n
  have hsplit : base = base.take n ++ base.drop n := (List.take_append_drop n base).symm
  refine and_congr ?_ (not_congr ?_)
  · nth_rewrite 2 [hsplit]
    exact (List.prefix_append_right_inj _).symm
  · nth_rewrite 3 [hsplit]
    exact (List.append_right_inj _).symm

end Astro.JobPaths
