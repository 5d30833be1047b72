import Mathlib.Data.List.Nodup

/-!
# Dictionaries that remember insertion order

Storing under a present key replaces the value in place; a new key goes to the
end. Iteration follows that order. The keys are pairwise different by construction.
-/

namespace Astro

universe u v

/-- A finite map with the insertion order of its keys. -/
structure Dict (κ : Type u) (ν : Type v) where
  entries : List (κ × ν)
  nodup : (entries.map Prod.fst).Nodup

namespace Dict

variable {κ : Type u} {ν : Type v}

def empty : Dict κ ν := ⟨[], List.nodup_nil⟩

def keys (d : Dict κ ν) : List κ := d.entries.map Prod.fst

variable [DecidableEq κ]

def get? (d : Dict κ ν) (k : κ) : Option ν := (d.entries.find? (fun e => e.1 = k)).map Prod.snd

/-- The entries with the value under `k` replaced, at its old place. -/
private def replaced (entries : List (κ × ν)) (k : κ) (v : ν) : List (κ × ν) :=
  entries.map (fun e => if e.1 = k then (k, v) else e)

private theorem replaced_keys (entries : List (κ × ν)) (k : κ) (v : ν) :
    (replaced entries k v).map Prod.fst = entries.map Prod.fst := by
  rw [replaced, List.map_map]
  apply List.map_congr_left
  intro e _
  by_cases h : e.1 = k <;> simp [h]

omit [DecidableEq κ] in
private theorem appended_nodup {d : Dict κ ν} {k : κ} (h : k ∉ d.keys) (v : ν) :
    ((d.entries ++ [(k, v)]).map Prod.fst).Nodup := by
  have hd : (d.entries.map Prod.fst).Disjoint [k] := by
    simpa [keys, List.disjoint_singleton] using h
  simpa using List.Nodup.append d.nodup (List.nodup_singleton k) hd

def set (d : Dict κ ν) (k : κ) (v : ν) : Dict κ ν :=
  if h : k ∈ d.keys then
    ⟨replaced d.entries k v, by rw [replaced_keys]; exact d.nodup⟩
  else ⟨d.entries ++ [(k, v)], appended_nodup h v⟩

@[simp] theorem get?_empty (k : κ) : (empty : Dict κ ν).get? k = none := rfl

omit [DecidableEq κ] in
@[simp] theorem keys_empty : (empty : Dict κ ν).keys = [] := rfl

theorem get?_eq_some_iff {d : Dict κ ν} {k : κ} {v : ν} :
    d.get? k = some v ↔ (k, v) ∈ d.entries := by
  constructor
  · intro h
    obtain ⟨e, he, rfl⟩ := Option.map_eq_some_iff.mp h
    have hk : e.1 = k := by simpa using List.find?_some he
    subst hk
    exact List.mem_of_find?_eq_some he
  · intro h
    cases hf : d.entries.find? (fun e => e.1 = k) with
    | none => simpa using List.find?_eq_none.mp hf (k, v) h
    | some e =>
      have hk : e.1 = k := by simpa using List.find?_some hf
      have he := List.inj_on_of_nodup_map d.nodup (List.mem_of_find?_eq_some hf) h hk
      simp [get?, hf, he]

theorem mem_keys_iff {d : Dict κ ν} {k : κ} : k ∈ d.keys ↔ ∃ v, d.get? k = some v := by
  simp [keys, get?_eq_some_iff]

theorem entries_set_of_mem {d : Dict κ ν} {k : κ} (h : k ∈ d.keys) (v : ν) :
    (d.set k v).entries = d.entries.map (fun e => if e.1 = k then (k, v) else e) := by
  rw [set, dif_pos h]
  rfl

theorem entries_set_of_notMem {d : Dict κ ν} {k : κ} (h : k ∉ d.keys) (v : ν) :
    (d.set k v).entries = d.entries ++ [(k, v)] := by
  rw [set, dif_neg h]

/-- Overwriting keeps every key and the order of the keys. -/
@[simp] theorem keys_set_of_mem {d : Dict κ ν} {k : κ} (h : k ∈ d.keys) (v : ν) :
    (d.set k v).keys = d.keys := by
  rw [keys, entries_set_of_mem h]
  exact replaced_keys d.entries k v

theorem keys_set_of_notMem {d : Dict κ ν} {k : κ} (h : k ∉ d.keys) (v : ν) :
    (d.set k v).keys = d.keys ++ [k] := by
  simp [keys, entries_set_of_notMem h]

theorem mem_keys_set {d : Dict κ ν} {k k' : κ} {v : ν} :
    k' ∈ (d.set k v).keys ↔ k' = k ∨ k' ∈ d.keys := by
  by_cases h : k ∈ d.keys
  · rw [keys_set_of_mem h]
    constructor
    · exact Or.inr
    · rintro (rfl | hk)
      · exact h
      · exact hk
  · rw [keys_set_of_notMem h, List.mem_append, List.mem_singleton, or_comm]

@[simp] theorem get?_set_self (d : Dict κ ν) (k : κ) (v : ν) : (d.set k v).get? k = some v := by
  rw [get?_eq_some_iff]
  by_cases h : k ∈ d.keys
  · rw [entries_set_of_mem h]
    obtain ⟨e, he, hk⟩ := List.mem_map.mp h
    exact List.mem_map.mpr ⟨e, he, by simp [hk]⟩
  · simp [entries_set_of_notMem h]

theorem get?_set_ne (d : Dict κ ν) {k k' : κ} (hne : k' ≠ k) (v : ν) :
    (d.set k v).get? k' = d.get? k' := by
  apply Option.ext
  intro w
  rw [get?_eq_some_iff, get?_eq_some_iff]
  by_cases h : k ∈ d.keys
  · rw [entries_set_of_mem h, List.mem_map]
    constructor
    · rintro ⟨e, he, hw⟩
      by_cases hk : e.1 = k
      · rw [if_pos hk] at hw
        exact absurd (congrArg Prod.fst hw).symm hne
      · rw [if_neg hk] at hw
        exact hw ▸ he
    · intro he
      exact ⟨(k', w), he, by simp [hne]⟩
  · simp [entries_set_of_notMem h, hne]

theorem get?_set (d : Dict κ ν) (k k' : κ) (v : ν) :
    (d.set k v).get? k' = if k' = k then some v else d.get? k' := by
  by_cases h : k' = k
  · simp [h]
  · simp [h, get?_set_ne d h]

section View
variable {μ : Type v}

/-- The dictionary seen through a function of its values, with the order of its keys. -/
def view (f : ν → μ) (d : Dict κ ν) : List (κ × μ) := d.entries.map fun e => (e.1, f e.2)

/-- A store that cannot be seen replaces a value by one that looks the same. -/
theorem view_set_iff {f : ν → μ} {d : Dict κ ν} {k : κ} {v : ν} :
    (d.set k v).view f = d.view f ↔ ∃ v', d.get? k = some v' ∧ f v' = f v := by
  constructor
  · intro h
    have hmem : (k, f v) ∈ (d.set k v).view f :=
      List.mem_map.mpr ⟨(k, v), get?_eq_some_iff.mp (get?_set_self d k v), rfl⟩
    rw [h] at hmem
    obtain ⟨⟨k', v'⟩, he, heq⟩ := List.mem_map.mp hmem
    obtain ⟨rfl, hv⟩ := Prod.mk.inj heq
    exact ⟨v', get?_eq_some_iff.mpr he, hv⟩
  · rintro ⟨v', hget, hv⟩
    have hkey : k ∈ d.keys := mem_keys_iff.mpr ⟨v', hget⟩
    rw [view, view, entries_set_of_mem hkey, List.map_map]
    refine List.map_congr_left fun e he => ?_
    by_cases hk : e.1 = k
    · have hvalue : d.get? e.1 = some e.2 := get?_eq_some_iff.mpr he
      rw [hk, hget, Option.some.injEq] at hvalue
      simp [hk, ← hvalue, hv]
    · simp [hk]

end View

theorem get?_of_perm {d d' : Dict κ ν} (h : d'.entries.Perm d.entries) (k : κ) :
    d'.get? k = d.get? k := by
  apply Option.ext
  intro v
  rw [get?_eq_some_iff, get?_eq_some_iff]
  exact h.mem_iff

omit [DecidableEq κ] in
/-- Any key could have been the first to be inserted. -/
theorem exists_perm_first {d : Dict κ ν} {k : κ} (h : k ∈ d.keys) :
    ∃ d' : Dict κ ν, d'.entries.Perm d.entries ∧ ∃ rest, d'.keys = k :: rest := by
  obtain ⟨e, he, rfl⟩ := List.mem_map.mp h
  obtain ⟨front, back, hentries⟩ := List.append_of_mem he
  have hperm : (e :: (front ++ back)).Perm d.entries := by
    rw [hentries]
    exact List.perm_middle.symm
  have hnodup : ((e :: (front ++ back)).map Prod.fst).Nodup :=
    (hperm.map Prod.fst).nodup_iff.mpr d.nodup
  exact ⟨⟨_, hnodup⟩, hperm, _, rfl⟩

end Dict
end Astro
