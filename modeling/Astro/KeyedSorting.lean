import Mathlib.Data.List.Sort

/-!
# The smallest elements by a key

A stable sort by a key, as a selection of the first elements: what is selected and what is left
are the whole list, no element that is left has a smaller key, and the selected keys do not
depend on the order of the list.
-/

namespace Astro.KeyedSorting

section Keys
variable {α β : Type*} [LinearOrder β] (key : α → β)

def sortBy (l : List α) : List α := l.insertionSort fun a b => key a ≤ key b

variable {key} {l l' : List α}

theorem perm_sortBy (l : List α) : (sortBy key l).Perm l := List.perm_insertionSort _ l

theorem pairwise_sortBy (l : List α) : (sortBy key l).Pairwise fun a b => key a ≤ key b := by
  have htrans : IsTrans α fun a b => key a ≤ key b := ⟨fun _ _ _ => le_trans⟩
  have htotal : Std.Total fun a b => key a ≤ key b := ⟨fun _ _ => le_total _ _⟩
  exact List.pairwise_insertionSort _ l

/-- What is selected and what is left. -/
theorem exists_rest (n : ℕ) (l : List α) :
    ∃ rest, ((sortBy key l).take n ++ rest).Perm l ∧ ∀ a ∈ (sortBy key l).take n, ∀ b ∈ rest,
      key a ≤ key b := by
  have hsorted : ((sortBy key l).take n ++ (sortBy key l).drop n).Pairwise fun a b =>
      key a ≤ key b := by
    rw [List.take_append_drop]
    exact pairwise_sortBy l
  refine ⟨(sortBy key l).drop n, ?_, (List.pairwise_append.mp hsorted).2.2⟩
  rw [List.take_append_drop]
  exact perm_sortBy l

/-- A map that keeps the keys, and what a filter asks, commutes with both. -/
theorem map_sortBy_filter {γ : Type*} {key' : γ → β} {keep : α → Bool}
    {keep' : γ → Bool} {f : α → γ} (hkey : ∀ a, key' (f a) = key a)
    (hkeep : ∀ a, keep' (f a) = keep a) (l : List α) :
    (sortBy key (l.filter keep)).map f = sortBy key' ((l.map f).filter keep') := by
  have hfilter : (l.map f).filter keep' = (l.filter keep).map f := by
    rw [List.filter_map, (funext hkeep : keep' ∘ f = keep)]
  rw [hfilter]
  exact List.map_insertionSort _ _ f _ fun a _ b _ => by rw [hkey, hkey]

/-- The first of the elements with the smallest key, and the list without it. -/
def IsFirst (key : α → β) (l : List α) (a : α) (left : List α) : Prop :=
  ∃ front back, l = front ++ a :: back ∧ left = front ++ back ∧
    (∀ e ∈ front, key a < key e) ∧ ∀ e ∈ back, key a ≤ key e

theorem IsFirst.le {a : α} {left : List α} (h : IsFirst key l a left) {e : α} (he : e ∈ l) :
    key a ≤ key e := by
  obtain ⟨front, back, rfl, -, hfront, hback⟩ := h
  rcases List.mem_append.mp he with he | he
  · exact (hfront e he).le
  · rcases List.mem_cons.mp he with rfl | he
    · exact le_rfl
    · exact hback e he

theorem IsFirst.sortBy_eq {a : α} {left : List α} (h : IsFirst key l a left) :
    sortBy key l = a :: sortBy key left := by
  obtain ⟨front, back, rfl, rfl, hfront, hback⟩ := h
  induction front with
  | nil =>
    change List.orderedInsert _ a (sortBy key back) = a :: sortBy key back
    cases hsorted : sortBy key back with
    | nil => rfl
    | cons b rest =>
      have hb : b ∈ back := (perm_sortBy back).mem_iff.mp (hsorted ▸ List.mem_cons_self)
      exact List.orderedInsert_cons_of_le _ rest (hback b hb)
  | cons x front ih =>
    obtain ⟨hx, hfront⟩ := List.forall_mem_cons.mp hfront
    change List.orderedInsert _ x (sortBy key (front ++ a :: back)) =
      a :: List.orderedInsert _ x (sortBy key (front ++ back))
    rw [ih hfront]
    exact List.orderedInsert_of_not_le _ _ (not_le_of_gt hx)

theorem exists_isFirst (h : l ≠ []) : ∃ a left, IsFirst key l a left := by
  induction l with
  | nil => exact absurd rfl h
  | cons x l ih =>
    rcases eq_or_ne l [] with rfl | hl
    · exact ⟨x, [], [], [], rfl, rfl, by simp, by simp⟩
    · obtain ⟨a, left, hfirst⟩ := ih hl
      by_cases hx : key x ≤ key a
      · exact ⟨x, l, [], l, rfl, rfl, by simp, fun e he => hx.trans (hfirst.le he)⟩
      · obtain ⟨front, back, rfl, rfl, hfront, hback⟩ := hfirst
        refine ⟨a, x :: (front ++ back), x :: front, back, rfl, rfl, ?_, hback⟩
        exact List.forall_mem_cons.mpr ⟨not_le.mp hx, hfront⟩

theorem sortBy_eq_cons_iff {a : α} {rest : List α} :
    sortBy key l = a :: rest ↔ ∃ left, IsFirst key l a left ∧ sortBy key left = rest := by
  constructor
  · intro h
    have hl : l ≠ [] := by
      rintro rfl
      cases h
    obtain ⟨a', left, hfirst⟩ : ∃ a' left, IsFirst key l a' left := exists_isFirst hl
    rw [hfirst.sortBy_eq] at h
    obtain ⟨rfl, rfl⟩ := List.cons.inj h
    exact ⟨left, hfirst, rfl⟩
  · rintro ⟨left, hfirst, rfl⟩
    exact hfirst.sortBy_eq

/-- The two smallest elements, among equals those that come first. -/
def AreFirstTwo (key : α → β) (l : List α) (a b : α) : Prop :=
  ∃ left left', IsFirst key l a left ∧ IsFirst key left b left'

theorem areFirstTwo_iff {a b : α} : AreFirstTwo key l a b ↔
    ∃ rest, sortBy key l = a :: b :: rest := by
  simp only [sortBy_eq_cons_iff]
  constructor
  · rintro ⟨left, left', ha, hb⟩
    exact ⟨_, left, ha, left', hb, rfl⟩
  · rintro ⟨rest, left, ha, left', hb, -⟩
    exact ⟨left, left', ha, hb⟩

/-- They are unique. -/
theorem exists_areFirstTwo_iff {a b : α} {rest : List α} (h : sortBy key l = a :: b :: rest)
    {P : α → α → Prop} : (∃ c d, AreFirstTwo key l c d ∧ P c d) ↔ P a b := by
  simp only [areFirstTwo_iff, h]
  constructor
  · rintro ⟨c, d, ⟨more, hfirst⟩, hP⟩
    obtain ⟨rfl, hsecond⟩ := List.cons.inj hfirst
    obtain ⟨rfl, -⟩ := List.cons.inj hsecond
    exact hP
  · exact fun hP => ⟨a, b, ⟨rest, rfl⟩, hP⟩

/-- The keys come in one order only. -/
theorem map_sortBy_perm (h : l'.Perm l) : (sortBy key l').map key = (sortBy key l).map key := by
  have hperm : ((sortBy key l').map key).Perm ((sortBy key l).map key) :=
    (((perm_sortBy l').trans h).trans (perm_sortBy l).symm).map key
  have hpairwise : ∀ l : List α, ((sortBy key l).map key).Pairwise (· ≤ ·) :=
    fun l => List.pairwise_map.mpr (pairwise_sortBy l)
  exact hperm.eq_of_pairwise' (hpairwise l') (hpairwise l)

/-- The first two elements have one key exactly when the smallest key is that of two elements. -/
theorem first_two_iff {a b : α} {rest : List α} (h : sortBy key l = a :: b :: rest) :
    key a = key b ↔ ∃ c d, List.Subperm [c, d] l ∧ key c = key d ∧ ∀ e ∈ l, key c ≤ key e := by
  have hperm : (a :: b :: rest).Perm l := h ▸ perm_sortBy l
  have hsorted : (a :: b :: rest).Pairwise fun a b => key a ≤ key b := h ▸ pairwise_sortBy l
  obtain ⟨hfirst, htail⟩ := List.pairwise_cons.mp hsorted
  constructor
  · intro hkey
    refine ⟨a, b, ?_, hkey, fun e he => ?_⟩
    · have hpair : List.Sublist [a, b] (a :: b :: rest) :=
        (List.nil_sublist rest).cons_cons b |>.cons_cons a
      exact hpair.subperm.trans hperm.subperm
    · rcases List.mem_cons.mp (hperm.mem_iff.mpr he) with rfl | he
      · exact le_rfl
      · exact hfirst e he
  · rintro ⟨c, d, hpair, hkey, hleast⟩
    obtain ⟨pair, hsame, hsub⟩ := hpair.trans hperm.symm.subperm
    -- the later one of the two stands behind the first element
    obtain ⟨x, y, rfl⟩ := List.length_eq_two.mp hsame.length_eq
    have hy : y ∈ b :: rest := hsub.tail.subset List.mem_cons_self
    have hbelow : key b ≤ key y := by
      rcases List.mem_cons.mp hy with rfl | hy
      · exact le_rfl
      · exact (List.pairwise_cons.mp htail).1 y hy
    have hkey' : key y = key c := by
      rcases List.mem_pair.mp (hsame.mem_iff.mp (List.mem_cons_of_mem x List.mem_cons_self)) with
        rfl | rfl
      · rfl
      · exact hkey.symm
    have hleast' : key c ≤ key a := hleast a (hperm.mem_iff.mp List.mem_cons_self)
    exact le_antisymm (hfirst b List.mem_cons_self) (hbelow.trans (hkey'.le.trans hleast'))

end Keys

end Astro.KeyedSorting
