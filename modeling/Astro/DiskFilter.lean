import Astro.SeedRendering

/-!
# What the disk filter keeps

The phone-home handler drops a reported device when its name contains one of four short
texts anywhere. The devices it means to drop are classes of names of the kernel; the two
agree on every name that contains none of the texts, which is not so for every disk.
-/

namespace Astro.DiskFilter

open PythonText RequestModels SeedRendering

/-- A number in a device name. -/
def IsIndex (text : Str) : Prop := text ≠ [] ∧ ∀ c ∈ text, c.isDigit = true

/-- The names of the devices that are no disks to install on. -/
inductive IsExcluded : Str → Prop where
  | cdrom {n : Str} (hn : IsIndex n) : IsExcluded ("sr".toList ++ n)
  | array (rest : Str) : IsExcluded ("md".toList ++ rest)
  | mapped (rest : Str) : IsExcluded ("dm-".toList ++ rest)
  | controllerPath {i j k : Str} (hi : IsIndex i) (hj : IsIndex j) (hk : IsIndex k) :
      IsExcluded ("nvme".toList ++ i ++ 'c' :: (j ++ 'n' :: k))

/-- One of the texts that the filter looks for occurs in the name. -/
def IsCaught (dev : Str) : Prop :=
  ("sr" : Str) <:+: dev ∨ ("md" : Str) <:+: dev ∨ ("dm" : Str) <:+: dev ∨ 'c' ∈ dev

instance (dev : Str) : Decidable (IsCaught dev) := inferInstanceAs (Decidable (_ ∨ _ ∨ _ ∨ _))

theorem singleton_infix_iff {c : Char} {text : Str} : [c] <:+: text ↔ c ∈ text := by
  constructor
  · intro h
    exact h.subset (List.mem_singleton_self c)
  · intro h
    obtain ⟨front, back, rfl⟩ := List.append_of_mem h
    exact ⟨front, back, by simp⟩

theorem isValid_iff (d : Disk) : d.isValid = true ↔ ¬ IsCaught d.dev ∧ 1024 < d.sizeMb := by
  have hc : ("c" : Str) <:+: d.dev ↔ 'c' ∈ d.dev := singleton_infix_iff
  simp only [Disk.isValid, IsCaught, Bool.and_eq_true, Bool.not_eq_true', decide_eq_false_iff_not,
    decide_eq_true_eq, not_or, hc, and_assoc]

/-- The filter is applied entry by entry, and the sort loses nothing. -/
theorem mem_sortedDisks {uuids : List DiskInfo} {d : DiskInfo} (hd : d ∈ uuids) :
    Disk.ofInfo d ∈ sortedDisks uuids ↔ ¬ IsCaught d.dev.val ∧ 1024 < d.sizeMb.val := by
  rw [sortedDisks, (List.perm_insertionSort _ _).mem_iff, List.mem_filter, isValid_iff]
  exact and_iff_right (List.mem_map_of_mem hd)

/-- Every class that is meant is caught. -/
theorem IsExcluded.isCaught {dev : Str} (h : IsExcluded dev) : IsCaught dev := by
  cases h with
  | cdrom _ => exact Or.inl (List.prefix_append _ _).isInfix
  | array rest => exact Or.inr (Or.inl (List.prefix_append _ _).isInfix)
  | mapped rest =>
    have hdm : ("dm" : Str) <+: "dm-".toList ++ rest := ⟨'-' :: rest, rfl⟩
    exact Or.inr (Or.inr (Or.inl hdm.isInfix))
  | controllerPath _ _ _ =>
    exact Or.inr (Or.inr (Or.inr (List.mem_append_right _ List.mem_cons_self)))

section Scsi
variable {a b : Char} {letters : Str}

theorem pair_infix_cons_iff {c : Char} {text : Str} :
    [a, b] <:+: c :: text ↔ (a = c ∧ [b] <+: text) ∨ [a, b] <:+: text := by
  rw [List.infix_cons_iff, List.cons_prefix_cons]

theorem pair_infix_sd_iff : [a, b] <:+: 's' :: 'd' :: letters ↔
    (a = 's' ∧ b = 'd') ∨ (a = 'd' ∧ [b] <+: letters) ∨ [a, b] <:+: letters := by
  rw [pair_infix_cons_iff, pair_infix_cons_iff, List.cons_prefix_cons]
  simp only [List.nil_prefix, and_true]

end Scsi

/-- After `sd` the filter catches every name with a `c`, with an `m` in the first place, and
with one of the three other texts. -/
theorem isCaught_sd_iff (letters : Str) : IsCaught ("sd".toList ++ letters) ↔
    ("sr" : Str) <:+: letters ∨ ("md" : Str) <:+: letters ∨
      (("m" : Str) <+: letters ∨ ("dm" : Str) <:+: letters) ∨ 'c' ∈ letters := by
  have hsr : ['s', 'r'] <:+: 's' :: 'd' :: letters ↔ ['s', 'r'] <:+: letters := by
    rw [pair_infix_sd_iff]
    simp
  have hmd : ['m', 'd'] <:+: 's' :: 'd' :: letters ↔ ['m', 'd'] <:+: letters := by
    rw [pair_infix_sd_iff]
    simp
  have hdm : ['d', 'm'] <:+: 's' :: 'd' :: letters ↔
      ['m'] <+: letters ∨ ['d', 'm'] <:+: letters := by
    rw [pair_infix_sd_iff]
    simp
  have hc : 'c' ∈ 's' :: 'd' :: letters ↔ 'c' ∈ letters := by simp
  change ['s', 'r'] <:+: 's' :: 'd' :: letters ∨ ['m', 'd'] <:+: 's' :: 'd' :: letters ∨
    ['d', 'm'] <:+: 's' :: 'd' :: letters ∨ 'c' ∈ 's' :: 'd' :: letters ↔
    ['s', 'r'] <:+: letters ∨ ['m', 'd'] <:+: letters ∨
      (['m'] <+: letters ∨ ['d', 'm'] <:+: letters) ∨ 'c' ∈ letters
  rw [hsr, hmd, hdm, hc]

/-- The filter decides about an entry of the inventory as it should exactly when the device
is small, is of one of the classes, or has a name in which none of the four texts occurs.
Among the SCSI and SATA disks it loses those with the given letters. -/
theorem disk_filter_iff {uuids : List DiskInfo} {d : DiskInfo} (hd : d ∈ uuids) :
    ((Disk.ofInfo d ∈ sortedDisks uuids ↔ 1024 < d.sizeMb.val ∧ ¬ IsExcluded d.dev.val) ↔
      d.sizeMb.val ≤ 1024 ∨ IsExcluded d.dev.val ∨ ¬ IsCaught d.dev.val) ∧
    ∀ letters, d.dev.val = "sd".toList ++ letters → (Disk.ofInfo d ∈ sortedDisks uuids ↔
      1024 < d.sizeMb.val ∧ ¬ (("sr" : Str) <:+: letters ∨ ("md" : Str) <:+: letters ∨
        (("m" : Str) <+: letters ∨ ("dm" : Str) <:+: letters) ∨ 'c' ∈ letters)) := by
  have hkept := mem_sortedDisks hd
  constructor
  · rw [hkept]
    constructor
    · intro h
      by_cases hsize : 1024 < d.sizeMb.val
      · by_cases hexcluded : IsExcluded d.dev.val
        · exact Or.inr (Or.inl hexcluded)
        · exact Or.inr (Or.inr (h.mpr ⟨hsize, hexcluded⟩).1)
      · exact Or.inl (not_lt.mp hsize)
    · rintro (hsize | hexcluded | hfree)
      · exact iff_of_false (fun h => h.2.not_ge hsize) (fun h => h.1.not_ge hsize)
      · exact iff_of_false (fun h => h.1 hexcluded.isCaught) (fun h => h.2 hexcluded)
      · exact ⟨fun h => ⟨h.2, fun hexcluded => hfree hexcluded.isCaught⟩, fun h => ⟨hfree, h.1⟩⟩
  · intro letters hletters
    rw [hkept, hletters, isCaught_sd_iff, and_comm]

def thirdDisk : DiskInfo :=
  ⟨⟨"sdc".toList, by decide⟩, ⟨"disk 3".toList, by decide⟩, ⟨953869, by decide⟩⟩

def thirteenthDisk : DiskInfo :=
  ⟨⟨"sdm".toList, by decide⟩, ⟨"disk 13".toList, by decide⟩, ⟨953870, by decide⟩⟩

theorem disk_filter_thirdDisk :
    ((Disk.ofInfo thirdDisk ∈ sortedDisks [thirdDisk] ↔
        1024 < thirdDisk.sizeMb.val ∧ ¬ IsExcluded thirdDisk.dev.val) ↔
      thirdDisk.sizeMb.val ≤ 1024 ∨ IsExcluded thirdDisk.dev.val ∨ ¬ IsCaught thirdDisk.dev.val) ∧
    ∀ letters, thirdDisk.dev.val = "sd".toList ++ letters →
      (Disk.ofInfo thirdDisk ∈ sortedDisks [thirdDisk] ↔
        1024 < thirdDisk.sizeMb.val ∧ ¬ (("sr" : Str) <:+: letters ∨ ("md" : Str) <:+: letters ∨
          (("m" : Str) <+: letters ∨ ("dm" : Str) <:+: letters) ∨ 'c' ∈ letters)) :=
  disk_filter_iff (List.mem_singleton_self thirdDisk)

theorem not_isExcluded_sd (letters : Str) : ¬ IsExcluded ("sd".toList ++ letters) := by
  generalize hname : "sd".toList ++ letters = name
  intro h
  cases h with
  | cdrom _ => cases hname
  | array rest => cases hname
  | mapped rest => cases hname
  | controllerPath _ _ _ => cases hname

/-- Two large SATA disks that the filter drops. -/
theorem sdc_sdm_dropped :
    sortedDisks [thirdDisk, thirteenthDisk] = [] ∧
    1024 < thirdDisk.sizeMb.val ∧ ¬ IsExcluded thirdDisk.dev.val ∧
    1024 < thirteenthDisk.sizeMb.val ∧ ¬ IsExcluded thirteenthDisk.dev.val :=
  ⟨by decide, by decide, not_isExcluded_sd "c", by decide, not_isExcluded_sd "m"⟩

end Astro.DiskFilter
