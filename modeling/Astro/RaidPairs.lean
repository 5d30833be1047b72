import Astro.InsertionDict
import Astro.KeyedSorting
import Astro.RepositorySite
import Astro.SeedRendering
import Astro.ShellText
import Mathlib.Data.Char
import Mathlib.Data.List.Lex

/-!
# The two disks of the array

With `raid` the phone-home handler takes the two smallest valid disks of the report, in MiB. The
installer takes the first two disks that `lsblk` lists with one size in bytes; among several
such sizes it takes the largest, compared as texts. The two agree exactly when the disks of the
handler have the same size and come first among those of that size, and no larger text is the
size of two disks.
-/

namespace Astro.RaidPairs

open PythonText RequestModels IpxePipeline CustomIsoHandler SeedRendering RepositorySite ShellText
  KeyedSorting

/-- A line of `lsblk`, cut into its fields. -/
structure Row where
  name : Str
  size : Str
  rm : ℕ
  type : Str

def isEligible (row : Row) : Bool :=
  row.type = "disk" && row.rm = 0 &&
    !(["loop".toList, "ram".toList, "md".toList, "sr".toList].any fun start => start <+: row.name)

/-- A name is no number; as a text it is true. -/
def isTrue (text : Str) : Bool := text.head?.any Char.isAlpha

/-- `names[$2]=(names[$2]?names[$2]" "$1:$1)`. -/
def addName (names : Dict Str Str) (row : Row) : Dict Str Str :=
  let old := (names.get? row.size).getD []
  names.set row.size (if isTrue old then old ++ ' ' :: row.name else row.name)

def namesBySize (rows : List Row) : Dict Str Str :=
  (rows.filter isEligible).foldl addName Dict.empty

/-- What the loop has found, with the size that `max` holds. -/
structure Pair where
  size : Str
  first : Str
  second : Str

/-- `s>max`; a subscript is a text, so that the number that `max` starts with is compared as
one. -/
def isGreater (size : Str) : Option Pair → Bool
  | none => "-1".toList < size
  | some best => best.size < size

/-- One pass of the loop over the subscripts. -/
def visit (names : Dict Str Str) (best : Option Pair) (size : Str) : Option Pair :=
  match words ((names.get? size).getD []) with
  | first :: second :: _ => if isGreater size best then some ⟨size, first, second⟩ else best
  | _ => best

/-- The two names that are printed, for one order of the subscripts. Without them the command
fails, and the machine is powered off. -/
def pairSearch (rows : List Row) (subscripts : List Str) : Option (Str × Str) :=
  match subscripts.foldl (visit (namesBySize rows)) none with
  | none => none
  | some best => if best.size < "0".toList then none else some (best.first, best.second)

/-- The name of a disk is one word and starts with a letter. -/
structure NodeDisk where
  name : Str
  sectors : ℕ
  isWord : IsWord name
  isLetter : isTrue name = true

/-- The size in bytes, as `lsblk -b` prints it. -/
def sizeText (sectors : ℕ) : Str := decimal (512 * sectors)

/-- The line of a disk that is not removable. -/
def NodeDisk.row (d : NodeDisk) : Row := ⟨d.name, sizeText d.sectors, 0, "disk"⟩

/-- The size in MiB, as the node reports it. -/
def NodeDisk.sizeMb (d : NodeDisk) : ℤ := (d.sectors / 2048 : ℕ)

/-- What the handler installs on; the id of a disk plays no part in it. -/
def NodeDisk.isValid (d : NodeDisk) : Bool := (Disk.mk d.name [] d.sizeMb).isValid

/-- What the node reports of its disks: the names, and the sizes in MiB. -/
def Reports (found : List NodeDisk) (uuids : List DiskInfo) : Prop :=
  uuids.map (fun d => (d.dev.val, d.sizeMb.val)) = found.map fun d => (d.name, d.sizeMb)

/-- The disks with one size that the search considers, in the order of `lsblk`. -/
def ofSize (lsblk : List NodeDisk) (sectors : ℕ) : List NodeDisk :=
  lsblk.filter fun d => isEligible d.row && d.sectors = sectors

theorem sizeText_injective {n n' : ℕ} (h : sizeText n = sizeText n') : n = n' := by
  have hbytes := decimal_injective h
  omega

/-- A size is compared by its first character with a text that starts below the digits. -/
theorem exists_digit (sectors : ℕ) : ∃ c rest, sizeText sectors = c :: rest ∧ '0' ≤ c := by
  obtain ⟨c, rest, heq⟩ := List.exists_cons_of_ne_nil (decimal_ne_nil (512 * sectors))
  have hdigit : c.isDigit = true := isDigit_of_mem_decimal (heq ▸ List.mem_cons_self)
  simp only [Char.isDigit, Bool.and_eq_true, decide_eq_true_eq] at hdigit
  exact ⟨c, rest, heq, hdigit.1⟩

theorem minus_lt_sizeText (sectors : ℕ) : "-1".toList < sizeText sectors := by
  obtain ⟨c, rest, heq, hc⟩ := exists_digit sectors
  have hminus : '-' < c := Nat.lt_of_lt_of_le (by decide : '-'.val < '0'.val) hc
  rw [heq]
  exact List.Lex.rel hminus

theorem not_sizeText_lt_zero (sectors : ℕ) : ¬ sizeText sectors < "0".toList := by
  obtain ⟨c, rest, heq, hc⟩ := exists_digit sectors
  have htext : "0".toList = ['0'] := by decide
  rw [heq, htext]
  intro hlt
  cases hlt with
  | rel hlt => exact absurd hc (not_le_of_gt hlt)
  | cons hlt => cases hlt

/-- What a step keeps, of the items seen and the state after them, the whole loop keeps. -/
theorem foldl_invariant {α β : Type*} {f : β → α → β} {P : α → Prop} {Inv : List α → β → Prop}
    (hstep : ∀ {seen state x}, P x → Inv seen state → Inv (seen ++ [x]) (f state x)) {xs : List α}
    (hxs : ∀ x ∈ xs, P x) {seen : List α} {state : β} (h : Inv seen state) :
    Inv (seen ++ xs) (xs.foldl f state) := by
  induction xs generalizing seen state with
  | nil => rwa [List.append_nil]
  | cons x xs ih =>
    obtain ⟨hx, hrest⟩ := List.forall_mem_cons.mp hxs
    have hnext := ih hrest (hstep hx h)
    rwa [List.append_assoc, List.singleton_append] at hnext

def namesOf (rows : List Row) (size : Str) : List Str :=
  (rows.filter fun row => row.size = size).map Row.name

theorem namesOf_append_self (rows : List Row) (row : Row) :
    namesOf (rows ++ [row]) row.size = namesOf rows row.size ++ [row.name] := by
  simp [namesOf]

theorem namesOf_append_ne (rows : List Row) {row : Row} {size : Str} (h : row.size ≠ size) :
    namesOf (rows ++ [row]) size = namesOf rows size := by
  simp [namesOf, h]

/-- Under each size the array has the names with that size, in order. -/
structure HoldsNames (rows : List Row) (names : Dict Str Str) : Prop where
  isTrue : ∀ row ∈ rows, isTrue row.name = true
  get : ∀ size, (names.get? size).getD [] = join " " (namesOf rows size)
  keys : ∀ size, size ∈ names.keys ↔ ∃ row ∈ rows, row.size = size

theorem isTrue_append {text : Str} (h : RaidPairs.isTrue text = true) (rest : Str) :
    RaidPairs.isTrue (text ++ rest) = true := by
  cases text with
  | nil => cases h
  | cons c text => exact h

theorem isTrue_join_iff {names : List Str} (h : ∀ name ∈ names, RaidPairs.isTrue name = true) :
    RaidPairs.isTrue (join " " names) = true ↔ names ≠ [] := by
  cases names with
  | nil => exact iff_of_false Bool.false_ne_true fun hne => hne rfl
  | cons name names =>
    have hname := h name List.mem_cons_self
    refine iff_of_true ?_ (List.cons_ne_nil _ _)
    cases names with
    | nil => rwa [join_singleton]
    | cons name' names =>
      rw [join_cons_cons]
      exact isTrue_append hname _

theorem HoldsNames.addName {rows : List Row} {names : Dict Str Str} {row : Row}
    (hrow : RaidPairs.isTrue row.name = true) (h : HoldsNames rows names) :
    HoldsNames (rows ++ [row]) (addName names row) := by
  have hnames : ∀ name ∈ namesOf rows row.size, RaidPairs.isTrue name = true := by
    refine List.forall_mem_map.mpr fun row' hmem => ?_
    exact h.isTrue row' (List.mem_filter.mp hmem).1
  refine ⟨?_, fun size => ?_, fun size => ?_⟩
  · exact List.forall_mem_append.mpr ⟨h.isTrue, List.forall_mem_singleton.mpr hrow⟩
  · by_cases hsize : row.size = size
    · subst hsize
      rw [RaidPairs.addName, Dict.get?_set_self, Option.getD_some, h.get, namesOf_append_self]
      by_cases hnil : namesOf rows row.size = []
      · have hfalse := mt (isTrue_join_iff hnames).mp (not_not.mpr hnil)
        rw [if_neg hfalse, hnil, List.nil_append, join_singleton]
      · rw [if_pos ((isTrue_join_iff hnames).mpr hnil), join_append_singleton hnil]
    · rw [RaidPairs.addName, Dict.get?_set_ne _ (Ne.symm hsize), h.get, namesOf_append_ne _ hsize]
  · rw [RaidPairs.addName, Dict.mem_keys_set, h.keys]
    simp only [List.mem_append, List.mem_singleton, or_and_right, exists_or, exists_eq_left]
    rw [or_comm, @eq_comm _ size]

theorem holdsNames_namesBySize {rows : List Row}
    (h : ∀ row ∈ rows, RaidPairs.isTrue row.name = true) :
    HoldsNames (rows.filter isEligible) (namesBySize rows) := by
  have hempty : HoldsNames [] Dict.empty :=
    ⟨fun row hrow => absurd hrow List.not_mem_nil, fun size => rfl, fun size => by simp⟩
  have hrows : ∀ row ∈ rows.filter isEligible, RaidPairs.isTrue row.name = true :=
    fun row hrow => h row (List.mem_filter.mp hrow).1
  exact foldl_invariant (fun hrow => HoldsNames.addName hrow) hrows hempty

section Search
variable {names : Dict Str Str}

/-- What is printed for one size. -/
def firstTwo (names : Dict Str Str) (size : Str) : Option (Str × Str) :=
  match words ((names.get? size).getD []) with
  | first :: second :: _ => some (first, second)
  | _ => none

theorem visit_eq (best : Option Pair) (size : Str) :
    visit names best size = (firstTwo names size).elim best fun two =>
      if isGreater size best then some ⟨size, two.1, two.2⟩ else best := by
  unfold visit firstTwo
  split <;> rfl

/-- The largest size so far with two names. -/
structure IsLargest (names : Dict Str Str) (seen : List Str) (best : Pair) : Prop where
  mem : best.size ∈ seen
  two : firstTwo names best.size = some (best.first, best.second)
  le : ∀ size ∈ seen, firstTwo names size ≠ none → size ≤ best.size

/-- What the loop knows after the sizes seen. -/
def Visited (names : Dict Str Str) (seen : List Str) : Option Pair → Prop
  | none => ∀ size ∈ seen, firstTwo names size = none
  | some best => IsLargest names seen best

theorem Visited.visit {seen : List Str} {best : Option Pair} {size : Str}
    (hsize : "-1".toList < size) (h : Visited names seen best) : Visited names (seen ++ [size])
    (visit names best size) := by
  rw [visit_eq]
  cases htwo : firstTwo names size with
  | none =>
    cases best with
    | none => exact List.forall_mem_append.mpr ⟨h, List.forall_mem_singleton.mpr htwo⟩
    | some best =>
      refine ⟨List.mem_append_left _ h.mem, h.two, List.forall_mem_append.mpr ⟨h.le, ?_⟩⟩
      exact List.forall_mem_singleton.mpr fun hne => absurd htwo hne
  | some two =>
    change Visited names (seen ++ [size])
      (if isGreater size best then some ⟨size, two.1, two.2⟩ else best)
    cases best with
    | none =>
      have hpos : isGreater size none = true := decide_eq_true hsize
      rw [if_pos hpos]
      refine ⟨List.mem_append_right _ List.mem_cons_self, htwo, List.forall_mem_append.mpr ⟨?_, ?_⟩⟩
      · exact fun other hother hne => absurd (h other hother) hne
      · exact List.forall_mem_singleton.mpr fun _ => le_refl size
    | some best =>
      by_cases hgreater : best.size < size
      · have hpos : isGreater size (some best) = true := decide_eq_true hgreater
        rw [if_pos hpos]
        refine ⟨List.mem_append_right _ List.mem_cons_self, htwo,
          List.forall_mem_append.mpr ⟨?_, ?_⟩⟩
        · exact fun other hother hne => ((h.le other hother hne).trans_lt hgreater).le
        · exact List.forall_mem_singleton.mpr fun _ => le_refl size
      · rw [if_neg (by rw [isGreater, decide_eq_true_eq]; exact hgreater)]
        refine ⟨List.mem_append_left _ h.mem, h.two, List.forall_mem_append.mpr ⟨h.le, ?_⟩⟩
        exact List.forall_mem_singleton.mpr fun _ => not_lt.mp hgreater

theorem visited_foldl {subscripts : List Str} (h : ∀ size ∈ subscripts, "-1".toList < size) :
    Visited names subscripts (subscripts.foldl (visit names) none) := by
  have hnone : Visited names [] none := fun size hsize => absurd hsize List.not_mem_nil
  exact foldl_invariant (fun hsize => Visited.visit hsize) h hnone

end Search

section Disks
variable {lsblk : List NodeDisk}

theorem namesOf_rows (sectors : ℕ) :
    namesOf ((lsblk.map NodeDisk.row).filter isEligible) (sizeText sectors) =
      (ofSize lsblk sectors).map NodeDisk.name := by
  have hsize : ∀ d : NodeDisk, d.row.size = sizeText sectors ↔ d.sectors = sectors :=
    fun d => ⟨sizeText_injective, congrArg sizeText⟩
  rw [namesOf, List.filter_map, List.filter_map, List.map_map, List.filter_filter, ofSize]
  refine congrArg (List.map NodeDisk.name) (List.filter_congr fun d _ => ?_)
  simp only [Function.comp_apply, hsize, Bool.and_comm]

theorem firstTwo_rows (sectors : ℕ) :
    firstTwo (namesBySize (lsblk.map NodeDisk.row)) (sizeText sectors) =
      match ofSize lsblk sectors with
      | d :: d' :: _ => some (d.name, d'.name)
      | _ => none := by
  have hrows : ∀ row ∈ lsblk.map NodeDisk.row, isTrue row.name = true :=
    List.forall_mem_map.mpr fun d _ => d.isLetter
  have hwords : ∀ name ∈ (ofSize lsblk sectors).map NodeDisk.name, IsWord name :=
    List.forall_mem_map.mpr fun d _ => d.isWord
  rw [firstTwo, (holdsNames_namesBySize hrows).get, namesOf_rows, words_join_eq hwords]
  rcases ofSize lsblk sectors with _ | ⟨d, _ | ⟨d', rest⟩⟩ <;> rfl

/-- The first two disks of one size, where no larger text is the size of two disks. -/
structure IsFirstPair (lsblk : List NodeDisk) (d d' : NodeDisk) : Prop where
  first : ∃ more, ofSize lsblk d.sectors = d :: d' :: more
  largest : ∀ sectors, 2 ≤ (ofSize lsblk sectors).length → sizeText sectors ≤ sizeText d.sectors

theorem firstTwo_ne_none_iff (sectors : ℕ) :
    firstTwo (namesBySize (lsblk.map NodeDisk.row)) (sizeText sectors) ≠ none ↔
      2 ≤ (ofSize lsblk sectors).length := by
  rw [firstTwo_rows]
  rcases ofSize lsblk sectors with _ | ⟨d, _ | ⟨d', rest⟩⟩ <;> simp

theorem two_le_length {sectors : ℕ} {d d' : NodeDisk} {more : List NodeDisk}
    (h : ofSize lsblk sectors = d :: d' :: more) : 2 ≤ (ofSize lsblk sectors).length := by
  rw [h]
  exact Nat.le_add_left 2 more.length

theorem sectors_of_mem_ofSize {sectors : ℕ} {d : NodeDisk} (h : d ∈ ofSize lsblk sectors) :
    d.sectors = sectors := by
  have hboth := (List.mem_filter.mp h).2
  rw [Bool.and_eq_true, decide_eq_true_eq] at hboth
  exact hboth.2

variable {subscripts : List Str}
  (hsubscripts : subscripts.Perm (namesBySize (lsblk.map NodeDisk.row)).keys)
include hsubscripts

/-- The subscripts are the sizes of the disks that are considered. -/
theorem mem_subscripts_iff {size : Str} :
    size ∈ subscripts ↔ ∃ sectors, size = sizeText sectors ∧ ofSize lsblk sectors ≠ [] := by
  have hrows : ∀ row ∈ lsblk.map NodeDisk.row, isTrue row.name = true :=
    List.forall_mem_map.mpr fun d _ => d.isLetter
  rw [hsubscripts.mem_iff, (holdsNames_namesBySize hrows).keys]
  constructor
  · rintro ⟨row, hrow, rfl⟩
    obtain ⟨hmem, heligible⟩ := List.mem_filter.mp hrow
    obtain ⟨d, hd, rfl⟩ := List.mem_map.mp hmem
    refine ⟨d.sectors, rfl, List.ne_nil_of_mem
      (List.mem_filter.mpr ⟨hd, ?_⟩ : d ∈ ofSize lsblk d.sectors)⟩
    rw [heligible, Bool.true_and, decide_eq_true_eq]
  · rintro ⟨sectors, rfl, hne⟩
    obtain ⟨d, hd⟩ := List.exists_mem_of_ne_nil _ hne
    have hsectors := sectors_of_mem_ofSize hd
    obtain ⟨hmem, hboth⟩ := List.mem_filter.mp hd
    rw [Bool.and_eq_true] at hboth
    refine ⟨d.row, List.mem_filter.mpr ⟨List.mem_map_of_mem hmem, hboth.1⟩, ?_⟩
    rw [← hsectors]
    rfl

theorem mem_subscripts_of_two {sectors : ℕ} (h : 2 ≤ (ofSize lsblk sectors).length) :
    sizeText sectors ∈ subscripts :=
  (mem_subscripts_iff hsubscripts).mpr
    ⟨sectors, rfl, List.ne_nil_of_length_pos (Nat.lt_of_lt_of_le Nat.two_pos h)⟩

/-- The pair with the largest size is the one that comes first. -/
theorem IsLargest.isFirstPair_iff {best : Pair}
    (h : IsLargest (namesBySize (lsblk.map NodeDisk.row)) subscripts best) {first second : Str} :
    best.first = first ∧ best.second = second ↔ ∃ d d', IsFirstPair lsblk d d' ∧ d.name = first ∧
      d'.name = second := by
  obtain ⟨sectors, hsize, -⟩ := (mem_subscripts_iff hsubscripts).mp h.mem
  have htwo := h.two
  have hle : ∀ n, 2 ≤ (ofSize lsblk n).length → sizeText n ≤ sizeText sectors :=
    fun n hn => hsize ▸ h.le _ (mem_subscripts_of_two hsubscripts hn)
      ((firstTwo_ne_none_iff n).mpr hn)
  rw [hsize, firstTwo_rows] at htwo
  rcases hsame : ofSize lsblk sectors with _ | ⟨d, _ | ⟨d', more⟩⟩
  · rw [hsame] at htwo
    cases htwo
  · rw [hsame] at htwo
    cases htwo
  · rw [hsame] at htwo
    obtain ⟨hfirst, hsecond⟩ := Prod.mk.inj (Option.some.inj htwo)
    have hsectors : d.sectors = sectors := sectors_of_mem_ofSize (hsame ▸ List.mem_cons_self)
    rw [← hfirst, ← hsecond]
    constructor
    · rintro ⟨rfl, rfl⟩
      exact ⟨d, d', ⟨⟨more, hsectors ▸ hsame⟩, hsectors ▸ hle⟩, rfl, rfl⟩
    · rintro ⟨e, e', ⟨⟨more', hmore⟩, hlargest⟩, rfl, rfl⟩
      have heq : sizeText e.sectors = sizeText sectors :=
        le_antisymm (hle _ (two_le_length hmore)) (hlargest _ (two_le_length hsame))
      rw [sizeText_injective heq, hsame] at hmore
      obtain ⟨rfl, hrest⟩ := List.cons.inj hmore
      obtain ⟨rfl, -⟩ := List.cons.inj hrest
      exact ⟨rfl, rfl⟩

/-- What the early command finds, in every order of the subscripts. -/
theorem pairSearch_eq_some_iff {first second : Str} :
    pairSearch (lsblk.map NodeDisk.row) subscripts = some (first, second) ↔
      ∃ d d', IsFirstPair lsblk d d' ∧ d.name = first ∧ d'.name = second := by
  have hgreater : ∀ size ∈ subscripts, "-1".toList < size := by
    intro size hsize
    obtain ⟨sectors, rfl, -⟩ := (mem_subscripts_iff hsubscripts).mp hsize
    exact minus_lt_sizeText sectors
  have hvisited := @visited_foldl (namesBySize (lsblk.map NodeDisk.row)) subscripts hgreater
  unfold pairSearch
  cases hbest : subscripts.foldl (visit (namesBySize (lsblk.map NodeDisk.row))) none with
  | none =>
    rw [hbest] at hvisited
    refine iff_of_false (Option.some_ne_none _).symm ?_
    rintro ⟨d, d', ⟨⟨more, hmore⟩, -⟩, -, -⟩
    have hlength := two_le_length hmore
    exact (firstTwo_ne_none_iff _).mpr hlength
      (hvisited _ (mem_subscripts_of_two hsubscripts hlength))
  | some best =>
    rw [hbest] at hvisited
    have hpositive : ¬ best.size < "0".toList := by
      obtain ⟨sectors, hsize, -⟩ := (mem_subscripts_iff hsubscripts).mp hvisited.mem
      rw [hsize]
      exact not_sizeText_lt_zero sectors
    rw [← IsLargest.isFirstPair_iff hsubscripts hvisited]
    dsimp only
    rw [if_neg hpositive, Option.some.injEq, Prod.mk.injEq]

/-- Different disks have different names. -/
theorem pairSearch_eq_names_iff (hnames : (lsblk.map NodeDisk.name).Nodup) {d d' : NodeDisk}
    (hd : d ∈ lsblk) (hd' : d' ∈ lsblk) :
    pairSearch (lsblk.map NodeDisk.row) subscripts = some (d.name, d'.name) ↔
      IsFirstPair lsblk d d' := by
  have hinj : ∀ {e e' : NodeDisk}, e ∈ lsblk → e' ∈ lsblk → e.name = e'.name → e = e' :=
    fun he he' heq => List.inj_on_of_nodup_map hnames he he' heq
  rw [pairSearch_eq_some_iff hsubscripts]
  constructor
  · rintro ⟨e, e', hpair, he, he'⟩
    obtain ⟨more, hmore⟩ := hpair.first
    have hsub : ofSize lsblk e.sectors ⊆ lsblk := List.filter_sublist.subset
    rw [hmore, List.cons_subset, List.cons_subset] at hsub
    obtain rfl := hinj hsub.1 hd he
    obtain rfl := hinj hsub.2.1 hd' he'
    exact hpair
  · exact fun hpair => ⟨d, d', hpair, rfl, rfl⟩

end Disks

/-- The early command finds the two disks of the storage section, in either order. -/
def Agrees (found : Option (Str × Str)) (disks : DiskChoice) : Prop :=
  found = some (disks.dev₀, disks.dev₁) ∨ found = some (disks.dev₁, disks.dev₀)

theorem chooseDisks_raid {isRaid : Bool} {uuids : List DiskInfo} {disks : DiskChoice}
    (h : chooseDisks isRaid uuids = some disks) (hraid : disks.templateName = .userDataRaid) :
    ∃ d d' rest, sortedDisks uuids = d :: d' :: rest ∧
      disks = ⟨.userDataRaid, d.id, d.dev, d'.id, d'.dev⟩ := by
  unfold chooseDisks at h
  split at h
  · cases h
  · obtain rfl := Option.some.inj h
    cases hraid
  · next d d' rest hsorted =>
    split_ifs at h
    · exact ⟨d, d', rest, hsorted, (Option.some.inj h).symm⟩
    · obtain rfl := Option.some.inj h
      cases hraid

/-- The handler sorts the disks of the node. -/
theorem Reports.sortedDisks {found : List NodeDisk} {uuids : List DiskInfo}
    (h : Reports found uuids) :
    (sortedDisks uuids).map (fun d => (d.dev, d.sizeMb)) =
      (sortBy NodeDisk.sizeMb (found.filter NodeDisk.isValid)).map fun d => (d.name, d.sizeMb) := by
  let keeps : Str × ℤ → Bool := fun d => (Disk.mk d.1 [] d.2).isValid
  have hreported : (uuids.map Disk.ofInfo).map (fun d => (d.dev, d.sizeMb)) =
      found.map fun d => (d.name, d.sizeMb) := by
    rw [List.map_map]
    exact h
  have hserver := @map_sortBy_filter Disk ℤ _ Disk.sizeMb (Str × ℤ) Prod.snd Disk.isValid keeps
    (fun d => (d.dev, d.sizeMb)) (fun _ => rfl) (fun _ => rfl) (uuids.map Disk.ofInfo)
  have hnode :=
    @map_sortBy_filter NodeDisk ℤ _ NodeDisk.sizeMb (Str × ℤ) Prod.snd NodeDisk.isValid keeps
    (fun d => (d.name, d.sizeMb)) (fun _ => rfl) (fun _ => rfl) found
  rw [hnode, ← hreported]
  exact hserver

section Result
variable {request : PhoneHomeRequest} {jobData : Fields} {disks : DiskChoice}
  {found lsblk : List NodeDisk}
  {subscripts : List Str}

/-- For every set of disks that are not removable, reported and listed in any order, and every
order in which the loop takes the sizes: the early command agrees with the handler exactly when
the two smallest valid disks in MiB, those reported earlier first, are the pair it finds. -/
theorem raid_pair_iff (hchoice : chosenDisks request jobData = some disks)
    (hraid : disks.templateName = .userDataRaid) (hreport : Reports found request.uuids)
    (hlsblk : lsblk.Perm found) (hnames : (found.map NodeDisk.name).Nodup)
    (hsubscripts : subscripts.Perm (namesBySize (lsblk.map NodeDisk.row)).keys) :
    Agrees (pairSearch (lsblk.map NodeDisk.row) subscripts) disks ↔
      ∃ d d', AreFirstTwo NodeDisk.sizeMb (found.filter NodeDisk.isValid) d d' ∧
        (IsFirstPair lsblk d d' ∨ IsFirstPair lsblk d' d) := by
  obtain ⟨e, e', rest, hsorted, rfl⟩ := chooseDisks_raid hchoice hraid
  have hsmallest := hreport.sortedDisks
  rw [hsorted] at hsmallest
  obtain ⟨d₀, ds, hds, hd₀, hmore⟩ := List.map_eq_cons_iff.mp hsmallest.symm
  obtain ⟨d₁, rest', rfl, hd₁, -⟩ := List.map_eq_cons_iff.mp hmore
  obtain ⟨hname₀, -⟩ := Prod.mk.inj hd₀
  obtain ⟨hname₁, -⟩ := Prod.mk.inj hd₁
  have hmem : ∀ {d}, d ∈ d₀ :: d₁ :: rest' → d ∈ lsblk := by
    intro d hd
    rw [← hds, (perm_sortBy _).mem_iff] at hd
    exact hlsblk.mem_iff.mpr (List.mem_filter.mp hd).1
  have hnodup : (lsblk.map NodeDisk.name).Nodup := (hlsblk.map NodeDisk.name).nodup_iff.mpr hnames
  have hpair := @pairSearch_eq_names_iff lsblk subscripts hsubscripts hnodup
  have h₀ : d₀ ∈ lsblk := hmem List.mem_cons_self
  have h₁ : d₁ ∈ lsblk := hmem (List.mem_cons_of_mem _ List.mem_cons_self)
  rw [Agrees, ← hname₀, ← hname₁, hpair h₀ h₁, hpair h₁ h₀, exists_areFirstTwo_iff hds]

end Result

/-- The report of a disk; here its id is its name. -/
def NodeDisk.info (d : NodeDisk) (h : 2048 ≤ d.sectors) : DiskInfo :=
  ⟨⟨d.name, d.isWord.1⟩, ⟨d.name, d.isWord.1⟩,
    ⟨(d.sectors / 2048 : ℕ), Int.natCast_pos.mpr (Nat.div_pos h (by decide))⟩⟩

def smallDisk : NodeDisk := ⟨"vda", 468862128, by decide, by decide⟩

def otherSmallDisk : NodeDisk := ⟨"vdb", 468862128, by decide, by decide⟩

def largeDisk : NodeDisk := ⟨"vdd", 1875385008, by decide, by decide⟩

def otherLargeDisk : NodeDisk := ⟨"vde", 1875385008, by decide, by decide⟩

def raidBody : Json :=
  .obj [("hostname".toList, .str "node-r".toList), ("ipv4_address".toList, .str "10.0.0.20".toList),
    ("ipv4_gateway".toList, .str "10.0.0.254".toList),
      ("ipv4_netmask".toList, .str "255.255.255.0".toList),
    ("raid".toList, .bool true)]

def raidJob : JobData :=
  let job := namedJob "node-r" "ubuntu" "8.8.8.8" (by decide)
  { job with request := { job.request with raid := true } }

def raidRequest (uuids : List DiskInfo) : PhoneHomeRequest :=
  ⟨raidJob.request.hostname, ⟨"SN-21".toList, by decide⟩,
    ⟨"01-52-54-00-21-21-21".toList, by decide⟩, uuids⟩

def smallInfo : DiskInfo := smallDisk.info (by decide)

def otherSmallInfo : DiskInfo := otherSmallDisk.info (by decide)

def largeInfo : DiskInfo := largeDisk.info (by decide)

def otherLargeInfo : DiskInfo := otherLargeDisk.info (by decide)

/-- The sizes, in the order in which they are met. -/
def metSizes (lsblk : List NodeDisk) : List Str := (namesBySize (lsblk.map NodeDisk.row)).keys

def equalChoice : DiskChoice :=
  ⟨.userDataRaid, "vda".toList, "vda".toList, "vdb".toList, "vdb".toList⟩

/-- Two disks of one size, which `lsblk` lists the other way round, and a larger one. -/
theorem raid_pair_equalDisks :
    chosenDisks (raidRequest [smallInfo, otherSmallInfo, largeInfo]) (jobFields raidJob) =
      some equalChoice ∧
    Agrees (pairSearch ([otherSmallDisk, largeDisk, smallDisk].map NodeDisk.row)
      (metSizes [otherSmallDisk, largeDisk, smallDisk])) equalChoice := by
  have hchoice : chosenDisks (raidRequest [smallInfo, otherSmallInfo, largeInfo])
    (jobFields raidJob) =
      some equalChoice := rfl
  have hlsblk : [otherSmallDisk, largeDisk, smallDisk].Perm
      [smallDisk, otherSmallDisk, largeDisk] :=
    @List.perm_append_comm _ [otherSmallDisk, largeDisk] [smallDisk]
  have hreport : Reports [smallDisk, otherSmallDisk, largeDisk]
      (raidRequest [smallInfo, otherSmallInfo, largeInfo]).uuids := rfl
  have hsmallest : AreFirstTwo NodeDisk.sizeMb
      ([smallDisk, otherSmallDisk, largeDisk].filter NodeDisk.isValid) smallDisk otherSmallDisk :=
    areFirstTwo_iff.mpr ⟨[largeDisk], rfl⟩
  refine ⟨hchoice, (raid_pair_iff hchoice rfl hreport hlsblk (by decide) (List.Perm.refl _)).mpr
    ⟨smallDisk, otherSmallDisk, hsmallest, Or.inr ⟨⟨[], rfl⟩, fun sectors hlength => ?_⟩⟩⟩
  by_cases hsectors : sectors = 468862128
  · rw [hsectors]
    exact le_refl _
  · have hother : decide (otherSmallDisk.sectors = sectors) = false :=
      decide_eq_false (Ne.symm hsectors)
    have hsmall : decide (smallDisk.sectors = sectors) = false := decide_eq_false (Ne.symm hsectors)
    have hone : ofSize [otherSmallDisk, largeDisk, smallDisk] sectors =
        ofSize [largeDisk] sectors := by
      simp only [ofSize, List.filter_cons, List.filter_nil, hother, hsmall, Bool.and_false]
      rfl
    rw [hone] at hlength
    exact absurd (hlength.trans (List.length_filter_le _ _)) (by decide)

/-- Two disks of different sizes make the installer power the machine off; with two pairs it
takes the other one. -/
theorem raid_pairs_differ :
    accept exampleSite "10.0.0.1" (some raidBody) = .ok raidJob ∧
    (chosenDisks (raidRequest [smallInfo, largeInfo]) (jobFields raidJob) =
        some ⟨.userDataRaid, "vda".toList, "vda".toList, "vdd".toList, "vdd".toList⟩ ∧
      Reports [smallDisk, largeDisk] [smallInfo, largeInfo] ∧
      pairSearch ([smallDisk, largeDisk].map NodeDisk.row)
        (metSizes [smallDisk, largeDisk]) = none) ∧
    (chosenDisks (raidRequest [smallInfo, otherSmallInfo, largeInfo, otherLargeInfo])
      (jobFields raidJob) =
        some ⟨.userDataRaid, "vda".toList, "vda".toList, "vdb".toList, "vdb".toList⟩ ∧
      Reports [smallDisk, otherSmallDisk, largeDisk, otherLargeDisk]
        [smallInfo, otherSmallInfo, largeInfo, otherLargeInfo] ∧
      pairSearch ([smallDisk, otherSmallDisk, largeDisk, otherLargeDisk].map NodeDisk.row)
        (metSizes [smallDisk, otherSmallDisk, largeDisk, otherLargeDisk]) =
          some ("vdd".toList, "vde".toList)) := by
  refine ⟨rfl, ⟨?_, rfl, ?_⟩, ?_, rfl, ?_⟩
  · rfl
  · rfl
  · rfl
  · rfl

end Astro.RaidPairs
