import Astro.KeyedSorting
import Astro.NodeInventory
import Astro.RaidPairs

/-!
# Which disks are selected

The phone-home handler sorts the disks that pass its filter by their size and takes the first,
or the first two for an array. The selection is minimal and its sizes do not depend on the order
of the report. For an array this is not the smallest pair of one size, and the two disks can have
one identity.
-/

namespace Astro.DiskSelection

open PythonText RequestModels IpxePipeline ServerHandlers SeedRendering KeyedSorting
  NodeInventory RaidPairs

/-- `valid_disks`. -/
def validDisks (uuids : List DiskInfo) : List Disk := (uuids.map Disk.ofInfo).filter Disk.isValid

theorem sortedDisks_eq (uuids : List DiskInfo) :
    sortedDisks uuids = sortBy Disk.sizeMb (validDisks uuids) := rfl

/-- `job_data.get("raid", False)`, as a condition. -/
def isRaid (jobData : Fields) : Bool := (jobData.getD "raid" (.bool false)).truthy

/-- `sorted_hw[0]`, and `sorted_hw[1]` for an array. -/
def selectedDisks (isRaid : Bool) (uuids : List DiskInfo) : List Disk :=
  (sortedDisks uuids).take (if isRaid then 2 else 1)

/-- What is rendered for the disks. -/
def choiceOf : List Disk → Option DiskChoice
  | [d] => some ⟨.userData, d.id, d.dev, d.id, d.dev⟩
  | [d, d'] => some ⟨.userDataRaid, d.id, d.dev, d'.id, d'.dev⟩
  | _ => none

theorem chosenDisks_eq (request : PhoneHomeRequest) (jobData : Fields) :
    chosenDisks request jobData = choiceOf (selectedDisks (isRaid jobData) request.uuids) := by
  change chooseDisks (isRaid jobData) request.uuids = _
  unfold chooseDisks selectedDisks
  split
  · next hnil =>
    rw [hnil, List.take_nil]
    rfl
  · next d hone =>
    rw [hone]
    cases isRaid jobData <;> rfl
  · next d d' rest htwo =>
    rw [htwo]
    cases isRaid jobData <;> rfl

theorem templateName_choiceOf {selected selected' : List Disk}
    (h : selected'.length = selected.length) :
    (choiceOf selected').map DiskChoice.templateName =
      (choiceOf selected).map DiskChoice.templateName := by
  match selected', selected with
  | [], [] => rfl
  | [_], [_] => rfl
  | [_, _], [_, _] => rfl
  | _ :: _ :: _ :: _, _ :: _ :: _ :: _ => rfl

theorem validDisks_perm {uuids uuids' : List DiskInfo} (h : uuids'.Perm uuids) :
    (validDisks uuids').Perm (validDisks uuids) := (h.map Disk.ofInfo).filter _

theorem sizes_selectedDisks {uuids uuids' : List DiskInfo} (h : uuids'.Perm uuids) (isRaid : Bool) :
    (selectedDisks isRaid uuids').map Disk.sizeMb =
      (selectedDisks isRaid uuids).map Disk.sizeMb := by
  rw [selectedDisks, selectedDisks, List.map_take, List.map_take, sortedDisks_eq, sortedDisks_eq,
    map_sortBy_perm (validDisks_perm h)]

/-- The disks that are rendered come from different places of the filtered list, none that is
left is smaller, and the order of the report changes neither their sizes nor the template. -/
theorem disk_choice_minimal (request : PhoneHomeRequest) (jobData : Fields)
    (hvalid : validDisks request.uuids ≠ []) :
    let selected := selectedDisks (isRaid jobData) request.uuids
    chosenDisks request jobData = choiceOf selected ∧
    selected.length = (if isRaid jobData ∧ 2 ≤ (validDisks request.uuids).length then 2 else 1) ∧
    (∃ unselected, (selected ++ unselected).Perm (validDisks request.uuids) ∧
      ∀ d ∈ selected, ∀ d' ∈ unselected, d.sizeMb ≤ d'.sizeMb) ∧
    selected.Pairwise (fun d d' => d.sizeMb ≤ d'.sizeMb) ∧
    ∀ uuids', uuids'.Perm request.uuids →
      (selectedDisks (isRaid jobData) uuids').map Disk.sizeMb = selected.map Disk.sizeMb ∧
      (chosenDisks { request with uuids := uuids' } jobData).map DiskChoice.templateName =
        (chosenDisks request jobData).map DiskChoice.templateName := by
  intro selected
  have hlength : (sortedDisks request.uuids).length = (validDisks request.uuids).length := by
    rw [sortedDisks_eq, (perm_sortBy _).length_eq]
  have hpos : 0 < (validDisks request.uuids).length := List.length_pos_iff.mpr hvalid
  refine ⟨chosenDisks_eq request jobData, ?_, exists_rest _ _, ?_, fun uuids' hperm => ?_⟩
  · change ((sortedDisks request.uuids).take _).length = _
    rw [List.length_take, hlength]
    cases isRaid jobData with
    | false =>
      rw [if_neg Bool.false_ne_true, if_neg fun h => Bool.false_ne_true h.1]
      omega
    | true =>
      rw [if_pos rfl]
      split_ifs with h
      · omega
      · have hsmall : ¬ 2 ≤ (validDisks request.uuids).length := fun htwo => h ⟨rfl, htwo⟩
        omega
  · exact (pairwise_sortBy _).sublist (List.take_sublist _ _)
  · have hsizes := sizes_selectedDisks hperm (isRaid jobData)
    refine ⟨hsizes, ?_⟩
    rw [chosenDisks_eq, chosenDisks_eq]
    refine templateName_choiceOf ?_
    have hcount := congrArg List.length hsizes
    rwa [List.length_map, List.length_map] at hcount

/-- Two disks of one size and a larger one that is reported first. -/
theorem disk_choice_minimal_largeFirst :
    (selectedDisks (isRaid (jobFields raidJob)) [largeInfo, smallInfo, otherSmallInfo]).length = 2 ∧
    (selectedDisks (isRaid (jobFields raidJob)) [smallInfo, otherSmallInfo, largeInfo]).map
      Disk.sizeMb =
      (selectedDisks (isRaid (jobFields raidJob)) [largeInfo, smallInfo, otherSmallInfo]).map
        Disk.sizeMb := by
  have hvalid : validDisks [largeInfo, smallInfo, otherSmallInfo] ≠ [] := by decide
  have hperm : [smallInfo, otherSmallInfo, largeInfo].Perm [largeInfo, smallInfo, otherSmallInfo] :=
    @List.perm_append_comm _ [smallInfo, otherSmallInfo] [largeInfo]
  obtain ⟨-, hlength, -, -, horder⟩ :=
    disk_choice_minimal (raidRequest [largeInfo, smallInfo, otherSmallInfo])
      (jobFields raidJob) hvalid
  exact ⟨hlength.trans (if_pos (by decide)), (horder _ hperm).1⟩

section Pairs
variable {request : PhoneHomeRequest} {jobData : Fields}

theorem exists_selected (hraid : isRaid jobData = true)
    (h : 2 ≤ (validDisks request.uuids).length) :
    ∃ d d' rest, sortedDisks request.uuids = d :: d' :: rest ∧
      selectedDisks (isRaid jobData) request.uuids = [d, d'] ∧
      chosenDisks request jobData = some ⟨.userDataRaid, d.id, d.dev, d'.id, d'.dev⟩ := by
  have hlength : 2 ≤ (sortedDisks request.uuids).length := by
    rwa [sortedDisks_eq, (perm_sortBy _).length_eq]
  match hsorted : sortedDisks request.uuids with
  | [] =>
    rw [hsorted] at hlength
    exact absurd hlength (by decide)
  | [_] =>
    rw [hsorted] at hlength
    exact absurd hlength (Nat.not_succ_le_self 1)
  | d :: d' :: rest =>
    have hselected : selectedDisks (isRaid jobData) request.uuids = [d, d'] := by
      rw [selectedDisks, hsorted, hraid]
      rfl
    refine ⟨d, d', rest, rfl, hselected, ?_⟩
    rw [chosenDisks_eq, hselected]
    rfl

/-- With two valid disks of one size, the two that are taken are the smallest such pair exactly
when no other disk is smaller than the smallest such pair. -/
theorem smallest_pair_iff (hraid : isRaid jobData = true)
    (hpair : ∃ d d', List.Subperm [d, d'] (validDisks request.uuids) ∧ d.sizeMb = d'.sizeMb) :
    ∃ d d', chosenDisks request jobData = some ⟨.userDataRaid, d.id, d.dev, d'.id, d'.dev⟩ ∧
      selectedDisks (isRaid jobData) request.uuids = [d, d'] ∧
      ((d.sizeMb = d'.sizeMb ∧ ∀ e e', List.Subperm [e, e'] (validDisks request.uuids) →
          e.sizeMb = e'.sizeMb → d.sizeMb ≤ e.sizeMb) ↔
        ∃ e e', List.Subperm [e, e'] (validDisks request.uuids) ∧ e.sizeMb = e'.sizeMb ∧
          ∀ x ∈ validDisks request.uuids, e.sizeMb ≤ x.sizeMb) := by
  obtain ⟨c, c', hsub, -⟩ := hpair
  obtain ⟨d, d', rest, hsorted, hselected, hchosen⟩ := exists_selected hraid hsub.length_le
  refine ⟨d, d', hchosen, hselected, ?_⟩
  rw [sortedDisks_eq] at hsorted
  rw [← first_two_iff hsorted]
  refine and_iff_left_of_imp fun _ e e' hpair _ => ?_
  have hmem : e ∈ d :: d' :: rest := by
    rw [← hsorted, (perm_sortBy _).mem_iff]
    exact hpair.subset List.mem_cons_self
  have hleast := (List.pairwise_cons.mp (hsorted ▸ pairwise_sortBy (validDisks request.uuids))).1
  rcases List.mem_cons.mp hmem with rfl | hmem
  · exact le_rfl
  · exact hleast e hmem

end Pairs

theorem smallest_pair_equalDisks :
    ∃ d d', selectedDisks (isRaid (jobFields raidJob)) [largeInfo, smallInfo, otherSmallInfo] =
        [d, d'] ∧
      d.sizeMb = d'.sizeMb := by
  have hpair : List.Subperm [Disk.ofInfo smallInfo, Disk.ofInfo otherSmallInfo]
      (validDisks [largeInfo, smallInfo, otherSmallInfo]) := by decide
  have hleast : ∀ x ∈ validDisks [largeInfo, smallInfo, otherSmallInfo],
      (Disk.ofInfo smallInfo).sizeMb ≤ x.sizeMb := by decide
  have hsize : (Disk.ofInfo smallInfo).sizeMb = (Disk.ofInfo otherSmallInfo).sizeMb := rfl
  obtain ⟨d, d', -, hselected, hiff⟩ :=
    @smallest_pair_iff (raidRequest [largeInfo, smallInfo, otherSmallInfo])
      (jobFields raidJob) (by decide)
      ⟨_, _, hpair, hsize⟩
  exact ⟨d, d', hselected, (hiff.mpr ⟨_, _, hpair, hsize, hleast⟩).1⟩

/-- One small disk and two large ones: the array is made of the small one and a large one. -/
theorem odd_disk_selected :
    chosenDisks (raidRequest [largeInfo, otherLargeInfo, smallInfo]) (jobFields raidJob) =
      some ⟨.userDataRaid, "vda".toList, "vda".toList, "vdd".toList, "vdd".toList⟩ ∧
    (selectedDisks (isRaid (jobFields raidJob)) [largeInfo, otherLargeInfo, smallInfo]).map
      Disk.sizeMb =
      [228936, 915715] ∧
    List.Subperm [Disk.ofInfo largeInfo, Disk.ofInfo otherLargeInfo]
      (validDisks [largeInfo, otherLargeInfo, smallInfo]) ∧
    (Disk.ofInfo largeInfo).sizeMb = (Disk.ofInfo otherLargeInfo).sizeMb := by
  decide

/-- The link of `/dev/disk/by-id` that names the device. -/
def link? (node : Node) (d : Device) : Option Str :=
  ((node.byId.find? fun link => link.2 = d.name).map Prod.fst).filter (· ≠ [])

def withoutBlanks (text : Str) : Str := text.filter (· ≠ ' ')

/-- What the storage section is given as the serial number of a device. -/
def identity (node : Node) (d : Device) : Str :=
  match link? node d with
  | some link => withoutBlanks link
  | none => withoutBlanks (orUnknown d.model) ++ '_' :: withoutBlanks (orUnknown d.serial)

theorem replace_blank (text : Str) : replace " " [] text = withoutBlanks text := by
  induction text with
  | nil => rfl
  | cons c text ih =>
    by_cases hc : c = ' '
    · have hself := @replace_append_self [' '] [] (List.cons_ne_nil _ _) text
      rw [hc, withoutBlanks, List.filter_cons_of_neg (by decide), ← withoutBlanks, ← ih]
      exact hself
    · have hother :=
        @replace_append_cons [' '] [] [] text c (List.cons_ne_nil _ _) (by simpa using hc)
      rw [withoutBlanks, List.filter_cons_of_pos (by simpa using hc), ← withoutBlanks, ← ih]
      exact hother

theorem withoutBlanks_fallback (model serial : Str) :
    withoutBlanks (model ++ ("_" : Str) ++ serial) = withoutBlanks model ++ '_' ::
      withoutBlanks serial := by
  have hmark : withoutBlanks "_".toList = ['_'] := by decide
  rw [withoutBlanks, List.filter_append, List.filter_append, ← withoutBlanks, ← withoutBlanks,
    ← withoutBlanks, hmark, List.append_assoc, List.singleton_append]

theorem replace_diskId (node : Node) (d : Device) : replace " " [] (diskId node d) =
    identity node d := by
  rw [replace_blank]
  unfold diskId identity link?
  cases hfind : (node.byId.find? fun link => link.2 = d.name).map Prod.fst with
  | none =>
    dsimp only [Option.getD_none, Option.filter_none]
    rw [if_pos rfl, withoutBlanks_fallback]
  | some link =>
    dsimp only [Option.getD_some]
    by_cases hlink : link = []
    · rw [if_pos hlink, Option.filter_some_neg (by simpa using hlink), withoutBlanks_fallback]
    · rw [if_neg hlink, Option.filter_some_pos (by simpa using hlink)]

/-- The model and the serial number in the place of a link. -/
def modelText (d : Device) : Str := withoutBlanks (orUnknown d.model)

def serialText (d : Device) : Str := withoutBlanks (orUnknown d.serial)

/-- The ways in which two devices get one serial number: the links, or a link and the text in the
place of one, differ in blanks only; or neither has a link, and the models and the serial numbers
are the same up to blanks, or have the same text with another mark between them. -/
inductive SharesSerial (node : Node) (d d' : Device) : Prop where
  | links {link link' : Str} (h : link? node d = some link) (h' : link? node d' = some link')
      (hne : link ≠ link') (heq : withoutBlanks link = withoutBlanks link')
  | firstLink {link : Str} (h : link? node d = some link) (h' : link? node d' = none)
      (heq : withoutBlanks link = modelText d' ++ '_' :: serialText d')
  | secondLink {link' : Str} (h : link? node d = none) (h' : link? node d' = some link')
      (heq : modelText d ++ '_' :: serialText d = withoutBlanks link')
  | equal (h : link? node d = none) (h' : link? node d' = none)
      (hmodel : modelText d = modelText d')
      (hserial : serialText d = serialText d')
  | laterMark {part : Str} (h : link? node d = none) (h' : link? node d' = none)
      (hmodel : modelText d = modelText d' ++ '_' :: part)
      (hserial : serialText d' = part ++ '_' :: serialText d)
  | earlierMark {part : Str} (h : link? node d = none) (h' : link? node d' = none)
      (hmodel : modelText d' = modelText d ++ '_' :: part)
      (hserial : serialText d = part ++ '_' :: serialText d')

/-- Two texts with a mark in them are the same in three ways. -/
theorem append_mark_eq_iff {front back front' back' : Str} :
    front ++ '_' :: back = front' ++ '_' :: back' ↔
      (front = front' ∧ back = back') ∨
        (∃ part, front = front' ++ '_' :: part ∧ back' = part ++ '_' :: back) ∨
          ∃ part, front' = front ++ '_' :: part ∧ back = part ++ '_' :: back' := by
  rw [List.append_eq_append_iff]
  constructor
  · rintro (⟨_ | ⟨c, part⟩, hfront, hback⟩ | ⟨_ | ⟨c, part⟩, hfront, hback⟩)
    · exact Or.inl ⟨by simpa using hfront.symm, (List.cons.inj hback).2⟩
    · obtain ⟨rfl, hrest⟩ := List.cons.inj hback
      exact Or.inr (Or.inr ⟨part, hfront, hrest⟩)
    · exact Or.inl ⟨by simpa using hfront, (List.cons.inj hback).2.symm⟩
    · obtain ⟨rfl, hrest⟩ := List.cons.inj hback
      exact Or.inr (Or.inl ⟨part, hfront, hrest⟩)
  · rintro (⟨rfl, rfl⟩ | ⟨part, rfl, rfl⟩ | ⟨part, rfl, rfl⟩)
    · exact Or.inl ⟨[], (List.append_nil _).symm, rfl⟩
    · exact Or.inr ⟨'_' :: part, rfl, rfl⟩
    · exact Or.inl ⟨'_' :: part, rfl, rfl⟩

theorem mem_of_link? {node : Node} {d : Device} {link : Str} (h : link? node d = some link) :
    (link, d.name) ∈ node.byId := by
  obtain ⟨⟨found, target⟩, hfind, rfl⟩ :=
    Option.map_eq_some_iff.mp (Option.filter_eq_some_iff.mp h).1
  have htarget := List.find?_some hfind
  rw [decide_eq_true_eq] at htarget
  exact htarget ▸ List.mem_of_find?_eq_some hfind

/-- A link names one device. -/
theorem link_ne {node : Node} (hlinks : (node.byId.map Prod.fst).Nodup) {d d' : Device}
    (hname : d.name ≠ d'.name) {link link' : Str} (h : link? node d = some link)
    (h' : link? node d' = some link') : link ≠ link' := by
  intro heq
  have hsame := List.inj_on_of_nodup_map hlinks (mem_of_link? h) (mem_of_link? h') heq
  exact hname (Prod.mk.inj hsame).2

theorem identity_eq_iff {node : Node} (hlinks : (node.byId.map Prod.fst).Nodup) {d d' : Device}
    (hname : d.name ≠ d'.name) : identity node d = identity node d' ↔ SharesSerial node d d' := by
  cases h : link? node d with
  | some link =>
    cases h' : link? node d' with
    | some link' =>
      simp only [identity, h, h']
      refine ⟨fun heq => .links h h' (link_ne hlinks hname h h') heq, fun hshares => ?_⟩
      cases hshares <;> simp_all
    | none =>
      simp only [identity, h, h']
      refine ⟨fun heq => .firstLink h h' heq, fun hshares => ?_⟩
      cases hshares <;> simp_all [modelText, serialText]
  | none =>
    cases h' : link? node d' with
    | some link' =>
      simp only [identity, h, h']
      refine ⟨fun heq => .secondLink h h' heq, fun hshares => ?_⟩
      cases hshares <;> simp_all [modelText, serialText]
    | none =>
      simp only [identity, h, h', append_mark_eq_iff]
      constructor
      · rintro (⟨hmodel, hserial⟩ | ⟨part, hmodel, hserial⟩ | ⟨part, hmodel, hserial⟩)
        · exact .equal h h' hmodel hserial
        · exact .laterMark h h' hmodel hserial
        · exact .earlierMark h h' hmodel hserial
      · intro hshares
        cases hshares with
        | links hlink => simp [h] at hlink
        | firstLink hlink => simp [h] at hlink
        | secondLink _ hlink => simp [h'] at hlink
        | equal _ _ hmodel hserial => exact Or.inl ⟨hmodel, hserial⟩
        | laterMark _ _ hmodel hserial => exact Or.inr (Or.inl ⟨_, hmodel, hserial⟩)
        | earlierMark _ _ hmodel hserial => exact Or.inr (Or.inr ⟨_, hmodel, hserial⟩)

/-- The size that is reported, in MiB; a script that cannot read it ends. -/
def reportedMb (d : Device) : ℤ := ((sizeKb d).map fun kb => ((kb / 2048 : ℕ) : ℤ)).getD 0

/-- A device as the handler sees it. -/
def deviceDisk (node : Node) (d : Device) : Disk := ⟨d.name, identity node d, reportedMb d⟩

/-- The devices that are reported and that the filter keeps. -/
def validDevices (node : Node) : List Device :=
  ((blockDirs node).filter isReported).filter fun d => (deviceDisk node d).isValid

/-- What `init` reports of a node: the names, the ids and the sizes of its devices, in their
order. -/
def ReportedBy (node : Node) (uuids : List DiskInfo) : Prop :=
  uuids.map (fun d => (d.dev.val, d.id.val, some d.sizeMb.val)) =
    ((blockDirs node).filter isReported).map fun d =>
      (d.name, diskId node d, (sizeKb d).map fun kb => ((kb / 2048 : ℕ) : ℤ))

theorem ReportedBy.sortedDisks {node : Node} {uuids : List DiskInfo} (h : ReportedBy node uuids) :
    sortedDisks uuids = (sortBy reportedMb (validDevices node)).map (deviceDisk node) := by
  have hdisks : uuids.map Disk.ofInfo =
      ((blockDirs node).filter isReported).map (deviceDisk node) := by
    have hread := congrArg (List.map fun (d : Str × Str × Option ℤ) =>
      Disk.mk d.1 (replace " " [] d.2.1) (d.2.2.getD 0)) h
    rw [List.map_map, List.map_map] at hread
    refine hread.trans (List.map_congr_left fun d _ => ?_)
    simp only [Function.comp_apply, deviceDisk, replace_diskId, reportedMb]
  rw [sortedDisks_eq, validDisks, hdisks]
  exact (map_sortBy_filter (fun _ => rfl) (fun _ => rfl) _).symm

/-- The two disks of an array have different names. They have one serial number exactly when the
two smallest valid devices in MiB, those that come first, share it. -/
theorem raid_members_iff {request : PhoneHomeRequest} {jobData : Fields} {disks : DiskChoice}
    {node : Node} (hreport : ReportedBy node request.uuids)
    (hnames : (((blockDirs node).filter isReported).map Device.name).Nodup)
    (hlinks : (node.byId.map Prod.fst).Nodup)
    (hchoice : chosenDisks request jobData = some disks)
    (hraid : disks.templateName = .userDataRaid) :
    disks.dev₀ ≠ disks.dev₁ ∧
      (disks.serial₀ = disks.serial₁ ↔
        ∃ d d', AreFirstTwo reportedMb (validDevices node) d d' ∧ SharesSerial node d d') := by
  obtain ⟨e, e', rest, hsorted, rfl⟩ := chooseDisks_raid hchoice hraid
  rw [hreport.sortedDisks] at hsorted
  obtain ⟨d, ds, hds, rfl, hmore⟩ := List.map_eq_cons_iff.mp hsorted
  obtain ⟨d', rest', rfl, rfl, -⟩ := List.map_eq_cons_iff.mp hmore
  have hname : d.name ≠ d'.name := by
    have hnodup : ((sortBy reportedMb (validDevices node)).map Device.name).Nodup := by
      rw [((perm_sortBy _).map Device.name).nodup_iff]
      exact hnames.sublist (List.filter_sublist.map Device.name)
    rw [hds, List.map_cons, List.map_cons, List.nodup_cons] at hnodup
    exact fun heq => hnodup.1 (heq ▸ List.mem_cons_self)
  refine ⟨hname, ?_⟩
  rw [exists_areFirstTwo_iff hds]
  exact identity_eq_iff hlinks hname

/-- One disk with a link and one without. -/
def mixedNode : Node where
  devices := [⟨"vda", 468862128, none, [], []⟩, ⟨"vdb", 468862128, none, [], "S1 2".toList⟩]
  byId := [("virtio-S1".toList, "vda".toList)]
  byId_nil h := absurd h (List.cons_ne_nil _ _)

theorem mixedNode_sorted : sortBy reportedMb (validDevices mixedNode) = mixedNode.devices := rfl

def mixedInfo : List DiskInfo :=
  [⟨smallInfo.dev, ⟨"virtio-S1".toList, by decide⟩, smallInfo.sizeMb⟩,
    ⟨otherSmallInfo.dev, ⟨"unknown_S1 2".toList, by decide⟩, otherSmallInfo.sizeMb⟩]

theorem raid_members_mixedNode :
    ∃ disks, chosenDisks (raidRequest mixedInfo) (jobFields raidJob) = some disks ∧
      disks.serial₀ ≠ disks.serial₁ := by
  have hchoice : chosenDisks (raidRequest mixedInfo) (jobFields raidJob) =
      some ⟨.userDataRaid, "virtio-S1".toList, "vda".toList, "unknown_S12".toList, "vdb".toList⟩ :=
        rfl
  have hreport : ReportedBy mixedNode (raidRequest mixedInfo).uuids := by
    unfold ReportedBy
    rfl
  have hiff := (raid_members_iff hreport (by decide) (by decide) hchoice rfl).2
  refine ⟨_, hchoice, fun heq => ?_⟩
  obtain ⟨d, d', hfirst, hshares⟩ := hiff.mp heq
  obtain ⟨rest, hsorted⟩ := areFirstTwo_iff.mp hfirst
  obtain ⟨rfl, hmore⟩ := List.cons.inj (hsorted.symm.trans mixedNode_sorted)
  obtain ⟨rfl, -⟩ := List.cons.inj hmore
  cases hshares with
  | links _ h' => cases h'
  | firstLink h _ heq =>
    obtain rfl := Option.some.inj h
    exact absurd heq (by decide)
  | secondLink h => cases h
  | equal h => cases h
  | laterMark h => cases h
  | earlierMark h => cases h

/-- Two disks without a link, a model or a serial number. -/
def plainNode : Node where
  devices := [⟨"vda", 468862128, none, [], []⟩, ⟨"vdb", 468862128, none, [], []⟩]
  byId := []
  byId_nil _ := rfl

def plainRequest : PhoneHomeRequest :=
  raidRequest [⟨smallInfo.dev, ⟨"unknown_unknown".toList, by decide⟩, smallInfo.sizeMb⟩,
    ⟨otherSmallInfo.dev, ⟨"unknown_unknown".toList, by decide⟩, otherSmallInfo.sizeMb⟩]

/-- Both match rules of the storage section name the same serial number. -/
theorem unnamed_disks_share_serial :
    phoneHomeRequest CustomIsoHandler.exampleSite
      (some (report plainNode "node-r" "SN-21" "01-52-54-00-21-21-21")) = some plainRequest ∧
    ReportedBy plainNode plainRequest.uuids ∧
    chosenDisks plainRequest (jobFields raidJob) =
      some ⟨.userDataRaid, "unknown_unknown".toList, "vda".toList, "unknown_unknown".toList,
        "vdb".toList⟩ := by
  refine ⟨rfl, ?_, ?_⟩
  · unfold ReportedBy
    rfl
  · rfl

end Astro.DiskSelection
