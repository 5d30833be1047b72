import Astro.JsonTextRoundTrip
import Mathlib.Algebra.BigOperators.Group.List.Basic
import Mathlib.Algebra.GroupWithZero.Nat

/-!
# The inventory that a node sends home

The last part of `init` walks over `/sys/block`, collects an entry for every disk and
assembles the body of the phone-home request by string concatenation. The names of block
devices stand unquoted in the commands that read their attributes.
-/

namespace Astro.NodeInventory

open PythonText JsonText

/-- A directory of `/sys/block`. `model` and `serial` are what `cat` prints for the two
attributes. `misread` is the number that `cat` prints as the size when the shell splits or
expands the unquoted name, nothing counting as 0; `none` stands for a text that is no
number, on which the arithmetic ends the script. -/
structure Device where
  name : Str
  sectors : ℕ
  misread : Option ℕ
  model : Str
  serial : Str

/-- The node: its block devices and the links of `/dev/disk/by-id`, each with the base name
of its target. Dangling links are skipped, so that a node without devices has none. -/
structure Node where
  devices : List Device
  byId : List (Str × Str)
  byId_nil : devices = [] → byId = []

/-- A name that an unquoted expansion leaves alone. -/
def IsWord (name : Str) : Prop := ∀ c ∈ name, c ∉ ([' ', '\t', '\n', '*', '?', '[', '\\'] : Str)

instance (name : Str) : Decidable (IsWord name) := List.decidableBAll _ _

/-- `SIZE_KB`, the output of `cat /sys/block/$DEV/size`. -/
def sizeKb (d : Device) : Option ℕ := if IsWord d.name then some d.sectors else d.misread

/-- The pattern `/sys/block/*` itself, which the loop runs over when nothing matches it. -/
def unmatched : Device := ⟨"*", 0, some 0, [], []⟩

def blockDirs (node : Node) : List Device := if node.devices = [] then [unmatched] else node.devices

/-- Not skipped by `case "$DEV" in loop*|ram*) continue`. -/
def isReported (d : Device) : Bool := !(("loop" : Str) <+: d.name || ("ram" : Str) <+: d.name)

/-- `${TEXT:-unknown}`. -/
def orUnknown (text : Str) : Str := if text = [] then "unknown" else text

/-- `BYID`: the first link to the device, else its model and serial number. -/
def diskId (node : Node) (d : Device) : Str :=
  let byId := ((node.byId.find? (fun link => link.2 = d.name)).map Prod.fst).getD []
  if byId = [] then orUnknown d.model ++ ("_" : Str) ++ orUnknown d.serial else byId

def entryText (dev id sizeMb : Str) : Str :=
  ("\x7b\"dev\":\"" : Str) ++ dev ++ ("\",\"id\":\"" : Str) ++ id ++ ("\",\"size_mb\":" : Str) ++
    sizeMb ++ ("\x7d" : Str)

/-- One pass of the loop, on `DISKS_JSON` and `FIRST`. -/
def appendDisk (node : Node) (state : Str × Bool) (d : Device) : Option (Str × Bool) :=
  if isReported d then do
    let kb ← sizeKb d
    let disksJson := if state.2 then state.1 else state.1 ++ (",".toList : Str)
    return (disksJson ++ entryText d.name (diskId node d) (decimal (kb / 2048)), false)
  else return state

def disksJson (node : Node) : Option Str :=
  ((blockDirs node).foldlM (appendDisk node) ("[".toList, true)).map fun r => r.1 ++ ("]" : Str)

/-- `PAYLOAD`; `none` when the script ends before it. -/
def payload (node : Node) (jobId machineSerial bootif : Str) : Option Str :=
  (disksJson node).map fun disks =>
    ("\x7b\"job_id\":\"" : Str) ++ jobId ++ ("\",\"machine_serial\":\"" : Str) ++ machineSerial ++
      ("\",\"bootif\":\"" : Str) ++ bootif ++ ("\",\"uuids\":" : Str) ++ disks ++ ("\x7d" : Str)

def diskEntry (dev id : Str) (sizeMb : ℕ) : Json :=
  .obj [("dev".toList, .str dev), ("id".toList, .str id), ("size_mb".toList, .int sizeMb)]

def phoneHomeBody (jobId machineSerial bootif : Str) (disks : List Json) : Json :=
  .obj [("job_id".toList, .str jobId), ("machine_serial".toList, .str machineSerial),
    ("bootif".toList, .str bootif), ("uuids".toList, .arr disks)]

def reported (node : Node) : List Device := node.devices.filter isReported

def trueEntry (node : Node) (d : Device) : Json :=
  diskEntry d.name (diskId node d) (d.sectors / 2048)

/-- The job, the node and one entry per reported device, in order. -/
def report (node : Node) (jobId machineSerial bootif : Str) : Json :=
  phoneHomeBody jobId machineSerial bootif ((reported node).map (trueEntry node))

private theorem compact_three (key key' key'' s s' : Str) (n : ℕ) :
    compact (.obj [(key, .str s), (key', .str s'), (key'', .int n)]) =
      '{' :: '"' :: (key ++ ['"', ':', '"']) ++ s ++ '"' :: ',' :: '"' ::
        (key' ++ ['"', ':', '"']) ++
        s' ++ '"' :: ',' :: '"' :: (key'' ++ ['"', ':']) ++ decimal n ++ ['}'] := by
  simp only [compact, compactMembers, compactInt_natCast, quoted, List.append_assoc,
    List.cons_append, List.nil_append]

theorem compact_diskEntry (dev id : Str) (sizeMb : ℕ) :
    compact (diskEntry dev id sizeMb) = entryText dev id (decimal sizeMb) :=
  compact_three "dev" "id" "size_mb" dev id sizeMb

theorem compact_phoneHomeBody (jobId machineSerial bootif : Str) (disks : List Json) :
    compact (phoneHomeBody jobId machineSerial bootif disks) =
      ("\x7b\"job_id\":\"" : Str) ++ jobId ++ ("\",\"machine_serial\":\"" : Str) ++ machineSerial ++
      ("\",\"bootif\":\"" : Str) ++ bootif ++ ("\",\"uuids\":" : Str) ++
      ('[' :: compactItems disks ++ [']']) ++ ("\x7d" : Str) := by
  simp only [phoneHomeBody, compact, compactMembers, quoted, List.append_assoc, List.cons_append,
    List.nil_append]
  rfl

/-- The entries as the script reads them. -/
def readEntry (node : Node) (d : Device) : Option Json :=
  (sizeKb d).map fun kb => diskEntry d.name (diskId node d) (kb / 2048)

def readEntries (node : Node) : List Device → Option (List Json)
  | [] => some []
  | d :: ds =>
    if isReported d then (readEntry node d).bind fun e => (readEntries node ds).map (e :: ·)
    else readEntries node ds

theorem compactItems_cons (v : Json) (vs : List Json) :
    compactItems (v :: vs) = compact v ++ if vs = [] then [] else ',' :: compactItems vs := by
  cases vs with
  | nil => rw [if_pos rfl, List.append_nil, compactItems]
  | cons v' vs => rw [compactItems, if_neg (List.cons_ne_nil _ _)]

/-- The loop from any state: a comma separates the new entries from those before them. -/
theorem foldlM_appendDisk (node : Node) (ds : List Device) (json : Str) (first : Bool) :
    ds.foldlM (appendDisk node) (json, first) = (readEntries node ds).map fun es =>
      (json ++ if es = [] then [] else (if first then [] else [',']) ++ compactItems es,
        first && es = []) := by
  induction ds generalizing json first with
  | nil => simp [readEntries]
  | cons d ds ih =>
    rw [List.foldlM_cons, readEntries]
    by_cases hd : isReported d = true
    · rw [appendDisk, if_pos hd, if_pos hd, readEntry]
      cases hkb : sizeKb d with
      | none => rfl
      | some kb =>
        change ds.foldlM (appendDisk node) ((if first then json else json ++ [',']) ++
          entryText d.name (diskId node d) (decimal (kb / 2048)), false) = _
        rw [ih, Option.map_some, Option.bind_some, Option.map_map]
        refine congrArg (fun f => Option.map f (readEntries node ds)) (funext fun es => ?_)
        simp only [Function.comp_apply, compactItems_cons, compact_diskEntry, List.cons_ne_nil,
          if_false, Bool.false_and, decide_false, Bool.and_false, Prod.mk.injEq, and_true]
        cases first <;> simp
    · rw [appendDisk, if_neg hd, if_neg hd]
      exact ih json first

theorem payload_eq (node : Node) (jobId machineSerial bootif : Str) :
    payload node jobId machineSerial bootif = (readEntries node (blockDirs node)).map fun es =>
      compact (phoneHomeBody jobId machineSerial bootif es) := by
  rw [payload, disksJson, foldlM_appendDisk, Option.map_map, Option.map_map]
  refine congrArg (fun f => Option.map f (readEntries node (blockDirs node))) (funext fun es => ?_)
  rw [Function.comp_apply, Function.comp_apply, compact_phoneHomeBody]
  have hitems : (if es = [] then [] else (if true = true then [] else [',']) ++ compactItems es) =
      compactItems es := by
    cases es with
    | nil => rw [if_pos rfl, compactItems]
    | cons e es => rw [if_neg (List.cons_ne_nil _ _), if_pos rfl, List.nil_append]
  rw [hitems]
  rfl

theorem weight_append (s t : Str) : weight (s ++ t) = weight s + weight t := List.countP_append

theorem weight_decimal (n : ℕ) : weight (decimal n) = 0 := by
  rw [weight, List.countP_eq_zero]
  intro c hc hheavy
  have hdigit := isDigit_of_mem_decimal hc
  simp only [heavy, Bool.or_eq_true, decide_eq_true_eq] at hheavy
  rcases hheavy with (rfl | rfl) | rfl <;> cases hdigit

theorem weight_entryText (dev id size : Str) :
    weight (entryText dev id size) = weight dev + weight id + weight size := by
  have hsum : ∀ a b c d : Str, weight a = 0 → weight b = 0 → weight c = 0 → weight d = 0 →
      weight (a ++ dev ++ b ++ id ++ c ++ size ++ d) = weight dev + weight id + weight size := by
    intro a b c d ha hb hc hd
    simp only [weight_append]
    omega
  exact hsum _ _ _ _ rfl rfl rfl rfl

theorem weight_diskEntry (dev id : Str) (n : ℕ) :
    weight (compact (diskEntry dev id n)) = weight dev + weight id := by
  rw [compact_diskEntry, weight_entryText, weight_decimal, Nat.add_zero]

theorem burden_diskEntry (dev id : Str) (n : ℕ) :
    burden (diskEntry dev id n) = weight dev + specials dev + (weight id + specials id) := by
  have hkeys : weight "dev".toList = 0 ∧ specials "dev".toList = 0 ∧ weight "id".toList = 0 ∧
      specials "id".toList = 0 ∧ weight "size_mb".toList = 0 ∧ specials "size_mb".toList = 0 := by
    decide
  rw [diskEntry, burden, burdenMembers, burdenMembers, burdenMembers, burdenMembers, burden, burden,
    burden, hkeys.1, hkeys.2.1, hkeys.2.2.1, hkeys.2.2.2.1, hkeys.2.2.2.2.1, hkeys.2.2.2.2.2]
  omega

theorem weight_compactItems (vs : List Json) :
    weight (compactItems vs) = (vs.map fun v => weight (compact v)).sum := by
  induction vs with
  | nil => rw [compactItems]; rfl
  | cons v vs ih =>
    rw [compactItems_cons, weight_append, List.map_cons, List.sum_cons]
    cases vs with
    | nil => rfl
    | cons v' vs =>
      rw [if_neg (List.cons_ne_nil _ _), weight_cons, ih]
      rfl

theorem burdenItems_eq_sum (vs : List Json) : burdenItems vs = (vs.map burden).sum := by
  induction vs with
  | nil => rfl
  | cons v vs ih => rw [burdenItems, ih, List.map_cons, List.sum_cons]

private theorem weight_bodyText (jobId machineSerial bootif disks : Str) :
    ∀ a b c d e : Str, weight a = 0 → weight b = 1 → weight c = 0 → weight d = 0 → weight e = 0 →
      weight (a ++ jobId ++ b ++ machineSerial ++ c ++ bootif ++ d ++
        ('[' :: disks ++ [']']) ++ e) =
        weight jobId + weight machineSerial + weight bootif + weight disks + 1 := by
  intro a b c d e ha hb hc hd he
  have hbrackets : weight ('[' :: disks ++ [']']) = weight disks := by
    rw [List.cons_append, weight_cons, weight_append]
    rfl
  simp only [weight_append, hbrackets]
  omega

theorem weight_phoneHomeBody (jobId machineSerial bootif : Str) (disks : List Json) :
    weight (compact (phoneHomeBody jobId machineSerial bootif disks)) =
      weight jobId + weight machineSerial + weight bootif +
        (disks.map fun v => weight (compact v)).sum + 1 := by
  rw [compact_phoneHomeBody, ← weight_compactItems]
  exact weight_bodyText _ _ _ _ _ _ _ _ _ rfl rfl rfl rfl rfl

theorem burden_phoneHomeBody (jobId machineSerial bootif : Str) (disks : List Json) :
    burden (phoneHomeBody jobId machineSerial bootif disks) =
      weight jobId + specials jobId + (weight machineSerial + specials machineSerial) +
        (weight bootif + specials bootif) + (disks.map burden).sum + 1 := by
  have hkeys : weight "job_id".toList = 0 ∧ specials "job_id".toList = 0 ∧
      weight "machine_serial".toList = 1 ∧ specials "machine_serial".toList = 0 ∧
      weight "bootif".toList = 0 ∧ specials "bootif".toList = 0 ∧ weight "uuids".toList = 0 ∧
      specials "uuids".toList = 0 := by decide
  obtain ⟨h₁, h₂, h₃, h₄, h₅, h₆, h₇, h₈⟩ := hkeys
  simp only [phoneHomeBody, burden, burdenMembers, burdenItems_eq_sum]
  omega

theorem readEntries_eq_some {node : Node} {ds : List Device} {es : List Json} :
    readEntries node ds = some es ↔
      List.Forall₂ (fun d e => readEntry node d = some e) (ds.filter isReported) es := by
  induction ds generalizing es with
  | nil =>
    rw [readEntries, List.filter_nil, List.forall₂_nil_left_iff, Option.some.injEq]
    exact eq_comm
  | cons d ds ih =>
    rw [readEntries]
    by_cases hd : isReported d = true
    · rw [if_pos hd, List.filter_cons_of_pos hd, List.forall₂_cons_left_iff]
      simp only [Option.bind_eq_some_iff, Option.map_eq_some_iff, ih]
      constructor
      · rintro ⟨e, he, es', hes, rfl⟩
        exact ⟨e, es', he, hes, rfl⟩
      · rintro ⟨e, es', he, hes, rfl⟩
        exact ⟨e, he, es', hes, rfl⟩
    · rw [if_neg hd, List.filter_cons_of_neg hd, ih]

section Entries
variable {node : Node} {ds : List Device} {es : List Json}

theorem sum_weight_entries
    (h : List.Forall₂ (fun d e => readEntry node d = some e) ds es) :
    (es.map fun v => weight (compact v)).sum =
      (ds.map fun d => weight d.name + weight (diskId node d)).sum := by
  induction h with
  | nil => rfl
  | cons he hes ih =>
    obtain ⟨kb, -, rfl⟩ := Option.map_eq_some_iff.mp he
    rw [List.map_cons, List.map_cons, List.sum_cons, List.sum_cons, ih, weight_diskEntry]

theorem plain_diskEntry {dev id : Str} (hdev : specials dev = 0) (hid : specials id = 0) (n : ℕ) :
    Plain (diskEntry dev id n) := by
  refine Plain.obj ?_ ?_ ?_
  · intro m hm
    simp only [List.mem_cons, List.not_mem_nil, or_false] at hm
    rcases hm with rfl | rfl | rfl <;> rfl
  · change ["dev".toList, "id".toList, "size_mb".toList].Nodup
    decide
  · intro m hm
    simp only [List.mem_cons, List.not_mem_nil, or_false] at hm
    rcases hm with rfl | rfl | rfl
    · exact Plain.str hdev
    · exact Plain.str hid
    · exact Plain.nat n

theorem plain_entries (h : List.Forall₂ (fun d e => readEntry node d = some e) ds es)
    (hplain : ∀ d ∈ ds, specials d.name = 0 ∧ specials (diskId node d) = 0) : ∀ e ∈ es,
      Plain e := by
  induction h with
  | nil => simp
  | cons he hes ih =>
    obtain ⟨kb, -, rfl⟩ := Option.map_eq_some_iff.mp he
    intro e hmem
    rcases List.mem_cons.mp hmem with rfl | hmem
    · obtain ⟨hname, hid⟩ := hplain _ List.mem_cons_self
      exact plain_diskEntry hname hid _
    · exact ih (fun d hd => hplain d (List.mem_cons_of_mem _ hd)) e hmem

end Entries

theorem plain_phoneHomeBody {jobId machineSerial bootif : Str} {disks : List Json}
    (hjob : specials jobId = 0) (hserial : specials machineSerial = 0)
    (hbootif : specials bootif = 0) (hdisks : ∀ e ∈ disks, Plain e) :
    Plain (phoneHomeBody jobId machineSerial bootif disks) := by
  refine Plain.obj ?_ ?_ ?_
  · intro m hm
    simp only [List.mem_cons, List.not_mem_nil, or_false] at hm
    rcases hm with rfl | rfl | rfl | rfl <;> rfl
  · change ["job_id".toList, "machine_serial".toList, "bootif".toList, "uuids".toList].Nodup
    decide
  · intro m hm
    simp only [List.mem_cons, List.not_mem_nil, or_false] at hm
    rcases hm with rfl | rfl | rfl | rfl
    · exact Plain.str hjob
    · exact Plain.str hserial
    · exact Plain.str hbootif
    · exact Plain.arr hdisks

theorem blockDirs_of_ne_nil {node : Node} (h : node.devices ≠ []) :
    (blockDirs node).filter isReported = reported node := by
  rw [blockDirs, if_neg h, reported]

theorem blockDirs_of_nil {node : Node} (h : node.devices = []) :
    (blockDirs node).filter isReported = [unmatched] := by
  rw [blockDirs, if_pos h]
  rfl

theorem diskId_unmatched {node : Node} (h : node.devices = []) :
    diskId node unmatched = "unknown_unknown" := by
  rw [diskId, node.byId_nil h]
  rfl

def entrySpecials (node : Node) (d : Device) : ℕ := specials d.name + specials (diskId node d)

theorem sum_weight_blockDirs (node : Node) :
    (((blockDirs node).filter isReported).map fun d => weight d.name + weight (diskId node d)).sum =
      ((reported node).map fun d => weight d.name + weight (diskId node d)).sum := by
  by_cases h : node.devices = []
  · have hreported : reported node = [] := by rw [reported, h]; rfl
    rw [blockDirs_of_nil h, hreported, List.map_cons, diskId_unmatched h]
    rfl
  · rw [blockDirs_of_ne_nil h]

theorem sum_burden_trueEntry (node : Node) :
    ((reported node).map fun d => burden (trueEntry node d)).sum =
      ((reported node).map fun d => weight d.name + weight (diskId node d)).sum +
        ((reported node).map (entrySpecials node)).sum := by
  rw [← List.sum_map_add]
  refine congrArg List.sum (List.map_congr_left fun d _ => ?_)
  rw [trueEntry, burden_diskEntry, entrySpecials]
  omega

/-- A payload that decodes to the report has nothing in it that needs an escape. -/
theorem specials_of_decodes {float : Str → FloatValue} {node : Node}
    {jobId machineSerial bootif : Str} {es : List Json}
    (hes : readEntries node (blockDirs node) = some es)
    (h : loads float (compact (phoneHomeBody jobId machineSerial bootif es)) =
      some (report node jobId machineSerial bootif)) :
    specials jobId = 0 ∧ specials machineSerial = 0 ∧ specials bootif = 0 ∧
      ∀ d ∈ reported node, specials d.name = 0 ∧ specials (diskId node d) = 0 := by
  have hbound := burden_le_weight float h
  rw [report, burden_phoneHomeBody, weight_phoneHomeBody, List.map_map,
    sum_weight_entries (readEntries_eq_some.mp hes), sum_weight_blockDirs] at hbound
  change _ + ((reported node).map fun d => burden (trueEntry node d)).sum + 1 ≤ _ at hbound
  rw [sum_burden_trueEntry] at hbound
  have hzero : ((reported node).map (entrySpecials node)).sum = 0 := by omega
  refine ⟨by omega, by omega, by omega, fun d hd => ?_⟩
  have hentry := List.sum_eq_zero_iff_forall_eq_nat.mp hzero _ (List.mem_map_of_mem hd)
  rw [entrySpecials] at hentry
  omega

/-- There is a block device, no name or id of a reported one needs an escape, and the size that
is read for it is its own. -/
structure ReportsPlainly (node : Node) : Prop where
  devices : node.devices ≠ []
  texts : ∀ d ∈ reported node, specials d.name = 0 ∧ specials (diskId node d) = 0
  sizes : ∀ d ∈ reported node, (sizeKb d).map (· / 2048) = some (d.sectors / 2048)

/-- Such a node sends its report. -/
theorem ReportsPlainly.sends {node : Node} (h : ReportsPlainly node)
    {jobId machineSerial bootif : Str} (hjob : specials jobId = 0)
    (hserial : specials machineSerial = 0) (hbootif : specials bootif = 0)
    (float : Str → FloatValue) :
    payload node jobId machineSerial bootif =
        some (compact (report node jobId machineSerial bootif)) ∧
      loads float (compact (report node jobId machineSerial bootif)) =
        some (report node jobId machineSerial bootif) := by
  have hread : List.Forall₂ (fun d e => readEntry node d = some e)
      ((blockDirs node).filter isReported) ((reported node).map (trueEntry node)) := by
    rw [blockDirs_of_ne_nil h.devices, List.forall₂_map_right_iff, List.forall₂_same]
    intro d hd
    obtain ⟨kb, hkb, hsize⟩ := Option.map_eq_some_iff.mp (h.sizes d hd)
    rw [readEntry, hkb, Option.map_some, hsize]
    rfl
  constructor
  · rw [payload_eq, readEntries_eq_some.mpr hread]
    rfl
  · have hplain := plain_entries hread (by rw [blockDirs_of_ne_nil h.devices]; exact h.texts)
    exact loads_compact float (plain_phoneHomeBody hjob hserial hbootif hplain)

/-- What the server reads. -/
theorem ReportsPlainly.decodes {node : Node} (h : ReportsPlainly node)
    {jobId machineSerial bootif : Str} (hjob : specials jobId = 0)
    (hserial : specials machineSerial = 0) (hbootif : specials bootif = 0)
    (float : Str → FloatValue) :
    (payload node jobId machineSerial bootif).bind (loads float) =
      some (report node jobId machineSerial bootif) := by
  obtain ⟨hsent, hloads⟩ := h.sends hjob hserial hbootif float
  rw [hsent, Option.bind_some, hloads]

/-- The payload is valid JSON for exactly the report of the node when there is a block
device at all, no text in it needs an escape, and the size that is read for each reported
device, whose name stands unquoted in the command, is its own. -/
theorem payload_decodes_iff (float : Str → FloatValue) (node : Node)
    (jobId machineSerial bootif : Str) :
    (∃ text, payload node jobId machineSerial bootif = some text ∧
      loads float text = some (report node jobId machineSerial bootif)) ↔
      node.devices ≠ [] ∧
      (specials jobId = 0 ∧ specials machineSerial = 0 ∧ specials bootif = 0 ∧
        ∀ d ∈ reported node, specials d.name = 0 ∧ specials (diskId node d) = 0) ∧
      ∀ d ∈ reported node, (sizeKb d).map (· / 2048) = some (d.sectors / 2048) := by
  constructor
  · rintro ⟨text, htext, hloads⟩
    rw [payload_eq, Option.map_eq_some_iff] at htext
    obtain ⟨es, hes, rfl⟩ := htext
    obtain ⟨hjob, hserial, hbootif, hentries⟩ := specials_of_decodes hes hloads
    have hread := readEntries_eq_some.mp hes
    have hall : ∀ d ∈ (blockDirs node).filter isReported,
        specials d.name = 0 ∧ specials (diskId node d) = 0 := by
      by_cases hnil : node.devices = []
      · rw [blockDirs_of_nil hnil]
        intro d hd
        rw [List.mem_singleton.mp hd, diskId_unmatched hnil]
        exact ⟨rfl, rfl⟩
      · rw [blockDirs_of_ne_nil hnil]
        exact hentries
    rw [loads_compact float (plain_phoneHomeBody hjob hserial hbootif (plain_entries hread hall)),
      Option.some.injEq] at hloads
    have htrue : es = (reported node).map (trueEntry node) := by
      simpa [report, phoneHomeBody] using hloads
    rw [htrue] at hread
    have hne : node.devices ≠ [] := by
      intro hnil
      have hreported : reported node = [] := by rw [reported, hnil]; rfl
      rw [blockDirs_of_nil hnil, hreported] at hread
      cases hread
    rw [blockDirs_of_ne_nil hne, List.forall₂_map_right_iff, List.forall₂_same] at hread
    refine ⟨hne, ⟨hjob, hserial, hbootif, hentries⟩, fun d hd => ?_⟩
    obtain ⟨kb, hkb, hentry⟩ := Option.map_eq_some_iff.mp (hread d hd)
    have hsize : ((kb / 2048 : ℕ) : ℤ) = (d.sectors / 2048 : ℕ) := by
      simpa [trueEntry, diskEntry] using hentry
    rw [hkb, Option.map_some, Int.ofNat_inj.mp hsize]
  · rintro ⟨hne, ⟨hjob, hserial, hbootif, hentries⟩, hsizes⟩
    exact ⟨_, ReportsPlainly.sends ⟨hne, hentries, hsizes⟩ hjob hserial hbootif float⟩

/-- One disk without a link, whose serial number contains a quotation mark. -/
def quotedNode : Node :=
  ⟨[⟨"sda", 2000000, none, "VIRTUAL-DISK", "9\"A"⟩], [], fun _ => rfl⟩

/-- The mark ends the text of the id: what is sent is no JSON. -/
theorem quoted_serial_breaks_payload :
    payload quotedNode "node-1" "SN-7" "01-52-54-00-12-34-56" = some
      ("\x7b\"job_id\":\"node-1\",\"machine_serial\":\"SN-7\",\"bootif\":\"01-52-54-00-12-34-56\"," ++
        "\"uuids\":[\x7b\"dev\":\"sda\",\"id\":\"VIRTUAL-DISK_9\"A\",\"size_mb\":976\x7d]\x7d").toList ∧
    ((payload quotedNode "node-1" "SN-7" "01-52-54-00-12-34-56").bind
      (loads fun _ => .nan)).isNone = true := by
  constructor
  · decide +kernel
  · decide +kernel

end Astro.NodeInventory
