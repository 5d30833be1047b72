import Astro.TemplateChunks

/-!
# When sequential substitution is simultaneous

Placeholders are texts that share a mark and are no parts of one another. For a template over
them, replacing one after the other in every order gives the simultaneous substitution exactly
when no value that is put in contains another placeholder that is then rewritten.
-/

namespace Astro.TemplateChunks

open PythonText

structure Placeholders where
  keys : List Str
  mark : Str
  isKeyChar : Char → Bool
  mark_ne_nil : mark ≠ []
  mark_infix : ∀ key ∈ keys, mark <:+: key
  isKeyChar_of_mem : ∀ key ∈ keys, ∀ c ∈ key, isKeyChar c = true
  nodup : keys.Nodup
  eq_of_infix : ∀ key ∈ keys, ∀ key' ∈ keys, key <:+: key' → key = key'

/-- The value of a key, empty if there is none. -/
def valueOf (pairs : List (Str × Str)) (key : Str) : Str :=
  ((pairs.find? fun pair => pair.1 = key).map Prod.snd).getD []

/-- The pairs after that of a key. -/
def laterPairs (pairs : List (Str × Str)) (key : Str) : List (Str × Str) :=
  (pairs.dropWhile fun pair => pair.1 ≠ key).tail

theorem exists_split {pairs : List (Str × Str)} {key : Str} (h : key ∈ pairs.map Prod.fst) :
    ∃ front, pairs = front ++ (key, valueOf pairs key) :: laterPairs pairs key ∧
      key ∉ front.map Prod.fst := by
  induction pairs with
  | nil => cases h
  | cons pair pairs ih =>
    obtain ⟨k, v⟩ := pair
    by_cases hk : k = key
    · subst hk
      refine ⟨[], ?_, List.not_mem_nil⟩
      simp [valueOf, laterPairs]
    · have hmem : key ∈ pairs.map Prod.fst := by
        rw [List.map_cons, List.mem_cons] at h
        exact h.resolve_left (Ne.symm hk)
      obtain ⟨front, hfront, hnot⟩ := ih hmem
      have hvalue : valueOf ((k, v) :: pairs) key = valueOf pairs key := by simp [valueOf, hk]
      have hlater : laterPairs ((k, v) :: pairs) key = laterPairs pairs key := by
        simp [laterPairs, hk]
      refine ⟨(k, v) :: front, ?_, ?_⟩
      · rw [hvalue, hlater, List.cons_append, ← hfront]
      · rw [List.map_cons, List.mem_cons]
        exact not_or.mpr ⟨Ne.symm hk, hnot⟩

theorem mem_of_key {pairs : List (Str × Str)} {key : Str} (h : key ∈ pairs.map Prod.fst) :
    (key, valueOf pairs key) ∈ pairs := by
  obtain ⟨front, hsplit, -⟩ := exists_split h
  have hmem : (key, valueOf pairs key) ∈ front ++ (key, valueOf pairs key) ::
      laterPairs pairs key :=
    List.mem_append_right _ List.mem_cons_self
  rwa [← hsplit] at hmem

section Nodup
variable {pairs : List (Str × Str)} (hnodup : (pairs.map Prod.fst).Nodup)
include hnodup

/-- With distinct keys, the split at a key is the only one. -/
theorem split_unique {front back : List (Str × Str)} {key value : Str}
    (h : pairs = front ++ (key, value) :: back) :
    valueOf pairs key = value ∧ laterPairs pairs key = back := by
  have hfront : ∀ pair ∈ front, pair.1 ≠ key := by
    rintro pair hpair rfl
    rw [h, List.map_append, List.map_cons] at hnodup
    exact (List.nodup_append.mp hnodup).2.2 _ (List.mem_map_of_mem hpair) _ List.mem_cons_self rfl
  subst h
  constructor
  · have hnone : front.find? (fun pair => pair.1 = key) = none :=
      List.find?_eq_none.mpr fun pair hpair => by simpa using hfront pair hpair
    rw [valueOf, List.find?_append, hnone]
    simp
  · rw [laterPairs, List.dropWhile_append_of_pos fun pair hpair => by simpa using hfront pair hpair]
    simp

theorem valueOf_of_mem {key value : Str} (h : (key, value) ∈ pairs) :
    valueOf pairs key = value := by
  obtain ⟨front, back, hsplit⟩ := List.append_of_mem h
  exact (split_unique hnodup hsplit).1

theorem valueOf_perm {pairs' : List (Str × Str)} (hperm : pairs'.Perm pairs) {key : Str}
    (h : key ∈ pairs.map Prod.fst) : valueOf pairs' key = valueOf pairs key := by
  obtain ⟨⟨key, value⟩, hmem, rfl⟩ := List.mem_map.mp h
  have hnodup' : (pairs'.map Prod.fst).Nodup := (hperm.map Prod.fst).nodup_iff.mpr hnodup
  rw [valueOf_of_mem hnodup hmem, valueOf_of_mem hnodup' (hperm.mem_iff.mpr hmem)]

theorem laterPairs_ne {key : Str} (h : key ∈ pairs.map Prod.fst) :
    ∀ pair ∈ laterPairs pairs key, pair ∈ pairs ∧ pair.1 ≠ key := by
  intro pair hpair
  obtain ⟨front, hsplit, -⟩ := exists_split h
  have hmem : pair ∈ pairs := by
    rw [hsplit]
    exact List.mem_append_right _ (List.mem_cons_of_mem _ hpair)
  refine ⟨hmem, ?_⟩
  intro heq
  rw [hsplit, List.map_append, List.map_cons] at hnodup
  exact (List.nodup_cons.mp (List.nodup_append.mp hnodup).2.1).1
    (List.mem_map.mpr ⟨pair, hpair, heq⟩)

end Nodup

/-- No value that the template takes contains another placeholder, except one that stands for
itself. -/
def Inert (pairs : List (Str × Str)) (text : Str) : Prop :=
  ∀ pair ∈ pairs, pair.1 <:+: text →
    ∀ other ∈ pairs, other.1 ≠ pair.1 → other.2 = other.1 ∨ ¬ other.1 <:+: pair.2

/-- What makes texts the keys of placeholders, as one decidable statement. -/
def AreKeys (mark : Str) (isKeyChar : Char → Bool) (keys : List Str) : Prop :=
  (∀ key ∈ keys, mark <:+: key) ∧ (∀ key ∈ keys, ∀ c ∈ key, isKeyChar c = true) ∧ keys.Nodup ∧
    ∀ key ∈ keys, ∀ key' ∈ keys, key <:+: key' → key = key'

instance (mark : Str) (isKeyChar : Char → Bool) (keys : List Str) :
    Decidable (AreKeys mark isKeyChar keys) :=
  have (key : Str) : Decidable (∀ c ∈ key, isKeyChar c = true) := List.decidableBAll _ _
  inferInstanceAs (Decidable (_ ∧ _ ∧ _ ∧ _))

def Placeholders.ofKeys {mark : Str} (hmark : mark ≠ []) {isKeyChar : Char → Bool} {keys : List Str}
    (h : AreKeys mark isKeyChar keys) : Placeholders where
  keys := keys
  mark := mark
  isKeyChar := isKeyChar
  mark_ne_nil := hmark
  mark_infix := h.1
  isKeyChar_of_mem := h.2.1
  nodup := h.2.2.1
  eq_of_infix := h.2.2.2

namespace Placeholders
variable (P : Placeholders)

/-- One value for every key, in any order. -/
def Assigns (pairs : List (Str × Str)) : Prop := (pairs.map Prod.fst).Perm P.keys

/-- Every chunk that shows the mark is a placeholder. -/
def IsTemplate (text : Str) : Prop :=
  ∀ chunk ∈ chunksOf P.isKeyChar text, P.mark <:+: chunk → chunk ∈ P.keys

instance (text : Str) : Decidable (P.IsTemplate text) := List.decidableBAll _ _

/-- What becomes of a chunk. -/
def fill (value : Str → Str) (chunk : Str) : Str := if chunk ∈ P.keys then value chunk else chunk

variable {P}

theorem fill_of_mem {chunk : Str} (h : chunk ∈ P.keys) (value : Str → Str) :
    P.fill value chunk = value chunk :=
  if_pos h

theorem fill_of_not_mem {chunk : Str} (h : chunk ∉ P.keys) (value : Str → Str) :
    P.fill value chunk = chunk :=
  if_neg h

theorem ne_nil {key : Str} (h : key ∈ P.keys) : key ≠ [] := by
  rintro rfl
  exact P.mark_ne_nil (List.infix_nil.mp (P.mark_infix [] h))

/-- A placeholder that occurs in a template is one of its chunks. -/
theorem mem_chunksOf {text key : Str} (htext : P.IsTemplate text) (hkey : key ∈ P.keys)
    (h : key <:+: text) :
    key ∈ chunksOf P.isKeyChar text := by
  obtain ⟨chunk, hchunk, hpart⟩ := exists_chunk (P.isKeyChar_of_mem key hkey) h
  have hmem : chunk ∈ P.keys := htext chunk hchunk ((P.mark_infix key hkey).trans hpart)
  rwa [P.eq_of_infix key hkey chunk hmem hpart]

theorem unmarked_of_not_mem {c : Char} (hc : c ∈ P.mark) {text : Str} (h : c ∉ text) :
    ¬ P.mark <:+: text :=
  fun hpart => h (hpart.subset hc)

theorem absent_of_unmarked {text : Str} (htext : ¬ P.mark <:+: text) : ∀ key ∈ P.keys,
    ¬ key <:+: text :=
  fun key hkey hpart => htext ((P.mark_infix key hkey).trans hpart)

section Keys
variable {pairs : List (Str × Str)} (h : ∀ pair ∈ pairs, pair.1 ∈ P.keys)
include h

theorem separates_of_keys {c : Char} (hc : P.isKeyChar c = false) : Separates c pairs := by
  intro pair hpair
  refine ⟨ne_nil (h pair hpair), fun hmem => ?_⟩
  rw [P.isKeyChar_of_mem pair.1 (h pair hpair) c hmem] at hc
  cases hc

theorem replaceAll_of_unmarked {text : Str} (htext : ¬ P.mark <:+: text) :
    replaceAll pairs text = text :=
  replaceAll_of_absent fun pair hpair => absent_of_unmarked htext pair.1 (h pair hpair)

end Keys

section Assigned
variable {pairs : List (Str × Str)} (hpairs : P.Assigns pairs)
include hpairs

theorem Assigns.nodup : (pairs.map Prod.fst).Nodup := hpairs.nodup_iff.mpr P.nodup

theorem Assigns.mem {pair : Str × Str} (h : pair ∈ pairs) : pair.1 ∈ P.keys :=
  hpairs.mem_iff.mp (List.mem_map_of_mem h)

theorem Assigns.separates {c : Char} (hc : P.isKeyChar c = false) : Separates c pairs :=
  separates_of_keys (fun _ => hpairs.mem) hc

theorem Assigns.perm {pairs' : List (Str × Str)} (hperm : pairs'.Perm pairs) : P.Assigns pairs' :=
  (hperm.map Prod.fst).trans hpairs

theorem Assigns.later {key : Str} (hkey : key ∈ P.keys) :
    ∀ pair ∈ laterPairs pairs key, pair ∈ pairs ∧ pair.1 ≠ key :=
  laterPairs_ne hpairs.nodup (hpairs.mem_iff.mpr hkey)

/-- None of the placeholders before a placeholder is a part of it. -/
theorem Assigns.split {key : Str} (hkey : key ∈ P.keys) :
    ∃ front, pairs = front ++ (key, valueOf pairs key) :: laterPairs pairs key ∧
      ∀ pair ∈ front, ¬ pair.1 <:+: key := by
  obtain ⟨front, hsplit, hfront⟩ := exists_split (hpairs.mem_iff.mpr hkey)
  refine ⟨front, hsplit, fun pair hpair hpart => ?_⟩
  have hmem : pair.1 ∈ P.keys := hpairs.mem (hsplit ▸ List.mem_append_left _ hpair)
  exact hfront (P.eq_of_infix _ hmem _ hkey hpart ▸ List.mem_map_of_mem hpair)

theorem Assigns.replaceAll_chunk {chunk : Str} (h : P.mark <:+: chunk → chunk ∈ P.keys) :
    replaceAll pairs chunk =
      P.fill (fun key => replaceAll (laterPairs pairs key) (valueOf pairs key)) chunk := by
  by_cases hkey : chunk ∈ P.keys
  · obtain ⟨front, hsplit, hbefore⟩ := hpairs.split hkey
    rw [fill_of_mem hkey]
    conv_lhs => rw [hsplit]
    exact replaceAll_append_key _ (ne_nil hkey) hbefore
  · rw [fill_of_not_mem hkey]
    exact replaceAll_of_unmarked (fun _ => hpairs.mem) (mt h hkey)

/-- A placeholder alone becomes its value, when no other is in the value. -/
theorem Assigns.replaceAll_of_mem {key value : Str} (h : (key, value) ∈ pairs)
    (hvalue : ∀ other ∈ P.keys, ¬ other <:+: value) : replaceAll pairs key = value := by
  have hkey : key ∈ P.keys := hpairs.mem h
  rw [hpairs.replaceAll_chunk fun _ => hkey, fill_of_mem hkey, valueOf_of_mem hpairs.nodup h]
  exact replaceAll_of_absent fun pair hpair =>
    hvalue pair.1 (hpairs.mem (hpairs.later hkey pair hpair).1)

/-- A line that ends with a quoted placeholder. -/
theorem Assigns.render_quoted (hquote : P.isKeyChar '"' = false) {key value front : Str}
    (h : (key, value) ∈ pairs) (hvalue : ∀ other ∈ P.keys, ¬ other <:+: value)
    (hfront : ¬ P.mark <:+: front) :
    replaceAll pairs (front ++ '"' :: (key ++ ['"'])) = front ++ '"' :: (value ++ ['"']) := by
  rw [replaceAll_append_cons (hpairs.separates hquote),
    replaceAll_append_cons (hpairs.separates hquote), hpairs.replaceAll_of_mem h hvalue,
    replaceAll_of_unmarked (fun _ => hpairs.mem) hfront, replaceAll_nil]

theorem Assigns.substitute_chunk {chunk : Str} (h : P.mark <:+: chunk → chunk ∈ P.keys) :
    substitute pairs chunk = P.fill (valueOf pairs) chunk := by
  by_cases hkey : chunk ∈ P.keys
  · obtain ⟨front, hsplit, hbefore⟩ := hpairs.split hkey
    have hnone : front.find? (fun pair => pair.1 <+: chunk) = none :=
      List.find?_eq_none.mpr fun pair hpair hstart =>
        hbefore pair hpair (List.IsPrefix.isInfix (of_decide_eq_true hstart))
    rw [fill_of_mem hkey]
    refine substitute_key (ne_nil hkey) ?_
    rw [hsplit, List.find?_append, hnone, ← hsplit]
    simp
  · rw [fill_of_not_mem hkey]
    exact substitute_of_absent fun pair hpair =>
      absent_of_unmarked (mt h hkey) pair.1 (hpairs.mem hpair)

end Assigned

section Template
variable {pairs : List (Str × Str)} (hpairs : P.Assigns pairs) {text : Str}
  (htext : P.IsTemplate text)
include hpairs htext

theorem Assigns.replaceAll_eq : replaceAll pairs text =
    rebuild (P.fill fun key => replaceAll (laterPairs pairs key) (valueOf pairs key))
      (chunks P.isKeyChar text).1 (chunks P.isKeyChar text).2 := by
  rw [eq_rebuild (fun c hc front back =>
    replaceAll_append_cons (hpairs.separates hc) front back) text]
  exact rebuild_congr fun chunk hchunk => hpairs.replaceAll_chunk (htext chunk hchunk)

theorem Assigns.substitute_eq : substitute pairs text =
    rebuild (P.fill (valueOf pairs)) (chunks P.isKeyChar text).1 (chunks P.isKeyChar text).2 := by
  rw [eq_rebuild (fun c hc front back =>
    substitute_append_cons (hpairs.separates hc) front back) text]
  exact rebuild_congr fun chunk hchunk => hpairs.substitute_chunk (htext chunk hchunk)

/-- In one order: every value that is put in survives the substitutions after its own. -/
theorem Assigns.replaceAll_eq_substitute_iff : replaceAll pairs text = substitute pairs text ↔
    ∀ key ∈ P.keys, key <:+: text →
      replaceAll (laterPairs pairs key) (valueOf pairs key) = valueOf pairs key := by
  have hcount : ∀ chunk c, P.isKeyChar c = false → (P.fill (valueOf pairs) chunk).count c ≤
      (P.fill (fun key => replaceAll (laterPairs pairs key) (valueOf pairs key)) chunk).count
          c := by
    intro chunk c hc
    unfold fill
    split_ifs with hkey
    · exact count_le_count_replaceAll
        (fun pair hpair => hpairs.separates hc pair (hpairs.later hkey pair hpair).1) _
    · exact le_rfl
  rw [hpairs.replaceAll_eq htext, hpairs.substitute_eq htext,
    rebuild_eq_iff hcount (separators text)]
  constructor
  · intro h key hkey hoccurs
    have heq := h key (mem_chunksOf htext hkey hoccurs)
    rwa [fill_of_mem hkey, fill_of_mem hkey] at heq
  · intro h chunk hchunk
    unfold fill
    split_ifs with hkey
    · exact h chunk hkey (infix_of_mem_chunksOf hchunk)
    · rfl

/-- The simultaneous substitution does not depend on the order of the pairs. -/
theorem Assigns.substitute_perm {pairs' : List (Str × Str)} (hperm : pairs'.Perm pairs) :
    substitute pairs' text = substitute pairs text := by
  have hpairs' : P.Assigns pairs' := hpairs.perm hperm
  rw [hpairs'.substitute_eq htext, hpairs.substitute_eq htext]
  refine rebuild_congr fun chunk _ => ?_
  unfold fill
  split_ifs with hkey
  · exact valueOf_perm hpairs.nodup hperm (hpairs.mem_iff.mpr hkey)
  · rfl

end Template

/-- Two pairs can be moved to the end. -/
theorem exists_perm_last {pairs : List (Str × Str)} {pair other : Str × Str} (hpair : pair ∈ pairs)
    (hother : other ∈ pairs) (hne : other ≠ pair) :
    ∃ rest, (rest ++ [pair, other]).Perm pairs := by
  have hmem : other ∈ pairs.erase pair := (List.mem_erase_of_ne hne).mpr hother
  refine ⟨(pairs.erase pair).erase other, List.perm_append_comm.trans ?_⟩
  exact (((List.perm_cons_erase hmem).symm).cons pair).trans (List.perm_cons_erase hpair).symm

theorem Assigns.simultaneous_iff {pairs : List (Str × Str)} (hpairs : P.Assigns pairs) {text : Str}
    (htext : P.IsTemplate text) :
    (∀ pairs', pairs'.Perm pairs → replaceAll pairs' text = substitute pairs text) ↔
      Inert pairs text := by
  constructor
  · intro h pair hpair hoccurs other hother hne
    -- the order in which only the other placeholder follows
    obtain ⟨rest, hperm⟩ := exists_perm_last hpair hother fun heq => hne (congrArg Prod.fst heq)
    have hpairs' : P.Assigns (rest ++ [pair, other]) := hpairs.perm hperm
    have heq : replaceAll (rest ++ [pair, other]) text = substitute (rest ++ [pair, other]) text :=
      (h _ hperm).trans (hpairs.substitute_perm htext hperm).symm
    have hvalue :=
      (hpairs'.replaceAll_eq_substitute_iff htext).mp heq pair.1 (hpairs.mem hpair) hoccurs
    obtain ⟨hval, hlater⟩ := split_unique hpairs'.nodup (rfl : rest ++ [pair, other] = _)
    rw [hval, hlater] at hvalue
    have hself : replace other.1 other.2 pair.2 = pair.2 := hvalue
    exact (replace_eq_self_iff (ne_nil (hpairs.mem hother))).mp hself
  · intro h pairs' hperm
    have hpairs' : P.Assigns pairs' := hpairs.perm hperm
    rw [← hpairs.substitute_perm htext hperm, hpairs'.replaceAll_eq_substitute_iff htext]
    intro key hkey hoccurs
    have hmem : (key, valueOf pairs' key) ∈ pairs' := mem_of_key (hpairs'.mem_iff.mpr hkey)
    refine replaceAll_eq_self fun other hother => ?_
    obtain ⟨hother', hne⟩ := hpairs'.later hkey other hother
    refine (replace_eq_self_iff (ne_nil (hpairs'.mem hother'))).mpr ?_
    exact h _ (hperm.mem_iff.mp hmem) hoccurs other (hperm.mem_iff.mp hother') hne

theorem Assigns.render_lines {pairs : List (Str × Str)} (hpairs : P.Assigns pairs)
    (hp : P.isKeyChar '\n' = false) (lines : List Str) :
    replaceAll pairs (textOfLines lines) = textOfLines (lines.map (replaceAll pairs)) := by
  have hlines := render_textOfLines (replaceAll_append_cons (hpairs.separates hp)) lines []
  rwa [replaceAll_nil, List.append_nil, List.append_nil] at hlines

/-- A rendered template has every line, rendered. -/
theorem Assigns.rendered_line {pairs : List (Str × Str)} (hpairs : P.Assigns pairs)
    (hp : P.isKeyChar '\n' = false) {lines : List Str} {line : Str} (hline : line ∈ lines)
    (last : Str) :
    replaceAll pairs line ++ ['\n'] <:+: replaceAll pairs (textOfLines lines ++ last) := by
  rw [render_textOfLines (replaceAll_append_cons (hpairs.separates hp))]
  exact (mem_textOfLines (List.mem_map_of_mem hline)).trans (List.prefix_append _ _).isInfix

theorem isTemplate_textOfLines {P : Placeholders} (hp : P.isKeyChar '\n' = false) {lines : List Str}
    (h : ∀ line ∈ lines, P.IsTemplate line) {last : Str} (hlast : P.IsTemplate last) :
    P.IsTemplate (textOfLines lines ++ last) := by
  intro chunk hchunk
  rw [chunksOf_textOfLines_append hp, List.mem_append, List.mem_flatMap] at hchunk
  rcases hchunk with ⟨line, hline, hchunk⟩ | hchunk
  · exact h line hline chunk hchunk
  · exact hlast chunk hchunk

end Placeholders

end Astro.TemplateChunks
