import Astro.YamlScalars

/-!
# Block collections of plain scalars

The part of YAML that is written by indentation alone: nested block mappings and block
sequences whose keys and leaves are plain scalars on one line, and comment lines. Everything
else is refused. Plain scalars are kept as the texts they are.
-/

namespace Astro.YamlBlocks

open PythonText YamlScalars

/-- A character that can stand inside a line. -/
def isInline (c : Char) : Bool := isPrintable c && !isBreak c

/-- A character with `p` stands directly before one with `q`. -/
def adjacent (p q : Char → Bool) : Str → Bool
  | a :: b :: text => (p a && q b) || adjacent p q (b :: text)
  | _ => false

/-- The characters that start something else than a plain scalar. -/
def indicators : Str := ",[]\x7b\x7d#&*!|>'\"%@\x60"

/-- A plain scalar can start here; three indicators start one when no blank follows them. -/
def startsPlain : Str → Bool
  | [] => false
  | c :: rest =>
    if c = '-' ∨ c = '?' ∨ c = ':' then rest.head?.any (!isBlank ·) else !isBlank c &&
      c ∉ indicators

/-- Nothing in the text ends the scalar early: no value indicator and no comment. -/
def isPlain (text : Str) : Bool :=
  text.all isInline && !adjacent (· = ':') isBlank text && !adjacent isBlank (· = '#') text &&
    !text.getLast?.any isBlank

/-- A key before its colon. A longer one is not recognised as a key. -/
def isPlainKey (key : Str) : Bool := startsPlain (key ++ [':']) && isPlain key && key.length ≤ 1024

/-- A leaf. With a colon at the end of the line it would be a key. -/
def isPlainScalar (text : Str) : Bool :=
  startsPlain text && isPlain text && text.getLast? ≠ some ':'

structure Line where
  indent : ℕ
  content : Str

def lineOf (text : Str) : Line := ⟨(text.takeWhile (· = ' ')).length, text.dropWhile (· = ' ')⟩

/-- An empty line or a comment. -/
def Line.isVoid (line : Line) : Bool := line.content = [] || line.content.head? = some '#'

def linesOf (text : Str) : List Line := ((split '\n' text).map lineOf).filter (!·.isVoid)

/-- The text before the first colon that ends a key, and what follows that colon. -/
def splitKey : Str → Option (Str × Str)
  | [] => none
  | c :: text =>
    if c = ':' ∧ text.head?.all isBlank = true then some ([], text)
    else (splitKey text).map fun found => (c :: found.1, found.2)

inductive Shape where
  /-- `- rest`, with the column of the rest counted from the dash. -/
  | entry (column : ℕ) (rest : Str)
  | field (key value : Str)
  | text (text : Str)

def isEntry (content : Str) : Bool := content = ['-'] || ("- " : Str).isPrefixOf content

def shape (content : Str) : Option Shape :=
  if isEntry content then
    some (.entry (1 + (content.tail.takeWhile (· = ' ')).length) (content.tail.dropWhile (· = ' ')))
  else match splitKey content with
    | some (key, value) =>
      if isPlainKey key then some (.field key (value.dropWhile isBlank)) else none
    | none => if isPlainScalar content then some (.text content) else none

inductive Yaml where
  | null
  | scalar (text : Str)
  | seq (items : List Yaml)
  | map (entries : List (Str × Yaml))

/-- The lines that are not nested, each with the nested lines behind it; before them, the nested
lines that come first. -/
def groups (nested : Line → Bool) : List Line → List Line × List (Line × List Line)
  | [] => ([], [])
  | line :: lines =>
    if nested line then (line :: (groups nested lines).1, (groups nested lines).2)
    else ([], (line, (groups nested lines).1) :: (groups nested lines).2)

/-- The line belongs to the item that starts at column `n`. -/
def inItem (n : ℕ) (line : Line) : Bool := n < line.indent

/-- The line belongs to the field at column `n`; a sequence need not be indented. -/
def inField (n : ℕ) (line : Line) : Bool :=
  n < line.indent || (line.indent = n && isEntry line.content)

def readScalar (text : Str) : Option Yaml :=
  if isPlainScalar text then some (.scalar text) else none

def readItem (read : List Line → Option Yaml) (n : ℕ) (group : Line × List Line) : Option Yaml :=
  match shape group.1.content with
  | some (.entry column rest) =>
    if group.1.indent = n then read
      (if rest = [] then group.2 else ⟨n + column, rest⟩ :: group.2) else none
  | _ => none

def readField (read : List Line → Option Yaml) (n : ℕ) (group : Line × List Line) :
    Option (Str × Yaml) :=
  match shape group.1.content with
  | some (.field key value) =>
    if group.1.indent = n then
      (if value = [] then read group.2 else if group.2.isEmpty then readScalar value else none).map
        (key, ·)
    else none
  | _ => none

/-- The value that a block of lines stands for; `depth` bounds the nesting. -/
def readNode : ℕ → List Line → Option Yaml
  | 0, _ => none
  | _ + 1, [] => some .null
  | depth + 1, line :: lines =>
    match shape line.content with
    | none => none
    | some (.text text) => if lines.isEmpty then some (.scalar text) else none
    | some (.entry _ _) =>
      ((groups (inItem line.indent) (line :: lines)).2.mapM
        (readItem (readNode depth) line.indent)).map .seq
    | some (.field _ _) =>
      ((groups (inField line.indent) (line :: lines)).2.mapM
        (readField (readNode depth) line.indent)).map .map

/-- A text with one document. -/
def readYaml (text : Str) : Option Yaml :=
  if text.all (fun c => isInline c || c = '\n') &&
      !(linesOf text).any (fun line => line.indent = 0 && startsMarker line.content)
  then readNode (text.length + 1) (linesOf text) else none

section Traversal
variable {α β : Type} {f : α → Option β}

theorem mem_of_mapM {l : List α} {results : List β} (h : l.mapM f = some results) {b : β}
    (hb : b ∈ results) : ∃ a ∈ l, f a = some b := by
  induction l generalizing results with
  | nil =>
    cases h
    cases hb
  | cons a l ih =>
    rw [List.mapM_cons] at h
    obtain ⟨first, hfirst, h⟩ := Option.bind_eq_some_iff.mp h
    obtain ⟨rest, hrest, h⟩ := Option.bind_eq_some_iff.mp h
    obtain rfl : first :: rest = results := Option.some.inj h
    rcases List.mem_cons.mp hb with rfl | hb
    · exact ⟨a, List.mem_cons_self, hfirst⟩
    · obtain ⟨a', ha', hfound⟩ := ih hrest hb
      exact ⟨a', List.mem_cons_of_mem a ha', hfound⟩

theorem mapM_map_eq_some {γ : Type} {g : γ → α} {result : γ → β} {l : List γ}
    (h : ∀ a ∈ l, f (g a) = some (result a)) : (l.map g).mapM f = some (l.map result) := by
  induction l with
  | nil => rfl
  | cons a l ih =>
    obtain ⟨ha, hl⟩ := List.forall_mem_cons.mp h
    simp [List.mapM_cons, ha, ih hl]

end Traversal

/-- All keys and leaves are plain. -/
inductive AllPlain : Yaml → Prop where
  | null : AllPlain .null
  | scalar {text : Str} (h : isPlainScalar text = true) : AllPlain (.scalar text)
  | seq {items : List Yaml} (h : ∀ item ∈ items, AllPlain item) : AllPlain (.seq items)
  | map {entries : List (Str × Yaml)} (hkeys : ∀ e ∈ entries, isPlainKey e.1 = true)
      (hvalues : ∀ e ∈ entries, AllPlain e.2) : AllPlain (.map entries)

theorem AllPlain.of_seq {items : List Yaml} (h : AllPlain (.seq items)) : ∀ item ∈ items,
    AllPlain item := by
  cases h with
  | seq h => exact h

theorem AllPlain.of_map {entries : List (Str × Yaml)} (h : AllPlain (.map entries)) {e : Str × Yaml}
    (he : e ∈ entries) : isPlainKey e.1 = true ∧ AllPlain e.2 := by
  cases h with
  | map hkeys hvalues => exact ⟨hkeys e he, hvalues e he⟩

theorem AllPlain.of_scalar {text : Str} (h : AllPlain (.scalar text)) :
    isPlainScalar text = true := by
  cases h with
  | scalar h => exact h

theorem shape_cases {content : Str} {s : Shape} (h : shape content = some s) :
    (∃ column rest, s = .entry column rest) ∨
      (∃ key value, s = .field key value ∧ isPlainKey key = true) ∨
      s = .text content ∧ isPlainScalar content = true := by
  unfold shape at h
  by_cases hentry : isEntry content = true
  · rw [if_pos hentry] at h
    exact Or.inl ⟨_, _, (Option.some.inj h).symm⟩
  · rw [if_neg hentry] at h
    cases hsplit : splitKey content with
    | some found =>
      obtain ⟨key, value⟩ := found
      simp only [hsplit] at h
      split_ifs at h with hkey
      exact Or.inr (Or.inl ⟨_, _, (Option.some.inj h).symm, hkey⟩)
    | none =>
      simp only [hsplit] at h
      split_ifs at h with hscalar
      exact Or.inr (Or.inr ⟨(Option.some.inj h).symm, hscalar⟩)

theorem isPlainKey_of_shape {content key value : Str}
    (h : shape content = some (.field key value)) :
    isPlainKey key = true := by
  rcases shape_cases h with ⟨_, _, hs⟩ | ⟨_, _, hs, hkey⟩ | ⟨hs, -⟩
  · cases hs
  · cases hs
    exact hkey
  · cases hs

theorem isPlainScalar_of_shape {content text : Str} (h : shape content = some (.text text)) :
    isPlainScalar text = true := by
  rcases shape_cases h with ⟨_, _, hs⟩ | ⟨_, _, hs, -⟩ | ⟨hs, hscalar⟩
  · cases hs
  · cases hs
  · cases hs
    exact hscalar

theorem readScalar_allPlain {text : Str} {t : Yaml} (h : readScalar text = some t) :
    AllPlain t := by
  unfold readScalar at h
  split_ifs at h with hscalar
  cases h
  exact .scalar hscalar

section Plain
variable {read : List Line → Option Yaml}
  (hread : ∀ lines t, read lines = some t → AllPlain t) {n : ℕ}
  {group : Line × List Line}
include hread

theorem readItem_allPlain {t : Yaml} (h : readItem read n group = some t) : AllPlain t := by
  unfold readItem at h
  split at h
  · split_ifs at h
    · exact hread _ _ h
    · exact hread _ _ h
  · cases h

theorem readField_allPlain {e : Str × Yaml} (h : readField read n group = some e) :
    isPlainKey e.1 = true ∧ AllPlain e.2 := by
  unfold readField at h
  split at h
  · rename_i key value hshape
    have hkey := isPlainKey_of_shape hshape
    split_ifs at h with hindent hvalue hnested
    · obtain ⟨t, ht, rfl⟩ := Option.map_eq_some_iff.mp h
      exact ⟨hkey, hread _ _ ht⟩
    · obtain ⟨t, ht, rfl⟩ := Option.map_eq_some_iff.mp h
      exact ⟨hkey, readScalar_allPlain ht⟩
    · cases h
  · cases h

end Plain

theorem readNode_allPlain (depth : ℕ) : ∀ lines t, readNode depth lines = some t → AllPlain t := by
  induction depth with
  | zero =>
    intro lines t h
    cases h
  | succ depth ih =>
    intro lines t h
    cases lines with
    | nil =>
      cases h
      exact .null
    | cons line lines =>
      rw [readNode] at h
      split at h
      · cases h
      · rename_i text hshape
        split_ifs at h
        cases h
        exact .scalar (isPlainScalar_of_shape hshape)
      · obtain ⟨items, hitems, rfl⟩ := Option.map_eq_some_iff.mp h
        refine .seq fun item hitem => ?_
        obtain ⟨group, -, hgroup⟩ := mem_of_mapM hitems hitem
        exact readItem_allPlain ih hgroup
      · obtain ⟨entries, hentries, rfl⟩ := Option.map_eq_some_iff.mp h
        have hentry : ∀ e ∈ entries, isPlainKey e.1 = true ∧ AllPlain e.2 := by
          intro e he
          obtain ⟨group, -, hgroup⟩ := mem_of_mapM hentries he
          exact readField_allPlain ih hgroup
        exact .map (fun e he => (hentry e he).1) fun e he => (hentry e he).2

theorem readYaml_allPlain {text : Str} {t : Yaml} (h : readYaml text = some t) : AllPlain t := by
  unfold readYaml at h
  split_ifs at h
  exact readNode_allPlain _ _ _ h

theorem adjacent_of_forall_not {p q : Char → Bool} {text : Str} (h : ∀ c ∈ text, q c = false) :
    adjacent p q text = false := by
  induction text with
  | nil => rfl
  | cons a text ih =>
    cases text with
    | nil => rfl
    | cons b text =>
      rw [adjacent, h b (by simp), ih fun c hc => h c (List.mem_cons_of_mem a hc), Bool.and_false,
        Bool.false_or]

theorem adjacent_colon_of_isPlain {text : Str} (h : isPlain text = true) :
    adjacent (· = ':') isBlank text = false := by
  rw [isPlain, Bool.and_eq_true, Bool.and_eq_true, Bool.and_eq_true] at h
  simpa using h.1.1.2

theorem splitKey_append {key value : Str} (hkey : adjacent (· = ':') isBlank key = false)
    (hvalue : value.head?.all isBlank = true) : splitKey (key ++ ':' :: value) =
      some (key, value) := by
  induction key with
  | nil => simp [splitKey, hvalue]
  | cons c key ih =>
    have hrest : adjacent (· = ':') isBlank key = false := by
      cases key with
      | nil => rfl
      | cons b key => exact (Bool.or_eq_false_iff.mp hkey).2
    have hnot : ¬ (c = ':' ∧ (key ++ ':' :: value).head?.all isBlank = true) := by
      rintro ⟨rfl, hblank⟩
      cases key with
      | nil =>
        have hcolon : isBlank ':' = true := hblank
        cases hcolon
      | cons b key =>
        have hb := (Bool.or_eq_false_iff.mp hkey).1
        simp at hblank hb
        rw [hblank] at hb
        cases hb
    rw [List.cons_append, splitKey, if_neg hnot, ih hrest]
    rfl

theorem splitKey_eq_none {text : Str} (h : adjacent (· = ':') isBlank text = false)
    (hlast : text.getLast? ≠ some ':') : splitKey text = none := by
  induction text with
  | nil => rfl
  | cons c text ih =>
    cases text with
    | nil =>
      have hc : c ≠ ':' := by simpa using hlast
      simp [splitKey, hc]
    | cons b text =>
      obtain ⟨hpair, htext⟩ := Bool.or_eq_false_iff.mp h
      have hnot : ¬ (c = ':' ∧ isBlank b = true) := by simpa using hpair
      rw [splitKey, if_neg (by simpa using hnot), ih htext (by simpa using hlast)]
      rfl

theorem head_of_startsPlain {text : Str} (h : startsPlain text = true) :
    text ≠ [] ∧ text.head?.any isBlank = false := by
  cases text with
  | nil => cases h
  | cons c text =>
    refine ⟨List.cons_ne_nil c text, ?_⟩
    rw [startsPlain] at h
    split_ifs at h with hspecial
    · rcases hspecial with rfl | rfl | rfl <;> rfl
    · rw [Bool.and_eq_true] at h
      simpa using h.1

theorem isEntry_of_startsPlain {text : Str} (h : startsPlain text = true) :
    isEntry text = false := by
  rcases text with _ | ⟨a, _ | ⟨b, text⟩⟩
  · cases h
  · by_cases ha : a = '-'
    · subst ha
      cases h
    · simp [isEntry, List.isPrefixOf, ha]
  · by_cases ha : a = '-'
    · subst ha
      have hb : isBlank b = false := by simpa [startsPlain] using h
      have hspace : b ≠ ' ' := by
        rintro rfl
        cases hb
      simp [isEntry, List.isPrefixOf, hspace.symm]
    · simp [isEntry, List.isPrefixOf, ha, Ne.symm ha]

theorem isEntry_key {key : Str} (h : isPlainKey key = true) (rest : Str) :
    isEntry (key ++ ':' :: rest) = false := by
  have hstart : startsPlain (key ++ [':']) = true := by
    rw [isPlainKey, Bool.and_eq_true, Bool.and_eq_true] at h
    exact h.1.1
  apply isEntry_of_startsPlain
  rcases key with _ | ⟨a, _ | ⟨b, key⟩⟩
  · cases hstart
  · exact hstart
  · exact hstart

theorem shape_key {key : Str} (h : isPlainKey key = true) {value : Str}
    (hvalue : value.head?.all isBlank = true) :
    shape (key ++ ':' :: value) = some (.field key (value.dropWhile isBlank)) := by
  have hplain : isPlain key = true := by
    rw [isPlainKey, Bool.and_eq_true, Bool.and_eq_true] at h
    exact h.1.2
  rw [shape, isEntry_key h, if_neg Bool.false_ne_true,
    splitKey_append (adjacent_colon_of_isPlain hplain) hvalue]
  dsimp only
  rw [if_pos h]

theorem shape_entry {rest : Str} (h : rest.head? ≠ some ' ') :
    shape ('-' :: ' ' :: rest) = some (.entry 2 rest) := by
  have hrest : rest.takeWhile (· = ' ') = [] ∧ rest.dropWhile (· = ' ') = rest := by
    cases rest with
    | nil => exact ⟨rfl, rfl⟩
    | cons c rest =>
      have hc : ¬ c = ' ' := by simpa using h
      simp [hc]
  simp [shape, isEntry, List.isPrefixOf, hrest]

/-- The first lines of the items or fields of a block, each with the lines nested in it. -/
def blockLines (blocks : List (Line × List Line)) : List Line := blocks.flatMap fun b => b.1 :: b.2

theorem groups_append {nested : Line → Bool} {front lines : List Line}
    (h : ∀ line ∈ front, nested line = true) :
    groups nested (front ++ lines) =
      (front ++ (groups nested lines).1, (groups nested lines).2) := by
  induction front with
  | nil => rfl
  | cons line front ih =>
    obtain ⟨hline, hfront⟩ := List.forall_mem_cons.mp h
    rw [List.cons_append, groups, if_pos hline, ih hfront]
    rfl

theorem groups_blockLines {nested : Line → Bool} {blocks : List (Line × List Line)}
    (h : ∀ b ∈ blocks, nested b.1 = false ∧ ∀ line ∈ b.2, nested line = true) :
    groups nested (blockLines blocks) = ([], blocks) := by
  induction blocks with
  | nil => rfl
  | cons b blocks ih =>
    obtain ⟨⟨hhead, hnested⟩, hblocks⟩ := List.forall_mem_cons.mp h
    have hsplit : blockLines (b :: blocks) = b.1 :: (b.2 ++ blockLines blocks) := rfl
    rw [hsplit, groups, if_neg (by rw [hhead]; exact Bool.false_ne_true),
      groups_append hnested, ih hblocks, List.append_nil]

structure IsItem (n : ℕ) (b : Line × List Line) : Prop where
  indent : b.1.indent = n
  entry : isEntry b.1.content = true
  nested : ∀ line ∈ b.2, inItem n line = true

structure IsField (n : ℕ) (b : Line × List Line) : Prop where
  indent : b.1.indent = n
  notEntry : isEntry b.1.content = false
  field : ∃ key value, shape b.1.content = some (.field key value)
  nested : ∀ line ∈ b.2, inField n line = true

theorem mem_blockLines {line : Line} {blocks : List (Line × List Line)} :
    line ∈ blockLines blocks ↔ ∃ b ∈ blocks, line = b.1 ∨ line ∈ b.2 := by
  simp only [blockLines, List.mem_flatMap, List.mem_cons]

section Nesting
variable {m n : ℕ} {blocks : List (Line × List Line)}

/-- A sequence stands at the column of its key or behind it. -/
theorem inField_of_items (h : ∀ b ∈ blocks, IsItem n b) (hm : m ≤ n) :
    ∀ line ∈ blockLines blocks, inField m line = true := by
  intro line hline
  obtain ⟨b, hb, hline⟩ := mem_blockLines.mp hline
  rw [inField, Bool.or_eq_true, Bool.and_eq_true, decide_eq_true_eq, decide_eq_true_eq]
  rcases hline with rfl | hline
  · rw [(h b hb).indent, (h b hb).entry]
    rcases Nat.lt_or_eq_of_le hm with hm | rfl
    · exact Or.inl hm
    · exact Or.inr ⟨rfl, rfl⟩
  · have hdeeper : n < line.indent := of_decide_eq_true ((h b hb).nested line hline)
    exact Or.inl (by omega)

theorem lt_indent_of_fields (h : ∀ b ∈ blocks, IsField n b) (hm : m < n) :
    ∀ line ∈ blockLines blocks, m < line.indent := by
  intro line hline
  obtain ⟨b, hb, hline⟩ := mem_blockLines.mp hline
  rcases hline with rfl | hline
  · rw [(h b hb).indent]
    exact hm
  · have hnested := (h b hb).nested line hline
    rw [inField, Bool.or_eq_true, Bool.and_eq_true, decide_eq_true_eq, decide_eq_true_eq] at hnested
    omega

/-- A mapping stands behind its key. -/
theorem inField_of_fields (h : ∀ b ∈ blocks, IsField n b) (hm : m < n) :
    ∀ line ∈ blockLines blocks, inField m line = true := by
  intro line hline
  rw [inField, Bool.or_eq_true]
  exact Or.inl (decide_eq_true (lt_indent_of_fields h hm line hline))

theorem inItem_of_fields (h : ∀ b ∈ blocks, IsField n b) (hm : m < n) :
    ∀ line ∈ blockLines blocks, inItem m line = true :=
  fun line hline => decide_eq_true (lt_indent_of_fields h hm line hline)

end Nesting

section Blocks
variable {n : ℕ} {blocks : List (Line × List Line)} (hne : blocks ≠ []) (depth : ℕ)
include hne

theorem readNode_seq (h : ∀ b ∈ blocks, IsItem n b) : readNode (depth + 1) (blockLines blocks) =
    (blocks.mapM (readItem (readNode depth) n)).map .seq := by
  have hgroups : groups (inItem n) (blockLines blocks) = ([], blocks) := by
    apply groups_blockLines
    intro b hb
    refine ⟨?_, (h b hb).nested⟩
    rw [inItem, (h b hb).indent]
    exact decide_eq_false (Nat.lt_irrefl n)
  obtain ⟨b, rest, rfl⟩ := List.exists_cons_of_ne_nil hne
  have hb := h b List.mem_cons_self
  have hshape : ∃ column rest, shape b.1.content = some (.entry column rest) := by
    rw [shape, if_pos hb.entry]
    exact ⟨_, _, rfl⟩
  obtain ⟨column, text, hshape⟩ := hshape
  have hlines : blockLines (b :: rest) = b.1 :: (b.2 ++ blockLines rest) := rfl
  rw [hlines] at hgroups ⊢
  rw [readNode, hshape]
  dsimp only
  rw [hb.indent, hgroups]

theorem readNode_map (h : ∀ b ∈ blocks, IsField n b) : readNode (depth + 1) (blockLines blocks) =
    (blocks.mapM (readField (readNode depth) n)).map .map := by
  have hgroups : groups (inField n) (blockLines blocks) = ([], blocks) := by
    apply groups_blockLines
    intro b hb
    refine ⟨?_, (h b hb).nested⟩
    rw [inField, (h b hb).indent, (h b hb).notEntry, Bool.and_false, Bool.or_false]
    exact decide_eq_false (Nat.lt_irrefl n)
  obtain ⟨b, rest, rfl⟩ := List.exists_cons_of_ne_nil hne
  have hb := h b List.mem_cons_self
  obtain ⟨key, value, hshape⟩ := hb.field
  have hlines : blockLines (b :: rest) = b.1 :: (b.2 ++ blockLines rest) := rfl
  rw [hlines] at hgroups ⊢
  rw [readNode, hshape]
  dsimp only
  rw [hb.indent, hgroups]

end Blocks

/-- `- rest`, with lines that belong to the item. -/
def itemBlock (n : ℕ) (rest : Str) (nested : List Line) : Line × List Line :=
  (⟨n, '-' :: ' ' :: rest⟩, nested)

/-- `key:`, with the lines of its value. -/
def fieldBlock (n : ℕ) (key : Str) (nested : List Line) : Line × List Line :=
  (⟨n, key ++ [':']⟩, nested)

/-- `key: value`. -/
def leafBlock (n : ℕ) (key value : Str) : Line × List Line := (⟨n, key ++ ':' :: ' ' :: value⟩, [])

section Reading
variable {read : List Line → Option Yaml} {n : ℕ} {key value rest : Str} {nested : List Line}

theorem isItem_itemBlock (h : ∀ line ∈ nested, inItem n line = true) :
    IsItem n (itemBlock n rest nested) :=
  ⟨rfl, by simp [itemBlock, isEntry, List.isPrefixOf], h⟩

theorem readItem_itemBlock (hne : rest ≠ []) (hrest : rest.head? ≠ some ' ') :
    readItem read n (itemBlock n rest nested) = read (⟨n + 2, rest⟩ :: nested) := by
  rw [readItem, itemBlock, shape_entry hrest]
  dsimp only
  rw [if_pos rfl, if_neg hne]

theorem isField_fieldBlock (hkey : isPlainKey key = true)
    (h : ∀ line ∈ nested, inField n line = true) :
    IsField n (fieldBlock n key nested) :=
  ⟨rfl, isEntry_key hkey [], ⟨_, _, shape_key hkey rfl⟩, h⟩

theorem readField_fieldBlock (hkey : isPlainKey key = true) :
    readField read n (fieldBlock n key nested) = (read nested).map (key, ·) := by
  rw [readField, fieldBlock, shape_key hkey rfl]
  dsimp only [List.dropWhile]
  rw [if_pos rfl, if_pos rfl]

theorem isField_leafBlock (hkey : isPlainKey key = true) : IsField n (leafBlock n key value) :=
  ⟨rfl, isEntry_key hkey _, ⟨_, _, shape_key hkey rfl⟩, List.forall_mem_nil _⟩

theorem readField_leafBlock (hkey : isPlainKey key = true) (hne : value ≠ [])
    (hvalue : value.head?.any isBlank = false) :
    readField read n (leafBlock n key value) = (readScalar value).map (key, ·) := by
  have hdrop : (' ' :: value).dropWhile isBlank = value := by
    obtain ⟨c, value, rfl⟩ := List.exists_cons_of_ne_nil hne
    have hc : isBlank c = false := hvalue
    have hspace : isBlank ' ' = true := rfl
    simp [hspace, hc]
  rw [readField, leafBlock, shape_key hkey rfl, hdrop]
  dsimp only
  rw [if_pos rfl, if_neg hne]
  rfl

theorem readField_leaf (hkey : isPlainKey key = true) (h : isPlainScalar value = true) :
    readField read n (leafBlock n key value) = some (key, .scalar value) := by
  have hstart : startsPlain value = true := by
    rw [isPlainScalar, Bool.and_eq_true, Bool.and_eq_true] at h
    exact h.1.1
  obtain ⟨hne, hblank⟩ := head_of_startsPlain hstart
  rw [readField_leafBlock hkey hne hblank, readScalar, if_pos h]
  rfl

theorem readNode_leaf (depth : ℕ) (h : isPlainScalar rest = true) :
    readNode (depth + 1) [⟨n, rest⟩] = some (.scalar rest) := by
  have hparts := h
  rw [isPlainScalar, Bool.and_eq_true, Bool.and_eq_true, decide_eq_true_eq] at hparts
  obtain ⟨⟨hstart, hplain⟩, hlast⟩ := hparts
  have hshape : shape rest = some (.text rest) := by
    rw [shape, isEntry_of_startsPlain hstart, if_neg Bool.false_ne_true,
      splitKey_eq_none (adjacent_colon_of_isPlain hplain) hlast]
    dsimp only
    rw [if_pos h]
  rw [readNode, hshape]
  rfl

theorem readItem_leaf (depth : ℕ) (h : isPlainScalar rest = true) :
    readItem (readNode (depth + 1)) n (itemBlock n rest []) = some (.scalar rest) := by
  have hstart : startsPlain rest = true := by
    rw [isPlainScalar, Bool.and_eq_true, Bool.and_eq_true] at h
    exact h.1.1
  obtain ⟨hne, hblank⟩ := head_of_startsPlain hstart
  have hhead : rest.head? ≠ some ' ' := by
    intro hhead
    rw [hhead] at hblank
    cases hblank
  rw [readItem_itemBlock hne hhead, readNode_leaf depth h]

end Reading

def renderLine (line : Line) : Str := List.replicate line.indent ' ' ++ line.content ++ ['\n']

def render (lines : List Line) : Str := lines.flatMap renderLine

/-- The line is found again in the text. -/
structure IsWritten (line : Line) : Prop where
  ne_nil : line.content ≠ []
  inline : ∀ c ∈ line.content, isInline c = true
  head : line.content.head? ≠ some ' ' ∧ line.content.head? ≠ some '#'
  marker : line.indent = 0 → startsMarker line.content = false

theorem isWritten_item {n : ℕ} {rest : Str} (hn : n ≠ 0) (h : ∀ c ∈ rest, isInline c = true) :
    IsWritten ⟨n, '-' :: ' ' :: rest⟩ where
  ne_nil := List.cons_ne_nil _ _
  inline c hc := by
    rcases List.mem_cons.mp hc with rfl | hc
    · decide
    rcases List.mem_cons.mp hc with rfl | hc
    · decide
    · exact h c hc
  head := by simp
  marker h0 := absurd h0 hn

theorem isWritten_key {n : ℕ} {key value : Str} (hkey : isPlainKey key = true)
    (hvalue : ∀ c ∈ value, isInline c = true)
    (hn : n = 0 → startsMarker (key ++ ':' :: value) = false) :
    IsWritten ⟨n, key ++ ':' :: value⟩ := by
  rw [isPlainKey, Bool.and_eq_true, Bool.and_eq_true] at hkey
  obtain ⟨⟨hstart, hplain⟩, -⟩ := hkey
  rw [isPlain, Bool.and_eq_true, Bool.and_eq_true, Bool.and_eq_true] at hplain
  have hinline : ∀ c ∈ key, isInline c = true := List.all_eq_true.mp hplain.1.1.1
  refine ⟨by simp, fun c hc => ?_, ?_, hn⟩
  · rcases List.mem_append.mp hc with hc | hc
    · exact hinline c hc
    rcases List.mem_cons.mp hc with rfl | hc
    · decide
    · exact hvalue c hc
  · cases key with
    | nil => cases hstart
    | cons c key =>
      constructor
      · rintro ⟨⟩
        cases hstart
      · rintro ⟨⟩
        cases hstart

/-- All lines of the block are found again. -/
def BlockWritten (b : Line × List Line) : Prop := IsWritten b.1 ∧ ∀ line ∈ b.2, IsWritten line

theorem isWritten_blockLines {blocks : List (Line × List Line)} (h : ∀ b ∈ blocks, BlockWritten b) :
    ∀ line ∈ blockLines blocks, IsWritten line := by
  intro line hline
  obtain ⟨b, hb, hline⟩ := mem_blockLines.mp hline
  rcases hline with rfl | hline
  · exact (h b hb).1
  · exact (h b hb).2 line hline

theorem not_mem_of_inline {text : Str} (h : ∀ c ∈ text, isInline c = true) : '\n' ∉ text :=
  fun hmem => absurd (h '\n' hmem) (by decide)

theorem lineOf_written {line : Line} (h : IsWritten line) :
    lineOf (List.replicate line.indent ' ' ++ line.content) = line := by
  obtain ⟨n, content⟩ := line
  have hspaces : ∀ c ∈ List.replicate n ' ', decide (c = ' ') = true := by simp
  obtain ⟨c, content, rfl⟩ := List.exists_cons_of_ne_nil h.ne_nil
  have hc : ¬ c = ' ' := by simpa using h.head.1
  rw [lineOf, List.takeWhile_append_of_pos hspaces, List.dropWhile_append_of_pos hspaces]
  simp [hc]

theorem linesOf_render {lines : List Line} (h : ∀ line ∈ lines, IsWritten line) :
    linesOf (render lines) = lines := by
  induction lines with
  | nil => rfl
  | cons line lines ih =>
    obtain ⟨hline, hlines⟩ := List.forall_mem_cons.mp h
    have hfeed : '\n' ∉ List.replicate line.indent ' ' ++ line.content := by
      rw [List.mem_append, not_or]
      exact ⟨by simp, not_mem_of_inline hline.inline⟩
    have hvoid : (!line.isVoid) = true := by
      simp [Line.isVoid, hline.ne_nil, hline.head.2]
    have htext : render (line :: lines) =
        (List.replicate line.indent ' ' ++ line.content) ++ '\n' :: render lines := by
      rw [render, List.flatMap_cons, renderLine, List.append_assoc, List.singleton_append, render]
    rw [htext, linesOf, split, List.splitOn_append_cons_self, List.splitOn_eq_singleton hfeed,
      List.map_append, List.map_singleton, lineOf_written hline, List.singleton_append,
      List.filter_cons, if_pos hvoid]
    exact congrArg (line :: ·) (ih hlines)

/-- A text made of lines is read as its lines. -/
theorem readYaml_render {lines : List Line} (h : ∀ line ∈ lines, IsWritten line) :
    readYaml (render lines) = readNode ((render lines).length + 1) lines := by
  have hchars : (render lines).all (fun c => isInline c || c = '\n') = true := by
    rw [List.all_eq_true]
    intro c hc
    obtain ⟨line, hline, hc⟩ := List.mem_flatMap.mp hc
    rw [renderLine, List.mem_append, List.mem_append] at hc
    rcases hc with (hc | hc) | hc
    · rw [(List.mem_replicate.mp hc).2]
      decide
    · rw [(h line hline).inline c hc]
      rfl
    · rw [List.mem_singleton.mp hc]
      decide
  have hmarker : lines.any (fun line => line.indent = 0 && startsMarker line.content) = false := by
    rw [List.any_eq_false]
    intro line hline hboth
    rw [Bool.and_eq_true, decide_eq_true_eq] at hboth
    rw [(h line hline).marker hboth.1] at hboth
    cases hboth.2
  rw [readYaml, linesOf_render h, hchars, hmarker]
  rfl

end Astro.YamlBlocks
