import Astro.TextSubstitution
import Mathlib.Data.List.Perm.Basic

/-!
# Templates and simultaneous substitution

The characters that occur in no placeholder cut a text into chunks. In a template every
chunk is a placeholder or contains none, so that both ways of filling it in, one placeholder
after the other and all at once, can be computed chunk by chunk and compared.
-/

namespace Astro.TemplateChunks

open PythonText

/-- Scan from left to right. Where a key starts, its value is put in its place and the rest of
the key is passed over; values are not looked at. -/
def substituteFrom (pairs : List (Str × Str)) : ℕ → Str → Str
  | _, [] => []
  | skip + 1, _ :: rest => substituteFrom pairs skip rest
  | 0, c :: rest => match pairs.find? (fun pair => pair.1 <+: c :: rest) with
    | some pair => pair.2 ++ substituteFrom pairs (pair.1.length - 1) rest
    | none => c :: substituteFrom pairs 0 rest

def substitute (pairs : List (Str × Str)) (text : Str) : Str := substituteFrom pairs 0 text

section Substitute
variable {pairs : List (Str × Str)}

theorem substituteFrom_skip (skip : ℕ) (c : Char) (rest : Str) :
    substituteFrom pairs (skip + 1) (c :: rest) = substituteFrom pairs skip rest := rfl

theorem substituteFrom_hit {c : Char} {rest : Str} {pair : Str × Str}
    (h : pairs.find? (fun pair => pair.1 <+: c :: rest) = some pair) :
    substituteFrom pairs 0 (c :: rest) = pair.2 ++
      substituteFrom pairs (pair.1.length - 1) rest := by
  rw [substituteFrom, h]

theorem substituteFrom_miss {c : Char} {rest : Str}
    (h : pairs.find? (fun pair => pair.1 <+: c :: rest) = none) :
    substituteFrom pairs 0 (c :: rest) = c :: substituteFrom pairs 0 rest := by
  rw [substituteFrom, h]

theorem find?_append_cons {c : Char} (h : Separates c pairs) (front back : Str) :
    pairs.find? (fun pair => pair.1 <+: front ++ c :: back) =
      pairs.find? (fun pair => pair.1 <+: front) := by
  induction pairs with
  | nil => rfl
  | cons pair pairs ih =>
    have hhead : (pair.1 <+: front ++ c :: back) ↔ pair.1 <+: front :=
      prefix_append_cons_iff (h pair List.mem_cons_self).2
    simp only [List.find?_cons, hhead, ih fun pair hpair => h pair (List.mem_cons_of_mem _ hpair)]

theorem substituteFrom_append_cons {c : Char} (h : Separates c pairs) {front back : Str} {skip : ℕ}
    (hskip : skip ≤ front.length) :
    substituteFrom pairs skip (front ++ c :: back) =
      substituteFrom pairs skip front ++ substituteFrom pairs 0 (c :: back) := by
  induction front generalizing skip with
  | nil =>
    rw [Nat.le_zero.mp hskip]
    rfl
  | cons d front ih =>
    cases skip with
    | succ skip =>
      rw [List.cons_append, substituteFrom_skip, substituteFrom_skip]
      exact ih (Nat.le_of_succ_le_succ hskip)
    | zero =>
      have hfind := find?_append_cons h (d :: front) back
      rw [List.cons_append] at hfind ⊢
      cases hpair : pairs.find? (fun pair => pair.1 <+: d :: front) with
      | none =>
        rw [substituteFrom_miss (hfind.trans hpair), substituteFrom_miss hpair, ih (Nat.zero_le _),
          List.cons_append]
      | some pair =>
        have hprefix : pair.1 <+: d :: front := by simpa using List.find?_some hpair
        have hlength : pair.1.length - 1 ≤ front.length := by
          have := hprefix.length_le
          rw [List.length_cons] at this
          omega
        rw [substituteFrom_hit (hfind.trans hpair), substituteFrom_hit hpair, ih hlength,
          List.append_assoc]

theorem substitute_append_cons {c : Char} (h : Separates c pairs) (front back : Str) :
    substitute pairs (front ++ c :: back) = substitute pairs front ++ c ::
      substitute pairs back := by
  have hnone : pairs.find? (fun pair => pair.1 <+: c :: back) = none := by
    refine List.find?_eq_none.mpr fun pair hpair hprefix => (h pair hpair).1 ?_
    have hnil : pair.1 <+: [] :=
      (@prefix_append_cons_iff pair.1 [] back c (h pair hpair).2).mp (by simpa using hprefix)
    exact List.prefix_nil.mp hnil
  rw [substitute, substituteFrom_append_cons h (Nat.zero_le _), substituteFrom_miss hnone]
  rfl

theorem substitute_of_absent {text : Str} (h : ∀ pair ∈ pairs, ¬ pair.1 <:+: text) :
    substitute pairs text = text := by
  unfold substitute
  induction text with
  | nil => rfl
  | cons c text ih =>
    have hnone : pairs.find? (fun pair => pair.1 <+: c :: text) = none := by
      refine List.find?_eq_none.mpr fun pair hpair hprefix => h pair hpair ?_
      have hp : pair.1 <+: c :: text := by simpa using hprefix
      exact hp.isInfix
    rw [substituteFrom_miss hnone, ih fun pair hpair hpart => h pair hpair (List.infix_cons hpart)]

theorem substituteFrom_length (text : Str) : substituteFrom pairs text.length text = [] := by
  induction text with
  | nil => rfl
  | cons c text ih => exact ih

/-- A key that starts with no other one becomes its value. -/
theorem substitute_key {key value : Str} (hkey : key ≠ [])
    (hfind : pairs.find? (fun pair => pair.1 <+: key) = some (key, value)) :
    substitute pairs key = value := by
  obtain ⟨c, rest, rfl⟩ := List.exists_cons_of_ne_nil hkey
  rw [substitute, substituteFrom_hit hfind, List.length_cons, Nat.add_sub_cancel,
    substituteFrom_length, List.append_nil]

example : substitute [("ab".toList, "cd".toList), ("cd".toList, "x".toList)] "abcd" =
    ("cdx" : Str) := by
  decide

end Substitute

/-- The first chunk, and the others with the separator before each. -/
def chunks (p : Char → Bool) : Str → Str × List (Char × Str)
  | [] => ([], [])
  | c :: text =>
    if p c then (c :: (chunks p text).1, (chunks p text).2)
    else ([], (c, (chunks p text).1) :: (chunks p text).2)

def chunksOf (p : Char → Bool) (text : Str) : List Str :=
  (chunks p text).1 :: (chunks p text).2.map Prod.snd

/-- The text with every chunk replaced. -/
def rebuild (f : Str → Str) (first : Str) (more : List (Char × Str)) : Str :=
  f first ++ more.flatMap fun x => x.1 :: f x.2

theorem rebuild_nil (f : Str → Str) (first : Str) : rebuild f first [] = f first :=
  List.append_nil (f first)

theorem rebuild_cons (f : Str → Str) (first : Str) (c : Char) (chunk : Str)
    (more : List (Char × Str)) :
    rebuild f first ((c, chunk) :: more) = f first ++ c :: rebuild f chunk more := by
  rw [rebuild, rebuild, List.flatMap_cons, List.cons_append]

section Chunks
variable {p : Char → Bool}

theorem chunks_cons (c : Char) (text : Str) :
    chunks p (c :: text) = if p c then (c :: (chunks p text).1, (chunks p text).2)
      else ([], (c, (chunks p text).1) :: (chunks p text).2) := rfl

theorem rebuild_chunks (text : Str) : rebuild id (chunks p text).1 (chunks p text).2 = text := by
  induction text with
  | nil => rfl
  | cons c text ih =>
    rw [chunks_cons]
    split_ifs
    · exact congrArg (List.cons c) ih
    · rw [rebuild_cons, ih]
      rfl

theorem separators (text : Str) : ∀ x ∈ (chunks p text).2, p x.1 = false := by
  induction text with
  | nil => exact fun _ hx => by cases hx
  | cons c text ih =>
    rw [chunks_cons]
    split_ifs with hc
    · exact ih
    · exact List.forall_mem_cons.mpr ⟨Bool.not_eq_true _ ▸ hc, ih⟩

/-- What a renderer does that treats the two sides of a separator on their own. -/
theorem eq_rebuild {render : Str → Str}
    (h : ∀ c, p c = false → ∀ front back, render (front ++ c :: back) = render front ++ c ::
      render back)
    (text : Str) : render text = rebuild render (chunks p text).1 (chunks p text).2 := by
  have hgeneral : ∀ (more : List (Char × Str)) (first : Str), (∀ x ∈ more, p x.1 = false) →
      render (rebuild id first more) = rebuild render first more := by
    intro more
    induction more with
    | nil =>
      intro first _
      rw [rebuild_nil, rebuild_nil, id]
    | cons x more ih =>
      intro first hmore
      obtain ⟨c, chunk⟩ := x
      obtain ⟨hc, htail⟩ := List.forall_mem_cons.mp hmore
      rw [rebuild_cons, rebuild_cons, h c hc, ih chunk htail]
      rfl
  have htext := hgeneral (chunks p text).2 (chunks p text).1 (separators text)
  rwa [rebuild_chunks] at htext

theorem rebuild_congr {f g : Str → Str} {first : Str} {more : List (Char × Str)}
    (h : ∀ chunk ∈ first :: more.map Prod.snd, f chunk = g chunk) :
    rebuild f first more = rebuild g first more := by
  induction more generalizing first with
  | nil =>
    rw [rebuild_nil, rebuild_nil, h first List.mem_cons_self]
  | cons x more ih =>
    obtain ⟨c, chunk⟩ := x
    rw [rebuild_cons, rebuild_cons, h first List.mem_cons_self,
      ih fun chunk hchunk => h chunk (List.mem_cons_of_mem _ hchunk)]

theorem append_cons_inj_of_count {a b x y : Str} {c : Char} (h : a ++ c :: x = b ++ c :: y)
    (hcount : a.count c = b.count c) : a = b ∧ x = y := by
  have hshort : ∀ {a b x y : Str}, a ++ c :: x = b ++ c :: y → a.count c = b.count c →
      ¬ a.length < b.length := by
    intro a b x y h hcount hlt
    obtain ⟨rest, rfl⟩ : a <+: b :=
      List.prefix_of_prefix_length_le ⟨c :: x, h⟩ (List.prefix_append b (c :: y)) (Nat.le_of_lt hlt)
    rw [List.append_assoc, List.append_cancel_left_eq] at h
    cases rest with
    | nil => simp at hlt
    | cons d rest =>
      obtain rfl : c = d := (List.cons.inj h).1
      rw [List.count_append, List.count_cons_self] at hcount
      omega
  have hlength : a.length = b.length :=
    Nat.le_antisymm (Nat.not_lt.mp (hshort h.symm hcount.symm)) (Nat.not_lt.mp (hshort h hcount))
  obtain ⟨hab, hxy⟩ := List.append_inj h hlength
  exact ⟨hab, (List.cons.inj hxy).2⟩

theorem count_rebuild_le {f g : Str → Str} {c : Char}
    (h : ∀ chunk, (g chunk).count c ≤ (f chunk).count c) (first : Str) (more : List (Char × Str)) :
    (rebuild g first more).count c ≤ (rebuild f first more).count c := by
  induction more generalizing first with
  | nil =>
    rw [rebuild_nil, rebuild_nil]
    exact h first
  | cons x more ih =>
    obtain ⟨d, chunk⟩ := x
    have := h first
    have := ih chunk
    rw [rebuild_cons, rebuild_cons, List.count_append, List.count_append, List.count_cons,
      List.count_cons]
    omega

/-- If replacing chunks never loses a separator, two results are equal only if they agree on
every chunk. -/
theorem rebuild_eq_iff {f g : Str → Str}
    (h : ∀ chunk c, p c = false → (g chunk).count c ≤ (f chunk).count c) {first : Str}
    {more : List (Char × Str)} (hmore : ∀ x ∈ more, p x.1 = false) :
    rebuild f first more = rebuild g first more ↔
      ∀ chunk ∈ first :: more.map Prod.snd, f chunk = g chunk := by
  refine ⟨fun heq => ?_, rebuild_congr⟩
  induction more generalizing first with
  | nil =>
    rw [rebuild_nil, rebuild_nil] at heq
    simpa using heq
  | cons x more ih =>
    obtain ⟨c, chunk⟩ := x
    obtain ⟨hc, htail⟩ := List.forall_mem_cons.mp hmore
    rw [rebuild_cons, rebuild_cons] at heq
    -- both sides have the same number of separators, so neither part can have more than its own
    have hfirst : (f first).count c = (g first).count c := by
      have htotal := congrArg (List.count c) heq
      have hrest := count_rebuild_le (fun chunk => h chunk c hc) chunk more
      have := h first c hc
      rw [List.count_append, List.count_append, List.count_cons_self,
        List.count_cons_self] at htotal
      omega
    obtain ⟨hhead, hrest⟩ := append_cons_inj_of_count heq hfirst
    exact List.forall_mem_cons.mpr ⟨hhead, ih htail hrest⟩

theorem chunksOf_append_cons {c : Char} (hc : p c = false) (front back : Str) :
    chunksOf p (front ++ c :: back) = chunksOf p front ++ chunksOf p back := by
  induction front with
  | nil => simp [chunksOf, chunks_cons, chunks, hc]
  | cons d front ih =>
    rw [List.cons_append, chunksOf, chunksOf, chunks_cons, chunks_cons]
    unfold chunksOf at ih
    obtain ⟨hfirst, hmore⟩ := List.cons.inj ih
    split_ifs
    · dsimp only
      rw [hfirst, hmore]
      rfl
    · dsimp only
      rw [List.map_cons, List.map_cons, hfirst, hmore]
      rfl

theorem takeWhile_chunks (text : Str) : (chunks p text).1 = text.takeWhile p := by
  induction text with
  | nil => rfl
  | cons c text ih =>
    rw [chunks_cons, List.takeWhile_cons]
    split_ifs with hc
    · rw [ih]
    · rfl

/-- A text without separators lies within one chunk. -/
theorem exists_chunk {key text : Str} (hkey : ∀ c ∈ key, p c = true) (h : key <:+: text) :
    ∃ chunk ∈ chunksOf p text, key <:+: chunk := by
  have hprefix : ∀ text, key <+: text → key <:+: (chunks p text).1 := by
    intro text h
    obtain ⟨rest, rfl⟩ := h
    rw [takeWhile_chunks, List.takeWhile_append_of_pos hkey]
    exact (List.prefix_append key _).isInfix
  induction text with
  | nil => exact ⟨_, List.mem_cons_self, hprefix [] (List.infix_nil.mp h ▸ List.prefix_rfl)⟩
  | cons c text ih =>
    rcases List.infix_cons_iff.mp h with h | h
    · exact ⟨_, List.mem_cons_self, hprefix _ h⟩
    · obtain ⟨chunk, hchunk, hpart⟩ := ih h
      rw [chunksOf, chunks_cons]
      split_ifs with hc
      · rcases List.mem_cons.mp hchunk with rfl | hchunk
        · exact ⟨_, List.mem_cons_self, List.infix_cons hpart⟩
        · exact ⟨chunk, List.mem_cons_of_mem _ hchunk, hpart⟩
      · exact ⟨chunk, List.mem_cons_of_mem _ hchunk, hpart⟩

theorem infix_of_mem_chunksOf {chunk text : Str} (h : chunk ∈ chunksOf p text) :
    chunk <:+: text := by
  induction text generalizing chunk with
  | nil => exact List.mem_singleton.mp h ▸ List.infix_rfl
  | cons c text ih =>
    rw [chunksOf, chunks_cons] at h
    split_ifs at h with hc
    · rcases List.mem_cons.mp h with rfl | h
      · have hfirst : (chunks p text).1 <+: text := takeWhile_chunks text ▸ List.takeWhile_prefix p
        exact (List.cons_prefix_cons.mpr ⟨rfl, hfirst⟩).isInfix
      · exact List.infix_cons (ih (List.mem_cons_of_mem _ h))
    · rcases List.mem_cons.mp h with rfl | h
      · exact List.nil_infix
      · exact List.infix_cons (ih h)

end Chunks

/-- Lines, each with its line feed. -/
def textOfLines (lines : List Str) : Str := lines.flatMap fun line => line ++ ['\n']

theorem textOfLines_cons (line : Str) (lines : List Str) :
    textOfLines (line :: lines) = line ++ '\n' :: textOfLines lines := by
  rw [textOfLines, List.flatMap_cons, List.append_assoc]
  rfl

theorem chunksOf_textOfLines_append {p : Char → Bool} (hp : p '\n' = false) (lines : List Str)
    (last : Str) :
    chunksOf p (textOfLines lines ++ last) = lines.flatMap (chunksOf p) ++ chunksOf p last := by
  induction lines with
  | nil => rfl
  | cons line lines ih =>
    rw [textOfLines_cons, List.append_assoc, List.cons_append, chunksOf_append_cons hp, ih,
      List.flatMap_cons, List.append_assoc]

theorem split_textOfLines {lines : List Str} (h : ∀ line ∈ lines, '\n' ∉ line) :
    split '\n' (textOfLines lines) = lines ++ [[]] := by
  induction lines with
  | nil => rfl
  | cons line lines ih =>
    obtain ⟨hline, htail⟩ := List.forall_mem_cons.mp h
    have hrest := ih htail
    rw [split] at hrest ⊢
    rw [textOfLines_cons, List.splitOn_append_cons_self, List.splitOn_eq_singleton hline, hrest]
    rfl

theorem mem_textOfLines {line : Str} {lines : List Str} (h : line ∈ lines) :
    line ++ ['\n'] <:+: textOfLines lines := by
  obtain ⟨front, back, rfl⟩ := List.append_of_mem h
  refine ⟨textOfLines front, textOfLines back, ?_⟩
  rw [textOfLines, textOfLines, textOfLines, List.flatMap_append, List.flatMap_cons,
    List.append_assoc]

/-- A renderer that treats the two sides of a line feed on their own works line by line. -/
theorem render_textOfLines {render : Str → Str}
    (h : ∀ front back, render (front ++ '\n' :: back) = render front ++ '\n' :: render back)
    (lines : List Str) (last : Str) :
    render (textOfLines lines ++ last) = textOfLines (lines.map render) ++ render last := by
  induction lines with
  | nil => rfl
  | cons line lines ih =>
    rw [textOfLines_cons, List.map_cons, textOfLines_cons, List.append_assoc,
      List.cons_append, h, ih, List.append_assoc, List.cons_append]

-- A literal is `String.ofList` of its characters at once, while `toList` of it is slow to
-- compute; what is decided about literals is first stated about their characters.
section Literals
variable {chars : Str} {lines : List String} {texts texts' : List Str}

theorem toList_cons (h : texts = texts') : (String.ofList chars).toList :: texts = chars ::
    texts' := by
  rw [String.toList_ofList, h]

theorem map_toList_cons (h : lines.map String.toList = texts) :
    (String.ofList chars :: lines).map String.toList = chars :: texts := by
  rw [List.map_cons, String.toList_ofList, h]

/-- A line that is written in several literals. -/
theorem map_toList_append {line : String} {text : Str}
    (h : (line :: lines).map String.toList = text :: texts) :
    ((line ++ String.ofList chars) :: lines).map String.toList = (text ++ chars) :: texts := by
  obtain ⟨hline, hlines⟩ := List.cons.inj h
  rw [List.map_cons, String.toList_append, String.toList_ofList, hline, hlines]

theorem of_characters {Q : List Str → Prop} (h : texts = texts') (hq : Q texts') : Q texts := h ▸ hq

theorem forall_of_characters {Q : Str → Prop} (h : texts = texts') (hq : ∀ text ∈ texts', Q text) :
    ∀ text ∈ texts, Q text :=
  h ▸ hq

end Literals

end Astro.TemplateChunks
