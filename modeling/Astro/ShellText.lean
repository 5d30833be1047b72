import Astro.TextSubstitution
import Mathlib.Data.List.TakeWhile

/-!
# Words and continued lines

How a shell cuts a text into words at blanks, and how a script joins a line that ends with a
backslash to the next one.
-/

namespace Astro.ShellText

open PythonText

def isBlank (c : Char) : Bool := c = ' ' || c = '\t' || c = '\n'

/-- The words of a text, as an unquoted expansion gives them. -/
def words (text : Str) : List Str := (text.splitOnP isBlank).filter (· ≠ [])

@[simp] theorem words_nil : words [] = [] := rfl

theorem words_append_cons {b : Char} (hb : isBlank b = true) (front back : Str) :
    words (front ++ b :: back) = words front ++ words back := by
  rw [words, List.splitOnP_append_cons front back hb, List.filter_append]
  rfl

theorem words_blank_cons {b : Char} (hb : isBlank b = true) (text : Str) :
    words (b :: text) = words text := words_append_cons hb [] text

/-- A text that is one word. -/
def IsWord (word : Str) : Prop := word ≠ [] ∧ ∀ c ∈ word, isBlank c = false

instance (word : Str) : Decidable (IsWord word) := @instDecidableAnd _ _ _ (List.decidableBAll _ _)

theorem IsWord.words_eq {word : Str} (h : IsWord word) : words word = [word] := by
  rw [words, List.splitOnP_eq_singleton h.2, List.filter_cons_of_pos (by simpa using h.1)]
  rfl

/-- A text that does not start with a blank starts with the first character of a word. -/
theorem words_cons {c : Char} (hc : isBlank c = false) (text : Str) :
    ∃ word more, words (c :: text) = (c :: word) :: more := by
  rw [words, List.splitOnP_cons_eq_if_modifyHead, if_neg (by rw [hc]; exact Bool.false_ne_true)]
  cases hpieces : text.splitOnP isBlank with
  | nil => exact absurd hpieces (List.splitOnP_ne_nil isBlank text)
  | cons piece pieces =>
    refine ⟨piece, pieces.filter (· ≠ []), ?_⟩
    rw [List.modifyHead_cons, List.filter_cons_of_pos (by simp)]

/-- The part of a text that belongs to the word before it. -/
def visible (text : Str) : Str := text.takeWhile fun c => !isBlank c

theorem not_isBlank_of_mem_visible {c : Char} {text : Str} (h : c ∈ visible text) :
    isBlank c = false := by
  simpa using List.mem_takeWhile_imp h

/-- A word goes on to the next blank. -/
theorem words_append {word : Str} (hword : IsWord word) (text : Str) :
    ∃ more, words (word ++ text) = (word ++ visible text) :: more := by
  have hvisible : IsWord (word ++ visible text) :=
    ⟨List.append_ne_nil_of_left_ne_nil hword.1 _,
      List.forall_mem_append.mpr ⟨hword.2, fun c hc => not_isBlank_of_mem_visible hc⟩⟩
  have htext : word ++ text = (word ++ visible text) ++ text.dropWhile fun c => !isBlank c := by
    rw [List.append_assoc, visible, List.takeWhile_append_dropWhile]
  rw [htext]
  cases hrest : text.dropWhile fun c => !isBlank c with
  | nil =>
    rw [List.append_nil, hvisible.words_eq]
    exact ⟨[], rfl⟩
  | cons b rest =>
    have hb : isBlank b = true := by
      have hhead := List.head?_dropWhile_not (fun c => !isBlank c) text
      rw [hrest] at hhead
      simpa using hhead
    rw [words_append_cons hb, hvisible.words_eq]
    exact ⟨words rest, rfl⟩

theorem visible_append_blank (text rest : Str) {b : Char} (hb : isBlank b = true) :
    visible (text ++ b :: rest) = visible text := by
  induction text with
  | nil => simp [visible, hb]
  | cons c text ih =>
    unfold visible at ih ⊢
    rw [List.cons_append, List.takeWhile_cons, List.takeWhile_cons, ih]

theorem join_singleton (arg : Str) : join " " [arg] = arg := by simp [join, List.intercalate]

theorem words_join {args : List Str} (hargs : ∀ arg ∈ args, IsWord arg) (more : Str) :
    words (join " " args ++ ' ' :: more) = args ++ words more := by
  induction args with
  | nil => exact words_blank_cons rfl more
  | cons arg args ih =>
    obtain ⟨harg, htail⟩ := List.forall_mem_cons.mp hargs
    cases args with
    | nil =>
      rw [join_singleton, words_append_cons rfl, harg.words_eq]
    | cons arg' args =>
      have hjoin : join " " (arg :: arg' :: args) = arg ++ ' ' :: join " " (arg' :: args) :=
        join_cons_cons _ _ _ _
      rw [hjoin, List.append_assoc, List.cons_append, words_append_cons rfl,
        harg.words_eq, ih htail]
      rfl

theorem words_join_eq {args : List Str} (hargs : ∀ arg ∈ args, IsWord arg) :
    words (join " " args) = args := by
  have hwords := words_join hargs []
  rwa [words_append_cons rfl, words_nil, List.append_nil, List.append_nil] at hwords

example : words " ip=10.0.0.2  init=/init\n" = ["ip=10.0.0.2".toList, "init=/init".toList] := by
  decide

theorem join_append_singleton {args : List Str} (hne : args ≠ []) (arg : Str) :
    join " " (args ++ [arg]) = join " " args ++ ' ' :: arg := by
  have hblank : " ".toList = [' '] := by decide
  induction args with
  | nil => exact absurd rfl hne
  | cons first args ih =>
    cases args with
    | nil =>
      rw [List.singleton_append, join_cons_cons, join_singleton, join_singleton, hblank,
        List.singleton_append]
    | cons second args =>
      have hrest := ih (List.cons_ne_nil _ _)
      rw [List.cons_append] at hrest
      rw [List.cons_append, List.cons_append, join_cons_cons, hrest, join_cons_cons,
        List.append_assoc, List.append_assoc]

/-- A line that ends with a backslash goes on in the next one. -/
def joinContinued : List Str → List Str
  | [] => []
  | line :: lines =>
    if line.getLast? = some '\\' then
      match joinContinued lines with
      | [] => [line.dropLast]
      | next :: rest => (line.dropLast ++ next) :: rest
    else line :: joinContinued lines

theorem joinContinued_cons {line : Str} (h : '\\' ∉ line) (lines : List Str) :
    joinContinued (line :: lines) = line :: joinContinued lines := by
  have hlast : line.getLast? ≠ some '\\' := fun hlast => h (List.mem_of_getLast? hlast)
  rw [joinContinued, if_neg hlast]

theorem joinContinued_append {before : List Str} (h : ∀ line ∈ before, '\\' ∉ line)
    (lines : List Str) :
    joinContinued (before ++ lines) = before ++ joinContinued lines := by
  induction before with
  | nil => rfl
  | cons line before ih =>
    obtain ⟨hline, htail⟩ := List.forall_mem_cons.mp h
    rw [List.cons_append, joinContinued_cons hline, ih htail, List.cons_append]

theorem joinContinued_continued {lines : List Str} {next : Str} {rest : List Str}
    (h : joinContinued lines = next :: rest) (line : Str) :
    joinContinued ((line ++ ['\\']) :: lines) = (line ++ next) :: rest := by
  rw [joinContinued, if_pos List.getLast?_concat, h, List.dropLast_concat]

end Astro.ShellText
