import Astro.ShellText

/-!
# Small shell scripts

A script without loops and functions: lines of words, where a line may end with `|| {` and open
a block of alternatives. Words can be quoted, and variables are expanded in double quotes. The
reader gives up on everything else that a shell knows.
-/

namespace Astro.ShellScripts

open PythonText

inductive Piece where
  | char (c : Char)
  | var (name : Str)
  deriving DecidableEq

/-- A word: what stands before its first quote, and the rest. -/
structure Word where
  bare : Str
  rest : List Piece
  deriving DecidableEq

def Word.empty : Word := ⟨[], []⟩

def Word.push (c : Char) : Word → Word
  | ⟨bare, []⟩ => ⟨bare ++ [c], []⟩
  | ⟨bare, rest⟩ => ⟨bare, rest ++ [.char c]⟩

def Word.quote (w : Word) (pieces : List Piece) : Word := ⟨w.bare, w.rest ++ pieces⟩

/-- A word without quotes. -/
def bareWord (text : Str) : Word := ⟨text, []⟩

/-- A word in quotes, without variables. -/
def quotedWord (text : Str) : Word := ⟨[], text.map .char⟩

inductive Mode where
  | plain
  | comment
  | single
  | double
  | name (name : Str)
  deriving DecidableEq

/-- The words so far, the one that is being read, and how. -/
structure Scan where
  words : List Word
  current : Option Word
  mode : Mode

def Scan.start : Scan := ⟨[], none, .plain⟩

def Scan.flush (s : Scan) : List Word := s.words ++ s.current.toList

def isNameChar (c : Char) : Bool := c.isAlphanum || c = '_'

/-- Operators, patterns and expansions that the reader does not handle outside quotes. -/
def isRefused (c : Char) : Bool := c ∈ ['\\', '$', '\x60', ';', '(', ')', '*', '?', '[', '~', '!']

def doubleStep (s : Scan) (w : Word) (c : Char) : Option Scan :=
  if c = '"' then some { s with current := some w, mode := .plain }
  else if c = '$' then some { s with current := some w, mode := .name [] }
  else if c = '\\' ∨ c = '\x60' then none
  else some { s with current := some (w.quote [.char c]), mode := .double }

def step (s : Scan) (c : Char) : Option Scan :=
  let w := s.current.getD .empty
  match s.mode with
  | .plain =>
    if c = ' ' ∨ c = '\t' then some ⟨s.flush, none, .plain⟩
    else if c = '#' ∧ s.current = none then some { s with mode := .comment }
    else if c = '\'' then some { s with current := some w, mode := .single }
    else if c = '"' then some { s with current := some w, mode := .double }
    else if isRefused c then none
    else some { s with current := some (w.push c) }
  | .comment => some s
  | .single =>
    if c = '\'' then some { s with mode := .plain }
    else some { s with current := some (w.quote [.char c]) }
  | .double => doubleStep s w c
  | .name name =>
    if isNameChar c then some { s with mode := .name (name ++ [c]) }
    else if name = [] then none
    else doubleStep s (w.quote [.var name]) c

/-- The words of a line; a quote that is not closed on the line is not handled. -/
def scan (line : Str) : Option (List Word) :=
  (line.foldlM step Scan.start).bind fun s => match s.mode with
    | .plain | .comment => some s.flush
    | _ => none

def isComment (line : Str) : Bool := (line.dropWhile fun c => c = ' ' || c = '\t').head? = some '#'

/-- A line that ends with a backslash goes on in the next one, unless it is a comment. -/
def logicalLines : List Str → List Str
  | [] => []
  | line :: lines =>
    if isComment line = false ∧ line.getLast? = some '\\' then
      match logicalLines lines with
      | [] => [line.dropLast]
      | next :: rest => (line.dropLast ++ next) :: rest
    else line :: logicalLines lines

inductive Statement where
  | run (command : List Word)
  | either (command : List Word) (alternative : List (List Word))
  deriving DecidableEq

def isOr (w : Word) : Bool := w = bareWord "||"

/-- The statements so far, and the block that is open with the command before it. -/
abbrev Parse := List Statement × Option (List Word × List (List Word))

def parseLine : Parse → List Word → Parse
  | state, [] => state
  | (done, none), line =>
    match line.dropWhile (fun w => !isOr w) with
    | [] => (done ++ [.run line], none)
    | _ :: alternative =>
      if alternative = [bareWord "\x7b"] then (done, some (line.takeWhile (fun w => !isOr w), []))
      else (done ++ [.either (line.takeWhile fun w => !isOr w) [alternative]], none)
  | (done, some (command, block)), line =>
    if line = [bareWord "\x7d"] then (done ++ [.either command block], none)
    else (done, some (command, block ++ [line]))

/-- The statements of a script. -/
def parse (text : Str) : Option (List Statement) :=
  ((logicalLines (split '\n' text)).mapM scan).bind fun lines =>
    match lines.foldl parseLine ([], none) with
    | (done, none) => some done
    | _ => none

/-- From one state of the scanner over a text to another. -/
def Reads (s : Scan) (text : Str) (s' : Scan) : Prop := text.foldlM step s = some s'

theorem Reads.append {s s' s'' : Scan} {text text' : Str} (h : Reads s text s')
    (h' : Reads s' text' s'') :
    Reads s (text ++ text') s'' := by
  rw [Reads, List.foldlM_append, show text.foldlM step s = some s' from h]
  exact h'

theorem Reads.cons {s s' s'' : Scan} {c : Char} {text : Str} (h : step s c = some s')
    (h' : Reads s' text s'') :
    Reads s (c :: text) s'' := by
  rw [Reads, List.foldlM_cons, h]
  exact h'

/-- Nothing ends the quotes or is expanded in them. -/
def IsQuotable (text : Str) : Prop := ∀ c ∈ text, c ∉ ['"', '$', '\\', '\x60', '\'']

theorem quote_quote (w : Word) (pieces pieces' : List Piece) :
    (w.quote pieces).quote pieces' = w.quote (pieces ++ pieces') := by
  rw [Word.quote, Word.quote, Word.quote, List.append_assoc]

theorem reads_double (words : List Word) (w : Word) {text : Str} (h : IsQuotable text) :
    Reads ⟨words, some w, .double⟩ text ⟨words, some (w.quote (text.map .char)), .double⟩ := by
  induction text generalizing w with
  | nil =>
    rw [List.map_nil, Word.quote, List.append_nil]
    rfl
  | cons c text ih =>
    obtain ⟨hc, htext⟩ := List.forall_mem_cons.mp h
    have hstep : step ⟨words, some w, .double⟩ c =
        some ⟨words, some (w.quote [.char c]), .double⟩ := by
      simp only [List.mem_cons, List.not_mem_nil, or_false, not_or] at hc
      obtain ⟨hquote, hdollar, hslash, hback, -⟩ := hc
      simp [step, doubleStep, hquote, hdollar, hslash, hback]
    have htail := ih (w.quote [.char c]) htext
    rw [quote_quote] at htail
    exact .cons hstep htail

theorem reads_single (words : List Word) (w : Word) {text : Str} (h : IsQuotable text) :
    Reads ⟨words, some w, .single⟩ text ⟨words, some (w.quote (text.map .char)), .single⟩ := by
  induction text generalizing w with
  | nil =>
    rw [List.map_nil, Word.quote, List.append_nil]
    rfl
  | cons c text ih =>
    obtain ⟨hc, htext⟩ := List.forall_mem_cons.mp h
    have hstep : step ⟨words, some w, .single⟩ c =
        some ⟨words, some (w.quote [.char c]), .single⟩ := by
      simp only [List.mem_cons, List.not_mem_nil, or_false, not_or] at hc
      simp [step, hc]
    have htail := ih (w.quote [.char c]) htext
    rw [quote_quote] at htail
    exact .cons hstep htail

theorem scan_of_reads {line : Str} {words : List Word} {current : Option Word}
    (h : Reads .start line ⟨words, current, .plain⟩) :
    scan line = some (words ++ current.toList) := by
  rw [scan, show line.foldlM step .start = _ from h]
  rfl

theorem scan_comment (text : Str) : scan ('#' :: text) = some [] := by
  have hcomment : ∀ text : Str, text.foldlM step ⟨[], none, .comment⟩ =
      some ⟨[], none, .comment⟩ := by
    intro text
    induction text with
    | nil => rfl
    | cons c text ih => exact ih
  rw [scan, List.foldlM_cons]
  change (text.foldlM step ⟨[], none, .comment⟩).bind _ = _
  rw [hcomment]
  rfl

theorem logicalLines_append {front : List Str} (h : ∀ line ∈ front, line.getLast? ≠ some '\\')
    (lines : List Str) :
    logicalLines (front ++ lines) = front ++ logicalLines lines := by
  induction front with
  | nil => rfl
  | cons line front ih =>
    obtain ⟨hline, hfront⟩ := List.forall_mem_cons.mp h
    rw [List.cons_append, logicalLines, if_neg fun hc => hline hc.2, ih hfront, List.cons_append]

theorem logicalLines_comment {line : Str} (h : isComment line = true) (lines : List Str) :
    logicalLines (line :: lines) = line :: logicalLines lines := by
  rw [logicalLines, if_neg]
  rintro ⟨hc, -⟩
  rw [h] at hc
  cases hc

theorem isComment_cons {c : Char} (hblank : c ≠ ' ' ∧ c ≠ '\t') (hsharp : c ≠ '#') (text : Str) :
    isComment (c :: text) = false := by
  simp [isComment, hblank.1, hblank.2, hsharp]

theorem logicalLines_continued {line : Str} (h : isComment (line ++ ['\\']) = false)
    {lines : List Str} {next : Str} {rest : List Str} (hlines : logicalLines lines = next :: rest) :
    logicalLines ((line ++ ['\\']) :: lines) = (line ++ next) :: rest := by
  rw [logicalLines, if_pos ⟨h, List.getLast?_concat⟩, hlines, List.dropLast_concat]

/-- The lines have these commands, whatever comes after them. -/
def Yields (lines : List Str) (words : List (List Word)) : Prop :=
  ∀ more, (logicalLines (lines ++ more)).mapM scan =
    ((logicalLines more).mapM scan).map (words ++ ·)

theorem Yields.append {lines lines' : List Str} {words words' : List (List Word)}
    (h : Yields lines words) (h' : Yields lines' words') : Yields (lines ++ lines')
    (words ++ words') := by
  intro more
  rw [List.append_assoc, h, h', Option.map_map]
  congr 1
  funext rest
  exact (List.append_assoc words words' rest).symm

theorem yields_of_scan {lines : List Str} {words : List (List Word)}
    (hlast : ∀ line ∈ lines, line.getLast? ≠ some '\\') (h : lines.mapM scan = some words) :
    Yields lines words := by
  intro more
  rw [logicalLines_append hlast, List.mapM_append, h]
  cases (logicalLines more).mapM scan <;> rfl

theorem yields_comment (text : Str) : Yields ['#' :: text] [[]] := by
  intro more
  rw [List.singleton_append, logicalLines_comment rfl, List.mapM_cons, scan_comment]
  cases (logicalLines more).mapM scan <;> rfl

theorem yields_continued {line next : Str} {words : List Word}
    (h : isComment (line ++ ['\\']) = false) (hnext : next.getLast? ≠ some '\\')
    (hscan : scan (line ++ next) = some words) :
    Yields [line ++ ['\\'], next] [words] := by
  intro more
  have hlines : logicalLines (next :: more) = next :: logicalLines more :=
    logicalLines_append (List.forall_mem_singleton.mpr hnext) more
  rw [List.cons_append, List.singleton_append, logicalLines_continued h hlines,
    List.mapM_cons, hscan]
  cases (logicalLines more).mapM scan <;> rfl

/-- Lines of words that are these statements, whatever was there before them. -/
def Parses (words : List (List Word)) (statements : List Statement) : Prop :=
  ∀ done, words.foldl parseLine (done, none) = (done ++ statements, none)

theorem parses_nil : Parses [] [] := fun done => by rw [List.append_nil, List.foldl_nil]

theorem cut_or {command : List Word} (hcommand : ∀ w ∈ command, isOr w = false) (rest : List Word) :
    (command ++ bareWord "||" :: rest).dropWhile (fun w => !isOr w) = bareWord "||" :: rest ∧
      (command ++ bareWord "||" :: rest).takeWhile (fun w => !isOr w) = command := by
  have hfront : ∀ w ∈ command, (!isOr w) = true := fun w hw => by rw [hcommand w hw]; rfl
  rw [List.dropWhile_append_of_pos hfront, List.takeWhile_append_of_pos hfront]
  exact ⟨rfl, List.append_nil command⟩

section Parses
variable {words : List (List Word)} {statements : List Statement} (h : Parses words statements)
include h

theorem Parses.blank : Parses ([] :: words) statements := h

theorem Parses.run {line : List Word} (hne : line ≠ []) (hline : ∀ w ∈ line, isOr w = false) :
    Parses (line :: words) (.run line :: statements) := by
  intro done
  have hdrop : line.dropWhile (fun w => !isOr w) = [] :=
    List.dropWhile_eq_nil_iff.mpr fun w hw => by rw [hline w hw]; rfl
  obtain ⟨w, ws, rfl⟩ := List.exists_cons_of_ne_nil hne
  rw [List.foldl_cons, parseLine, hdrop]
  · exact (h _).trans (by rw [List.append_assoc]; rfl)
  · exact List.cons_ne_nil w ws

/-- A line with its alternative after `||`. -/
theorem Parses.either {command alternative : List Word} (hcommand : ∀ w ∈ command, isOr w = false)
    (hne : alternative ≠ [bareWord "\x7b"]) :
    Parses ((command ++ bareWord "||" :: alternative) :: words)
      (.either command [alternative] :: statements) := by
  intro done
  obtain ⟨hdrop, htake⟩ := cut_or hcommand alternative
  rw [List.foldl_cons, parseLine, hdrop]
  · dsimp only
    rw [if_neg hne, htake]
    exact (h _).trans (by rw [List.append_assoc]; rfl)
  · exact List.append_ne_nil_of_right_ne_nil _ (List.cons_ne_nil _ _)

/-- A line that opens a block, and the lines of the block. -/
theorem Parses.block {command : List Word} (hcommand : ∀ w ∈ command, isOr w = false)
    {block : List (List Word)} (hblock : ∀ line ∈ block, line ≠ [] ∧ line ≠ [bareWord "\x7d"]) :
    Parses ((command ++ [bareWord "||", bareWord "\x7b"]) :: (block ++ [bareWord "\x7d"] :: words))
      (.either command block :: statements) := by
  intro done
  obtain ⟨hdrop, htake⟩ := cut_or hcommand [bareWord "\x7b"]
  have hlines : ∀ before : List (List Word), block.foldl parseLine (done, some (command, before)) =
      (done, some (command, before ++ block)) := by
    induction block with
    | nil =>
      intro before
      rw [List.append_nil, List.foldl_nil]
    | cons line block ih =>
      intro before
      obtain ⟨⟨hne, hclose⟩, htail⟩ := List.forall_mem_cons.mp hblock
      obtain ⟨w, ws, rfl⟩ := List.exists_cons_of_ne_nil hne
      rw [List.foldl_cons, parseLine, if_neg hclose, ih htail, List.append_assoc,
        List.singleton_append]
      exact List.cons_ne_nil w ws
  rw [List.foldl_cons, parseLine, hdrop]
  · dsimp only
    rw [if_pos rfl, htake, List.foldl_append, hlines, List.nil_append, List.foldl_cons]
    exact (h _).trans (by rw [List.append_assoc]; rfl)
  · exact List.append_ne_nil_of_right_ne_nil _ (List.cons_ne_nil _ _)

end Parses

theorem parse_of_yields {text : Str} {lines more : List Str} {words words' : List (List Word)}
    {statements : List Statement} (htext : split '\n' text = lines ++ more) (h : Yields lines words)
    (hmore : (logicalLines more).mapM scan = some words')
    (hparse : Parses (words ++ words') statements) :
    parse text = some statements := by
  rw [parse, htext, h, hmore, Option.map_some, Option.bind_some, hparse [], List.nil_append]

end Astro.ShellScripts
