import Astro.TemplateChunks
import Mathlib.Computability.StateTransition
import Mathlib.Data.List.TakeWhile

/-!
# Scripts of labelled command lines

`process_script` and `system` of iPXE for any set of commands: physical lines are joined over
backslashes, a line carries a label or a command, and `||`, `&&` and `;` chain the commands of a
line. A position in the script is the list of the lines that are left, so a jump is a suffix of the
script.
-/

namespace Astro.IpxeScripts

open PythonText TemplateChunks StateTransition

def isspace (c : Char) : Bool :=
  c = ' ' || c = '\x0c' || c = '\n' || c = '\r' || c = '\t' || c = '\x0b'

structure Line where
  label : Option Str
  command : Str
deriving DecidableEq, Repr

/-- A C string ends at the first NUL. -/
def Line.ofText (line : Str) : Line :=
  match (line.takeWhile (· ≠ '\x00')).dropWhile isspace with
  | ':' :: rest => ⟨some (rest.takeWhile (!isspace ·)), (rest.dropWhile (!isspace ·)).drop 1⟩
  | command => ⟨none, command⟩

/-- A line that starts with neither a space nor a colon is a command. -/
theorem Line.ofText_command {line : Str} (hnul : '\x00' ∉ line)
    (hhead : ∀ c, line.head? = some c → isspace c = false ∧ c ≠ ':') :
    Line.ofText line = ⟨none, line⟩ := by
  have htake : line.takeWhile (· ≠ '\x00') = line :=
    List.takeWhile_eq_self_iff.mpr fun c hc => decide_eq_true (ne_of_mem_of_not_mem hc hnul)
  rw [Line.ofText, htake]
  cases line with
  | nil => rfl
  | cons c line =>
    obtain ⟨hspace, hcolon⟩ := hhead c rfl
    rw [List.dropWhile_cons_of_neg (by simp [hspace])]
    split
    · rename_i heq
      exact absurd (List.cons.inj heq).1 hcolon
    · rfl

structure Script where
  lines : List Line
  /-- The text ends after a backslash. -/
  unfinished : Bool
deriving DecidableEq, Repr

def stripReturn (line : Str) : Str :=
  if line.getLast? = some '\r' then line.dropLast else line

/-- The loop of `process_script`; the first argument is what the lines before have left over. -/
def joinFragments : Option Str → List Str → Script
  | pending, [] => ⟨[], pending.isSome⟩
  | pending, fragment :: fragments =>
    let line := stripReturn (pending.getD [] ++ fragment)
    if line.getLast? = some '\\' then joinFragments (some line.dropLast) fragments
    else ⟨.ofText line :: (joinFragments none fragments).lines,
      (joinFragments none fragments).unfinished⟩

/-- No line starts after a final line feed, but an empty text is one empty line. -/
def fragments (text : Str) : List Str :=
  if text.getLast? = some '\n' then (split '\n' text).dropLast else split '\n' text

def Script.ofText (text : Str) : Script := joinFragments none (fragments text)

theorem fragments_textOfLines {lines : List Str} (hlines : ∀ line ∈ lines, '\n' ∉ line)
    (hne : lines ≠ []) :
    fragments (textOfLines lines) = lines := by
  have hlast : (textOfLines lines).getLast? = some '\n' := by
    rw [← List.dropLast_append_getLast hne, textOfLines, List.flatMap_append,
      List.flatMap_singleton, ← List.append_assoc, List.getLast?_concat]
  rw [fragments, if_pos hlast, split_textOfLines hlines, List.dropLast_concat]

theorem stripReturn_of_not_mem {line : Str} (h : '\r' ∉ line) : stripReturn line = line :=
  if_neg fun hlast => h (List.mem_of_getLast? hlast)

/-- A line that is not continued ends what is pending. -/
theorem joinFragments_cons {pending : Option Str} {line : Str}
    (hreturn : '\r' ∉ pending.getD [] ++ line) (hbackslash : '\\' ∉ pending.getD [] ++ line)
    (more : List Str) :
    joinFragments pending (line :: more) =
      ⟨.ofText (pending.getD [] ++ line) :: (joinFragments none more).lines,
        (joinFragments none more).unfinished⟩ := by
  rw [joinFragments, stripReturn_of_not_mem hreturn]
  exact if_neg fun hlast => hbackslash (List.mem_of_getLast? hlast)

theorem joinFragments_continued (pending : Option Str) (line : Str) (more : List Str) :
    joinFragments pending ((line ++ ['\\']) :: more) =
      joinFragments (some (pending.getD [] ++ line)) more := by
  have hline : pending.getD [] ++ (line ++ ['\\']) = (pending.getD [] ++ line) ++ ['\\'] :=
    (List.append_assoc _ _ _).symm
  have hstrip : stripReturn ((pending.getD [] ++ line) ++ ['\\']) =
      (pending.getD [] ++ line) ++ ['\\'] :=
    if_neg (by rw [List.getLast?_concat]; decide)
  rw [joinFragments, hline, hstrip, if_pos List.getLast?_concat, List.dropLast_concat]

theorem joinFragments_append {lines : List Str} (h : ∀ line ∈ lines, '\r' ∉ line ∧ '\\' ∉ line)
    (more : List Str) :
    joinFragments none (lines ++ more) =
      ⟨lines.map .ofText ++ (joinFragments none more).lines,
        (joinFragments none more).unfinished⟩ := by
  induction lines with
  | nil => rfl
  | cons line lines ih =>
    obtain ⟨hline, hlines⟩ := List.forall_mem_cons.mp h
    rw [List.cons_append, joinFragments_cons hline.1 hline.2, ih hlines]
    rfl

/-- Where `goto` continues: at the first line with the label. -/
def gotoFindLabel (lines : List Line) (label : Str) : Option (List Line) :=
  match lines.dropWhile (·.label ≠ some label) with
  | [] => none
  | rest => some rest

def splitCommand (command : Str) : List Str := (command.splitOnP isspace).filter (· ≠ [])

inductive Connective where
  | always
  | onSuccess
  | onFailure
deriving DecidableEq, Repr

/-- `process_always`, `process_on_success` and `process_on_failure`. -/
def Connective.process : Connective → Bool → Bool
  | .always, _ => true
  | .onSuccess, ok => ok
  | .onFailure, ok => !ok

def connective (token : Str) : Option Connective :=
  if token = "||".toList then some .onFailure
  else if token = "&&".toList then some .onSuccess
  else if token = ";".toList then some .always
  else none

/-- The calls of `command_terminator` along a line: the first command and those that follow it,
each behind its connective. -/
def commandTerminator : List Str → List Str × List (Connective × List Str)
  | [] => ([], [])
  | token :: tokens =>
    if token.head? = some '#' then ([], [])
    else
      let (command, later) := commandTerminator tokens
      match connective token with
      | some next => ([], (next, command) :: later)
      | none => (token :: command, later)

theorem splitCommand_append_cons {b : Char} (hb : isspace b = true) (front back : Str) :
    splitCommand (front ++ b :: back) = splitCommand front ++ splitCommand back := by
  rw [splitCommand, List.splitOnP_append_cons front back hb, List.filter_append]
  rfl

/-- A text that is one token. -/
def IsToken (token : Str) : Prop := token ≠ [] ∧ ∀ c ∈ token, isspace c = false

instance (token : Str) : Decidable (IsToken token) :=
  @instDecidableAnd _ _ _ (List.decidableBAll _ _)

theorem IsToken.splitCommand_eq {token : Str} (h : IsToken token) :
    splitCommand token = [token] := by
  rw [splitCommand, List.splitOnP_eq_singleton h.2, List.filter_cons_of_pos (by simpa using h.1)]
  rfl

theorem splitCommand_dropWhile (text : Str) : splitCommand (text.dropWhile isspace) =
    splitCommand text := by
  induction text with
  | nil => rfl
  | cons c text ih =>
    by_cases hc : isspace c = true
    · rw [List.dropWhile_cons_of_pos hc, ih]
      exact (splitCommand_append_cons hc [] text).symm
    · rw [List.dropWhile_cons_of_neg hc]

/-- A text that does not start with a space starts with the first character of a token. -/
theorem splitCommand_cons {c : Char} (hc : isspace c = false) (text : Str) :
    ∃ token more, splitCommand (c :: text) = (c :: token) :: more := by
  rw [splitCommand, List.splitOnP_cons_eq_if_modifyHead,
    if_neg (by rw [hc]; exact Bool.false_ne_true)]
  cases hpieces : text.splitOnP isspace with
  | nil => exact absurd hpieces (List.splitOnP_ne_nil isspace text)
  | cons piece pieces =>
    refine ⟨piece, pieces.filter (· ≠ []), ?_⟩
    rw [List.modifyHead_cons, List.filter_cons_of_pos (by simp)]

theorem subset_of_mem_splitOnP {α : Type} (p : α → Bool) {text piece : List α}
    (h : piece ∈ text.splitOnP p) : piece ⊆ text := by
  induction text generalizing piece with
  | nil =>
    rw [List.splitOnP_nil, List.mem_singleton] at h
    rw [h]
    exact List.nil_subset _
  | cons c text ih =>
    rw [List.splitOnP_cons_eq_if_modifyHead] at h
    split at h
    · rcases List.mem_cons.mp h with rfl | h
      · exact List.nil_subset _
      · exact List.Subset.trans (ih h) (List.subset_cons_self _ _)
    · cases hpieces : text.splitOnP p with
      | nil => exact absurd hpieces (List.splitOnP_ne_nil p text)
      | cons first pieces =>
        rw [hpieces, List.modifyHead_cons] at h
        rcases List.mem_cons.mp h with rfl | h
        · exact List.cons_subset_cons _ (ih (hpieces ▸ List.mem_cons_self))
        · exact List.Subset.trans (ih (hpieces ▸ List.mem_cons_of_mem _ h))
            (List.subset_cons_self _ _)

/-- The characters of the tokens are those of the line. -/
theorem subset_of_mem_splitCommand {command token : Str} (h : token ∈ splitCommand command) :
    token ⊆ command :=
  subset_of_mem_splitOnP isspace (List.mem_filter.mp h).1

/-- A token that belongs to the command it stands in. -/
def IsArgument (token : Str) : Prop := token.head? ≠ some '#' ∧ connective token = none

instance (token : Str) : Decidable (IsArgument token) := inferInstanceAs (Decidable (_ ∧ _))

theorem isArgument_of_not_mem {token : Str} (h : ∀ c ∈ token, c ∉ ['#', '|', '&', ';']) :
    IsArgument token := by
  constructor
  · intro hhead
    exact h '#' (List.mem_of_mem_head? (Option.mem_def.mpr hhead)) (by decide)
  · rw [connective, if_neg, if_neg, if_neg]
    · rintro rfl
      exact h ';' (by decide) (by decide)
    · rintro rfl
      exact h '&' (by decide) (by decide)
    · rintro rfl
      exact h '|' (by decide) (by decide)

theorem commandTerminator_append {tokens : List Str} (h : ∀ token ∈ tokens, IsArgument token)
    (later : List Str) :
    commandTerminator (tokens ++ later) =
      (tokens ++ (commandTerminator later).1, (commandTerminator later).2) := by
  induction tokens with
  | nil => rfl
  | cons token tokens ih =>
    obtain ⟨htoken, htokens⟩ := List.forall_mem_cons.mp h
    rw [List.cons_append, commandTerminator, if_neg htoken.1, ih htokens, htoken.2]
    rfl

theorem commandTerminator_of_arguments {tokens : List Str}
    (h : ∀ token ∈ tokens, IsArgument token) :
    commandTerminator tokens = (tokens, []) := by
  have happend := commandTerminator_append h []
  rwa [List.append_nil, commandTerminator, List.append_nil] at happend

/-- What a command answers: a status, a jump, the end of the script, or it does not come back. -/
inductive Reply (ε : Type) where
  | status (ok : Bool)
  | goto (label : Str)
  | exit (ok : Bool)
  | gone (how : ε)

structure Shell (σ ε : Type) where
  /-- The value of a token, unless its expansion goes on forever. -/
  expand : σ → Str → Option Str
  exec : List Str → σ → σ × Reply ε

inductive Outcome (ε : Type) where
  | status (ok : Bool)
  | jump (rest : List Line)
  | exit (ok : Bool)
  | gone (how : ε)
  | hang

inductive Ending (ε : Type) where
  | status (ok : Bool)
  | gone (how : ε)
deriving DecidableEq, Repr

inductive State (σ ε : Type) where
  | running (rest : List Line) (world : σ)
  | ended (ending : Ending ε) (world : σ)

section Run

variable {σ ε : Type} (shell : Shell σ ε) (script : Script)

def Reply.outcome (lines : List Line) : Reply ε → Outcome ε
  | .status ok => .status ok
  | .goto label =>
    match gotoFindLabel lines label with
    | some rest => .jump rest
    | none => .status false
  | .exit ok => .exit ok
  | .gone how => .gone how

/-- `expand_tokens` and `execv`; an empty command does nothing, successfully. -/
def execv (tokens : List Str) (w : σ) : σ × Outcome ε :=
  match tokens.mapM (shell.expand w) with
  | none => (w, .hang)
  | some [] => (w, .status true)
  | some argv => ((shell.exec argv w).1, (shell.exec argv w).2.outcome script.lines)

/-- The loop of `system`; a command that is skipped leaves the status as it was. -/
def systemFrom (process ok : Bool) (tokens : List Str) : List (Connective × List Str) → σ →
    σ × Outcome ε
  | [], w => if process then execv shell script tokens w else (w, .status ok)
  | (next, tokens') :: later, w =>
    match if process then execv shell script tokens w else (w, .status ok) with
    | (w', .status ok') => systemFrom (next.process ok') ok' tokens' later w'
    | reply => reply

def system (command : Str) (w : σ) : σ × Outcome ε :=
  systemFrom shell script true true (commandTerminator (splitCommand command)).1
    (commandTerminator (splitCommand command)).2 w

/-- A line that hangs is run over and over. -/
def step : State σ ε → Option (State σ ε)
  | .running [] w => some (.ended (.status !script.unfinished) w)
  | .running (line :: rest) w =>
    match system shell script line.command w with
    | (w', .status true) => some (.running rest w')
    | (w', .status false) => some (.ended (.status false) w')
    | (w', .jump rest') => some (.running rest' w')
    | (w', .exit ok) => some (.ended (.status ok) w')
    | (w', .gone how) => some (.ended (.gone how) w')
    | (_, .hang) => some (.running (line :: rest) w)
  | .ended _ _ => none

/-- `script_exec`: undefined if the script runs forever. -/
def scriptExec (w : σ) : Part (State σ ε) := eval (step shell script) (.running script.lines w)

variable {shell script} {w w' : σ} {command : Str}

theorem execv_of_expand {tokens argv : List Str} (h : tokens.mapM (shell.expand w) = some argv)
    (hne : argv ≠ []) :
    execv shell script tokens w =
      ((shell.exec argv w).1, (shell.exec argv w).2.outcome script.lines) := by
  cases argv with
  | nil => exact absurd rfl hne
  | cons name args => rw [execv, h]

theorem system_eq {args : List Str} {later : List (Connective × List Str)}
    (h : commandTerminator (splitCommand command) = (args, later)) :
    system shell script command w = systemFrom shell script true true args later w := by
  rw [system, h]

theorem system_single (h : ∀ token ∈ splitCommand command, IsArgument token) :
    system shell script command w = execv shell script (splitCommand command) w := by
  rw [system_eq (commandTerminator_of_arguments h)]
  rfl

section OrElse

variable {args fallback : List Str} {ok : Bool}

theorem system_orElse (htokens : commandTerminator (splitCommand command) =
    (args, [(.onFailure, fallback)])) (hargs : execv shell script args w = (w', .status ok)) :
    system shell script command w =
      if ok then (w', .status true) else execv shell script fallback w' := by
  cases ok <;> rw [system_eq htokens] <;> simp [systemFrom, hargs, Connective.process]

/-- A jump for success, and another command for failure. -/
theorem system_either {jump : List Str} {rest : List Line}
    (htokens : commandTerminator (splitCommand command) =
      (args, [(.onSuccess, jump), (.onFailure, fallback)]))
    (hargs : execv shell script args w = (w', .status ok))
    (hjump : execv shell script jump w' = (w', .jump rest)) :
    system shell script command w =
      if ok then (w', .jump rest) else execv shell script fallback w' := by
  cases ok <;> rw [system_eq htokens] <;> simp [systemFrom, hargs, hjump, Connective.process]

end OrElse

theorem reaches_of_status {line : Line} {rest : List Line}
    (h : system shell script line.command w = (w', .status true)) :
    Reaches (step shell script) (.running (line :: rest) w) (.running rest w') :=
  .single (by simp [step, h])

theorem reaches_of_jump {line : Line} {rest rest' : List Line}
    (h : system shell script line.command w = (w', .jump rest')) :
    Reaches (step shell script) (.running (line :: rest) w) (.running rest' w') :=
  .single (by simp [step, h])

/-- A script that reaches its end has that result. -/
theorem scriptExec_eq {ending : Ending ε}
    (h : Reaches (step shell script) (.running script.lines w) (.ended ending w')) :
    scriptExec shell script w = Part.some (.ended ending w') :=
  Part.eq_some_iff.mpr (mem_eval.mpr ⟨h, rfl⟩)

end Run

end Astro.IpxeScripts
