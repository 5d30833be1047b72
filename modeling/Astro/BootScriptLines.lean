import Astro.IpxeCommands

/-!
# The lines of the boot script

What the boot loader reads in the hydrated `template2.ipxe`: the same lines as the template has,
with the values of the job as tokens of their own. Comments, blank lines and `echo` leave the
machine as it is.
-/

namespace Astro.BootScriptLines

open PythonText TemplateChunks IpxePipeline RepositorySite RepositoryTemplates SimultaneousRendering
  KernelCommandLine IpxeScripts IpxeSettings IpxeCommands StateTransition

theorem replaceAll_cons {pairs : List (Str × Str)} {c d : Char}
    (h : ∀ pair ∈ pairs, pair.1.head? = some d) (hc : c ≠ d) (text : Str) :
    replaceAll pairs (c :: text) = c :: replaceAll pairs text := by
  induction pairs generalizing text with
  | nil => rfl
  | cons pair pairs ih =>
    obtain ⟨hpair, hpairs⟩ := List.forall_mem_cons.mp h
    have hmiss : ¬ pair.1 <+: c :: text := by
      intro hpart
      cases hkey : pair.1 with
      | nil =>
        rw [hkey] at hpair
        cases hpair
      | cons first key =>
        rw [hkey] at hpair hpart
        exact hc ((List.cons_prefix_cons.mp hpart).1.symm.trans (Option.some.inj hpair))
    change replaceAll pairs (replace pair.1 pair.2 (c :: text)) = _
    rw [replace, replaceFrom_miss hmiss]
    exact ih hpairs _

section Lines

variable (data : JobData)

theorem render_cons {c : Char} (hc : c ≠ '_') (text : Str) :
    replaceAll (ipxeMap data) (c :: text) = c :: replaceAll (ipxeMap data) text := by
  refine replaceAll_cons (fun pair hpair => ?_) hc text
  obtain ⟨entry, -, rfl⟩ := List.mem_map.mp hpair
  rfl

/-- A line of the template as it is read. -/
def lineOf (line : String) : Line := .ofText (replaceAll (ipxeMap data) line.toList)

theorem map_lineOf (lines : List String) :
    lines.map (lineOf data) = ((lines.map String.toList).map (replaceAll (ipxeMap data))).map
      .ofText := by
  rw [List.map_map, List.map_map]
  exact List.map_congr_left fun line _ => by rw [lineOf, Function.comp_apply, Function.comp_apply]

/-- What is left of the script from a line of the template on; the kernel command has become one
line. -/
def linesFrom (n : ℕ) : List Line :=
  if n < 75 then
    ((template2Lines.take 74).drop n).map (lineOf data) ++
      .ofText (joinedLine data) :: (template2Lines.drop 80).map (lineOf data)
  else (template2Lines.drop n).map (lineOf data)

variable {data} in
theorem linesFrom_eq_cons {n : ℕ} {line : String} (h : template2Lines[n]? = some line)
    (hn : n < 74 ∨ 80 ≤ n) :
    linesFrom data n = lineOf data line :: linesFrom data (n + 1) := by
  obtain ⟨hlt, hline⟩ := List.getElem?_eq_some_iff.mp h
  rcases hn with hn | hn
  · have htake : (template2Lines.take 74)[n]? = some line := by rw [List.getElem?_take_of_lt hn, h]
    obtain ⟨hlt', hline'⟩ := List.getElem?_eq_some_iff.mp htake
    rw [linesFrom, linesFrom, if_pos (by omega), if_pos (by omega),
      List.drop_eq_getElem_cons hlt', hline']
    rfl
  · rw [linesFrom, linesFrom, if_neg (by omega), if_neg (by omega),
      List.drop_eq_getElem_cons hlt, hline]
    rfl

theorem linesFrom_kernel : linesFrom data 74 = .ofText (joinedLine data) :: linesFrom data 80 := by
  rw [linesFrom, linesFrom, if_pos (by decide), if_neg (by decide),
    List.drop_eq_nil_of_le (List.length_take_le 74 template2Lines)]
  rfl

def isLineChar (c : Char) : Bool := isArgChar c || " =$\x7b\x7d_".toList.contains c

theorem template2_chars : ∀ line ∈ template2Lines.map String.toList, '\r' ∉ line ∧
    '\x00' ∉ line := by
  apply forall_of_characters
  · unfold template2Lines
    repeat apply map_toList_cons
    exact List.map_nil
  · decide

theorem not_backslash_after : ∀ line ∈ (template2Lines.drop 80).map String.toList, '\\' ∉ line := by
  apply forall_of_characters
  · unfold template2Lines
    repeat apply map_toList_cons
    exact List.map_nil
  · decide

theorem isLineChar_argumentLine {name value : Str} (hname : ∀ c ∈ name, isLineChar c = true)
    (hvalue : ∀ c ∈ value, isLineChar c = true) :
    ∀ c ∈ argumentLine (argument name value), isLineChar c = true := by
  have hblank : ∀ c ∈ [' '], isLineChar c = true := List.all_eq_true.mp rfl
  have hequals : ∀ c ∈ ['='], isLineChar c = true := List.all_eq_true.mp rfl
  rw [argumentLine, argument, ← List.singleton_append,
    ← List.singleton_append (l := name ++ '=' :: value ++ [' ']),
    ← List.singleton_append (l := value)]
  simp only [List.forall_mem_append]
  exact ⟨hblank, hblank, ⟨hname, hequals, hvalue⟩, hblank⟩

variable {data} (hplain : HasPlainContext data)
include hplain

theorem isLineChar_joinedLine : ∀ c ∈ joinedLine data, isLineChar c = true := by
  have hvalue : ∀ text : Str, IsPlain text → ∀ c ∈ text, isLineChar c = true :=
    fun text htext c hc => by rw [isLineChar, htext c hc, Bool.true_or]
  have hliteral : ∀ text : Str, text.all isLineChar = true → ∀ c ∈ text, isLineChar c = true :=
    fun text htext => List.all_eq_true.mp htext
  obtain ⟨hhost, hkernel, hdns, hserver⟩ := hplain.values
  have hjoined : joinedLine data = ("kernel ".toList ++ (data.kernelUrl ++ [' '])) ++
    (argumentLine (argument "ip" (ipArgument data)) ++
      (argumentLine (argument "BOOTIF" "$\x7bbootif_mac\x7d") ++
        (argumentLine (argument "jobid" data.request.hostname.val) ++
          (argumentLine (argument "serverip" (rawIp data)) ++ "  init=/init".toList)))) := rfl
  rw [hjoined]
  refine List.forall_mem_append.mpr
    ⟨List.forall_mem_append.mpr ⟨hliteral _ rfl, List.forall_mem_append.mpr
    ⟨hvalue _ hkernel, hliteral _ rfl⟩⟩, ?_⟩
  refine List.forall_mem_append.mpr
    ⟨isLineChar_argumentLine (hliteral _ rfl) (hvalue _ (isPlain_ipArgument hdns)), ?_⟩
  refine List.forall_mem_append.mpr ⟨isLineChar_argumentLine (hliteral _ rfl) (hliteral _ rfl), ?_⟩
  refine List.forall_mem_append.mpr ⟨isLineChar_argumentLine (hliteral _ rfl) (hvalue _ hhost), ?_⟩
  exact List.forall_mem_append.mpr ⟨isLineChar_argumentLine (hliteral _ rfl) (hvalue _ hserver),
    hliteral _ rfl⟩

theorem not_mem_joinedLine {c : Char} (hc : isLineChar c = false) : c ∉ joinedLine data :=
  fun hmem => absurd (isLineChar_joinedLine hplain c hmem) (by rw [hc]; exact Bool.false_ne_true)

theorem joinFragments_renderedLines (more : List Str) :
    joinFragments none (renderedLines data ++ more) =
      ⟨.ofText (joinedLine data) :: (joinFragments none more).lines,
        (joinFragments none more).unfinished⟩ := by
  have hassoc : ∀ a b c d e f : Str, a ++ b ++ c ++ d ++ e ++ f = a ++
      (b ++ (c ++ (d ++ (e ++ f)))) := by
    simp only [List.append_assoc, implies_true]
  have hjoined : (some ("kernel".toList ++ ' ' :: (data.kernelUrl ++ [' ']) ++
        argumentLine (argument "ip" (ipArgument data)) ++
          argumentLine (argument "BOOTIF" "$\x7bbootif_mac\x7d") ++
        argumentLine (argument "jobid" data.request.hostname.val) ++
        argumentLine (argument "serverip" (rawIp data)))).getD [] ++ "  init=/init".toList =
            joinedLine data := by
    exact hassoc _ _ _ _ _ _
  have hreturn := not_mem_joinedLine hplain (rfl : isLineChar '\r' = false)
  have hbackslash := not_mem_joinedLine hplain (rfl : isLineChar '\\' = false)
  rw [← hjoined] at hreturn hbackslash ⊢
  rw [renderedLines, List.cons_append, joinFragments_continued, List.cons_append,
    joinFragments_continued, List.cons_append, joinFragments_continued, List.cons_append,
    joinFragments_continued, List.cons_append,
    joinFragments_continued]
  exact joinFragments_cons hreturn hbackslash more

theorem rendered_chars {lines : List String} (hsub : lines ⊆ template2Lines)
    (hlines : ∀ line ∈ lines.map String.toList, '\\' ∉ line) :
    ∀ line ∈ (lines.map String.toList).map (replaceAll (ipxeMap data)), '\r' ∉ line ∧
      '\\' ∉ line := by
  refine List.forall_mem_map.mpr fun line hline => ?_
  have hreturn := (template2_chars line (List.map_subset _ hsub hline)).1
  exact ⟨not_mem_render data hplain rfl hreturn, not_mem_render data hplain rfl (hlines line hline)⟩

/-- The boot loader reads the lines of the template, and none is left unfinished. -/
theorem script_bootScript {site : Site} (hsite : site.template2 = template2) :
    Script.ofText (bootScript site data) = ⟨linesFrom data 0, false⟩ := by
  have hscript : bootScript site data =
      textOfLines ((template2Lines.map String.toList).map (replaceAll (ipxeMap data))) := by
    rw [bootScript_eq_render hsite, template2, textOf_eq, (assigns_ipxeMap data).render_lines rfl]
  have hsplit : (template2Lines.map String.toList).map (replaceAll (ipxeMap data)) =
      ((template2Lines.take 74).map String.toList).map (replaceAll (ipxeMap data)) ++
        (renderedLines data ++
          ((template2Lines.drop 80).map String.toList).map (replaceAll (ipxeMap data))) := by
    rw [← render_kernelLines data hplain, ← List.map_append, ← List.map_append, ← List.map_append,
      ← List.map_append, ← template2Lines_eq]
  have hbefore := rendered_chars hplain (List.take_subset 74 template2Lines) fun line hline =>
    (lines_before line hline).1
  have hafter := rendered_chars hplain (List.drop_subset 80 template2Lines) not_backslash_after
  have hrest := joinFragments_append hafter []
  rw [List.append_nil, joinFragments, List.append_nil] at hrest
  rw [Script.ofText, hscript, fragments_textOfLines (lineFeed_rendered data hplain)
    (List.cons_ne_nil _ _), hsplit, joinFragments_append hbefore,
    joinFragments_renderedLines hplain, hrest, linesFrom, if_pos (by decide),
    List.drop_zero, map_lineOf, map_lineOf, Option.isSome_none]

end Lines

section Quiet

variable {env : Environment} {script : Script} {w : Host}

theorem mapM_expand_of_not_mem {tokens : List Str} (h : ∀ token ∈ tokens, '$' ∉ token) :
    tokens.mapM ((shell env).expand w) = some tokens := by
  induction tokens with
  | nil => rfl
  | cons token tokens ih =>
    obtain ⟨htoken, htokens⟩ := List.forall_mem_cons.mp h
    have hexpand : (shell env).expand w token = some token := expandSettings_of_not_mem htoken
    rw [List.mapM_cons, hexpand, ih htokens]
    rfl

theorem system_comment (text : Str) : system (shell env) script ('#' :: text) w =
    (w, .status true) := by
  obtain ⟨token, more, htokens⟩ := splitCommand_cons (rfl : isspace '#' = false) text
  have hcommand : commandTerminator (splitCommand ('#' :: text)) = ([], []) := by
    rw [htokens, commandTerminator]
    exact if_pos rfl
  rw [system_eq hcommand]
  rfl

/-- `echo` succeeds unless its first argument looks like an option. -/
theorem system_echo {command : Str} {tokens argv : List Str}
    (htokens : splitCommand command = "echo".toList :: tokens)
    (hargs : ∀ token ∈ tokens, IsArgument token)
    (hexpand : tokens.mapM ((shell env).expand w) = some argv)
    (hhead : ∀ arg, argv.head? = some arg → arg.head? ≠ some '-') :
    system (shell env) script command w = (w, .status true) := by
  have hname : (shell env).expand w "echo".toList = some "echo".toList :=
    expandSettings_of_not_mem (by decide)
  have hargv : (splitCommand command).mapM ((shell env).expand w) =
      some ("echo".toList :: argv) := by
    rw [htokens, List.mapM_cons, hname, hexpand]
    rfl
  have hoptions : parseOptions Command.echo.descriptor argv = some ([], argv) := by
    cases argv with
    | nil => exact parseOptions_nil _ rfl
    | cons arg args => exact parseOptions_cons _ (hhead arg rfl) (Nat.zero_le _) rfl
  have hexec : exec env ("echo".toList :: argv) w = (w, .status true) :=
    exec_eq (by decide) hoptions
  rw [system_single, execv_of_expand hargv (List.cons_ne_nil _ _)]
  · exact congrArg (fun reply : Host × Reply Departure =>
      (reply.1, reply.2.outcome script.lines)) hexec
  · rw [htokens]
    exact List.forall_mem_cons.mpr ⟨by decide, hargs⟩

theorem splitCommand_echo (text : Str) :
    splitCommand ("echo".toList ++ ' ' :: text) = "echo".toList :: splitCommand text := by
  have hecho : splitCommand "echo".toList = ["echo".toList] := by decide
  rw [splitCommand_append_cons rfl, hecho, List.singleton_append]

/-- No expansion, no connective, no comment. -/
def isQuietChar (c : Char) : Bool := !(['$', '\x00', '#', '|', '&', ';'].contains c)

theorem system_echo_quiet {text : Str} (hchars : ∀ c ∈ text, isQuietChar c = true)
    (hhead : (text.dropWhile isspace).head? ≠ some '-') :
    system (shell env) script ("echo".toList ++ ' ' :: text) w = (w, .status true) := by
  have hmem : ∀ token ∈ splitCommand text, ∀ c ∈ token, isQuietChar c = true :=
    fun token htoken c hc => hchars c (subset_of_mem_splitCommand htoken hc)
  refine system_echo (splitCommand_echo text)
    (fun token htoken => isArgument_of_not_mem fun c hc hbad => ?_)
    (mapM_expand_of_not_mem fun token htoken hdollar => ?_) fun arg harg => ?_
  · have hquiet := hmem token htoken c hc
    simp only [isQuietChar, Bool.not_eq_true', List.contains_eq_mem,
      decide_eq_false_iff_not] at hquiet
    exact hquiet (List.mem_cons_of_mem _ (List.mem_cons_of_mem _ hbad))
  · exact absurd (hmem token htoken _ hdollar) (by decide)
  · rw [← splitCommand_dropWhile] at harg
    cases hdrop : text.dropWhile isspace with
    | nil =>
      rw [hdrop] at harg
      cases harg
    | cons c rest =>
      have hc : isspace c = false := by
        have hfirst := List.head?_dropWhile_not isspace text
        rw [hdrop] at hfirst
        simpa using hfirst
      obtain ⟨token, more, htokens⟩ := splitCommand_cons hc rest
      rw [hdrop, htokens, List.head?_cons, Option.some.injEq] at harg
      rw [← harg]
      rw [hdrop] at hhead
      exact hhead

/-- What stands behind `echo` in a line of the template: no setting, and a first argument that
starts with neither a hyphen nor a placeholder. -/
def isQuietEcho : Str → Bool
  | [] => true
  | c :: text =>
      c = ' ' && text.all isQuietChar && (text.dropWhile isspace).head?.all fun c =>
        c ≠ '-' && c ≠ '_'

/-- A line of the template that leaves the machine as it is. -/
def isQuiet : Str → Bool
  | [] => true
  | '#' :: text => !text.contains '\x00'
  | 'e' :: 'c' :: 'h' :: 'o' :: text => isQuietEcho text
  | _ => false

variable {data : JobData} (hplain : HasPlainContext data)

theorem render_dropWhile {text : Str} (h : (text.dropWhile isspace).head? ≠ some '_') :
    (replaceAll (ipxeMap data) text).dropWhile isspace = replaceAll (ipxeMap data)
    (text.dropWhile isspace) := by
  induction text with
  | nil => rw [List.dropWhile_nil, replaceAll_nil, List.dropWhile_nil]
  | cons c text ih =>
    by_cases hc : isspace c = true
    · have hne : c ≠ '_' := by
        rintro rfl
        exact absurd hc (by decide)
      rw [List.dropWhile_cons_of_pos hc] at h ⊢
      rw [render_cons data hne, List.dropWhile_cons_of_pos hc, ih h]
    · rw [List.dropWhile_cons_of_neg hc] at h ⊢
      rw [render_cons data fun heq => h (congrArg some heq), List.dropWhile_cons_of_neg hc]

include hplain

/-- A command of the template, rendered. -/
theorem command_lineOf {line : String} (hnul : '\x00' ∉ line.toList)
    (hhead : ∀ c, line.toList.head? = some c → isspace c = false ∧ c ≠ ':' ∧ c ≠ '_') :
    lineOf data line = ⟨none, replaceAll (ipxeMap data) line.toList⟩ := by
  refine Line.ofText_command (not_mem_render data hplain rfl hnul) ?_
  cases hline : line.toList with
  | nil =>
    rw [replaceAll_nil]
    exact fun c hc => nomatch hc
  | cons c text =>
    rw [hline] at hhead
    obtain ⟨hspace, hcolon, hmark⟩ := hhead c rfl
    rw [render_cons data hmark]
    rintro d hd
    cases hd
    exact ⟨hspace, hcolon⟩

theorem quiet_render {text : Str} (h : ∀ c ∈ text, isQuietChar c = true) :
    ∀ c ∈ replaceAll (ipxeMap data) text, isQuietChar c = true := by
  intro c hc
  by_contra hbad
  have hmem : c ∉ text := fun hmem => hbad (h c hmem)
  refine not_mem_render data hplain ?_ hmem hc
  simp only [isQuietChar, Bool.not_eq_true', Bool.not_eq_false, List.contains_eq_mem,
    decide_eq_true_eq, List.mem_cons, List.not_mem_nil, or_false] at hbad
  rcases hbad with rfl | rfl | rfl | rfl | rfl | rfl <;> rfl

omit hplain in
theorem not_nul_of_isQuiet {text : Str} (h : isQuiet text = true) : '\x00' ∉ text := by
  intro hmem
  unfold isQuiet at h
  split at h
  · cases hmem
  · rename_i text
    simp only [Bool.not_eq_true', List.contains_eq_mem, decide_eq_false_iff_not] at h
    exact h ((List.mem_cons.mp hmem).resolve_left (by decide))
  · rename_i text
    have hmem : '\x00' ∈ text := by simpa using hmem
    cases text with
    | nil => cases hmem
    | cons c text =>
      simp only [isQuietEcho, Bool.and_eq_true, decide_eq_true_eq] at h
      obtain ⟨⟨rfl, hchars⟩, -⟩ := h
      have hmem : '\x00' ∈ text := (List.mem_cons.mp hmem).resolve_left (by decide)
      exact absurd (List.all_eq_true.mp hchars _ hmem) (by decide)
  · cases h

theorem system_quiet {line : String} (h : isQuiet line.toList = true) :
    system (shell env) script (lineOf data line).command w = (w, .status true) := by
  have hcommand : (∀ c, line.toList.head? = some c → isspace c = false ∧ c ≠ ':' ∧ c ≠ '_') →
      (lineOf data line).command = replaceAll (ipxeMap data) line.toList :=
    fun hhead => by rw [command_lineOf hplain (not_nul_of_isQuiet h) hhead]
  unfold isQuiet at h
  split at h
  · rename_i heq
    rw [hcommand (by simp [heq]), heq, replaceAll_nil]
    rfl
  · rename_i rest heq
    rw [hcommand (by simp [heq]; decide), heq, render_cons data (by decide)]
    exact system_comment _
  · rename_i text heq
    have hrender : (lineOf data line).command = "echo".toList ++
        replaceAll (ipxeMap data) text := by
      have hecho : "echo".toList = ['e', 'c', 'h', 'o'] := by decide
      rw [hcommand (by simp [heq]; decide), heq, hecho]
      iterate 4 rw [render_cons data (by decide)]
      rw [List.cons_append, List.cons_append, List.cons_append, List.cons_append, List.nil_append]
    rw [hrender]
    cases text with
    | nil =>
      rw [replaceAll_nil]
      have htokens : splitCommand ("echo".toList ++ []) = ["echo".toList] := by decide
      exact system_echo htokens (List.forall_mem_nil _) rfl fun arg harg => nomatch harg
    | cons c text =>
      simp only [isQuietEcho, Bool.and_eq_true, decide_eq_true_eq] at h
      obtain ⟨⟨rfl, hchars⟩, hhead⟩ := h
      have hfirst : (text.dropWhile isspace).head? ≠ some '-' ∧
          (text.dropWhile isspace).head? ≠ some '_' := by
        constructor <;> intro heq <;> simp [heq] at hhead
      rw [render_cons data (by decide)]
      refine system_echo_quiet (quiet_render hplain (List.all_eq_true.mp hchars)) ?_
      rw [render_dropWhile hfirst.2]
      cases hdrop : text.dropWhile isspace with
      | nil =>
        rw [replaceAll_nil]
        exact fun heq => nomatch heq
      | cons c rest =>
        rw [hdrop] at hfirst
        rw [render_cons data fun heq => hfirst.2 (congrArg some heq)]
        exact hfirst.1
  · cases h

/-- The lines that do something: commands and labels. -/
def loud : List ℕ :=
  [15, 18, 19, 21, 24, 27, 29, 32, 33, 34, 35, 36, 39, 40, 42, 43, 44, 45, 47, 48, 49, 50, 52, 53,
    55, 58, 61, 62, 63, 64, 65, 69, 74, 75, 76, 77, 78, 79, 82, 85, 86, 88, 92]

/-- The lines with a label. -/
def labelled : List ℕ := [19, 42, 47, 52, 88]

omit hplain in
/-- A check of each line of the template with its position. -/
theorem forall_lines (check : Str → ℕ → Bool) {texts : List Str}
    (htexts : template2Lines.map String.toList = texts)
    (hcheck : (texts.zipIdx.all fun pair => check pair.1 pair.2) = true) {n : ℕ} {line : String}
    (h : template2Lines[n]? = some line) : check line.toList n = true := by
  have hmem : (line.toList, n) ∈ (template2Lines.map String.toList).zipIdx := by
    rw [List.mem_zipIdx_iff_getElem?, List.getElem?_map, h]
    rfl
  rw [htexts] at hmem
  exact List.all_eq_true.mp hcheck _ hmem

omit hplain in
theorem isQuiet_of_not_loud {n : ℕ} {line : String} (h : template2Lines[n]? = some line)
    (hn : n ∉ loud) :
    isQuiet line.toList = true := by
  have hcheck : (loud.contains n || isQuiet line.toList) = true := by
    apply forall_lines fun text n => loud.contains n || isQuiet text
    · unfold template2Lines
      repeat apply map_toList_cons
      exact List.map_nil
    · decide
    · exact h
  simpa [hn] using hcheck

/-- It starts with neither a space nor a label nor a placeholder. -/
def startsCommand (text : Str) : Bool := text.head?.all fun c => !isspace c && c ≠ ':' && c ≠ '_'

omit hplain in
theorem startsCommand_of_not_labelled {n : ℕ} {line : String} (h : template2Lines[n]? = some line)
    (hn : n ∉ labelled) (hkernel : n < 74 ∨ 80 ≤ n) :
    ∀ c, line.toList.head? = some c → isspace c = false ∧ c ≠ ':' ∧ c ≠ '_' := by
  have hcheck : ((decide (74 ≤ n ∧ n < 80) || labelled.contains n) || startsCommand line.toList) =
      true := by
    apply forall_lines fun text n =>
      (decide (74 ≤ n ∧ n < 80) || labelled.contains n) || startsCommand text
    · unfold template2Lines
      repeat apply map_toList_cons
      exact List.map_nil
    · decide
    · exact h
  have hplace : ¬ (74 ≤ n ∧ n < 80) := by omega
  intro c hc
  simpa [startsCommand, hplace, hn, hc, and_assoc] using hcheck

/-- A command of the template. -/
theorem lineOf_command {n : ℕ} {line : String} (h : template2Lines[n]? = some line)
    (hn : n ∉ labelled) (hkernel : n < 74 ∨ 80 ≤ n) :
    lineOf data line = ⟨none, replaceAll (ipxeMap data) line.toList⟩ :=
  command_lineOf hplain (template2_chars _ (List.mem_map_of_mem (List.mem_of_getElem? h))).2
    (startsCommand_of_not_labelled h hn hkernel)

omit hplain in
/-- A line without a value of the job is read as it stands. -/
theorem lineOf_literal {line : String} (h : ¬ ['_', '_'] <:+: line.toList) :
    lineOf data line = .ofText line.toList := by
  rw [lineOf, render_unmarked data h]

/-- Lines of the template without that label are passed over. -/
theorem gotoFindLabel_linesFrom {n m : ℕ} {label : Str} (hnm : n ≤ m) (hkernel : m ≤ 74 ∨ 80 ≤ n)
    (hm : m ≤ 93) (h : ∀ k, n ≤ k → k < m → k ∉ labelled) :
    gotoFindLabel (linesFrom data n) label = gotoFindLabel (linesFrom data m) label := by
  induction hnm with
  | refl => rfl
  | step hnm ih =>
    rename_i m
    have hlt : m < template2Lines.length := Nat.lt_of_succ_le hm
    have hline : template2Lines[m]? = some template2Lines[m] := List.getElem?_eq_getElem hlt
    have hplace : m < 74 ∨ 80 ≤ m := hkernel.imp Nat.lt_of_succ_le fun hn => hn.trans hnm
    have hlabel := lineOf_command hplain hline (h m hnm (Nat.lt_succ_self m)) hplace
    rw [ih (by omega) (by omega) fun k hk hkm =>
      h k hk (by omega), linesFrom_eq_cons hline hplace, hlabel,
      gotoFindLabel, gotoFindLabel, List.dropWhile_cons_of_pos (by simp)]

omit hplain in
/-- A label is found where it stands unless it stands at a line before. -/
theorem gotoFindLabel_label {n : ℕ} {line : String} {name label : Str}
    (h : template2Lines[n]? = some line) (hkernel : n < 74 ∨ 80 ≤ n)
    (hline : lineOf data line = ⟨some name, []⟩) :
    gotoFindLabel (linesFrom data n) label =
      if name = label then some (linesFrom data n) else gotoFindLabel
        (linesFrom data (n + 1)) label := by
  rw [linesFrom_eq_cons h hkernel, hline, gotoFindLabel, gotoFindLabel]
  split_ifs with heq
  · rw [List.dropWhile_cons_of_neg (by simp [heq])]
  · rw [List.dropWhile_cons_of_pos (by simpa using heq)]

/-- Lines of the template between two positions, none of which does anything. -/
theorem reaches_quiet {n m : ℕ} (hnm : n ≤ m) (hm : m ≤ 93)
    (hquiet : ∀ k, n ≤ k → k < m → k ∉ loud) :
    Reaches (step (shell env) script) (.running (linesFrom data n) w)
      (.running (linesFrom data m) w) := by
  induction hnm with
  | refl => exact .refl
  | step hnm ih =>
    rename_i m
    have hbefore := ih (by omega) fun k hk hkm => hquiet k hk (by omega)
    have hlt : m < template2Lines.length := Nat.lt_of_succ_le hm
    have hline : template2Lines[m]? = some template2Lines[m] := List.getElem?_eq_getElem hlt
    have hloud := hquiet m hnm (Nat.lt_succ_self m)
    have hkernel : m < 74 ∨ 80 ≤ m := by
      simp only [loud, List.mem_cons] at hloud
      omega
    rw [linesFrom_eq_cons hline hkernel] at hbefore
    exact hbefore.trans (reaches_of_status (system_quiet hplain (isQuiet_of_not_loud hline hloud)))

end Quiet

end Astro.BootScriptLines
