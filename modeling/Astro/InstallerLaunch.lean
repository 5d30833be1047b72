import Astro.ShellScripts
import Astro.StageNetworks

/-!
# The launch script of a job

`installer-launch.sh` is rendered for a job and a node, downloaded by the node and run by its
shell. It fetches the kernel and the initial ramdisk of the installer and hands them over to
`kexec` with a command line of its own, or ends in a rescue shell.
-/

namespace Astro.InstallerLaunch

open PythonText TemplateChunks JobPaths RequestModels IpxePipeline ServerHandlers CustomIsoHandler
  SeedRendering
  RepositorySite RepositoryTemplates SimultaneousRendering HostNames ShellText KernelCommandLine
    StageNetworks
  ShellScripts

/-- The contents of a file. -/
inductive Data where
  | text (s : Str)
  | download (url : Str)
  deriving DecidableEq

/-- The kernel, the ramdisk and the command line that `kexec -l` has loaded. -/
structure Image where
  kernel : Option Data
  initrd : Option Data
  append : Str
  deriving DecidableEq

structure State where
  vars : Str → Option Str
  files : Str → Option Data
  loaded : Option Image

/-- How a script ends other than after its last line. `refused` stands for a command or an expansion
that the model does not have. -/
inductive Ending where
  | shell
  | kexec (image : Image)
  | refused
  deriving DecidableEq

/-- What the node can download, which images `kexec -l` loads, and into which of them `kexec -e`
gets. -/
structure Surroundings where
  reachable : Str → Bool
  loads : Image → Bool
  executes : Image → Bool

def expandPieces (vars : Str → Option Str) : List Piece → Option Str
  | [] => some []
  | .char c :: pieces => (expandPieces vars pieces).map (c :: ·)
  | .var name :: pieces => (vars name).bind fun value => (expandPieces vars pieces).map (value ++ ·)

/-- With `set -u` an unset variable ends the script. -/
def expand (vars : Str → Option Str) (w : Word) : Option Str :=
  (expandPieces vars w.rest).map (w.bare ++ ·)

def isRedirection (w : Word) : Bool := w.rest = [] && ('<' ∈ w.bare || '>' ∈ w.bare)

/-- The words of a command without its redirections, and the file of `>`. -/
def arguments : List Word → List Word × Option Word
  | [] => ([], none)
  | [w] => if isRedirection w then ([], none) else ([w], none)
  | w :: file :: ws =>
    if w = bareWord ">" then ((arguments ws).1, some file)
    else if isRedirection w then arguments (file :: ws)
    else (w :: (arguments (file :: ws)).1, (arguments (file :: ws)).2)

/-- `NAME=value`. -/
def assignment (w : Word) : Option (Str × Word) :=
  match w.bare.dropWhile isNameChar with
  | '=' :: value => some (w.bare.takeWhile isNameChar, ⟨value, w.rest⟩)
  | _ => none

section Run
variable (env : Surroundings)

def after? (front text : Str) : Option Str :=
  if front <+: text then some (text.drop front.length) else none

def kexec (st : State) : List Str → Except Ending (State × Bool)
  | [option] =>
    if option = "-e" then match st.loaded with
      | some image => if env.executes image then .error (.kexec image) else .ok (st, false)
      | none => .ok (st, false)
    else .error .refused
  | [option, file, initrd, append] =>
    match after? "--initrd=" initrd, after? "--append=" append with
    | some initrd, some append =>
      if option = "-l" then
        let image : Image := ⟨st.files file, st.files initrd, append⟩
        if env.loads image then .ok ({ st with loaded := some image }, true) else .ok (st, false)
      else .error .refused
    | _, _ => .error .refused
  | _ => .error .refused

def wget (st : State) : List Str → Except Ending (State × Bool)
  | [option, file, url] =>
    if option = "-O" then
      if env.reachable url then .ok
        ({ st with files := Function.update st.files file (some (.download url)) }, true)
      else .ok ({ st with files := Function.update st.files file (some (.text [])) }, false)
    else .error .refused
  | _ => .error .refused

def grep (st : State) : List Str → Except Ending (State × Bool)
  | [option, word, file] =>
    if option = "-q" then match st.files file with
      | some (.text s) => .ok (st, decide (word <:+: s))
      | _ => .ok (st, false)
    else .error .refused
  | _ => .error .refused

def echo (st : State) (args : List Str) : Option Str → Except Ending (State × Bool)
  | some file =>
    .ok ({ st with
      files := Function.update st.files file (some (.text (join " " args ++ ['\n']))) }, true)
  | none => .ok (st, true)

/-- A command with its arguments, and the file that its output goes to. -/
def call (st : State) (name : Str) (args : List Str) (output : Option Str) :
    Except Ending (State × Bool) :=
  if name = "echo" then echo st args output
  else if name = "grep" then grep st args
  else if name = "wget" then wget env st args
  else if name = "/bin/kexec-amd64" then kexec env st args
  else if name = "exec" then .error .shell
  else if name = "set" ∨ name = "ls" then .ok (st, true)
  else .error .refused

def runCommand (st : State) (words : List Word) : Except Ending (State × Bool) :=
  match words with
  | [] => .ok (st, true)
  | first :: _ => match assignment first with
    | some (name, value) =>
      if words = [first] then match expand st.vars value with
        | some value => .ok ({ st with vars := Function.update st.vars name (some value) }, true)
        | none => .error .refused
      else .error .refused
    | none =>
      match (arguments words).1.mapM (expand st.vars), (arguments words).2.map (expand st.vars) with
      | some (name :: args), none => call env st name args none
      | some (name :: args), some (some file) => call env st name args (some file)
      | _, _ => .error .refused

def runBlock (st : State) : List (List Word) → Except Ending State
  | [] => .ok st
  | words :: block => match runCommand env st words with
    | .ok (st, _) => runBlock st block
    | .error ending => .error ending

/-- Without `set -e` a command that fails matters only before `||`. -/
def runStatement (st : State) : Statement → Except Ending State
  | .run words => runBlock env st [words]
  | .either words alternative => match runCommand env st words with
    | .ok (st, true) => .ok st
    | .ok (st, false) => runBlock env st alternative
    | .error ending => .error ending

def runStatements (st : State) : List Statement → Except Ending State
  | [] => .ok st
  | statement :: statements => match runStatement env st statement with
    | .ok st => runStatements st statements
    | .error ending => .error ending

/-- `sh installer-launch.sh`. -/
def launch (st : State) (script : Str) : Except Ending State :=
  match parse script with
  | some statements => runStatements env st statements
  | none => .error .refused

end Run

/-- A line of the template with the values of its placeholders. -/
def fillLine (value : Str → Str) (line : Str) : Str :=
  rebuild (launchPlaceholders.fill value) (chunks isLaunchChar line).1 (chunks isLaunchChar line).2

section Lines
variable {pairs : List (Str × Str)} (hassigns : launchPlaceholders.Assigns pairs)
  (hvalues : ∀ pair ∈ pairs, '_' ∉ pair.2)
include hassigns hvalues

theorem render_line {line : Str} (hline : launchPlaceholders.IsTemplate line) :
    replaceAll pairs line = fillLine (valueOf pairs) line := by
  rw [hassigns.replaceAll_eq hline]
  apply rebuild_congr
  intro chunk hchunk
  by_cases hkey : chunk ∈ launchPlaceholders.keys
  · rw [Placeholders.fill_of_mem hkey, Placeholders.fill_of_mem hkey]
    have hmem : chunk ∈ pairs.map Prod.fst := hassigns.mem_iff.mpr hkey
    have hlater : ∀ pair ∈ laterPairs pairs chunk, pair.1 ∈ launchPlaceholders.keys :=
      fun pair hpair => hassigns.mem (hassigns.later hkey pair hpair).1
    exact Placeholders.replaceAll_of_unmarked hlater
      (Placeholders.unmarked_of_not_mem List.mem_cons_self (hvalues _ (mem_of_key hmem)))
  · rw [Placeholders.fill_of_not_mem hkey, Placeholders.fill_of_not_mem hkey]

theorem render_launchTemplate : replaceAll pairs launchTemplate =
    textOfLines ((launchLines.map String.toList).map (fillLine (valueOf pairs))) ++
      fillLine (valueOf pairs) lastLaunchLine.toList := by
  have hlines : ∀ line ∈ launchLines.map String.toList, launchPlaceholders.IsTemplate line := by
    intro line hline
    apply launchLines_isTemplate
    rw [List.map_append]
    exact List.mem_append_left _ hline
  have hlast : launchPlaceholders.IsTemplate lastLaunchLine.toList := by
    apply launchLines_isTemplate
    rw [List.map_append]
    exact List.mem_append_right _ List.mem_cons_self
  have hseparates := hassigns.separates (rfl : launchPlaceholders.isKeyChar '\n' = false)
  rw [launchTemplate, textOf_eq, render_textOfLines (replaceAll_append_cons hseparates),
    render_line hassigns hvalues hlast]
  congr 2
  exact List.map_congr_left fun line hline => render_line hassigns hvalues (hlines line hline)

end Lines

def echoed (text : Str) : List Word := [bareWord "echo", quotedWord text]

def rescue : List Word :=
  [bareWord "exec", bareWord "setsid", bareWord "cttyhack", bareWord "/bin/sh",
    bareWord "<>/dev/tty0", bareWord "1>&0", bareWord "2>&0"]

def downloads (file url : Str) : List Word :=
  [bareWord "wget", bareWord "-O", bareWord file, quotedWord url]

def loadsImage : List Word :=
  [bareWord "/bin/kexec-amd64", bareWord "-l", bareWord "/linux", bareWord "--initrd=/initrd",
    ⟨"--append=", [.var "APPEND"]⟩]

/-- The script with its four values; `append` is the whole text that is assigned to `APPEND`. -/
def launchStatements (dns kernel initrd append : Str) : List Statement :=
  [.run [bareWord "set", bareWord "-ux"],
   .run (echoed "Astro Installer Launch Script"),
   .run (echoed "[1/4] Configuring DNS..."),
   .either
     [bareWord "grep", bareWord "-q", bareWord "nameserver", bareWord "/etc/resolv.conf",
       bareWord "2>/dev/null"]
     [echoed (("nameserver " : Str) ++ dns) ++ [bareWord ">", bareWord "/etc/resolv.conf"]],
   .run (echoed "[2/4] Downloading kernel and initrd..."),
   .either (downloads "/linux" kernel) [echoed "ERROR: Failed to download kernel", rescue],
   .either (downloads "/initrd" initrd) [echoed "ERROR: Failed to download initrd", rescue],
   .run (echoed "[3/4] Download complete"),
   .run [bareWord "ls", bareWord "-lh", bareWord "/linux", bareWord "/initrd"],
   .run [⟨"APPEND=", append.map .char⟩],
   .run (echoed []),
   .run (echoed "Kernel command line:"),
   .run [bareWord "echo", ⟨[], [.var "APPEND"]⟩],
   .run (echoed []),
   .run (echoed "[4/4] Loading kexec..."),
   .either loadsImage [echoed "ERROR: kexec load failed", rescue],
   .run (echoed "Executing kexec..."),
   .run [bareWord "/bin/kexec-amd64", bareWord "-e"],
   .run (echoed "kexec returned unexpectedly"),
   .run rescue]

/-- The two lines that the backslash joins. -/
def dnsWords (dns : Str) : List Word :=
  [bareWord "grep", bareWord "-q", bareWord "nameserver", bareWord "/etc/resolv.conf",
    bareWord "2>/dev/null", bareWord "||", bareWord "echo",
    quotedWord (("nameserver " : Str) ++ dns), bareWord ">",
    bareWord "/etc/resolv.conf"]

/-- The words of the lines before the assignment of `APPEND`. -/
def firstWords (dns kernel initrd : Str) : List (List Word) :=
  [[], [bareWord "set", bareWord "-ux"], [], echoed "Astro Installer Launch Script", [],
   echoed "[1/4] Configuring DNS..."] ++
  [dnsWords dns] ++
  [[], echoed "[2/4] Downloading kernel and initrd..."] ++
  [downloads "/linux" kernel ++ [bareWord "||", bareWord "\x7b"]] ++
  [echoed "ERROR: Failed to download kernel", rescue, [bareWord "\x7d"], []] ++
  [downloads "/initrd" initrd ++ [bareWord "||", bareWord "\x7b"]] ++
  [echoed "ERROR: Failed to download initrd", rescue, [bareWord "\x7d"], [],
    echoed "[3/4] Download complete",
    [bareWord "ls", bareWord "-lh", bareWord "/linux", bareWord "/initrd"], []] ++
  [[]]

/-- The words of the lines after it. -/
def lastWords : List (List Word) :=
  [[], echoed [], echoed "Kernel command line:", [bareWord "echo", ⟨[], [.var "APPEND"]⟩],
    echoed [], [], echoed "[4/4] Loading kexec...", loadsImage ++ [bareWord "||", bareWord "\x7b"],
   echoed "ERROR: kexec load failed", rescue, [bareWord "\x7d"], [], echoed "Executing kexec...",
   [bareWord "/bin/kexec-amd64", bareWord "-e"], [], echoed "kexec returned unexpectedly", rescue]

/-- The arguments of `APPEND` that are the same for every job. -/
def lastArguments : List Str :=
  ["cloud-config-url=/dev/null".toList, "cloud-init=debug".toList, "multipath=off".toList,
    "nvme_core.multipath=0".toList, "rd.multipath=0".toList, "fs-path=casper".toList,
      "root=tmpfs".toList,
    "ignore_uuid".toList, "console=ttyS0,115200".toList, "console=tty0".toList,
      "systemd.log_level=debug".toList,
    "---".toList]

theorem of_literal {chars : Str} {Q : Str → Prop} (h : Q chars) :
    Q (String.ofList chars).toList := by
  rwa [String.toList_ofList]

section Filled
variable (value : Str → Str)

theorem fillLine_of_unmarked {line : Str} (h : ¬ ['_', '_'] <:+: line) :
    fillLine value line = line := by
  have hchunk : ∀ chunk ∈ chunksOf isLaunchChar line, launchPlaceholders.fill value chunk =
      id chunk := by
    intro chunk hchunk
    apply Placeholders.fill_of_not_mem
    intro hkey
    exact h ((launchPlaceholders.mark_infix chunk hkey).trans (infix_of_mem_chunksOf hchunk))
  rw [fillLine, rebuild_congr hchunk, rebuild_chunks]

/-- Lines without a placeholder and without a continuation, and their words. -/
def IsLiteral (lines : List Str) (words : List (List Word)) : Prop :=
  (∀ line ∈ lines, ¬ ['_', '_'] <:+: line) ∧ (∀ line ∈ lines, line.getLast? ≠ some '\\') ∧
    lines.mapM scan = some words

theorem map_fillLine {lines : List Str} (h : ∀ line ∈ lines, ¬ ['_', '_'] <:+: line) :
    lines.map (fillLine value) = lines := by
  rw [List.map_congr_left fun line hline => fillLine_of_unmarked value (h line hline), List.map_id']

theorem IsLiteral.yields {lines : List Str} {words : List (List Word)} (h : IsLiteral lines words) :
    Yields (lines.map (fillLine value)) words := by
  rw [map_fillLine value h.1]
  exact yields_of_scan h.2.1 h.2.2

def grepLine : String := "grep -q nameserver /etc/resolv.conf 2>/dev/null || \\"

def dnsLine : String := "echo 'nameserver __DNS_PRIMARY__' > /etc/resolv.conf"

def kernelUrlLine : String := "wget -O /linux \"__KERNEL_URL__\" || \x7b"

def initrdUrlLine : String := "wget -O /initrd \"__INITRD_URL__\" || \x7b"

def commentLine : String :=
  "# APPEND=\"ip=__IPV4_ADDRESS__::__IPV4_GATEWAY__:__IPV4_NETMASK__:::off:__DNS_PRIMARY__ \\"

def bootifLine : String := "BOOTIF=__BOOTIF_RAW__ \\"

def isoUrlLine : String := "url=__ISO_URL__ \\"

def seedLine : String := "autoinstall ds=nocloud;s=__SEED_URL__/ \\"

set_option maxRecDepth 4000 in
theorem fill_dnsLine : fillLine value dnsLine.toList =
    "echo 'nameserver ".toList ++ (value "__DNS_PRIMARY__" ++ "' > /etc/resolv.conf".toList) :=
  (rfl)

theorem fill_kernelUrlLine : fillLine value kernelUrlLine.toList =
    "wget -O /linux \"".toList ++ (value "__KERNEL_URL__" ++ "\" || \x7b".toList) := (rfl)

theorem fill_initrdUrlLine : fillLine value initrdUrlLine.toList =
    "wget -O /initrd \"".toList ++ (value "__INITRD_URL__" ++ "\" || \x7b".toList) := (rfl)

theorem fillLine_cons {c : Char} (hc : isLaunchChar c = false) (line : Str) :
    fillLine value (c :: line) = c :: fillLine value line := by
  have hnil : launchPlaceholders.fill value [] = [] :=
    Placeholders.fill_of_not_mem (fun h => Placeholders.ne_nil h rfl) value
  rw [fillLine, chunks_cons, if_neg (by rw [hc]; exact Bool.false_ne_true), rebuild_cons, hnil]
  rfl

theorem fill_commentLine : ∃ text, fillLine value commentLine.toList = '#' :: text := by
  have hline : ∃ text, commentLine.toList = '#' :: text :=
    of_literal (Q := fun line => ∃ text, line = '#' :: text) ⟨_, rfl⟩
  obtain ⟨text, hline⟩ := hline
  exact ⟨_, hline ▸ fillLine_cons value rfl text⟩

theorem fill_bootifLine : fillLine value bootifLine.toList =
    (argument "BOOTIF" (value "__BOOTIF_RAW__") ++ [' ']) ++ ['\\'] := by
  rw [List.append_assoc, argument, List.append_assoc]
  rfl

theorem fill_isoUrlLine : fillLine value isoUrlLine.toList =
    (argument "url" (value "__ISO_URL__") ++ [' ']) ++ ['\\'] := by
  rw [List.append_assoc, argument, List.append_assoc]
  rfl

theorem fill_seedLine : fillLine value seedLine.toList =
    ("autoinstall".toList ++
      ' ' :: (argument "ds" ("nocloud;s=".toList ++ (value "__SEED_URL__" ++ ['/'])) ++ [' '])) ++
        ['\\'] := by
  simp only [argument, List.append_assoc, List.cons_append]
  rfl

/-- A line with a URL in double quotes before a block. -/
theorem scan_download {front url : Str} {words : List Word}
    (hfront : Reads .start front ⟨words, some .empty, .double⟩) (hurl : IsQuotable url) :
    scan (front ++ (url ++ "\" || \x7b".toList)) =
      some (words ++ [quotedWord url, bareWord "||", bareWord "\x7b"]) := by
  have hend : ∀ w, Reads ⟨words, some w, .double⟩ "\" || \x7b".toList
      ⟨(words ++ [w]) ++ [bareWord "||"], some (bareWord "\x7b"), .plain⟩ := fun w => rfl
  have hline := hfront.append ((reads_double words .empty hurl).append (hend _))
  rw [scan_of_reads hline, List.append_assoc, List.append_assoc]
  rfl

theorem scan_dns {dns : Str} (h : IsQuotable dns) :
    scan ("grep -q nameserver /etc/resolv.conf 2>/dev/null || ".toList ++
      ("echo 'nameserver ".toList ++ (dns ++ "' > /etc/resolv.conf".toList))) =
        some (dnsWords dns) := by
  have hgrep : Reads .start "grep -q nameserver /etc/resolv.conf 2>/dev/null || ".toList
      ⟨[bareWord "grep", bareWord "-q", bareWord "nameserver", bareWord "/etc/resolv.conf",
        bareWord "2>/dev/null", bareWord "||"], none, .plain⟩ :=
          of_literal (Q := fun text => Reads .start text _) rfl
  have hecho : ∀ words, Reads ⟨words, none, .plain⟩ "echo 'nameserver ".toList
      ⟨words ++ [bareWord "echo"], some (quotedWord "nameserver "), .single⟩ :=
    fun words => of_literal (Q := fun text => Reads ⟨words, none, .plain⟩ text _) rfl
  have hend : ∀ words w, Reads ⟨words, some w, .single⟩ "' > /etc/resolv.conf".toList
      ⟨words ++ [w] ++ [bareWord ">"], some (bareWord "/etc/resolv.conf"), .plain⟩ :=
    fun words w => of_literal (Q := fun text => Reads ⟨words, some w, .single⟩ text _) rfl
  have hline := hgrep.append ((hecho _).append ((reads_single _ _ h).append (hend _ _)))
  rw [scan_of_reads hline, dnsWords]
  simp only [quotedWord, Word.quote, List.map_append]
  rfl

theorem isLiteral_head : IsLiteral ((launchLines.take 6).map String.toList)
    [[], [bareWord "set", bareWord "-ux"], [], echoed "Astro Installer Launch Script", [],
      echoed "[1/4] Configuring DNS..."] := by
  apply of_characters (Q := fun texts => IsLiteral texts _)
  · unfold launchLines
    repeat apply map_toList_cons
    exact List.map_nil
  · exact ⟨by decide, by decide, rfl⟩

theorem isLiteral_downloading : IsLiteral (((launchLines.drop 8).take 2).map String.toList)
    [[], echoed "[2/4] Downloading kernel and initrd..."] := by
  apply of_characters (Q := fun texts => IsLiteral texts _)
  · unfold launchLines
    repeat apply map_toList_cons
    exact List.map_nil
  · exact ⟨by decide, by decide, rfl⟩

theorem isLiteral_kernelFailed : IsLiteral (((launchLines.drop 11).take 4).map String.toList)
    [echoed "ERROR: Failed to download kernel", rescue, [bareWord "\x7d"], []] := by
  apply of_characters (Q := fun texts => IsLiteral texts _)
  · unfold launchLines
    repeat apply map_toList_cons
    exact List.map_nil
  · exact ⟨by decide, by decide, rfl⟩

theorem isLiteral_initrdFailed : IsLiteral (((launchLines.drop 16).take 7).map String.toList)
    [echoed "ERROR: Failed to download initrd", rescue, [bareWord "\x7d"], [],
      echoed "[3/4] Download complete",
      [bareWord "ls", bareWord "-lh", bareWord "/linux", bareWord "/initrd"], []] := by
  apply of_characters (Q := fun texts => IsLiteral texts _)
  · unfold launchLines
    repeat apply map_toList_cons
    exact List.map_nil
  · exact ⟨by decide, by decide, rfl⟩

theorem launchLines_eq : (launchLines.take 24).map String.toList =
    (launchLines.take 6).map String.toList ++ [grepLine.toList, dnsLine.toList] ++
    ((launchLines.drop 8).take 2).map String.toList ++ [kernelUrlLine.toList] ++
    ((launchLines.drop 11).take 4).map String.toList ++ [initrdUrlLine.toList] ++
    ((launchLines.drop 16).take 7).map String.toList ++ [commentLine.toList] := rfl

section Yields
variable (hvalue : ∀ key, IsQuotable (value key))
include hvalue

theorem yields_download {front : Str} {words : List Word} {key line : Str}
    (hline : fillLine value line = front ++ (value key ++ "\" || \x7b".toList))
    (hfront : Reads .start front ⟨words, some .empty, .double⟩) :
    Yields [fillLine value line]
      [words ++ [quotedWord (value key), bareWord "||", bareWord "\x7b"]] := by
  rw [hline]
  apply yields_of_scan
  · intro text htext
    rw [List.mem_singleton.mp htext, ← List.append_assoc,
      List.getLast?_append_of_ne_nil _ (by decide)]
    decide
  · rw [List.mapM_cons, scan_download hfront (hvalue key)]
    rfl

theorem yields_dns : Yields [fillLine value grepLine.toList, fillLine value dnsLine.toList]
    [dnsWords (value "__DNS_PRIMARY__")] := by
  have hgrep : fillLine value grepLine.toList =
      "grep -q nameserver /etc/resolv.conf 2>/dev/null || ".toList ++ ['\\'] :=
    fillLine_of_unmarked value (of_literal (Q := fun text => ¬ ['_', '_'] <:+: text) (by decide))
  rw [hgrep, fill_dnsLine]
  refine yields_continued ?_ ?_ (scan_dns (hvalue _))
  · exact of_literal (Q := fun text => isComment (text ++ ['\\']) = false) rfl
  · rw [← List.append_assoc, List.getLast?_append_of_ne_nil _ (by decide)]
    decide

/-- The lines up to the assignment of `APPEND`. -/
theorem yields_first : Yields (((launchLines.take 24).map String.toList).map (fillLine value))
      (firstWords (value "__DNS_PRIMARY__") (value "__KERNEL_URL__") (value "__INITRD_URL__")) := by
  obtain ⟨text, hcomment⟩ := fill_commentLine value
  have hkernel := yields_download value hvalue (fill_kernelUrlLine value)
    (of_literal (Q := fun text => Reads .start text
      ⟨[bareWord "wget", bareWord "-O", bareWord "/linux"], some .empty, .double⟩) rfl)
  have hinitrd := yields_download value hvalue (fill_initrdUrlLine value)
    (of_literal (Q := fun text => Reads .start text
      ⟨[bareWord "wget", bareWord "-O", bareWord "/initrd"], some .empty, .double⟩) rfl)
  have hnote := yields_comment text
  rw [← hcomment] at hnote
  have hlines := ((((((((isLiteral_head.yields value).append (yields_dns value hvalue)).append
    (isLiteral_downloading.yields value)).append hkernel).append
      (isLiteral_kernelFailed.yields value)).append
    hinitrd).append (isLiteral_initrdFailed.yields value)).append hnote)
  rw [launchLines_eq]
  simp only [List.map_append, List.map_cons, List.map_nil] at hlines ⊢
  exact hlines

end Yields

set_option maxRecDepth 8000 in
theorem fill_appendLine : fillLine value appendLine.toList =
    ("APPEND=\"".toList ++ (argument "ip"
      (fieldsText [value "__IPV4_ADDRESS__", [], value "__IPV4_GATEWAY__",
      value "__IPV4_NETMASK__", value "__HOSTNAME__", value "__INTERFACE__", "off".toList]
      (value "__DNS_PRIMARY__")) ++ [' '])) ++ ['\\'] := by
  rw [List.append_assoc, List.append_assoc, argument, List.append_assoc, List.cons_append,
    fieldsText_append]
  rfl

/-- What the script assigns to `APPEND`. -/
def launchArguments (value : Str → Str) : List Str :=
  [argument "ip" (fieldsText [value "__IPV4_ADDRESS__", [], value "__IPV4_GATEWAY__",
      value "__IPV4_NETMASK__", value "__HOSTNAME__", value "__INTERFACE__", "off".toList]
        (value "__DNS_PRIMARY__")),
    argument "BOOTIF" (value "__BOOTIF_RAW__"), argument "url" (value "__ISO_URL__"),
      "autoinstall".toList,
    argument "ds" ("nocloud;s=".toList ++ (value "__SEED_URL__" ++ ['/']))] ++ lastArguments

theorem launchLines_drop : (launchLines.drop 24 ++ [lastLaunchLine]).map String.toList =
    appendLine.toList :: bootifLine.toList :: isoUrlLine.toList :: seedLine.toList ::
      (launchLines.drop 28 ++ [lastLaunchLine]).map String.toList := rfl

set_option maxRecDepth 8000 in
/-- The lines after those with the values of a job. -/
theorem scan_last : (∀ line ∈ (launchLines.drop 28 ++ [lastLaunchLine]).map String.toList,
    ¬ ['_', '_'] <:+: line) ∧
    ∃ lines, logicalLines ((launchLines.drop 28 ++ [lastLaunchLine]).map String.toList) =
      (join " " lastArguments ++ ['"']) :: lines ∧ lines.mapM scan = some lastWords := by
  apply of_characters (Q := fun texts => (∀ line ∈ texts, ¬ ['_', '_'] <:+: line) ∧
    ∃ lines, logicalLines texts = (join " " lastArguments ++ ['"']) :: lines ∧
      lines.mapM scan = some lastWords)
  · unfold launchLines lastLaunchLine
    repeat apply map_toList_cons
    exact List.map_nil
  · exact ⟨by decide, _, rfl, rfl⟩

end Filled

def isAppendChar (c : Char) : Bool := isArgChar c || c = '=' || c = ';' || c = '_'

/-- A word of `APPEND` that no quote ends and no blank cuts. -/
def IsAppendWord (arg : Str) : Prop := arg ≠ [] ∧ ∀ c ∈ arg, isAppendChar c = true

instance (arg : Str) : Decidable (IsAppendWord arg) :=
  @instDecidableAnd _ _ inferInstance (List.decidableBAll _ _)

theorem isArgChar_append {c : Char} (h : isArgChar c = true) : isAppendChar c = true := by
  simp [isAppendChar, h]

theorem isAppendChar_of_plain {text : Str} (h : IsPlain text) : ∀ c ∈ text, isAppendChar c = true :=
  fun c hc => isArgChar_append (h c hc)

theorem isAppendChar_not_mem {text : Str} (h : ∀ c ∈ text, isAppendChar c = true) {c : Char}
    (hc : isAppendChar c = false) : c ∉ text := by
  intro hmem
  rw [h c hmem] at hc
  cases hc

theorem IsAppendWord.isWord {arg : Str} (h : IsAppendWord arg) : IsWord arg := by
  refine ⟨h.1, fun c hc => ?_⟩
  by_contra hblank
  simp only [Bool.not_eq_false, isBlank, Bool.or_eq_true, decide_eq_true_eq] at hblank
  rcases hblank with (rfl | rfl) | rfl
  all_goals exact isAppendChar_not_mem h.2 rfl hc

theorem isQuotable_of_plain {text : Str} (h : IsPlain text) : IsQuotable text := by
  intro c hc hmem
  simp only [List.mem_cons, List.not_mem_nil, or_false] at hmem
  rcases hmem with rfl | rfl | rfl | rfl | rfl
  all_goals exact h.not_mem rfl hc

theorem isQuotable_join {args : List Str} (h : ∀ arg ∈ args, IsAppendWord arg) :
    IsQuotable (join " " args) := by
  intro c hc hmem
  rcases mem_join hc with hspace | ⟨arg, harg, hc⟩
  · rw [List.mem_singleton.mp (hspace : c ∈ [' '])] at hmem
    exact absurd hmem (by decide)
  · simp only [List.mem_cons, List.not_mem_nil, or_false] at hmem
    rcases hmem with rfl | rfl | rfl | rfl | rfl
    all_goals exact isAppendChar_not_mem (h arg harg).2 rfl hc

theorem isAppendWord_argument {name text : Str} (hname : IsAppendWord name)
    (h : ∀ c ∈ text, isAppendChar c = true) :
    IsAppendWord (argument name text) :=
  ⟨List.append_ne_nil_of_left_ne_nil hname.1 _,
    List.forall_mem_append.mpr ⟨hname.2, List.forall_mem_cons.mpr ⟨rfl, h⟩⟩⟩

theorem isAppendWord_lastArguments : ∀ arg ∈ lastArguments, IsAppendWord arg := by
  apply forall_of_characters
  · unfold lastArguments
    repeat apply toList_cons
    rfl
  · decide

section Arguments
variable {value : Str → Str} (hvalue : ∀ key, IsPlain (value key))
include hvalue

theorem isAppendWord_launchArguments : ∀ arg ∈ launchArguments value, IsAppendWord arg := by
  have hip : ∀ c ∈ fieldsText [value "__IPV4_ADDRESS__", [], value "__IPV4_GATEWAY__",
      value "__IPV4_NETMASK__", value "__HOSTNAME__", value "__INTERFACE__", "off".toList]
        (value "__DNS_PRIMARY__"),
      isAppendChar c = true := by
    intro c hc
    apply isArgChar_append
    rcases mem_fieldsText hc with rfl | ⟨field, hfield, hc⟩ | hc
    · rfl
    · simp only [List.mem_cons, List.not_mem_nil, or_false] at hfield
      rcases hfield with rfl | rfl | rfl | rfl | rfl | rfl | rfl
      · exact hvalue _ c hc
      · cases hc
      · exact hvalue _ c hc
      · exact hvalue _ c hc
      · exact hvalue _ c hc
      · exact hvalue _ c hc
      · exact (by decide : IsPlain "off") c hc
    · exact hvalue _ c hc
  have hds : ∀ c ∈ "nocloud;s=".toList ++ (value "__SEED_URL__" ++ ['/']),
      isAppendChar c = true := by
    simp only [List.forall_mem_append]
    exact ⟨List.all_eq_true.mp rfl, isAppendChar_of_plain (hvalue _), List.all_eq_true.mp rfl⟩
  unfold launchArguments
  simp only [List.forall_mem_append, List.forall_mem_cons]
  exact ⟨⟨isAppendWord_argument (by decide) hip, isAppendWord_argument (by decide)
    (isAppendChar_of_plain (hvalue _)), isAppendWord_argument (by decide)
    (isAppendChar_of_plain (hvalue _)), by decide,
    isAppendWord_argument (by decide) hds, List.forall_mem_nil _⟩, isAppendWord_lastArguments⟩

theorem scan_append : scan ("APPEND=\"".toList ++ (join " " (launchArguments value) ++ ['"'])) =
    some [⟨"APPEND=", (join " " (launchArguments value)).map .char⟩] := by
  have hfront : Reads .start "APPEND=\"".toList ⟨[], some ⟨"APPEND=", []⟩, .double⟩ :=
    of_literal (Q := fun text => Reads .start text _) rfl
  have hend : ∀ w, Reads ⟨[], some w, .double⟩ ['"'] ⟨[], some w, .plain⟩ := fun w => rfl
  have hline := hfront.append
    ((reads_double [] ⟨"APPEND=", []⟩
      (isQuotable_join (isAppendWord_launchArguments hvalue))).append (hend _))
  rw [scan_of_reads hline]
  rfl

omit hvalue in
theorem join_launchArguments : join " " (launchArguments value) =
    (argument "ip" (fieldsText [value "__IPV4_ADDRESS__", [], value "__IPV4_GATEWAY__",
      value "__IPV4_NETMASK__", value "__HOSTNAME__", value "__INTERFACE__", "off".toList]
      (value "__DNS_PRIMARY__")) ++ [' ']) ++
    ((argument "BOOTIF" (value "__BOOTIF_RAW__") ++ [' ']) ++
      ((argument "url" (value "__ISO_URL__") ++ [' ']) ++
    (("autoinstall".toList ++
      ' ' :: (argument "ds" ("nocloud;s=".toList ++ (value "__SEED_URL__" ++ ['/'])) ++ [' '])) ++
      join " " lastArguments))) := by
  have hlast : ∃ arg args, lastArguments = arg :: args := ⟨_, _, rfl⟩
  obtain ⟨arg, args, hlast⟩ := hlast
  unfold launchArguments
  rw [hlast]
  simp only [List.cons_append, List.nil_append, join_cons_cons, List.append_assoc]
  rfl

end Arguments

theorem split_textOfLines_append {lines : List Str} {last : Str} (h : ∀ line ∈ lines, '\n' ∉ line)
    (hlast : '\n' ∉ last) : split '\n' (textOfLines lines ++ last) = lines ++ [last] := by
  induction lines with
  | nil => exact List.splitOn_eq_singleton hlast
  | cons line lines ih =>
    obtain ⟨hline, htail⟩ := List.forall_mem_cons.mp h
    have hrest := ih htail
    rw [split] at hrest ⊢
    rw [textOfLines_cons, List.append_assoc, List.cons_append, List.splitOn_append_cons_self,
      List.splitOn_eq_singleton hline, hrest]
    rfl

theorem not_mem_rebuild {f : Str → Str} {c : Char} (hf : ∀ chunk, c ∉ chunk → c ∉ f chunk)
    {more : List (Char × Str)} {first : Str} (h : c ∉ rebuild id first more) :
    c ∉ rebuild f first more := by
  induction more generalizing first with
  | nil =>
    rw [rebuild_nil] at h ⊢
    exact hf first h
  | cons x more ih =>
    obtain ⟨d, chunk⟩ := x
    rw [rebuild_cons, List.mem_append, List.mem_cons, not_or, not_or] at h ⊢
    exact ⟨hf first h.1, h.2.1, ih h.2.2⟩

theorem launchLines_not_lineFeed : ∀ line ∈ (launchLines ++ [lastLaunchLine]).map String.toList,
    '\n' ∉ line := by
  apply forall_of_characters
  · unfold launchLines lastLaunchLine
    repeat apply map_toList_cons
    exact List.map_nil
  · decide

theorem parses_launch (dns kernel initrd append : Str) :
    Parses (firstWords dns kernel initrd ++ [⟨"APPEND=", append.map .char⟩] :: lastWords)
      (launchStatements dns kernel initrd append) := by
  have hecho : ∀ text, ∀ w ∈ echoed text, isOr w = false := by
    intro text
    unfold echoed
    simp only [List.forall_mem_cons]
    exact ⟨rfl, rfl, List.forall_mem_nil _⟩
  have hrescue : ∀ w ∈ rescue, isOr w = false := by decide
  have hblock : ∀ text, ∀ line ∈ [echoed text, rescue], line ≠ [] ∧ line ≠ [bareWord "\x7d"] := by
    intro text
    simp only [List.forall_mem_cons]
    exact ⟨⟨List.cons_ne_nil _ _, by simp [echoed]⟩, by decide, List.forall_mem_nil _⟩
  have hdownload : ∀ url, (∀ w ∈ downloads "/linux" url, isOr w = false) ∧
      ∀ w ∈ downloads "/initrd" url, isOr w = false := by
    intro url
    unfold downloads
    simp only [List.forall_mem_cons]
    exact ⟨⟨rfl, rfl, rfl, rfl, List.forall_mem_nil _⟩, rfl, rfl, rfl, rfl, List.forall_mem_nil _⟩
  -- the lemmas put a line before others, so the script is put together from its end
  have hend := (((((((parses_nil.run (by decide) hrescue).run (List.cons_ne_nil _ _)
    (hecho "kexec returned unexpectedly")).blank).run (by decide)
    (by decide : ∀ w ∈ [bareWord "/bin/kexec-amd64", bareWord "-e"], isOr w = false)).run
      (List.cons_ne_nil _ _)
    (hecho "Executing kexec...")).blank).block (by decide : ∀ w ∈ loadsImage, isOr w = false)
    (hblock "ERROR: kexec load failed"))
  have hshow := (((((hend.run (List.cons_ne_nil _ _) (hecho "[4/4] Loading kexec...")).blank).run
    (List.cons_ne_nil _ _) (hecho [])).run (by decide)
    (by decide : ∀ w ∈ [bareWord "echo", ⟨[], [.var "APPEND"]⟩], isOr w = false)).run
      (List.cons_ne_nil _ _)
    (hecho "Kernel command line:")).run (List.cons_ne_nil _ _) (hecho [])
  have hassign := (hshow.blank).run (List.cons_ne_nil _ _)
    (List.forall_mem_singleton.mpr rfl : ∀ w ∈ [(⟨"APPEND=", append.map .char⟩ : Word)],
      isOr w = false)
  have hfetch := ((((((hassign.blank).blank).run (by decide)
    (by decide : ∀ w ∈ [bareWord "ls", bareWord "-lh", bareWord "/linux", bareWord "/initrd"],
      isOr w = false)).run
    (List.cons_ne_nil _ _) (hecho "[3/4] Download complete")).blank).block (hdownload initrd).2
    (hblock "ERROR: Failed to download initrd")).blank.block (hdownload kernel).1
    (hblock "ERROR: Failed to download kernel")
  have hdns :=
    ((hfetch.run (List.cons_ne_nil _ _)
      (hecho "[2/4] Downloading kernel and initrd...")).blank).either
    (by decide : ∀ w ∈ [bareWord "grep", bareWord "-q", bareWord "nameserver",
      bareWord "/etc/resolv.conf", bareWord "2>/dev/null"], isOr w = false)
    (by simp [echoed] : echoed (("nameserver " : Str) ++ dns) ++
      [bareWord ">", bareWord "/etc/resolv.conf"] ≠
      [bareWord "\x7b"])
  exact ((((hdns.run (List.cons_ne_nil _ _) (hecho "[1/4] Configuring DNS...")).blank.run
    (List.cons_ne_nil _ _)
    (hecho "Astro Installer Launch Script")).blank).run (by decide)
    (by decide : ∀ w ∈ [bareWord "set", bareWord "-ux"], isOr w = false)).blank

section Script
variable {value : Str → Str} (hvalue : ∀ key, IsPlain (value key))
include hvalue

theorem lineFeed_not_mem_fillLine {line : Str} (h : '\n' ∉ line) : '\n' ∉ fillLine value line := by
  have hline : '\n' ∉ rebuild id (chunks isLaunchChar line).1 (chunks isLaunchChar line).2 := by
    rw [rebuild_chunks]
    exact h
  refine not_mem_rebuild (fun chunk hchunk => ?_) hline
  by_cases hkey : chunk ∈ launchPlaceholders.keys
  · rw [Placeholders.fill_of_mem hkey]
    exact (hvalue chunk).not_mem rfl
  · rw [Placeholders.fill_of_not_mem hkey]
    exact hchunk

theorem scan_drop :
    (logicalLines (((launchLines.drop 24 ++ [lastLaunchLine]).map String.toList).map
      (fillLine value))).mapM scan =
      some ([⟨"APPEND=", (join " " (launchArguments value)).map .char⟩] :: lastWords) := by
  obtain ⟨hmark, lines, hlines, hwords⟩ := scan_last
  -- none of the four lines that continue is a comment: each starts with a letter
  have hcomment : ∀ {name text : Str},
      (∃ c rest, name = c :: rest ∧ (c ≠ ' ' ∧ c ≠ '\t') ∧ c ≠ '#') →
      isComment (name ++ text) = false := by
    rintro name text ⟨c, rest, rfl, hblank, hsharp⟩
    exact isComment_cons hblank hsharp _
  rw [launchLines_drop]
  simp only [List.map_cons]
  rw [map_fillLine value hmark, fill_appendLine, fill_bootifLine, fill_isoUrlLine, fill_seedLine]
  rw [logicalLines_continued ?_
    (logicalLines_continued ?_ (logicalLines_continued ?_ (logicalLines_continued ?_ hlines)))]
  · have htext := scan_append hvalue
    rw [join_launchArguments] at htext ⊢
    simp only [List.append_assoc] at htext ⊢
    rw [List.mapM_cons, htext, hwords]
    rfl
  all_goals simp only [argument, List.append_assoc]
  all_goals apply hcomment
  all_goals
    exact of_literal (Q := fun name => ∃ c rest, name = c :: rest ∧ (c ≠ ' ' ∧ c ≠ '\t') ∧ c ≠ '#')
      ⟨_, _, rfl, by decide, by decide⟩

theorem parse_filled : parse (textOfLines ((launchLines.map String.toList).map (fillLine value)) ++
      fillLine value lastLaunchLine.toList) =
    some (launchStatements (value "__DNS_PRIMARY__") (value "__KERNEL_URL__")
      (value "__INITRD_URL__")
      (join " " (launchArguments value))) := by
  have hsplit : split '\n' (textOfLines ((launchLines.map String.toList).map (fillLine value)) ++
      fillLine value lastLaunchLine.toList) =
        ((launchLines.take 24).map String.toList).map (fillLine value) ++
        ((launchLines.drop 24 ++ [lastLaunchLine]).map String.toList).map (fillLine value) := by
    rw [split_textOfLines_append]
    · rfl
    · intro line hline
      obtain ⟨text, htext, rfl⟩ := List.mem_map.mp hline
      apply lineFeed_not_mem_fillLine hvalue
      apply launchLines_not_lineFeed
      rw [List.map_append]
      exact List.mem_append_left _ htext
    · apply lineFeed_not_mem_fillLine hvalue
      apply launchLines_not_lineFeed
      rw [List.map_append]
      exact List.mem_append_right _ List.mem_cons_self
  exact parse_of_yields hsplit (yields_first value fun key => isQuotable_of_plain (hvalue key))
    (scan_drop hvalue)
    (parses_launch _ _ _ _)

end Script

end Astro.InstallerLaunch
