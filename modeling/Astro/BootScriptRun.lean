import Astro.InterfaceSearch

/-!
# Running the boot script

The boot loader that runs the hydrated `template2.ipxe` searches the interfaces and boots as
`InterfaceSearch` says. A position in the script is given by the line of the template.
-/

namespace Astro.BootScriptRun

open PythonText TemplateChunks IpxePipeline CustomIsoHandler RequestModels RepositorySite
  SimultaneousRendering HostNames ShellText KernelCommandLine IpxeScripts IpxeSettings IpxeCommands
  BootScriptLines InterfaceSearch StateTransition

abbrev script (data : JobData) : Script := ⟨linesFrom data 0, false⟩

theorem isToken_of_isPlain {value : Str} (h : IsPlain value) (hne : value ≠ []) :
    IsToken value := by
  refine ⟨hne, fun c hc => ?_⟩
  by_contra hspace
  simp only [isspace, Bool.not_eq_false, Bool.or_eq_true, decide_eq_true_eq] at hspace
  rcases hspace with ((((rfl | rfl) | rfl) | rfl) | rfl) | rfl <;> exact absurd (h _ hc) (by decide)

theorem isArgument_of_isPlain {value : Str} (h : IsPlain value) : IsArgument value := by
  refine isArgument_of_not_mem fun c hc hbad => ?_
  simp only [List.mem_cons, List.not_mem_nil, or_false] at hbad
  rcases hbad with rfl | rfl | rfl | rfl <;> exact absurd (h _ hc) (by decide)

section Lines

variable {env : Environment} {data : JobData} {w w' : Host} {n : ℕ} {line : String}

theorem reaches_next (h : template2Lines[n]? = some line) (hkernel : n < 74 ∨ 80 ≤ n)
    (hsystem : system (shell env) (script data) (lineOf data line).command w = (w', .status true)) :
    Reaches (step (shell env) (script data)) (.running (linesFrom data n) w)
      (.running (linesFrom data (n + 1)) w') := by
  rw [linesFrom_eq_cons h hkernel]
  exact reaches_of_status hsystem

theorem reaches_jump {rest : List Line} (h : template2Lines[n]? = some line)
    (hkernel : n < 74 ∨ 80 ≤ n) (hsystem : system (shell env) (script data)
      (lineOf data line).command w = (w', .jump rest)) :
    Reaches (step (shell env) (script data)) (.running (linesFrom data n) w)
      (.running rest w') := by
  rw [linesFrom_eq_cons h hkernel]
  exact reaches_of_jump hsystem

/-- A label does nothing. -/
theorem reaches_label {name : Str} (h : template2Lines[n]? = some line) (hkernel : n < 74 ∨ 80 ≤ n)
    (hline : lineOf data line = ⟨some name, []⟩) :
    Reaches (step (shell env) (script data)) (.running (linesFrom data n) w)
      (.running (linesFrom data (n + 1)) w) := by
  refine reaches_next h hkernel ?_
  rw [hline]
  rfl

/-- A command with a jump for its failure. -/
theorem reaches_orGoto {args : List Str} {label : Str} {m : ℕ} {ok : Bool}
    (h : template2Lines[n]? = some line) (hkernel : n < 74 ∨ 80 ≤ n)
    (htokens : commandTerminator (splitCommand (lineOf data line).command) =
      (args, [(.onFailure, ["goto".toList, label])]))
    (hexec : execv (shell env) (script data) args w = (w', .status ok))
    (hlabel : gotoFindLabel (linesFrom data 0) label = some (linesFrom data m))
    (hdollar : '$' ∉ label) (hhead : label.head? ≠ some '-') :
    Reaches (step (shell env) (script data)) (.running (linesFrom data n) w)
      (.running (linesFrom data (if ok then n + 1 else m)) w') := by
  have hsystem := system_orElse htokens hexec
  cases ok with
  | true => exact reaches_next h hkernel (hsystem.trans (if_pos rfl))
  | false =>
    refine reaches_jump h hkernel ?_
    rw [hsystem, if_neg Bool.false_ne_true]
    exact execv_goto hdollar hhead hlabel

variable (hplain : HasPlainContext data)
include hplain

/-- A command without a value of the job. -/
theorem command_literal (h : template2Lines[n]? = some line) (hn : n ∉ labelled)
    (hkernel : n < 74 ∨ 80 ≤ n) (hunmarked : ¬ ['_', '_'] <:+: line.toList) :
    (lineOf data line).command = line.toList := by
  rw [lineOf_command hplain h hn hkernel, render_unmarked data hunmarked]

/-- A value of the job between two blanks is one token. -/
theorem splitCommand_value {front back key value : Str} {k : ℕ} (h : template2Lines[n]? = some line)
    (hn : n ∉ labelled) (hkernel : n < 74 ∨ 80 ≤ n)
    (htext : line.toList = front ++ ' ' :: (placeholder key ++ ' ' :: back))
    (hfront : ¬ ['_', '_'] <:+: front) (hback : ¬ ['_', '_'] <:+: back)
    (hkey : (buildIpxeContext data)[k]? = some (key, value)) (hvalue : IsPlain value)
    (hne : value ≠ []) :
    splitCommand (lineOf data line).command = splitCommand front ++ value :: splitCommand back := by
  rw [lineOf_command hplain h hn hkernel, htext, render_append_cons data rfl,
    render_append_cons data rfl, render_unmarked data hfront, render_unmarked data hback,
    render_key data hkey hvalue,
    splitCommand_append_cons rfl, splitCommand_append_cons rfl,
      (isToken_of_isPlain hvalue hne).splitCommand_eq]
  rfl

omit hplain in
theorem lineOf_label {line : String} {name : Str} (hunmarked : ¬ ['_', '_'] <:+: line.toList)
    (hline : Line.ofText line.toList = ⟨some name, []⟩) : lineOf data line = ⟨some name, []⟩ := by
  rw [lineOf_literal hunmarked, hline]

omit hplain in
theorem lineOf_try : lineOf data ":try_interface" = ⟨some "try_interface".toList, []⟩ :=
  lineOf_label (by decide) (by decide)

omit hplain in
theorem lineOf_cleanup : lineOf data ":cleanup_interface" = ⟨some "cleanup_interface".toList, []⟩ :=
  lineOf_label (by decide) (by decide)

omit hplain in
theorem lineOf_next : lineOf data ":next_interface" = ⟨some "next_interface".toList, []⟩ :=
  lineOf_label (by decide) (by decide)

omit hplain in
theorem lineOf_found : lineOf data ":found_interface" = ⟨some "found_interface".toList, []⟩ :=
  lineOf_label (by decide) (by decide)

omit hplain in
theorem lineOf_failed : lineOf data ":failed" = ⟨some "failed".toList, []⟩ :=
  lineOf_label (by decide) (by decide)

theorem goto_try : gotoFindLabel (linesFrom data 0) "try_interface".toList =
    some (linesFrom data 19) := by
  rw [gotoFindLabel_linesFrom hplain (Nat.zero_le 19) (by decide) (by decide) (by decide),
    gotoFindLabel_label rfl (by decide) lineOf_try, if_pos rfl]

/-- The labels before the last three. -/
theorem gotoFindLabel_cleanup {label : Str} (htry : "try_interface".toList ≠ label) :
    gotoFindLabel (linesFrom data 0) label = gotoFindLabel (linesFrom data 42) label := by
  rw [gotoFindLabel_linesFrom hplain (Nat.zero_le 19) (by decide) (by decide) (by decide),
    gotoFindLabel_label rfl (by decide) lineOf_try, if_neg htry,
    gotoFindLabel_linesFrom hplain (by decide : 20 ≤ 42) (by decide) (by decide) (by decide)]

theorem goto_cleanup :
    gotoFindLabel (linesFrom data 0) "cleanup_interface".toList = some (linesFrom data 42) := by
  rw [gotoFindLabel_cleanup hplain (by decide),
    gotoFindLabel_label rfl (by decide) lineOf_cleanup, if_pos rfl]

theorem gotoFindLabel_next {label : Str} (htry : "try_interface".toList ≠ label)
    (hcleanup : "cleanup_interface".toList ≠ label) :
    gotoFindLabel (linesFrom data 0) label = gotoFindLabel (linesFrom data 47) label := by
  rw [gotoFindLabel_cleanup hplain htry, gotoFindLabel_label rfl (by decide) lineOf_cleanup,
    if_neg hcleanup, gotoFindLabel_linesFrom hplain (by decide : 43 ≤ 47) (by decide) (by decide)
    (by decide)]

theorem goto_next : gotoFindLabel (linesFrom data 0) "next_interface".toList =
    some (linesFrom data 47) := by
  rw [gotoFindLabel_next hplain (by decide) (by decide),
    gotoFindLabel_label rfl (by decide) lineOf_next, if_pos rfl]

theorem gotoFindLabel_found {label : Str} (htry : "try_interface".toList ≠ label)
    (hcleanup : "cleanup_interface".toList ≠ label) (hnext : "next_interface".toList ≠ label) :
    gotoFindLabel (linesFrom data 0) label = gotoFindLabel (linesFrom data 52) label := by
  rw [gotoFindLabel_next hplain htry hcleanup, gotoFindLabel_label rfl (by decide) lineOf_next,
    if_neg hnext, gotoFindLabel_linesFrom hplain (by decide : 48 ≤ 52) (by decide) (by decide)
    (by decide)]

theorem goto_found : gotoFindLabel (linesFrom data 0) "found_interface".toList =
    some (linesFrom data 52) := by
  rw [gotoFindLabel_found hplain (by decide) (by decide) (by decide),
    gotoFindLabel_label rfl (by decide) lineOf_found, if_pos rfl]

theorem ofText_joinedLine : Line.ofText (joinedLine data) = ⟨none, joinedLine data⟩ := by
  refine Line.ofText_command (not_mem_joinedLine hplain rfl) fun c hc => ?_
  have hhead : (joinedLine data).head? = some 'k' := rfl
  rw [hhead, Option.some.injEq] at hc
  rw [← hc]
  decide

theorem goto_failed : gotoFindLabel (linesFrom data 0) "failed".toList =
    some (linesFrom data 88) := by
  have hkernel : gotoFindLabel (linesFrom data 74) "failed".toList =
      gotoFindLabel (linesFrom data 80) "failed".toList := by
    rw [linesFrom_kernel, ofText_joinedLine hplain, gotoFindLabel, gotoFindLabel,
      List.dropWhile_cons_of_pos (by simp)]
  rw [gotoFindLabel_found hplain (by decide) (by decide) (by decide),
    gotoFindLabel_label rfl (by decide) lineOf_found, if_neg (by decide),
    gotoFindLabel_linesFrom hplain (by decide : 53 ≤ 74) (by decide) (by decide)
      (by decide), hkernel,
    gotoFindLabel_linesFrom hplain (by decide : 80 ≤ 88) (by decide) (by decide) (by decide),
    gotoFindLabel_label rfl (by decide) lineOf_failed, if_pos rfl]

end Lines

section Run

variable {env : Environment} {data : JobData} {w w' : Host} {i : ℕ}

/-- The script reads the number of the interface. -/
def AtIndex (w : Host) (i : ℕ) : Prop := w.root "idx".toList = some ⟨.int 1, [UInt8.ofNat i]⟩

theorem atIndex_setIdx (w : Host) (i : ℕ) : AtIndex (setIdx w i) i := by
  simp only [AtIndex, setIdx, Function.update_self]

/-- What holds of the job and of the environment throughout. -/
structure Runs (env : Environment) (data : JobData) : Prop where
  plain : HasPlainContext data
  dns : dnsPrimary data ≠ []
  urls : ∀ url ∈ [data.kernelUrl, data.initrdUrl, data.customOsUrl], url.head? = some 'h'
  fuel : 2 ≤ env.fuel
  sleep : ∀ w seconds, env.sleep w seconds = true

/-- One step of the search in the script. -/
abbrev Leads (env : Environment) (data : JobData) (n : ℕ) (w : Host) (m : ℕ) (w' : Host) : Prop :=
  Reaches (step (shell env) (script data)) (.running (linesFrom data n) w)
    (.running (linesFrom data m) w')

variable (h : Runs env data)
include h

theorem leads_quiet {n m : ℕ} (hnm : n ≤ m) (hm : m ≤ 93) (hquiet : ∀ k, n ≤ k → k < m → k ∉ loud) :
    Leads env data n w m w := reaches_quiet h.plain hnm hm hquiet

theorem leads_echo {n : ℕ} {line : String} {first : Str} {tokens : List Str}
    (hline : template2Lines[n]? = some line) (hn : n ∉ labelled) (hkernel : n < 74 ∨ 80 ≤ n)
    (hunmarked : ¬ ['_', '_'] <:+: line.toList)
    (htokens : splitCommand line.toList = "echo".toList :: first :: tokens)
    (hargs : ∀ token ∈ first :: tokens, IsArgument token)
    (hfirst : ∃ value, (shell env).expand w first = some value ∧ value.head? ≠ some '-')
    (hexpand : ∀ token ∈ tokens, ∃ value, (shell env).expand w token = some value) :
    Leads env data n w (n + 1) w := by
  refine reaches_next hline hkernel ?_
  rw [command_literal h.plain hline hn hkernel hunmarked]
  exact system_echo_tokens htokens hargs hfirst hexpand

variable (hi : i ≤ 10) (hidx : AtIndex w i)
include hi hidx

/-- A line that names the interface. -/
theorem leads_echo_net {n : ℕ} {line : String} (first : Str) (front : List Str) (post : Str)
    (tokens : List Str) (hline : template2Lines[n]? = some line)
    (hn : n ∉ labelled) (hkernel : n < 74 ∨ 80 ≤ n) (hunmarked : ¬ ['_', '_'] <:+: line.toList)
    (htokens : splitCommand line.toList = "echo".toList :: first :: (front ++
      ("net".toList ++ '$' :: '\x7b' :: ("idx".toList ++ '\x7d' :: post)) :: tokens))
    (hargs : ∀ token ∈ first :: (front ++
      ("net".toList ++ '$' :: '\x7b' :: ("idx".toList ++ '\x7d' :: post)) :: tokens),
      IsArgument token)
    (hfirst : first.head? ≠ some '-')
    (hdollar : ∀ token ∈ first :: post :: (front ++ tokens), '$' ∉ token) :
    Leads env data n w (n + 1) w := by
  obtain ⟨hdollar₁, hdollar₂, hdollar₃⟩ : '$' ∉ first ∧ '$' ∉ post ∧ ∀ token ∈ front ++ tokens,
      '$' ∉ token := by
    simpa only [List.forall_mem_cons] using hdollar
  refine leads_echo h hline hn hkernel hunmarked htokens hargs
    ⟨first, expand_of_not_mem hdollar₁, hfirst⟩ ?_
  intro token htoken
  rcases List.mem_append.mp htoken with htoken | htoken
  · exact ⟨token, expand_of_not_mem (hdollar₃ token (List.mem_append_left _ htoken))⟩
  · rcases List.mem_cons.mp htoken with rfl | htoken
    · exact ⟨_, expand_netIdx h.fuel hi hidx post hdollar₂⟩
    · exact ⟨token, expand_of_not_mem (hdollar₃ token (List.mem_append_right _ htoken))⟩

theorem leads_trying : Leads env data 19 w 24 w := by
  have hlabel : Leads env data 19 w 20 w := reaches_label rfl (by decide) lineOf_try
  have hecho : Leads env data 21 w 22 w :=
    leads_echo_net h hi hidx "Trying" [] "..." [] rfl (by decide) (by decide) (by decide)
      (by decide) (by decide) (by decide) (by decide)
  exact hlabel.trans ((leads_quiet h (by decide) (by decide) (by decide)).trans
    (hecho.trans (leads_quiet h (by decide) (by decide) (by decide))))

/-- `isset` looks at the address of the interface. -/
theorem leads_isset {value : Str}
    (hvalue : fetchText env.elsewhere w (netName i ++ '/' :: "mac".toList) = value)
    (hhead : value.head? ≠ some '-') :
    Leads env data 24 w (if decide (value ≠ []) = true then 25 else 47) w := by
  have htype : (parseSettingName "mac".toList).settingType = some (some (.hex (some ':'))) := by
    decide
  have hdollar : '$' ∉ fetchText env.elsewhere w (netName i ++ '/' :: "mac".toList) :=
    dollar_not_mem_fetchText ((settingType_net (by decide)).trans htype)
      (dollar_not_mem_hex (by decide))
  have hexpand :=
    expand_net h.fuel hi hidx [] "mac" [] ⟨by decide, by decide⟩ ⟨by decide, by decide⟩
      (by decide) hdollar
  rw [hvalue, List.nil_append, List.nil_append, List.append_nil] at hexpand
  have hline : template2Lines[24]? =
      some "isset $\x7bnet$\x7bidx\x7d/mac\x7d || goto next_interface" := rfl
  have htokens : commandTerminator (splitCommand
      "isset $\x7bnet$\x7bidx\x7d/mac\x7d || goto next_interface".toList) =
      (["isset".toList, '$' :: '\x7b' ::
        ("net".toList ++ '$' :: '\x7b' :: ("idx".toList ++ '\x7d' ::
        ('/' :: "mac".toList ++ '\x7d' :: [])))],
        [(.onFailure, ["goto".toList, "next_interface".toList])]) := by decide
  refine reaches_orGoto hline (by decide) ?_ (execv_isset hexpand hhead) (goto_next h.plain)
    (by decide) (by decide)
  rw [command_literal h.plain hline (by decide) (by decide) (by decide), htokens]

theorem leads_isset_none (hdevice : w.findNetdev (netName i) = none)
    (hblock : w.blocks (netName i) = none) :
    Leads env data 24 w 47 w :=
  leads_isset h hi hidx (fetchText_net_none (by decide) hdevice hblock) (by decide)

theorem leads_isset_some {device : Device} (hdevice : w.findNetdev (netName i) = some device) :
    Leads env data 24 w 25 w := by
  obtain ⟨c, text, hformat, hc⟩ := format_macBytes (some ':') device.mac
  have hparse : parseSettingName "mac".toList = ⟨none, "mac".toList, none⟩ := by decide
  have htype : SettingName.settingType ⟨none, "mac".toList, none⟩ =
      some (some (.hex (some ':'))) := by decide
  have hvalue :=
    @fetchText_net env.elsewhere w i _ _ _ _ _ (by decide) hparse htype hdevice (if_pos rfl)
  rw [Option.getD_some, hformat, Option.getD_some] at hvalue
  exact leads_isset h hi hidx hvalue (by simpa using hc)

theorem leads_ifopen {device : Device} (hdevice : w.findNetdev (netName i) = some device) :
    Leads env data 25 w (if (ifopenPayload env w device).2 then 28 else 47)
      (ifopenPayload env w device).1 := by
  have hline : template2Lines[27]? = some "ifopen net$\x7bidx\x7d || goto next_interface" := rfl
  have htokens : commandTerminator
    (splitCommand "ifopen net$\x7bidx\x7d || goto next_interface".toList) =
      (["ifopen".toList, "net".toList ++ '$' :: '\x7b' :: ("idx".toList ++ '\x7d' :: [])],
        [(.onFailure, ["goto".toList, "next_interface".toList])]) := by decide
  have hexpand := expand_netIdx h.fuel hi hidx [] (by decide)
  rw [List.append_nil] at hexpand
  have hname : commands.lookup "ifopen".toList = some .ifopen := by decide
  have hexec :=
    @execv_ifcommon env (script data) w i _ _ (ifopenPayload env) _ device hname (by decide)
      (fun _ => rfl)
    rfl hexpand hdevice
  refine (leads_quiet h (by decide : 25 ≤ 27) (by decide) (by decide)).trans ?_
  refine reaches_orGoto hline (by decide) ?_ hexec (goto_next h.plain) (by decide) (by decide)
  rw [command_literal h.plain hline (by decide) (by decide) (by decide), htokens]

omit hi hidx in
theorem leads_sleep {n : ℕ} {line : String} {seconds : Str} {number : ℕ}
    (hline : template2Lines[n]? = some line) (hn : n ∉ labelled) (hkernel : n < 74 ∨ 80 ≤ n)
    (hunmarked : ¬ ['_', '_'] <:+: line.toList)
    (htokens : splitCommand line.toList = ["sleep".toList, seconds])
    (hargs : ∀ token ∈ ["sleep".toList, seconds], IsArgument token) (hdollar : '$' ∉ seconds)
    (hhead : seconds.head? ≠ some '-') (hnumber : parseInteger seconds = some number) :
    Leads env data n w (n + 1) w := by
  refine reaches_next hline hkernel ?_
  rw [command_literal h.plain hline hn hkernel hunmarked,
    system_single (by rw [htokens]; exact hargs), htokens]
  exact execv_sleep hdollar hhead hnumber (h.sleep w number)

/-- From the open interface to its configuration. -/
theorem leads_configure : Leads env data 28 w 33 w := by
  have hsleep : Leads env data 29 w 30 w :=
    @leads_sleep env data w h 29 _ "30" 30 rfl (by decide) (by decide) (by decide) (by decide)
      (by decide) (by decide) (by decide) (by decide)
  have hecho : Leads env data 32 w 33 w :=
    leads_echo_net h hi hidx "Configuring" ["static".toList, "IP".toList, "on".toList] "..." []
      rfl (by decide) (by decide) (by decide) (by decide) (by decide) (by decide) (by decide)
  exact (leads_quiet h (by decide) (by decide) (by decide)).trans (hsleep.trans
    ((leads_quiet h (by decide) (by decide) (by decide)).trans hecho))

omit hi hidx in
/-- A value of the job for the interface, and a jump where it does not fit. -/
theorem leads_set {n k : ℕ} {line : String} {front back key value name : Str}
    {token : Str} {ok : Bool} (hline : template2Lines[n]? = some line) (hn : n ∉ labelled)
    (hkernel : n < 74 ∨ 80 ≤ n) (htext : line.toList = front ++ ' ' ::
      (placeholder key ++ ' ' :: back))
    (hfront : ¬ ['_', '_'] <:+: front) (hback : ¬ ['_', '_'] <:+: back)
    (hfrontTokens : splitCommand front = ["set".toList, token])
    (hargs : ∀ token' ∈ ["set".toList, token], IsArgument token')
    (hbackTokens : splitCommand back = ["||".toList, "goto".toList, "cleanup_interface".toList])
    (hkey : (buildIpxeContext data)[k]? = some (key, value)) (hvalue : IsPlain value)
    (hne : value ≠ []) (hexpand : (shell env).expand w token = some name)
    (hhead : name.head? ≠ some '-') (hset : setExec w name value = (w', ok)) :
    Leads env data n w (if ok then n + 1 else 42) w' := by
  have hexec : execv (shell env) (script data) ["set".toList, token, value] w =
      (w', .status ok) := by
    rw [execv_set hexpand hhead (expand_of_not_mem (hvalue.not_mem rfl)), hset]
  have hlater : commandTerminator ["||".toList, "goto".toList, "cleanup_interface".toList] =
      ([], [(.onFailure, ["goto".toList, "cleanup_interface".toList])]) := by decide
  refine reaches_orGoto hline hkernel ?_ hexec (goto_cleanup h.plain) (by decide) (by decide)
  have hall : ∀ token' ∈ ["set".toList, token, value], IsArgument token' := by
    simp only [List.forall_mem_cons] at hargs ⊢
    exact ⟨hargs.1, hargs.2.1, isArgument_of_isPlain hvalue, List.forall_mem_nil _⟩
  rw [splitCommand_value h.plain hline hn hkernel htext hfront hback hkey hvalue hne, hfrontTokens,
    hbackTokens]
  exact (commandTerminator_append hall _).trans (by rw [hlater]; rfl)

theorem leads_set_net {n k : ℕ} {line : String} {back key name : Str}
    {value : {s : Str // isIpv4Address s = true}} {device : Device}
    (hdevice : w.findNetdev (netName i) = some device) (hline : template2Lines[n]? = some line)
    (hn : n ∉ labelled) (hkernel : n < 74 ∨ 80 ≤ n)
    (htext : line.toList = ("set ".toList ++
      ("net".toList ++ '$' :: '\x7b' :: ("idx".toList ++ '\x7d' :: '/' :: name))) ++
      ' ' :: (placeholder key ++ ' ' :: back))
    (hfront : ¬ ['_', '_'] <:+: "set ".toList ++
      ("net".toList ++ '$' :: '\x7b' :: ("idx".toList ++ '\x7d' :: '/' :: name)))
    (hback : ¬ ['_', '_'] <:+: back)
    (htokens : splitCommand ("set ".toList ++
      ("net".toList ++ '$' :: '\x7b' :: ("idx".toList ++ '\x7d' :: '/' :: name))) =
      ["set".toList, "net".toList ++ '$' :: '\x7b' :: ("idx".toList ++ '\x7d' :: '/' :: name)])
    (hargs : ∀ token ∈ ["set".toList, "net".toList ++ '$' :: '\x7b' ::
      ("idx".toList ++ '\x7d' :: '/' :: name)],
      IsArgument token)
    (hbackTokens : splitCommand back = ["||".toList, "goto".toList, "cleanup_interface".toList])
    (hkey : (buildIpxeContext data)[k]? = some (key, value.val)) (hname : '$' ∉ name ∧ '/' ∉ name)
    (hparse : parseSettingName name = ⟨none, name, none⟩)
    (htype : predefined.lookup name = some .ipv4) (hmac : name ≠ "mac".toList)
    (hhwaddr : name ≠ "hwaddr".toList) :
    Leads env data n w (n + 1)
      (w.modifyNetdev (netName i) fun device =>
        device.withSetting name (ipv4Setting value.val)) := by
  obtain ⟨a, b, c, d, hraw⟩ := inetAton_ipv4 value.property
  have hne := ipv4_ne_nil value.property
  have hexpand := expand_netIdx h.fuel hi hidx ('/' :: name) (by simpa using hname.1)
  have hhead : (netName i ++ '/' :: name).head? ≠ some '-' := by
    rw [netName, List.append_assoc, List.head?_append_of_ne_nil _ (by decide)]
    decide
  exact leads_set h hline hn hkernel htext hfront hback htokens hargs hbackTokens hkey
    (isPlain_ipv4 value) hne hexpand
    hhead (setExec_net hname.2 hparse htype hmac hhwaddr hne hraw hdevice)

/-- The three settings of the interface. -/
theorem leads_assign {device : Device} (hdevice : w.findNetdev (netName i) = some device) :
    Leads env data 33 w 36 (assign data w i) := by
  have hname : ∀ name setting (device : Device), (device.withSetting name setting).name =
      device.name := fun _ _ _ => rfl
  have hmodified : ∀ {w : Host} {device : Device} (name : Str) (setting : Setting),
      w.findNetdev (netName i) = some device →
      (w.modifyNetdev (netName i) fun device => device.withSetting name setting).findNetdev
        (netName i) =
        some (device.withSetting name setting) := by
    intro w device name setting hdevice
    rw [Host.findNetdev_modifyNetdev _ _ _ (hname _ _), hdevice, Option.map_some,
      if_pos (Host.name_of_findNetdev hdevice)]
  have hdevice₁ := hmodified "ip" (ipv4Setting data.request.ipv4.address.val) hdevice
  have hdevice₂ := hmodified "netmask" (ipv4Setting data.request.ipv4.netmask.val) hdevice₁
  have hip :=
    @leads_set_net env data w i h hi hidx 33 3 _ "      || goto cleanup_interface" "IPV4" "ip"
    data.request.ipv4.address device hdevice rfl (by decide) (by decide) rfl (by decide)
      (by decide) (by decide)
    (by decide) (by decide) rfl (by decide) (by decide) (by decide) (by decide) (by decide)
  have hmask :=
    @leads_set_net env data _ i h hi (by exact hidx) 34 4 _ " || goto cleanup_interface"
      "MASK" "netmask"
    data.request.ipv4.netmask _ hdevice₁ rfl (by decide) (by decide) rfl (by decide) (by decide)
    (by decide) (by decide) (by decide) rfl (by decide) (by decide) (by decide)
      (by decide) (by decide)
  have hgateway :=
    @leads_set_net env data _ i h hi (by exact hidx) 35 5 _ "   || goto cleanup_interface"
      "GW" "gateway"
    data.request.ipv4.gateway _ hdevice₂ rfl (by decide) (by decide) rfl
    (by decide) (by decide) (by decide) (by decide) (by decide) rfl (by decide) (by decide)
      (by decide) (by decide)
    (by decide)
  have hall := hip.trans (hmask.trans hgateway)
  rw [Host.modifyNetdev_modifyNetdev _ _ (hname _ _),
    Host.modifyNetdev_modifyNetdev _ _ (hname _ _)] at hall
  exact hall

omit hi hidx in
/-- The name server; what is no IPv4 address does not fit. -/
theorem leads_dns : Leads env data 36 w (if (setDns data w).isSome then 37 else 42)
    ((setDns data w).getD w) := by
  have hparse : parseSettingName "dns".toList = ⟨none, "dns".toList, none⟩ := by decide
  have htype : SettingName.settingType ⟨none, "dns".toList, none⟩ = some (some .ipv4) := by decide
  have hset : setExec w "dns".toList (dnsPrimary data) =
      ((setDns data w).getD w, (setDns data w).isSome) := by
    cases hraw : inetAton (dnsPrimary data) with
    | none =>
      rw [setExec_root_none hparse htype h.dns hraw, setDns, hraw]
      rfl
    | some raw =>
      rw [setExec_root hparse htype h.dns hraw, setDns, hraw]
      rfl
  exact @leads_set env data w _ h 36 9 _ "set dns" "        || goto cleanup_interface" "DNS_PRIMARY"
    (dnsPrimary data)
    "dns" "dns" _ rfl (by decide) (by decide) rfl (by decide) (by decide) (by decide) (by decide)
      (by decide) rfl
    h.plain.values.2.2.1 h.dns (expand_of_not_mem (by decide)) (by decide) hset

set_option maxRecDepth 1000 in
theorem leads_ping : Leads env data 37 w (if reachesInternet env w then 52 else 42) w := by
  have hecho : Leads env data 39 w 40 w :=
    leads_echo_net h hi hidx "Testing" ["gateway".toList, "reachability".toList, "on".toList] "..."
      [] rfl (by decide) (by decide) (by decide) (by decide) (by decide) (by decide) (by decide)
  have hline : template2Lines[40]? =
      some "ping --count 3 --timeout 2000 1.1.1.1 && goto found_interface || goto cleanup_interface" := rfl
  have htokens : commandTerminator (splitCommand
      "ping --count 3 --timeout 2000 1.1.1.1 && goto found_interface || goto cleanup_interface".toList) =
      (["ping".toList, "--count".toList, "3".toList, "--timeout".toList, "2000".toList,
        "1.1.1.1".toList], [(.onSuccess, ["goto".toList, "found_interface".toList]),
          (.onFailure, ["goto".toList, "cleanup_interface".toList])]) := rfl
  have hsystem := system_either htokens (execv_ping rfl)
    (@execv_goto env (script data) w "found_interface" _ (by decide) (by decide)
      (goto_found h.plain))
  have hcleanup :=
    @execv_goto env (script data) w "cleanup_interface" _ (by decide) (by decide)
      (goto_cleanup h.plain)
  refine (leads_quiet h (by decide) (by decide) (by decide)).trans
    (hecho.trans (reaches_jump hline (by decide) ?_))
  rw [command_literal h.plain hline (by decide) (by decide) (by decide), hsystem, hcleanup]
  split_ifs <;> rfl

omit hi hidx in
/-- A line with nothing but a jump. -/
theorem leads_goto {n m : ℕ} {line : String} {label : Str} (hline : template2Lines[n]? = some line)
    (hn : n ∉ labelled) (hkernel : n < 74 ∨ 80 ≤ n) (hunmarked : ¬ ['_', '_'] <:+: line.toList)
    (htokens : splitCommand line.toList = ["goto".toList, label])
    (hargs : ∀ token ∈ ["goto".toList, label], IsArgument token) (hdollar : '$' ∉ label)
    (hhead : label.head? ≠ some '-')
    (hlabel : gotoFindLabel (linesFrom data 0) label = some (linesFrom data m)) :
    Leads env data n w m w := by
  refine reaches_jump hline hkernel ?_
  rw [command_literal h.plain hline hn hkernel hunmarked,
    system_single (by rw [htokens]; exact hargs), htokens]
  exact execv_goto hdollar hhead hlabel

/-- The interface is closed again. -/
theorem leads_cleanup {device : Device} (hdevice : w.findNetdev (netName i) = some device) :
    Leads env data 42 w 47 (close w i) := by
  have hnet := expand_netIdx h.fuel hi hidx [] (by decide)
  rw [List.append_nil] at hnet
  have hhead : (netName i).head? ≠ some '-' := by
    rw [netName, List.head?_append_of_ne_nil _ (by decide)]
    decide
  have hwords : ∀ token ∈ ["cannot", "reach", "gateway,", "closing", "and", "trying", "next"].map
    String.toList,
      '$' ∉ token := by decide
  have hecho : Leads env data 43 w 44 w :=
    @leads_echo env data w h 43 _ _
      (["cannot", "reach", "gateway,", "closing", "and", "trying", "next"].map String.toList)
      rfl (by decide) (by decide) (by decide) rfl (by decide) ⟨_, hnet, hhead⟩ fun token htoken =>
        ⟨token, expand_of_not_mem (hwords token htoken)⟩
  have hline : template2Lines[44]? = some "ifclose net$\x7bidx\x7d" := rfl
  have htokens : splitCommand "ifclose net$\x7bidx\x7d".toList =
      ["ifclose".toList, "net".toList ++ '$' :: '\x7b' :: ("idx".toList ++ '\x7d' :: [])] := by
        decide
  have hname : commands.lookup "ifclose".toList = some .ifclose := by decide
  have hexec :=
    @execv_ifcommon env (script data) w i _ _ ifclosePayload _ device hname (by decide)
      (fun _ => rfl)
    rfl hnet hdevice
  have hclose : Leads env data 44 w 45 (close w i) := by
    refine reaches_next hline (by decide) ?_
    rw [command_literal h.plain hline (by decide) (by decide) (by decide),
      system_single (by rw [htokens]; decide),
      htokens, hexec, ifclosePayload, Host.name_of_findNetdev hdevice]
    rfl
  have hgoto : Leads env data 45 (close w i) 47 (close w i) :=
    leads_goto h rfl (by decide) (by decide) (by decide) rfl (by decide) (by decide) (by decide)
      (goto_next h.plain)
  exact (reaches_label rfl (by decide) lineOf_cleanup).trans (hecho.trans (hclose.trans hgoto))

omit hi in
/-- The next interface, if there is one. -/
theorem leads_next (hi : i < 10) : Leads env data 47 w (if i + 1 = 10 then 88 else 19)
    (setIdx w (i + 1)) := by
  have hinc : Leads env data 48 w 49 (setIdx w (i + 1)) := by
    have hline : template2Lines[48]? = some "inc idx ||" := rfl
    have htokens : commandTerminator (splitCommand "inc idx ||".toList) =
        (["inc".toList, "idx".toList], [(.onFailure, [])]) := by decide
    have hexec := @execv_inc env (script data) w "idx" (by decide) (by decide)
    rw [incExec_idx hi hidx] at hexec
    refine reaches_next hline (by decide) ?_
    rw [command_literal h.plain hline (by decide) (by decide) (by decide),
      system_orElse htokens hexec, if_pos rfl]
  have hidx' := atIndex_setIdx w (i + 1)
  have hindex := @fetchText_idx env.elsewhere (setIdx w (i + 1)) (i + 1) hi hidx'
  have hdigits : ∀ i < 10, '$' ∉ decimal (i + 1) ∧ (decimal (i + 1)).head? ≠ some '-' ∧
      decide (decimal (i + 1) = "10".toList) = decide (i + 1 = 10) := by decide
  obtain ⟨hdollar, hhead, hten⟩ := hdigits i hi
  have hexpand :=
    @expand_setting env (setIdx w (i + 1)) h.fuel [] "idx" [] ⟨by decide, by decide⟩
      ⟨by decide, by decide⟩
    (by decide) (by rw [hindex]; exact hdollar)
  rw [hindex, List.nil_append, List.nil_append, List.append_nil] at hexpand
  have hline : template2Lines[49]? = some "iseq $\x7bidx\x7d 10 && goto failed ||" := rfl
  have htokens : commandTerminator (splitCommand "iseq $\x7bidx\x7d 10 && goto failed ||".toList) =
      (["iseq".toList, '$' :: '\x7b' :: ("idx".toList ++ '\x7d' :: []), "10".toList],
        [(.onSuccess, ["goto".toList, "failed".toList]), (.onFailure, [])]) := by decide
  have hsystem := system_either htokens (execv_iseq hexpand hhead (by decide))
    (@execv_goto env (script data) _ "failed" _ (by decide) (by decide) (goto_failed h.plain))
  rw [← command_literal h.plain hline (by decide) (by decide) (by decide), hten] at hsystem
  refine (reaches_label rfl (by decide) lineOf_next).trans (hinc.trans ?_)
  by_cases hlast : i + 1 = 10
  · rw [if_pos (decide_eq_true hlast)] at hsystem
    rw [if_pos hlast]
    exact reaches_jump hline (by decide) hsystem
  · rw [if_neg (by simpa using hlast)] at hsystem
    rw [if_neg hlast]
    have hgoto : Leads env data 50 (setIdx w (i + 1)) 19 (setIdx w (i + 1)) :=
      leads_goto h rfl (by decide) (by decide) (by decide) rfl (by decide) (by decide) (by decide)
        (goto_try h.plain)
    exact (reaches_next hline (by decide) hsystem).trans hgoto

/-- From the label on, an interface is probed. -/
theorem leads_probe (hblock : w.blocks (netName i) = none) :
    Leads env data 19 w (if (probe env data w i).2 then 52 else 47) (probe env data w i).1 := by
  have htrying := leads_trying h hi hidx
  cases hdevice : w.findNetdev (netName i) with
  | none =>
    rw [probe_of_none hdevice]
    exact htrying.trans (leads_isset_none h hi hidx hdevice hblock)
  | some device =>
    have hopen :=
      htrying.trans ((leads_isset_some h hi hidx hdevice).trans (leads_ifopen h hi hidx hdevice))
    have hroot := root_ifopenPayload env w device
    have hkeeps := keeps_ifopenPayload env w device
    rcases hresult : ifopenPayload env w device with ⟨w₁, ok⟩
    rw [hresult] at hopen hroot hkeeps
    have hidx₁ : AtIndex w₁ i := (congrFun hroot _).trans hidx
    cases ok with
    | false =>
      rw [probe_of_closed hdevice hresult]
      exact hopen
    | true =>
      obtain ⟨device₁, hdevice₁, -⟩ := hkeeps.findNetdev hdevice
      obtain ⟨device₂, hdevice₂, -⟩ := (keeps_assign data w₁ i).findNetdev hdevice₁
      have hassigned :=
        hopen.trans ((leads_configure h hi hidx₁).trans ((leads_assign h hi hidx₁ hdevice₁).trans
        (leads_dns h)))
      have hidx₂ : AtIndex (assign data w₁ i) i := hidx₁
      cases hdns : setDns data (assign data w₁ i) with
      | none =>
        rw [hdns] at hassigned
        rw [probe_of_unset hdevice hresult hdns]
        exact hassigned.trans (leads_cleanup h hi hidx₂ hdevice₂)
      | some w₃ =>
        obtain ⟨device₃, hdevice₃, -⟩ := (keeps_setDns data _ hdns).findNetdev hdevice₂
        have hidx₃ : AtIndex w₃ i := (root_setDns data _ (by decide) hdns).trans hidx₂
        rw [hdns] at hassigned
        rw [probe_of_set hdevice hresult hdns]
        have hping := leads_ping h hi hidx₃
        cases hreach : reachesInternet env w₃ with
        | true =>
          rw [hreach] at hping
          exact hassigned.trans hping
        | false =>
          rw [hreach] at hping
          exact hassigned.trans (hping.trans (leads_cleanup h hi hidx₃ hdevice₃))

omit hi hidx in
/-- From the label on with so many interfaces left, the search is carried out. -/
theorem leads_search (rounds : ℕ) {i : ℕ} {w : Host} (hrounds : i + rounds = 10)
    (hblocks : ∀ i, w.blocks (netName i) = none) :
    Leads env data (if rounds = 0 then 88 else 19) (setIdx w i)
      (if (searchFrom env data rounds i w).2.isSome then 52 else 88)
        (searchFrom env data rounds i w).1 := by
  induction rounds generalizing i w with
  | zero => exact .refl
  | succ rounds ih =>
    have hprobe := leads_probe h (by omega) (atIndex_setIdx w i) (hblocks i)
    have hkeeps := (keeps_root w _).trans (keeps_probe env data (setIdx w i) i)
    have hidx := (root_probe env data (setIdx w i) i (by decide)).trans (atIndex_setIdx w i)
    rw [if_neg (Nat.succ_ne_zero _), searchFrom]
    rcases hresult : probe env data (setIdx w i) i with ⟨w', ok⟩
    rw [hresult] at hprobe hkeeps hidx
    cases ok with
    | true => exact hprobe
    | false =>
      have hnext := leads_next h hidx (by omega)
      have hlast : (i + 1 = 10) = (rounds = 0) := by rw [← hrounds]; simp
      simp only [hlast] at hnext
      exact hprobe.trans (hnext.trans (ih (by omega) fun i => by rw [hkeeps.blocks, hblocks]))

end Run

end Astro.BootScriptRun
