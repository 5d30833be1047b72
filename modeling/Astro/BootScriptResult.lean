import Astro.BootScriptRun

/-!
# What the boot script does

Around the search: the start of the script, the interface that was found, the images and the kernel.
Together they make the boot loader do what `InterfaceSearch.run` says, whatever the interfaces and
the network answer.
-/

namespace Astro.BootScriptResult

open PythonText TemplateChunks IpxePipeline CustomIsoHandler RequestModels RepositorySite
  SimultaneousRendering HostNames ShellText KernelCommandLine IpxeScripts IpxeSettings IpxeCommands
  BootScriptLines InterfaceSearch BootScriptRun StateTransition

theorem isPlain_bootifMac (mac : Mac) : IsPlain (bootifMac mac) := by
  have hdigit : ∀ n < 16, isArgChar (Nat.digitChar n) = true := by decide
  have hstart : IsPlain "01-" := by decide
  refine hstart.append fun c hc => ?_
  rcases mem_join hc with hc | ⟨piece, hpiece, hc⟩
  · exact (by decide : IsPlain "-") c hc
  · obtain ⟨b, -, rfl⟩ := List.mem_map.mp hpiece
    have hb := b.toNat_lt
    rcases List.mem_cons.mp hc with rfl | hc
    · exact hdigit _ (by omega)
    · obtain rfl := List.mem_singleton.mp hc
      exact hdigit _ (Nat.mod_lt _ (by decide))

theorem toNat_of_isArgChar {c : Char} (h : isArgChar c = true) : 0 < c.toNat ∧ c.toNat < 256 := by
  simp only [isArgChar, Bool.or_eq_true, decide_eq_true_eq] at h
  rcases h with ((((h | rfl) | rfl) | rfl) | rfl) | rfl
  · obtain ⟨hlow, hhigh⟩ := toNat_of_isAlphanum h
    exact ⟨by omega, by omega⟩
  all_goals decide

/-- Plain text is stored and read back as it is. -/
theorem text_bytes {value : Str} (h : IsPlain value) : text (bytes value) = value := by
  have hbyte : ∀ c : Char, isArgChar c = true →
      decide (UInt8.ofNat c.toNat ≠ 0) = true ∧ Char.ofNat (UInt8.ofNat c.toNat).toNat = c := by
    intro c hc
    obtain ⟨hpos, hlt⟩ := toNat_of_isArgChar hc
    have htoNat : (UInt8.ofNat c.toNat).toNat = c.toNat := by
      rw [UInt8.toNat_ofNat']
      exact Nat.mod_eq_of_lt hlt
    constructor
    · rw [decide_eq_true_eq]
      intro hzero
      rw [hzero] at htoNat
      exact absurd htoNat.symm hpos.ne'
    · rw [htoNat, Char.ofNat_toNat]
  rw [text, bytes, List.takeWhile_eq_self_iff.mpr, List.map_map]
  · exact (List.map_congr_left fun c hc => (hbyte c (h c hc)).2).trans (List.map_id value)
  · exact List.forall_mem_map.mpr fun c hc => (hbyte c (h c hc)).1

theorem fetchText_bootif (elsewhere : Host → Str → Str → Option Setting) (w : Host) (mac : Mac) :
    fetchText elsewhere (setBootif w mac) "bootif_mac".toList = bootifMac mac := by
  have hparse : parseSettingName "bootif_mac".toList = ⟨none, "bootif_mac".toList, none⟩ := by
    decide
  have hlookup : predefined.lookup "bootif_mac".toList = none := by decide
  have hroot : (setBootif w mac).root "bootif_mac".toList =
      some ⟨.string, bytes (bootifMac mac)⟩ := by
    simp only [setBootif, Function.update_self]
  rw [fetchText_root hparse hlookup hroot]
  exact text_bytes (isPlain_bootifMac mac)

section Images

variable {env : Environment} {data : JobData} {w : Host}

/-- A line whose command decides how the script goes on. -/
theorem reaches_andThen {line : Line} {rest : List Line} {first : Host × Reply Departure}
    {next : Host → Host × Ending Departure}
    (hsystem : system (shell env) (script data) line.command w =
      (first.1, first.2.outcome (linesFrom data 0)))
    (hgoto : ∀ label, first.2 ≠ .goto label)
    (hnext : ∀ w', first = (w', .status true) →
      Reaches (step (shell env) (script data)) (.running rest w')
        (.ended (next w').2 (next w').1)) :
    Reaches (step (shell env) (script data)) (.running (line :: rest) w)
      (.ended (andThen first next).2 (andThen first next).1) := by
  obtain ⟨w', reply⟩ := first
  cases reply with
  | status ok =>
    cases ok with
    | true => exact (reaches_of_status hsystem).trans (hnext w' rfl)
    | false => exact .single (by simp [step, hsystem, Reply.outcome, andThen])
  | goto label => exact absurd rfl (hgoto label)
  | exit ok => exact .single (by simp [step, hsystem, Reply.outcome, andThen])
  | gone how => exact .single (by simp [step, hsystem, Reply.outcome, andThen])

theorem imgselectExec_status (env : Environment) (w : Host) (given : List (Char × Str))
    (args : List Str) :
    ∃ ok, (imgselectExec env w given args).2 = .status ok := by
  unfold imgselectExec
  split <;> exact ⟨_, rfl⟩

theorem imgfetchExec_status (env : Environment) (w : Host) (given : List (Char × Str))
    (args : List Str) :
    ∃ ok, (imgfetchExec env w given args).2 = .status ok := by
  unfold imgfetchExec
  split <;> exact ⟨_, rfl⟩

theorem imageExec_ne_goto (env : Environment) (w : Host) (i : ℕ) (label : Str) :
    (imageExec env w i).2 ≠ .goto label := by
  unfold imageExec
  split
  · exact nofun
  · split_ifs
    · exact nofun
    · split <;> exact nofun

theorem imgexecExec_ne_goto (env : Environment) (w : Host) (label : Str) :
    (imgexecExec env w [] []).2 ≠ .goto label := by
  unfold imgexecExec
  dsimp only
  split
  · exact imageExec_ne_goto env _ _ label
  · exact nofun

theorem isToken_argument {name value : Str} (hname : IsToken name)
    (hvalue : ∀ c ∈ value, isspace c = false) :
    IsToken (argument name value) :=
  ⟨List.append_ne_nil_of_left_ne_nil hname.1 _,
    List.forall_mem_append.mpr ⟨hname.2, List.forall_mem_cons.mpr ⟨rfl, hvalue⟩⟩⟩

theorem splitCommand_argumentLine {arg : Str} (harg : IsToken arg) (rest : Str) :
    splitCommand (argumentLine arg ++ rest) = arg :: splitCommand rest := by
  have htext : argumentLine arg ++ rest = [] ++ ' ' :: ([] ++ ' ' :: (arg ++ ' ' :: rest)) := by
    simp only [argumentLine, List.cons_append, List.append_assoc, List.nil_append]
  rw [htext, splitCommand_append_cons rfl, splitCommand_append_cons rfl,
    splitCommand_append_cons rfl, harg.splitCommand_eq]
  rfl

/-- The kernel command before its setting is expanded. -/
theorem splitCommand_joinedLine (hplain : HasPlainContext data) (hurl : data.kernelUrl ≠ []) :
    splitCommand (joinedLine data) =
      ["kernel".toList, data.kernelUrl, argument "ip" (ipArgument data)] ++
        (argument "BOOTIF" "$\x7bbootif_mac\x7d") ::
          [argument "jobid" data.request.hostname.val, argument "serverip" (rawIp data),
            argument "init" "/init"] := by
  obtain ⟨hname, hkernel, hdns, hserver⟩ := hplain.values
  have hspace : ∀ {value : Str}, IsPlain value → ∀ c ∈ value, isspace c = false := by
    intro value hvalue c hc
    exact (isToken_of_isPlain hvalue (List.ne_nil_of_mem hc)).2 c hc
  have hinit : "  init=/init".toList = [] ++ ' ' :: ([] ++ ' ' :: argument "init" "/init") := rfl
  have htoken : ∀ {name : Str}, IsToken name → ∀ {value : Str}, IsPlain value →
      IsToken (argument name value) :=
    fun hname _ hvalue => isToken_argument hname (hspace hvalue)
  have hip : IsToken "ip".toList := by decide
  have hbootif : IsToken (argument "BOOTIF" "$\x7bbootif_mac\x7d") := by decide
  have hjobid : IsToken "jobid".toList := by decide
  have hserverip : IsToken "serverip".toList := by decide
  unfold joinedLine
  rw [List.append_assoc, List.cons_append, List.append_assoc, List.singleton_append,
    splitCommand_append_cons rfl, splitCommand_append_cons rfl,
    (isToken_of_isPlain hkernel hurl).splitCommand_eq,
    splitCommand_argumentLine (htoken hip (isPlain_ipArgument hdns)),
      splitCommand_argumentLine hbootif,
    splitCommand_argumentLine (htoken hjobid hname),
      splitCommand_argumentLine (htoken hserverip hserver), hinit,
    splitCommand_append_cons rfl, splitCommand_append_cons rfl]
  rfl

end Images

section Found

variable {env : Environment} {data : JobData} {w w' : Host} {i : ℕ} {device : Device}
  (h : Runs env data)
include h

/-- A setting of the interface is shown. -/
theorem leads_echo_setting (hi : i ≤ 10) (hidx : AtIndex w i) {n : ℕ} {line : String}
    {first name : Str} {type : SettingType} (hline : template2Lines[n]? = some line)
    (hn : n ∉ labelled) (hkernel : n < 74 ∨ 80 ≤ n) (hunmarked : ¬ ['_', '_'] <:+: line.toList)
    (htokens : splitCommand line.toList =
      ["echo".toList, first, '$' :: '\x7b' :: ("net".toList ++ '$' :: '\x7b' ::
      ("idx".toList ++ '\x7d' :: ('/' :: name ++ '\x7d' :: [])))])
    (hargs : ∀ token ∈ [first, '$' :: '\x7b' :: ("net".toList ++ '$' :: '\x7b' ::
      ("idx".toList ++ '\x7d' :: ('/' :: name ++ '\x7d' :: [])))], IsArgument token)
    (hfirst : '$' ∉ first ∧ first.head? ≠ some '-')
    (hname : '$' ∉ name ∧ '\x7d' ∉ name ∧ '/' ∉ name)
    (htype : (parseSettingName name).settingType = some (some type))
    (hformat : ∀ raw, '$' ∉ (type.format raw).getD []) : Leads env data n w (n + 1) w := by
  refine leads_echo h hline hn hkernel hunmarked htokens hargs
    ⟨first, expand_of_not_mem hfirst.1, hfirst.2⟩ ?_
  intro token htoken
  obtain rfl := List.mem_singleton.mp htoken
  exact expand_net_typed h.fuel hi hidx [] name [] ⟨by decide, by decide⟩ hname (by decide)
    htype hformat

/-- The address of the interface becomes `bootif_mac`. -/
theorem leads_bootif (hi : i ≤ 10) (hidx : AtIndex w i)
    (hdevice : w.findNetdev (netName i) = some device) :
    Leads env data 52 w 56 (setBootif w device.mac) := by
  have hecho : Leads env data 53 w 54 w :=
    leads_echo_net h hi hidx "Network" ["interface".toList] []
      ["configured".toList, "successfully".toList] rfl
      (by decide) (by decide) (by decide) (by decide) (by decide) (by decide) (by decide)
  have hparse : parseSettingName "mac:hexhyp".toList =
      ⟨none, "mac".toList, some "hexhyp".toList⟩ := by decide
  have htype : SettingName.settingType ⟨none, "mac".toList, some "hexhyp".toList⟩ =
      some (some (.hex (some '-'))) := by
    decide
  have hvalue :=
    @fetchText_net env.elsewhere w i _ _ _ _ _ (by decide) hparse htype hdevice (if_pos rfl)
  have hdollar : '$' ∉ fetchText env.elsewhere w (netName i ++ '/' :: "mac:hexhyp".toList) :=
    dollar_not_mem_fetchText ((settingType_net (by decide)).trans (by rw [hparse]; exact htype))
      (dollar_not_mem_hex (by decide))
  have hexpand :=
    expand_net h.fuel hi hidx "01-" "mac:hexhyp" [] ⟨by decide, by decide⟩
      ⟨by decide, by decide⟩ (by decide) hdollar
  rw [hvalue, List.append_nil] at hexpand
  have hset : setExec w "bootif_mac".toList (bootifMac device.mac) =
      (setBootif w device.mac, true) := by
    have hname : parseSettingName "bootif_mac".toList = ⟨none, "bootif_mac".toList, none⟩ := by
      decide
    have hnone : SettingName.settingType ⟨none, "bootif_mac".toList, none⟩ = some none := by decide
    exact setExec_root hname hnone (isWord_bootifMac device.mac).1 rfl
  have hline : template2Lines[55]? = some "set bootif_mac 01-$\x7bnet$\x7bidx\x7d/mac:hexhyp\x7d" :=
    rfl
  have htokens : splitCommand "set bootif_mac 01-$\x7bnet$\x7bidx\x7d/mac:hexhyp\x7d".toList =
      ["set".toList, "bootif_mac".toList, "01-".toList ++ '$' :: '\x7b' ::
        ("net".toList ++ '$' :: '\x7b' ::
        ("idx".toList ++ '\x7d' :: ('/' :: "mac:hexhyp".toList ++ '\x7d' :: [])))] := by decide
  have hexec :=
    @execv_set env (script data) w "bootif_mac" _ _ _ (expand_of_not_mem (by decide))
      (by decide) hexpand
  have hbootif : Leads env data 55 w 56 (setBootif w device.mac) := by
    refine reaches_next hline (by decide) ?_
    rw [command_literal h.plain hline (by decide) (by decide) (by decide),
      system_single (by rw [htokens]; decide),
      htokens, hexec]
    exact congrArg (fun result : Host × Bool => (result.1, Outcome.status result.2)) hset
  exact (reaches_label rfl (by decide) lineOf_found).trans (hecho.trans
    ((leads_quiet h (by decide) (by decide) (by decide)).trans hbootif))

theorem expand_bootif (w : Host) (mac : Mac) :
    (shell env).expand (setBootif w mac)
    ("BOOTIF=".toList ++ '$' :: '\x7b' :: ("bootif_mac".toList ++ '\x7d' :: [])) =
      some ("BOOTIF=".toList ++ bootifMac mac) := by
  have hvalue := fetchText_bootif env.elsewhere w mac
  have hdollar : '$' ∉ fetchText env.elsewhere (setBootif w mac) "bootif_mac".toList := by
    rw [hvalue]
    exact (isPlain_bootifMac mac).not_mem rfl
  rw [expand_setting h.fuel "BOOTIF=" "bootif_mac" [] ⟨by decide, by decide⟩ ⟨by decide, by decide⟩
    (by decide) hdollar,
    hvalue, List.append_nil]

/-- What is shown before the kernel is loaded. -/
theorem leads_shown (hi : i ≤ 10) (hidx : AtIndex w i) (mac : Mac) :
    Leads env data 56 (setBootif w mac) 74 (setBootif w mac) := by
  have hidx' : AtIndex (setBootif w mac) i := by
    have hne : "idx".toList ≠ "bootif_mac".toList := by decide
    rw [AtIndex, setBootif]
    simp only [Function.update_of_ne hne]
    exact hidx
  set w' := setBootif w mac
  have hsleep : Leads env data 58 w' 59 w' :=
    @leads_sleep env data w' h 58 _ "3" 3 rfl (by decide) (by decide) (by decide) (by decide)
      (by decide) (by decide) (by decide) (by decide)
  have htype : (parseSettingName "mac".toList).settingType = some (some (.hex (some ':'))) := by
    decide
  obtain ⟨macValue, hmac⟩ := expand_net_typed h.fuel hi hidx' [] "mac" ")" ⟨by decide, by decide⟩
    ⟨by decide, by decide, by decide⟩ (by decide) htype (dollar_not_mem_hex (by decide))
  have hinterface : Leads env data 61 w' 62 w' := by
    have htokens : splitCommand "echo   Interface: net$\x7bidx\x7d (MAC: $\x7bnet$\x7bidx\x7d/mac\x7d)".toList =
        "echo".toList :: "Interface:".toList ::
          ["net".toList ++ '$' :: '\x7b' :: ("idx".toList ++ '\x7d' :: []), "(MAC:".toList,
            [] ++ '$' :: '\x7b' :: ("net".toList ++ '$' :: '\x7b' :: ("idx".toList ++ '\x7d' ::
            ('/' :: "mac".toList ++ '\x7d' :: ")".toList)))] := by decide
    refine leads_echo h rfl (by decide) (by decide) (by decide) htokens (by decide)
      ⟨_, expand_of_not_mem (by decide), by decide⟩ ?_
    simp only [List.forall_mem_cons]
    exact ⟨⟨_, expand_netIdx h.fuel hi hidx' [] (by decide)⟩, ⟨_, expand_of_not_mem (by decide)⟩,
      ⟨macValue, hmac⟩, List.forall_mem_nil _⟩
  have hip : Leads env data 62 w' 63 w' :=
    @leads_echo_setting env data w' i h hi hidx' 62 _ "IP:" "ip" .ipv4 rfl (by decide) (by decide)
      (by decide) (by decide) (by decide) (by decide) (by decide) (by decide) dollar_not_mem_ipv4
  have hmask : Leads env data 63 w' 64 w' :=
    @leads_echo_setting env data w' i h hi hidx' 63 _ "Netmask:" "netmask" .ipv4 rfl (by decide)
      (by decide) (by decide)
      (by decide) (by decide) (by decide) (by decide) (by decide) dollar_not_mem_ipv4
  have hgateway : Leads env data 64 w' 65 w' :=
    @leads_echo_setting env data w' i h hi hidx' 64 _ "Gateway:" "gateway" .ipv4 rfl (by decide)
      (by decide) (by decide)
      (by decide) (by decide) (by decide) (by decide) (by decide) dollar_not_mem_ipv4
  have hdns : Leads env data 65 w' 66 w' := by
    have hipv4 : (parseSettingName "dns".toList).settingType = some (some .ipv4) := by decide
    have htokens : splitCommand "echo   DNS:       $\x7bdns\x7d".toList =
        "echo".toList :: "DNS:".toList ::
          [[] ++ '$' :: '\x7b' :: ("dns".toList ++ '\x7d' :: [])] := by decide
    refine leads_echo h rfl (by decide) (by decide) (by decide) htokens (by decide)
      ⟨_, expand_of_not_mem (by decide), by decide⟩ ?_
    rintro token htoken
    obtain rfl := List.mem_singleton.mp htoken
    exact ⟨_, expand_setting h.fuel [] "dns" [] ⟨by decide, by decide⟩
      ⟨by decide, by decide⟩ (by decide) (dollar_not_mem_fetchText hipv4 dollar_not_mem_ipv4)⟩
  have hbootif : Leads env data 69 w' 70 w' := by
    have htokens : splitCommand "echo   BOOTIF=$\x7bbootif_mac\x7d".toList =
        "echo".toList :: ("BOOTIF=".toList ++ '$' :: '\x7b' ::
          ("bootif_mac".toList ++ '\x7d' :: [])) :: [] := by decide
    refine leads_echo h rfl (by decide) (by decide) (by decide) htokens (by decide)
      ⟨_, expand_bootif h w mac, ?_⟩ (List.forall_mem_nil _)
    rw [List.head?_append_of_ne_nil _ (by decide)]
    decide
  have hquiet : ∀ {n m : ℕ}, n ≤ m → m ≤ 93 → (∀ k, n ≤ k → k < m → k ∉ loud) →
      Leads env data n w' m w' :=
    leads_quiet h
  exact (hquiet (by decide) (by decide) (by decide)).trans (hsleep.trans
    ((hquiet (by decide : 59 ≤ 61) (by decide) (by decide)).trans
      (hinterface.trans (hip.trans (hmask.trans
      (hgateway.trans (hdns.trans ((hquiet (by decide : 66 ≤ 69) (by decide) (by decide)).trans
        (hbootif.trans
        (hquiet (by decide) (by decide) (by decide)))))))))))

theorem system_kernel (w : Host) (mac : Mac) :
    system (shell env) (script data) (joinedLine data) (setBootif w mac) =
      ((imgselectExec env (setBootif w mac) [] (data.kernelUrl :: bootArguments data mac)).1,
        (imgselectExec env (setBootif w mac) []
          (data.kernelUrl :: bootArguments data mac)).2.outcome
          (linesFrom data 0)) := by
  obtain ⟨hhost, hkernel, hdns, hserver⟩ := h.plain.values
  have hhead := h.urls data.kernelUrl (by simp)
  have hne : data.kernelUrl ≠ [] := fun hnil => by rw [hnil] at hhead; cases hhead
  have hargument : ∀ {name value : Str}, '$' ∉ name → IsPlain value →
      '$' ∉ argument name value := by
    intro name value hname hvalue
    rw [argument, List.mem_append, List.mem_cons, not_or, not_or]
    exact ⟨hname, by decide, hvalue.not_mem rfl⟩
  have hfront : ∀ token ∈ ["kernel".toList, data.kernelUrl, argument "ip" (ipArgument data)],
      '$' ∉ token := by
    simp only [List.forall_mem_cons]
    exact ⟨by decide, hkernel.not_mem rfl, hargument (by decide) (isPlain_ipArgument hdns),
      List.forall_mem_nil _⟩
  have hback : ∀ token ∈ [argument "jobid" data.request.hostname.val,
      argument "serverip" (rawIp data), argument "init" "/init"], '$' ∉ token := by
    simp only [List.forall_mem_cons]
    exact ⟨hargument (by decide) hhost, hargument (by decide) hserver, by decide,
      List.forall_mem_nil _⟩
  have hbootif : (shell env).expand (setBootif w mac) (argument "BOOTIF" "$\x7bbootif_mac\x7d") =
      some (argument "BOOTIF" (bootifMac mac)) := expand_bootif h w mac
  have hname : commands.lookup "kernel".toList = some .imgselect := by decide
  have hexpand : (splitCommand (joinedLine data)).mapM ((shell env).expand (setBootif w mac)) =
      some ("kernel".toList :: data.kernelUrl :: bootArguments data mac) := by
    rw [splitCommand_joinedLine h.plain hne, List.mapM_append, mapM_expand_of_not_mem hfront,
      List.mapM_cons, hbootif, mapM_expand_of_not_mem hback]
    rfl
  have hargs : ∀ token ∈ splitCommand (joinedLine data), IsArgument token := by
    refine fun token htoken => isArgument_of_not_mem fun c hc hbad => ?_
    have hchar := isLineChar_joinedLine h.plain c (subset_of_mem_splitCommand htoken hc)
    simp only [List.mem_cons, List.not_mem_nil, or_false] at hbad
    rcases hbad with rfl | rfl | rfl | rfl <;> exact absurd hchar (by decide)
  rw [system_single hargs, execv_command hexpand hname
    (parseOptions_cons _ (by rw [hhead]; decide) (by simp [Command.descriptor]) rfl)]
  rfl

omit h in
/-- A line that loads an initial ramdisk. -/
theorem system_initrd {line : String} {url : Str} (w : Host)
    (hcommand : (lineOf data line).command = "initrd".toList ++ ' ' :: url) (hplain : IsPlain url)
    (hhead : url.head? = some 'h') :
    system (shell env) (script data) (lineOf data line).command w =
      ((imgfetchExec env w [] [url]).1,
        (imgfetchExec env w [] [url]).2.outcome (linesFrom data 0)) := by
  have hne : url ≠ [] := fun hnil => by rw [hnil] at hhead; cases hhead
  have htokens : splitCommand (lineOf data line).command = ["initrd".toList, url] := by
    have hinitrd : splitCommand "initrd".toList = ["initrd".toList] := by decide
    rw [hcommand, splitCommand_append_cons rfl, hinitrd,
      (isToken_of_isPlain hplain hne).splitCommand_eq]
    rfl
  have hargs : ∀ token ∈ ["initrd".toList, url], IsArgument token := by
    simp only [List.forall_mem_cons]
    exact ⟨by decide, isArgument_of_isPlain hplain, List.forall_mem_nil _⟩
  have hexpand : ["initrd".toList, url].mapM ((shell env).expand w) =
      some ["initrd".toList, url] := by
    refine mapM_expand_of_not_mem ?_
    simp only [List.forall_mem_cons]
    exact ⟨by decide, hplain.not_mem rfl, List.forall_mem_nil _⟩
  have hname : commands.lookup "initrd".toList = some .imgfetch := by decide
  rw [system_single (by rw [htokens]; exact hargs), htokens,
    execv_command hexpand hname (parseOptions_cons _ (by rw [hhead]; decide)
      (by simp [Command.descriptor]) rfl)]
  rfl

/-- No interface works, or the kernel came back. -/
theorem reaches_failed : Reaches (step (shell env) (script data)) (.running (linesFrom data 88) w)
    (.ended (.gone .shell) w) := by
  have hline : template2Lines[92]? = some "shell" := rfl
  have htokens : splitCommand "shell".toList = ["shell".toList] := by decide
  have hname : commands.lookup "shell".toList = some .shell := by decide
  have hexpand := @mapM_expand_of_not_mem env w ["shell".toList] (by decide)
  have hsystem : system (shell env) (script data) (lineOf data "shell").command w =
      (w, .gone .shell) := by
    rw [command_literal h.plain hline (by decide) (by decide) (by decide),
      system_single (by rw [htokens]; decide),
      htokens, execv_command hexpand hname (parseOptions_nil _ rfl)]
    rfl
  have hend : Reaches (step (shell env) (script data)) (.running (linesFrom data 92) w)
      (.ended (.gone .shell) w) := by
    rw [linesFrom_eq_cons hline (by decide)]
    exact .single (by simp [step, hsystem])
  exact (reaches_label rfl (by decide) lineOf_failed).trans
    ((leads_quiet h (by decide) (by decide) (by decide)).trans hend)

/-- From the kernel on. -/
theorem reaches_boot (w : Host) (mac : Mac) :
    Reaches (step (shell env) (script data)) (.running (linesFrom data 74) (setBootif w mac))
      (.ended (bootJob env data (setBootif w mac) mac).2
        (bootJob env data (setBootif w mac) mac).1) := by
  have hvalue : ∀ {k : ℕ} {key value : Str}, (buildIpxeContext data)[k]? = some (key, value) →
      IsPlain value :=
    fun hget => h.plain _ (List.mem_of_getElem? hget)
  have hinitrd : (lineOf data "initrd __INITRD_URL__").command = "initrd".toList ++ ' ' ::
      data.initrdUrl := by
    have htext : "initrd __INITRD_URL__".toList = "initrd".toList ++ ' ' ::
        placeholder "INITRD_URL" := rfl
    rw [@lineOf_command data h.plain 82 _ rfl (by decide) (by decide), htext,
      render_append_cons data rfl, @render_key data 8 _ _ rfl (@hvalue 8 _ _ rfl),
      render_unmarked data (by decide : ¬ ['_', '_'] <:+: "initrd".toList)]
  have hcustom : (lineOf data "initrd __CUSTOM_OS_URL__/customOS/initramfs.cpio.gz").command =
      "initrd".toList ++ ' ' :: (data.customOsUrl ++ "/customOS/initramfs.cpio.gz".toList) := by
    have htext : "initrd __CUSTOM_OS_URL__/customOS/initramfs.cpio.gz".toList =
        "initrd".toList ++ ' ' :: (placeholder "CUSTOM_OS_URL" ++ '/' ::
          "customOS/initramfs.cpio.gz".toList) := rfl
    have hpath : "/customOS/initramfs.cpio.gz".toList = '/' ::
        "customOS/initramfs.cpio.gz".toList := rfl
    rw [@lineOf_command data h.plain 85 _ rfl (by decide) (by decide), htext,
      render_append_cons data rfl, render_append_cons data rfl,
      @render_key data 6 _ _ rfl (@hvalue 6 _ _ rfl),
      render_unmarked data (by decide : ¬ ['_', '_'] <:+: "initrd".toList),
      render_unmarked data (by decide : ¬ ['_', '_'] <:+: "customOS/initramfs.cpio.gz".toList),
      hpath]
  have hcustomHead := h.urls data.customOsUrl (by simp)
  have hboot : ∀ w, system (shell env) (script data) (lineOf data "boot").command w =
      ((imgexecExec env w [] []).1, (imgexecExec env w [] []).2.outcome (linesFrom data 0)) := by
    intro w
    have htokens : splitCommand "boot".toList = ["boot".toList] := by decide
    have hname : commands.lookup "boot".toList = some .imgexec := by decide
    rw [@command_literal data 86 _ h.plain rfl (by decide) (by decide) (by decide),
      system_single (by rw [htokens]; decide), htokens,
      execv_command (mapM_expand_of_not_mem (by decide)) hname (parseOptions_nil _ rfl)]
    rfl
  rw [linesFrom_kernel, ofText_joinedLine h.plain]
  refine reaches_andThen (system_kernel h w mac) ?_ fun w₁ _ => ?_
  · obtain ⟨ok, hok⟩ :=
      imgselectExec_status env (setBootif w mac) [] (data.kernelUrl :: bootArguments data mac)
    rw [hok]
    exact nofun
  refine (leads_quiet h (by decide : 80 ≤ 82) (by decide) (by decide)).trans ?_
  rw [@linesFrom_eq_cons data 82 _ rfl (by decide)]
  refine reaches_andThen (system_initrd w₁ hinitrd (@hvalue 8 _ _ rfl) (h.urls _ (by simp))) ?_
    fun w₂ _ => ?_
  · obtain ⟨ok, hok⟩ := imgfetchExec_status env w₁ [] [data.initrdUrl]
    rw [hok]
    exact nofun
  refine (leads_quiet h (by decide : 83 ≤ 85) (by decide) (by decide)).trans ?_
  rw [@linesFrom_eq_cons data 85 _ rfl (by decide)]
  refine reaches_andThen (system_initrd w₂ hcustom ((@hvalue 6 _ _ rfl).append (by decide)) ?_) ?_
    fun w₃ _ => ?_
  · rw [List.head?_append, hcustomHead]
    rfl
  · obtain ⟨ok, hok⟩ :=
      imgfetchExec_status env w₂ [] [data.customOsUrl ++ "/customOS/initramfs.cpio.gz".toList]
    rw [hok]
    exact nofun
  rw [@linesFrom_eq_cons data 86 _ rfl (by decide)]
  refine reaches_andThen (hboot w₃) (imgexecExec_ne_goto env w₃) fun w₄ _ => ?_
  exact (leads_quiet h (by decide : 87 ≤ 88) (by decide) (by decide)).trans (reaches_failed h)

/-- Without an interface the script ends at once. -/
theorem reaches_ifstat_failed (hdevices : w.devices = []) :
    Reaches (step (shell env) (script data)) (.running (linesFrom data 0) w)
      (.ended (.status false) w) := by
  have hline : template2Lines[15]? = some "ifstat" := rfl
  have htokens : splitCommand "ifstat".toList = ["ifstat".toList] := by decide
  have hsystem : system (shell env) (script data) (lineOf data "ifstat").command w =
      (w, .status false) := by
    rw [command_literal h.plain hline (by decide) (by decide) (by decide),
      system_single (by rw [htokens]; decide),
      htokens, execv_ifstat, hdevices]
    rfl
  refine (leads_quiet h (by decide : 0 ≤ 15) (by decide) (by decide)).trans ?_
  rw [linesFrom_eq_cons hline (by decide)]
  exact .single (by simp [step, hsystem])

theorem leads_start (hdevices : w.devices ≠ []) : Leads env data 0 w 19 (setIdx w 0) := by
  have hifstat : Leads env data 15 w 16 w := by
    have htokens : splitCommand "ifstat".toList = ["ifstat".toList] := by decide
    have hsome : w.devices.isEmpty = false := List.isEmpty_eq_false_iff.mpr hdevices
    refine reaches_next rfl (by decide) ?_
    rw [@command_literal data 15 _ h.plain rfl (by decide) (by decide) (by decide),
      system_single (by rw [htokens]; decide), htokens, execv_ifstat, hsome]
    rfl
  have hset : Leads env data 18 w 19 (setIdx w 0) := by
    have htokens : splitCommand "set idx:int8 0".toList =
        ["set".toList, "idx:int8".toList, "0".toList] := by decide
    have hexec :=
      @execv_set env (script data) w "idx:int8" _ "0" _ (expand_of_not_mem (by decide)) (by decide)
      (expand_of_not_mem (by decide))
    refine reaches_next rfl (by decide) ?_
    rw [@command_literal data 18 _ h.plain rfl (by decide) (by decide) (by decide),
      system_single (by rw [htokens]; decide), htokens, hexec, setExec_idx]
  exact (leads_quiet h (by decide) (by decide) (by decide)).trans (hifstat.trans
    ((leads_quiet h (by decide) (by decide) (by decide)).trans hset))

/-- The boot loader carries out the search and its consequences, and then it is done. -/
theorem scriptExec_script (hblocks : ∀ i, w.blocks (netName i) = none) :
    scriptExec (shell env) (script data) w =
      Part.some (.ended (run env data w).2 (run env data w).1) := by
  refine scriptExec_eq ?_
  rw [run]
  split_ifs with hdevices
  · exact reaches_ifstat_failed h hdevices
  · have hsearch := (leads_start h hdevices).trans (leads_search h 10 rfl hblocks)
    rcases hresult : searchFrom env data 10 0 w with ⟨w₁, found⟩
    rw [hresult] at hsearch
    cases found with
    | none => exact hsearch.trans (reaches_failed h)
    | some i =>
      obtain ⟨⟨-, hi⟩, ⟨w₀, hprobe⟩, -⟩ := searchFrom_found hresult
      have hidx : AtIndex w₁ i := by
        have hroot := root_probe env data (setIdx w₀ i) i (by decide : "idx".toList ≠ "dns".toList)
        rw [hprobe] at hroot
        exact hroot.trans (atIndex_setIdx w₀ i)
      obtain ⟨device, hdevice⟩ := isConfigured_of_probe hprobe
      simp only [hdevice.found]
      exact hsearch.trans ((leads_bootif h (by omega) hidx hdevice.found).trans
        ((leads_shown h (by omega) hidx device.mac).trans (reaches_boot h w₁ device.mac)))

end Found

section Boot

variable {env : Environment} {data : JobData} {w w' : Host} {kernel : Image} {initrds : List Image}

theorem andThen_eq_boot {first : Host × Reply Departure} {next : Host → Host × Ending Departure}
    (h : andThen first next = (w', .gone (.boot kernel initrds))) :
    first = (w', .gone (.boot kernel initrds)) ∨
      ∃ w₁, first = (w₁, .status true) ∧ next w₁ = (w', .gone (.boot kernel initrds)) := by
  obtain ⟨w₁, reply⟩ := first
  cases reply with
  | status ok =>
    cases ok with
    | true => exact Or.inr ⟨w₁, rfl, h⟩
    | false => cases h
  | goto label => cases h
  | exit ok => cases h
  | gone how =>
    obtain ⟨rfl, hhow⟩ := Prod.mk.inj h
    exact Or.inl (by rw [Ending.gone.inj hhow])

theorem imgModify_nil (w : Host) (i : ℕ) : imgModify w i none [] = w := by
  have hid : (fun image : Image => { image with
      name := (none : Option Str).getD image.name
      cmdline := if ([] : List Str) = [] then image.cmdline else some (join " " []) }) = id := by
    funext image
    simp
  rw [imgModify, hid, List.modify_id]

theorem imgselectExec_of_download {url : Str} {args : List Str} {executable : Bool}
    (himages : w.images = []) (hargs : args ≠ []) (h : env.download w url = some executable) :
    imgselectExec env w [] (url :: args) =
      ({ w with
        images := [⟨url, env.basename url, executable, some (join " " args)⟩]
        selected := if executable then some 0 else w.selected }, .status executable) := by
  simp only [imgselectExec, imgacquire, imgdownload, himages, List.headD_cons, List.findIdx?_nil,
    List.tail_cons, h, Option.map_some, List.nil_append, List.length_nil, imgModify, optionValue,
    imageSelect, status,
    List.reverse_nil, List.lookup_nil, Option.getD_none, List.modify_zero_cons,
      List.getElem?_cons_zero,
    Option.any_some, hargs]
  cases executable <;> rfl

/-- The first image of all is the kernel. -/
theorem imgselectExec_eq {url : Str} {args : List Str} (himages : w.images = []) (hargs : args ≠ [])
    (h : imgselectExec env w [] (url :: args) = (w', .status true)) :
    w' = { w with
      images := [⟨url, env.basename url, true, some (join " " args)⟩]
      selected := some 0 } := by
  cases hdownload : env.download w url with
  | none => simp [imgselectExec, imgacquire, imgdownload, himages, hdownload] at h
  | some executable =>
    rw [imgselectExec_of_download himages hargs hdownload] at h
    obtain ⟨rfl, hstatus⟩ := Prod.mk.inj h
    rw [Reply.status.inj hstatus, if_pos rfl]

theorem imgfetchExec_of_download {url : Str} {executable : Bool}
    (h : env.download w url = some executable) :
    imgfetchExec env w [] [url] =
      ({ w with images := w.images ++ [⟨url, env.basename url, executable, none⟩] },
        .status true) := by
  simp only [imgfetchExec, imgdownload, List.headD_cons, h, Option.map_some, optionValue,
    List.reverse_nil, List.lookup_nil, List.tail_cons, imgModify_nil]

theorem imgfetchExec_eq {url : Str} (h : imgfetchExec env w [] [url] = (w', .status true)) :
    ∃ executable, w' =
      { w with images := w.images ++ [⟨url, env.basename url, executable, none⟩] } := by
  cases hdownload : env.download w url with
  | none => simp [imgfetchExec, imgdownload, hdownload] at h
  | some executable =>
    rw [imgfetchExec_of_download hdownload] at h
    exact ⟨executable, (Prod.mk.inj h).1.symm⟩

/-- What is started, and with which images at hand. -/
theorem bootJob_eq_boot {mac : Mac} (himages : w.images = [])
    (h : bootJob env data w mac = (w', .gone (.boot kernel initrds))) :
    (w'.devices = w.devices ∧ w'.root = w.root) ∧ kernel.uri = data.kernelUrl ∧
      kernel.cmdline = some (join " " (bootArguments data mac)) ∧
      initrds.map Image.uri = [data.initrdUrl,
        data.customOsUrl ++ "/customOS/initramfs.cpio.gz".toList] := by
  unfold bootJob at h
  rcases andThen_eq_boot h with hgone | ⟨w₁, hkernel, h⟩
  · obtain ⟨ok, hok⟩ := imgselectExec_status env w [] (data.kernelUrl :: bootArguments data mac)
    rw [hgone] at hok
    cases hok
  rcases andThen_eq_boot h with hgone | ⟨w₂, hinitrd, h⟩
  · obtain ⟨ok, hok⟩ := imgfetchExec_status env w₁ [] [data.initrdUrl]
    rw [hgone] at hok
    cases hok
  rcases andThen_eq_boot h with hgone | ⟨w₃, hcustom, h⟩
  · obtain ⟨ok, hok⟩ :=
      imgfetchExec_status env w₂ [] [data.customOsUrl ++ "/customOS/initramfs.cpio.gz".toList]
    rw [hgone] at hok
    cases hok
  obtain rfl := imgselectExec_eq himages (List.cons_ne_nil _ _) hkernel
  obtain ⟨_, rfl⟩ := imgfetchExec_eq hinitrd
  obtain ⟨_, rfl⟩ := imgfetchExec_eq hcustom
  rcases andThen_eq_boot h with hboot | ⟨w₄, -, h⟩
  · simp only [imgexecExec, optionValue, List.reverse_nil, List.lookup_nil, imgModify_nil,
      imageExec, List.cons_append, List.nil_append, List.getElem?_cons_zero, Bool.true_eq_false,
      if_false, List.eraseIdx_cons_zero] at hboot
    split at hboot
    · obtain ⟨rfl, hgone⟩ := Prod.mk.inj hboot
      obtain ⟨rfl, rfl⟩ := Departure.boot.inj (Reply.gone.inj hgone)
      exact ⟨⟨rfl, rfl⟩, rfl, rfl, rfl⟩
    · cases hboot
  · cases h

/-- The run that starts a kernel. -/
theorem run_eq_boot (himages : w.images = [])
    (h : run env data w = (w', .gone (.boot kernel initrds))) :
    ∃ i < 10, AnswersIn env data (atRound env data w i) i ∧
      (∀ j < i, ¬ AnswersIn env data (atRound env data w j) j ∧ IsClosed w' j) ∧
      ∃ device, IsConfigured data w' i device ∧ (w.findNetdev (netName i)).map Device.mac =
        some device.mac ∧
        kernel.uri = data.kernelUrl ∧
          kernel.cmdline = some (join " " (bootArguments data device.mac)) ∧
        initrds.map Image.uri = [data.initrdUrl,
          data.customOsUrl ++ "/customOS/initramfs.cpio.gz".toList] := by
  rw [run] at h
  split_ifs at h with hdevices
  · cases h
  have hkeeps := keeps_searchFrom env data w 0 10
  rcases hresult : searchFrom env data 10 0 w with ⟨w₁, found⟩
  rw [hresult] at h hkeeps
  cases found with
  | none => cases h
  | some i =>
    obtain ⟨⟨-, hi⟩, ⟨w₀, hprobe⟩, hclosed⟩ := searchFrom_found hresult
    obtain ⟨device, hdevice⟩ := isConfigured_of_probe hprobe
    simp only [hdevice.found] at h
    have hfresh : (setBootif w₁ device.mac).images = [] := hkeeps.images.trans himages
    obtain ⟨⟨hdevices', hroot⟩, huri, hcmdline, hinitrds⟩ := bootJob_eq_boot hfresh h
    have hfind : ∀ name, w'.findNetdev name = w₁.findNetdev name := fun name => by
      rw [Host.findNetdev, hdevices']
      rfl
    have hdns : w'.root "dns".toList = w₁.root "dns".toList := by
      have hne : "dns".toList ≠ "bootif_mac".toList := by decide
      simp only [hroot, setBootif, Function.update_of_ne hne]
    obtain ⟨hanswers, hbefore⟩ := @searchFrom_first env data w w₁ 0 w 10 i rfl hresult
    refine ⟨i, by omega, hanswers, fun j hj =>
      ⟨hbefore j (Nat.zero_le j) hj, fun found hfound => ?_⟩, device,
      ⟨(hfind _).trans hdevice.found, hdevice.isOpen, hdevice.ip, hdevice.netmask, hdevice.gateway,
        ?_⟩, ?_, huri,
      hcmdline, hinitrds⟩
    · exact hclosed j (Nat.zero_le j) hj found ((hfind _).symm.trans hfound)
    · rw [hdns]
      exact hdevice.dns
    · rw [← hkeeps.macs, hdevice.found, Option.map_some]

/-- The images can be loaded, and the kernel does not come back. -/
structure Boots (env : Environment) (data : JobData) : Prop where
  kernel : ∀ w, env.download w data.kernelUrl = some true
  initrd : ∀ w, (env.download w data.initrdUrl).isSome = true
  custom : ∀ w, (env.download w (data.customOsUrl ++ "/customOS/initramfs.cpio.gz".toList)).isSome =
    true
  starts : ∀ w image others, env.exec w image others = none

theorem bootJob_boots (h : Boots env data) (himages : w.images = []) (mac : Mac) :
    ∃ w' kernel initrds, bootJob env data w mac = (w', .gone (.boot kernel initrds)) := by
  have hargs : bootArguments data mac ≠ [] := List.cons_ne_nil _ _
  choose initrd hinitrd using fun w => Option.isSome_iff_exists.mp (h.initrd w)
  choose custom hcustom using fun w => Option.isSome_iff_exists.mp (h.custom w)
  simp only [bootJob, imgselectExec_of_download himages hargs (h.kernel w), andThen,
    imgfetchExec_of_download (hinitrd _), imgfetchExec_of_download (hcustom _), imgexecExec,
      if_true, optionValue,
    List.reverse_nil, List.lookup_nil, imgModify_nil, imageExec, List.cons_append,
      List.getElem?_cons_zero, h.starts,
    Bool.true_eq_false, if_false]
  exact ⟨_, _, _, rfl⟩

/-- The driver opens the interface, and over it the ping is answered. -/
structure Answers (env : Environment) (i : ℕ) : Prop where
  opens : ∀ w, env.opens w (netName i) = true
  pings : ∀ w device, w.findNetdev (netName i) = some device → device.isOpen = true →
    reachesInternet env w = true

theorem Answers.probe {i : ℕ} {device : Device} {raw : List UInt8} (h : Answers env i)
    (hdevice : w.findNetdev (netName i) = some device)
    (hdns : inetAton (dnsPrimary data) = some raw) :
    (probe env data w i).2 = true := by
  have hopen : (ifopenPayload env w device).2 = true := by
    rw [ifopenPayload, Host.name_of_findNetdev hdevice, h.opens w, if_pos (rfl : true = true)]
    split_ifs <;> rfl
  rcases hresult : ifopenPayload env w device with ⟨w₁, ok⟩
  rw [hresult] at hopen
  obtain rfl : ok = true := hopen
  obtain ⟨opened, hopened, hisOpen⟩ := isOpen_of_ifopenPayload hdevice hresult
  have hset : setDns data (assign data w₁ i) = some { assign data w₁ i with
      root := Function.update (assign data w₁ i).root "dns".toList (some ⟨.ipv4, raw⟩) } := by
    rw [setDns, hdns, Option.map_some]
  have hreach : reachesInternet env { assign data w₁ i with
      root := Function.update (assign data w₁ i).root "dns".toList (some ⟨.ipv4, raw⟩) } =
          true := by
    refine h.pings _ (((opened.withSetting "ip"
      (ipv4Setting data.request.ipv4.address.val)).withSetting
      "netmask" (ipv4Setting data.request.ipv4.netmask.val)).withSetting
      "gateway" (ipv4Setting data.request.ipv4.gateway.val)) ?_ hisOpen
    refine Eq.trans (findNetdev_modifyNetdev_self ?_) (congrArg (Option.map _) hopened)
    exact fun _ => rfl
  rw [probe_of_set hdevice hresult hset, if_pos hreach]

/-- An interface that answers leads to a kernel. -/
theorem run_boots {i : ℕ} {device : Device} {raw : List UInt8} (hboots : Boots env data)
    (himages : w.images = []) (hi : i < 10) (hdevice : w.findNetdev (netName i) = some device)
    (hdns : inetAton (dnsPrimary data) = some raw) (hanswers : Answers env i) : ∃ w' kernel initrds,
      run env data w = (w', .gone (.boot kernel initrds)) := by
  have hdevices : w.devices ≠ [] := by
    intro hnil
    rw [Host.findNetdev, hnil] at hdevice
    cases hdevice
  have hworks : ∀ w₀, Keeps w w₀ → (probe env data w₀ i).2 = true := by
    intro w₀ hkeeps
    obtain ⟨device', hdevice', -⟩ := hkeeps.findNetdev hdevice
    exact hanswers.probe hdevice' hdns
  obtain ⟨w₁, found, hsearch, -⟩ :=
    searchFrom_of_works (Nat.zero_le i) (by omega : i < 0 + 10) hworks
  obtain ⟨-, ⟨w₀, hprobe⟩, -⟩ := searchFrom_found hsearch
  obtain ⟨device, hdevice⟩ := isConfigured_of_probe hprobe
  have hkeeps := keeps_searchFrom env data w 0 10
  rw [hsearch] at hkeeps
  have hfresh : (setBootif w₁ device.mac).images = [] := hkeeps.images.trans himages
  obtain ⟨w', kernel, initrds, hjob⟩ := bootJob_boots hboots hfresh device.mac
  refine ⟨w', kernel, initrds, ?_⟩
  rw [run, if_neg hdevices, hsearch]
  simp only [hdevice.found, hjob]

end Boot

section Job

variable {site : Site} {host : Str} {body : Option Json} {data : JobData} {env : Environment}
  {w w' : Host}

/-- The kernels and ramdisks of the repository are fetched by URL. -/
theorem head_releaseMap {version : Str} {release : Release}
    (hmem : (version, release) ∈ releaseMap host) :
    ∀ url, release.kernel = some url ∨ release.initrd = some url → url.head? = some 'h' := by
  have happend : ∀ {front : Str} (back : Str), front.head? = some 'h' →
      (front ++ back).head? = some 'h' := by
    intro front back hfront
    rw [List.head?_append, hfront]
    rfl
  have hmirror : ∀ path, (mirror host path).head? = some 'h' :=
    fun path => happend path (happend _ (happend host (by decide)))
  have hrelease : ∀ {kernel initrd : Str} {iso : Option Str} {release : Release},
      kernel.head? = some 'h' →
      initrd.head? = some 'h' → release = ⟨some kernel, some initrd, iso⟩ →
      ∀ url, release.kernel = some url ∨ release.initrd = some url → url.head? = some 'h' := by
    rintro kernel initrd iso release hkernel hinitrd rfl url (hurl | hurl)
    · exact Option.some.inj hurl ▸ hkernel
    · exact Option.some.inj hurl ▸ hinitrd
  rcases List.mem_cons.mp hmem with hmem | hmem
  · exact hrelease (by decide) (by decide) (Prod.mk.inj hmem).2
  rcases List.mem_cons.mp hmem with hmem | hmem
  · exact hrelease (by decide) (by decide) (Prod.mk.inj hmem).2
  rcases List.mem_cons.mp hmem with hmem | hmem
  · exact hrelease (by decide) (by decide) (Prod.mk.inj hmem).2
  · exact hrelease (hmirror _) (hmirror _) (Prod.mk.inj (List.mem_singleton.mp hmem)).2

theorem dnsPrimary_eq (hdns : ∀ address ∈ split ',' data.request.dnsServers, IsIpAddress address) :
    dnsPrimary data = (split ',' data.request.dnsServers).headD [] :=
  stripBlanks_of_no_blank fun _ hc =>
    isPythonSpace_of_isAddressChar ((hdns _ (firstServer_mem data)).isAddressChar hc)

/-- Nobody interrupts the boot loader, and settings are expanded as often as they are nested. -/
structure IsAttended (env : Environment) : Prop where
  fuel : 2 ≤ env.fuel
  sleep : ∀ w seconds, env.sleep w seconds = true

theorem runs_of_accept (hsite : ServesRepository site host)
    (haccept : accept site host body = .ok data) (hname : IsHostName data.request.hostname.val)
    (hdns : ∀ address ∈ split ',' data.request.dnsServers, IsIpAddress address)
    (hhost : IsHostHeader host) (henv : IsAttended env) : Runs env data := by
  obtain ⟨request, -, hdata⟩ := accept_eq_ok haccept
  obtain ⟨-, hurl, releases, release, hreleases, hmem, hkernel, hinitrd⟩ := jobData_spec hdata
  obtain rfl := Option.some.inj (hsite.releases.symm.trans hreleases)
  have hserver := hdns _ (firstServer_mem data)
  refine ⟨hasPlainContext hsite hhost haccept hname hdns, ?_, ?_, henv.fuel, henv.sleep⟩
  · rw [dnsPrimary_eq hdns]
    exact hserver.ne_nil
  · simp only [List.forall_mem_cons]
    refine ⟨head_releaseMap hmem _ (Or.inl hkernel), head_releaseMap hmem _ (Or.inr hinitrd), ?_,
      List.forall_mem_nil _⟩
    rw [hurl]
    rfl

theorem script_of_accept (hsite : ServesRepository site host)
    (haccept : accept site host body = .ok data) (hname : IsHostName data.request.hostname.val)
    (hdns : ∀ address ∈ split ',' data.request.dnsServers, IsIpAddress address)
    (hhost : IsHostHeader host) :
    Script.ofText (bootScript site data) = script data :=
  script_bootScript (hasPlainContext hsite hhost haccept hname hdns) hsite.template2

theorem run_of_mem_scriptExec {ending : Ending Departure} (hsite : ServesRepository site host)
    (haccept : accept site host body = .ok data) (hname : IsHostName data.request.hostname.val)
    (hdns : ∀ address ∈ split ',' data.request.dnsServers, IsIpAddress address)
    (hhost : IsHostHeader host) (henv : IsAttended env) (hblocks : ∀ i, w.blocks (netName i) = none)
    (h : .ended ending w' ∈ scriptExec (shell env) (Script.ofText (bootScript site data)) w) :
    run env data w = (w', ending) := by
  rw [script_of_accept hsite haccept hname hdns hhost,
    scriptExec_script (runs_of_accept hsite haccept hname hdns hhost henv) hblocks,
      Part.mem_some_iff] at h
  obtain ⟨hending, hworld⟩ := State.ended.inj h
  exact Prod.ext hworld.symm hending.symm

/-- The hydrated script of an accepted job ends, and it does what the search says. -/
theorem boot_script_runs_search (hsite : ServesRepository site host)
    (haccept : accept site host body = .ok data) (hname : IsHostName data.request.hostname.val)
    (hdns : ∀ address ∈ split ',' data.request.dnsServers, IsIpAddress address)
    (hhost : IsHostHeader host) (henv : IsAttended env)
    (hblocks : ∀ i, w.blocks (netName i) = none) :
    scriptExec (shell env) (Script.ofText (bootScript site data)) w =
      Part.some (.ended (run env data w).2 (run env data w).1) := by
  rw [script_of_accept hsite haccept hname hdns hhost]
  exact scriptExec_script (runs_of_accept hsite haccept hname hdns hhost henv) hblocks

/-- Two interfaces, of which the second reaches the network. -/
def exampleHost : Host where
  devices :=
    [⟨"net0", fun _ => 1, fun _ => 1, false, fun _ => none⟩,
      ⟨"net1", fun _ => 2, fun _ => 2, false, fun _ => none⟩]
  root := fun _ => none
  blocks := fun _ => none
  images := []
  selected := none

def exampleEnvironment : Environment where
  fuel := 2
  elsewhere := fun _ _ _ => none
  opens := fun _ _ => true
  ping := fun w _ _ => (w.findNetdev "net1".toList).any (·.isOpen)
  sleep := fun _ _ => true
  download := fun _ _ => some true
  basename := fun uri => (split '/' uri).getLastD []
  exec := fun _ _ _ => none

theorem isAttended_exampleEnvironment : IsAttended exampleEnvironment := ⟨le_rfl, fun _ _ => rfl⟩

theorem answers_exampleEnvironment : Answers exampleEnvironment 1 where
  opens := fun _ => rfl
  pings := by
    intro w device hdevice hopen
    have hname : netName 1 = "net1".toList := by decide
    rw [hname] at hdevice
    change (w.findNetdev "net1".toList).any (·.isOpen) = true
    rw [hdevice]
    exact hopen

theorem boots_exampleEnvironment (data : JobData) : Boots exampleEnvironment data :=
  ⟨fun _ => rfl, fun _ => rfl, fun _ => rfl, fun _ _ _ => rfl⟩

theorem boot_script_runs_search_twoServers :
    scriptExec (shell exampleEnvironment)
      (Script.ofText (bootScript exampleSite twoServersJob)) exampleHost =
      Part.some (.ended (run exampleEnvironment twoServersJob exampleHost).2
        (run exampleEnvironment twoServersJob exampleHost).1) :=
  boot_script_runs_search servesRepository_exampleSite accept_twoServers (by decide)
    (by decide) (by decide) isAttended_exampleEnvironment fun _ => rfl

theorem mem_scriptExec_twoServers : ∃ kernel initrds w', .ended (.gone (.boot kernel initrds)) w' ∈
    scriptExec (shell exampleEnvironment)
      (Script.ofText (bootScript exampleSite twoServersJob)) exampleHost := by
  have hdevice : exampleHost.findNetdev (netName 1) =
      some ⟨"net1", fun _ => 2, fun _ => 2, false, fun _ => none⟩ := rfl
  have hdns : inetAton (dnsPrimary twoServersJob) = some [9, 9, 9, 9] := by decide
  obtain ⟨w', kernel, initrds, hrun⟩ :=
    run_boots (boots_exampleEnvironment twoServersJob) rfl (by decide) hdevice hdns
    answers_exampleEnvironment
  have hruns :=
    runs_of_accept servesRepository_exampleSite accept_twoServers (by decide)
      (by decide) (by decide) isAttended_exampleEnvironment
  refine ⟨kernel, initrds, w', ?_⟩
  rw [script_of_accept servesRepository_exampleSite accept_twoServers (by decide) (by decide)
    (by decide),
    scriptExec_script hruns fun _ => rfl, hrun]
  exact Part.mem_some _

/-- A kernel is started only over the first interface that answers, which is open with the settings
of the job while those before it are closed again; its command line names the job and the address of
that interface, and it gets both ramdisks in their order. -/
theorem kernel_boots_over_first_answering_interface {kernel : Image} {initrds : List Image}
    (hsite : ServesRepository site host) (haccept : accept site host body = .ok data)
    (hname : IsHostName data.request.hostname.val)
    (hdns : ∀ address ∈ split ',' data.request.dnsServers, IsIpAddress address)
    (hhost : IsHostHeader host) (henv : IsAttended env) (hblocks : ∀ i, w.blocks (netName i) = none)
    (himages : w.images = []) (hboot : .ended (.gone (.boot kernel initrds)) w' ∈
      scriptExec (shell env) (Script.ofText (bootScript site data)) w) :
    ∃ i < 10, AnswersIn env data (atRound env data w i) i ∧
      (∀ j < i, ¬ AnswersIn env data (atRound env data w j) j ∧ IsClosed w' j) ∧
      ∃ device, IsConfigured data w' i device ∧ (w.findNetdev (netName i)).map Device.mac =
        some device.mac ∧
        kernel.uri = data.kernelUrl ∧
          kernel.cmdline = some (join " " (bootArguments data device.mac)) ∧
        initrds.map Image.uri = [data.initrdUrl,
          data.customOsUrl ++ "/customOS/initramfs.cpio.gz".toList] := by
  exact run_eq_boot himages (run_of_mem_scriptExec hsite haccept hname hdns hhost henv
    hblocks hboot)

theorem kernel_boots_over_first_answering_interface_twoServers :
    ∃ (kernel : Image) (initrds : List Image) (w' : Host), ∃ i < 10,
      AnswersIn exampleEnvironment twoServersJob
        (atRound exampleEnvironment twoServersJob exampleHost i) i ∧
      (∀ j < i, ¬ AnswersIn exampleEnvironment twoServersJob
        (atRound exampleEnvironment twoServersJob exampleHost j) j ∧ IsClosed w' j) ∧
      ∃ device, IsConfigured twoServersJob w' i device ∧
        (exampleHost.findNetdev (netName i)).map Device.mac = some device.mac ∧
        kernel.uri = twoServersJob.kernelUrl ∧
        kernel.cmdline = some (join " " (bootArguments twoServersJob device.mac)) ∧
        initrds.map Image.uri =
          [twoServersJob.initrdUrl, twoServersJob.customOsUrl ++
            "/customOS/initramfs.cpio.gz".toList] := by
  obtain ⟨kernel, initrds, w', hboot⟩ := mem_scriptExec_twoServers
  exact ⟨kernel, initrds, w', kernel_boots_over_first_answering_interface
    servesRepository_exampleSite
    accept_twoServers (by decide) (by decide)
      (by decide) isAttended_exampleEnvironment (fun _ => rfl) rfl hboot⟩

/-- If one of the first ten interfaces answers, the first name server is an IPv4 address and the
images can be loaded, a kernel is started. -/
theorem answering_interface_boots {i : ℕ} (hsite : ServesRepository site host)
    (haccept : accept site host body = .ok data) (hname : IsHostName data.request.hostname.val)
    (hdns : ∀ address ∈ split ',' data.request.dnsServers, IsIpAddress address)
    (hhost : IsHostHeader host) (henv : IsAttended env) (hblocks : ∀ i, w.blocks (netName i) = none)
    (himages : w.images = []) (hboots : Boots env data) (hi : i < 10)
    (hdevice : (w.findNetdev (netName i)).isSome = true) (hanswers : Answers env i)
    (hipv4 : isIpv4Address ((split ',' data.request.dnsServers).headD []) = true) :
    ∃ kernel initrds w', .ended (.gone (.boot kernel initrds)) w' ∈
      scriptExec (shell env) (Script.ofText (bootScript site data)) w := by
  obtain ⟨device, hdevice⟩ := Option.isSome_iff_exists.mp hdevice
  obtain ⟨a, b, c, d, hraw⟩ := inetAton_ipv4 hipv4
  rw [← dnsPrimary_eq hdns] at hraw
  obtain ⟨w', kernel, initrds, hrun⟩ := run_boots hboots himages hi hdevice hraw hanswers
  refine ⟨kernel, initrds, w', ?_⟩
  rw [script_of_accept hsite haccept hname hdns hhost,
    scriptExec_script (runs_of_accept hsite haccept hname hdns hhost henv) hblocks, hrun]
  exact Part.mem_some _

theorem answering_interface_boots_twoServers : ∃ kernel initrds w',
    .ended (.gone (.boot kernel initrds)) w' ∈
    scriptExec (shell exampleEnvironment)
      (Script.ofText (bootScript exampleSite twoServersJob)) exampleHost :=
  answering_interface_boots servesRepository_exampleSite accept_twoServers (by decide)
    (by decide) (by decide)
    isAttended_exampleEnvironment (fun _ => rfl) rfl (boots_exampleEnvironment twoServersJob)
      (by decide : 1 < 10) rfl
    answers_exampleEnvironment (by decide)

/-- With an IPv6 address as the first name server no kernel is ever started: `dns` takes IPv4
addresses only, so every interface is closed again and the script ends in the shell. -/
theorem ipv6_name_server_ends_in_shell (hsite : ServesRepository site host)
    (haccept : accept site host body = .ok data) (hname : IsHostName data.request.hostname.val)
    (hdns : ∀ address ∈ split ',' data.request.dnsServers, IsIpAddress address)
    (hhost : IsHostHeader host) (henv : IsAttended env) (hblocks : ∀ i, w.blocks (netName i) = none)
    (hdevices : w.devices ≠ []) (hipv6 :
      isIpv6Address ((split ',' data.request.dnsServers).headD []) = true) :
    ∃ w', scriptExec (shell env) (Script.ofText (bootScript site data)) w =
      Part.some (.ended (.gone .shell) w') ∧
      ∀ i < 10, IsClosed w' i := by
  have hnone : inetAton (dnsPrimary data) = none := by
    rw [dnsPrimary_eq hdns]
    exact inetAton_of_colon (colon_mem_of_isIpv6Address hipv6)
  have hsearch := @searchFrom_of_unset env data w 0 10 hnone
  rcases hresult : searchFrom env data 10 0 w with ⟨w', found⟩
  rw [hresult] at hsearch
  obtain rfl : found = none := hsearch
  refine ⟨w', ?_, fun i hi => searchFrom_none hresult i (Nat.zero_le i) (by omega)⟩
  rw [script_of_accept hsite haccept hname hdns hhost,
    scriptExec_script (runs_of_accept hsite haccept hname hdns hhost henv) hblocks, run,
      if_neg hdevices, hresult]

def ipv6FirstJob : JobData :=
  { twoServersJob with request := { twoServersJob.request with
    dnsServers := "2620:fe::fe,9.9.9.9" } }

theorem accept_ipv6First :
    accept exampleSite "10.0.0.1"
      (some (namedBody "node-1.example" "ubuntu" "2620:fe::fe,9.9.9.9")) =
      .ok ipv6FirstJob := rfl

theorem ipv6_name_server_ends_in_shell_ipv6First :
    ∃ w', scriptExec (shell exampleEnvironment)
      (Script.ofText (bootScript exampleSite ipv6FirstJob)) exampleHost =
        Part.some (.ended (.gone .shell) w') ∧ ∀ i < 10, IsClosed w' i :=
  ipv6_name_server_ends_in_shell servesRepository_exampleSite accept_ipv6First (by decide)
    (by decide) (by decide)
    isAttended_exampleEnvironment (fun _ => rfl) (List.cons_ne_nil _ _) (by decide)

end Job

end Astro.BootScriptResult
