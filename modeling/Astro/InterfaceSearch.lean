import Astro.BootScriptLines

/-!
# The search for an interface

The boot script tries `net0` to `net9` in this order: it opens the interface, gives it the address
of the job and pings; the first that answers boots the kernel of the job, with the address of that
interface on the command line. Here the search is written down as a function on the machine, and
the script is shown to run it.
-/

namespace Astro.InterfaceSearch

open PythonText TemplateChunks IpxePipeline CustomIsoHandler RequestModels RepositorySite
  SimultaneousRendering HostNames ShellText KernelCommandLine IpxeScripts IpxeSettings IpxeCommands
  BootScriptLines StateTransition

def netName (i : ℕ) : Str := "net".toList ++ decimal i

/-- The setting that counts the interfaces. -/
def setIdx (w : Host) (i : ℕ) : Host :=
  { w with root := Function.update w.root "idx".toList (some ⟨.int 1, [UInt8.ofNat i]⟩) }

def ipv4Setting (text : Str) : Setting := ⟨.ipv4, (inetAton text).getD []⟩

section Search

variable (env : Environment) (data : JobData)

def dnsPrimary : Str := stripBlanks (firstServer data)

/-- The interface gets the address, the netmask and the gateway of the job. -/
def assign (w : Host) (i : ℕ) : Host :=
  w.modifyNetdev (netName i) fun device =>
    ((device.withSetting "ip" (ipv4Setting data.request.ipv4.address.val)).withSetting
      "netmask" (ipv4Setting data.request.ipv4.netmask.val)).withSetting
      "gateway" (ipv4Setting data.request.ipv4.gateway.val)

/-- The name server, which has to be an IPv4 address. -/
def setDns (w : Host) : Option Host :=
  (inetAton (dnsPrimary data)).map fun raw =>
    { w with root := Function.update w.root "dns".toList (some ⟨.ipv4, raw⟩) }

def close (w : Host) (i : ℕ) : Host :=
  w.modifyNetdev (netName i) fun device => { device with isOpen := false }

/-- The script pings a fixed address three times. -/
def reachesInternet (w : Host) : Bool := env.ping w ⟨64, 2000, 3, false⟩ "1.1.1.1".toList

/-- One round of the search. -/
def probe (w : Host) (i : ℕ) : Host × Bool :=
  match w.findNetdev (netName i) with
  | none => (w, false)
  | some device =>
    match ifopenPayload env w device with
    | (w', false) => (w', false)
    | (w', true) =>
      match setDns data (assign data w' i) with
      | none => (close (assign data w' i) i, false)
      | some w'' => if reachesInternet env w'' then (w'', true) else (close w'' i, false)

section Probe

variable {env data} {w w' w'' : Host} {i : ℕ} {device : Device}

theorem probe_of_none (hdevice : w.findNetdev (netName i) = none) :
    probe env data w i = (w, false) := by
  rw [probe, hdevice]

theorem probe_of_closed (hdevice : w.findNetdev (netName i) = some device)
    (hopen : ifopenPayload env w device = (w', false)) : probe env data w i = (w', false) := by
  simp only [probe, hdevice, hopen]

theorem probe_of_unset (hdevice : w.findNetdev (netName i) = some device)
    (hopen : ifopenPayload env w device = (w', true))
    (hdns : setDns data (assign data w' i) = none) :
    probe env data w i = (close (assign data w' i) i, false) := by
  simp only [probe, hdevice, hopen, hdns]

theorem probe_of_set (hdevice : w.findNetdev (netName i) = some device)
    (hopen : ifopenPayload env w device = (w', true))
    (hdns : setDns data (assign data w' i) = some w'') :
    probe env data w i = if reachesInternet env w'' then (w'', true) else (close w'' i, false) := by
  simp only [probe, hdevice, hopen, hdns]

end Probe

/-- So many rounds, from an interface on: the machine afterwards, and the interface that was
found. -/
def searchFrom : ℕ → ℕ → Host → Host × Option ℕ
  | 0, i, w => (setIdx w i, none)
  | rounds + 1, i, w =>
    match probe env data (setIdx w i) i with
    | (w', true) => (w', some i)
    | (w', false) => searchFrom rounds (i + 1) w'

/-- `bootif_mac`. -/
def setBootif (w : Host) (mac : Mac) : Host :=
  { w with
    root := Function.update w.root "bootif_mac".toList (some ⟨.string, bytes (bootifMac mac)⟩) }

/-- A command that has to succeed for the script to go on. -/
def andThen (first : Host × Reply Departure) (next : Host → Host × Ending Departure) :
    Host × Ending Departure :=
  match first with
  | (w, .status true) => next w
  | (w, .gone how) => (w, .gone how)
  | (w, .exit ok) => (w, .status ok)
  | (w, _) => (w, .status false)

/-- The images of the job are loaded and the kernel is started; if it comes back, so does the
shell. -/
def bootJob (w : Host) (mac : Mac) : Host × Ending Departure :=
  andThen (imgselectExec env w [] (data.kernelUrl :: bootArguments data mac)) fun w =>
    andThen (imgfetchExec env w [] [data.initrdUrl]) fun w =>
      andThen (imgfetchExec env w []
          [data.customOsUrl ++ "/customOS/initramfs.cpio.gz".toList]) fun w =>
        andThen (imgexecExec env w [] []) fun w => (w, .gone .shell)

/-- The whole script. -/
def run (w : Host) : Host × Ending Departure :=
  if w.devices = [] then (w, .status false)
  else match searchFrom env data 10 0 w with
    | (w', none) => (w', .gone .shell)
    | (w', some i) =>
      match w'.findNetdev (netName i) with
      | none => (w', .status false)
      | some device => bootJob env data (setBootif w' device.mac) device.mac

end Search

theorem cut_append_cons {c : Char} {front : Str} (h : c ∉ front) (back : Str) :
    cut c (front ++ c :: back) = some (front, back) := by
  have hfront : ∀ d ∈ front, decide (d ≠ c) = true :=
    fun d hd => decide_eq_true (ne_of_mem_of_not_mem hd h)
  rw [cut, if_pos (List.mem_append_right _ List.mem_cons_self), dropWhile_ne_append_cons h,
    List.takeWhile_append_of_pos hfront, List.takeWhile_cons_of_neg (by simp), List.append_nil,
      List.tail_cons]

theorem not_mem_netName {c : Char} (hc : c.isAlphanum = false) (i : ℕ) : c ∉ netName i := by
  intro hmem
  rcases List.mem_append.mp hmem with hmem | hmem
  · have hnet : c = 'n' ∨ c = 'e' ∨ c = 't' := by simpa using hmem
    rcases hnet with rfl | rfl | rfl <;> exact absurd hc (by decide)
  · have hdigit := isDigit_of_mem_decimal hmem
    rw [Char.isAlphanum, hdigit, Bool.or_true] at hc
    cases hc

theorem netName_ne_nil (i : ℕ) : netName i ≠ [] := List.append_ne_nil_of_left_ne_nil (by decide) _

theorem parseSettingName_net (i : ℕ) {name : Str} (hname : '/' ∉ name) :
    parseSettingName (netName i ++ '/' :: name) =
      { parseSettingName name with block := some (netName i) } := by
  have hcut : cut '/' name = none := if_neg hname
  rw [parseSettingName, parseSettingName, cut_append_cons (not_mem_netName rfl i), hcut]
  cases hcolon : cut ':' name with
  | none => simp only [hcolon]
  | some parts => simp only [hcolon]

section Values

variable {elsewhere : Host → Str → Str → Option Setting} {w : Host} {i : ℕ}

theorem fetchText_eq {name : Str} {setting : SettingName} {settings : Settings}
    {type : Option SettingType} {found : Setting} (hparse : parseSettingName name = setting)
    (hchild : w.findChild (setting.block.getD []) = some settings)
    (htype : setting.settingType = some type) (hfound : settings setting.name = some found) :
    fetchText elsewhere w name = ((type.getD found.type).format found.raw).getD [] := by
  rw [fetchText, hparse, fetchSetting, hchild, htype]
  simp only [hfound, Option.some_or, Option.map_some, Option.bind_some]

/-- A setting of the root. -/
theorem fetchText_root {name : Str} {type : Option SettingType} {found : Setting}
    (hparse : parseSettingName name = ⟨none, name, none⟩) (htype : predefined.lookup name = type)
    (hfound : w.root name = some found) :
    fetchText elsewhere w name = ((type.getD found.type).format found.raw).getD [] :=
  fetchText_eq hparse (if_pos rfl) (congrArg some htype) hfound

theorem fetchText_idx (hi : i ≤ 10) (hidx : w.root "idx".toList = some ⟨.int 1, [UInt8.ofNat i]⟩) :
    fetchText elsewhere w "idx".toList = decimal i := by
  have hformat : ∀ i ≤ 10, SettingType.format (.int 1) [UInt8.ofNat i] = some (decimal i) := by
    decide
  rw [fetchText_root (by decide) (rfl : predefined.lookup "idx".toList = none) hidx]
  exact congrArg (Option.getD · []) (hformat i hi)

/-- A setting of an interface. -/
theorem fetchText_net {name : Str} {setting : SettingName} {type : Option SettingType}
    {found : Setting} {device : Device} (hslash : '/' ∉ name)
    (hparse : parseSettingName name = setting) (htype : setting.settingType = some type)
    (hdevice : w.findNetdev (netName i) = some device)
    (hfound : device.fetch setting.name = some found) :
    fetchText elsewhere w (netName i ++ '/' :: name) =
      ((type.getD found.type).format found.raw).getD [] := by
  have hchild : w.findChild (netName i) = some device.fetch := by
    rw [Host.findChild, if_neg (netName_ne_nil i), hdevice]
  refine fetchText_eq (parseSettingName_net i hslash) hchild ?_ ?_
  · rw [hparse]
    exact htype
  · rw [hparse]
    exact hfound

/-- Without the interface there is no setting. -/
theorem fetchText_net_none {name : Str} (hslash : '/' ∉ name)
    (hdevice : w.findNetdev (netName i) = none) (hblock : w.blocks (netName i) = none) :
    fetchText elsewhere w (netName i ++ '/' :: name) = [] := by
  have hchild : w.findChild (netName i) = none := by
    rw [Host.findChild, if_neg (netName_ne_nil i), hdevice, hblock]
  rw [fetchText, parseSettingName_net i hslash, fetchSetting]
  simp only [Option.getD_some, hchild]
  rfl

theorem dollar_not_mem_hexByte (b : UInt8) : '$' ∉ hexByte b := by
  have hdigits : ∀ n < 16, '$' ≠ Nat.digitChar n := by decide
  have hhigh := hdigits (b.toNat / 16) (Nat.div_lt_of_lt_mul b.toNat_lt)
  have hlow := hdigits (b.toNat % 16) (Nat.mod_lt _ (by decide))
  simp [hexByte, hhigh, hlow]

theorem dollar_not_mem_hex {separator : Option Char} (hsep : separator ≠ some '$')
    (raw : List UInt8) :
    '$' ∉ ((SettingType.hex separator).format raw).getD [] := by
  intro hmem
  rcases mem_join hmem with hmem | ⟨piece, hpiece, hmem⟩
  · exact hsep (Option.mem_toList.mp hmem)
  · obtain ⟨b, -, rfl⟩ := List.mem_map.mp hpiece
    exact dollar_not_mem_hexByte b hmem

theorem dollar_not_mem_ipv4 (raw : List UInt8) : '$' ∉ (SettingType.ipv4.format raw).getD [] := by
  rw [SettingType.format]
  split
  · exact List.not_mem_nil
  · intro hmem
    rcases mem_join hmem with hmem | ⟨piece, hpiece, hmem⟩
    · exact absurd hmem (by decide)
    · obtain ⟨b, -, rfl⟩ := List.mem_map.mp hpiece
      exact absurd (isDigit_of_mem_decimal hmem) (by decide)

/-- The address of an interface is shown as digits. -/
theorem format_macBytes (separator : Option Char) (mac : Mac) :
    ∃ c text, (SettingType.hex separator).format (Device.macBytes mac) = some (c :: text) ∧
      c ≠ '-' := by
  have hdigits : ∀ n < 16, Nat.digitChar n ≠ '-' := by decide
  have hfirst := hdigits _ (Nat.div_lt_of_lt_mul (mac 0).toNat_lt : (mac 0).toNat / 16 < 16)
  rw [SettingType.format, Device.macBytes, List.ofFn_succ, List.ofFn_succ, List.map_cons,
    List.map_cons, join_cons_cons, hexByte, List.cons_append]
  exact ⟨_, _, rfl, hfirst⟩

/-- A setting whose name gives its type. -/
theorem dollar_not_mem_fetchText {name : Str} {type : SettingType}
    (htype : (parseSettingName name).settingType = some (some type))
    (hformat : ∀ raw, '$' ∉ (type.format raw).getD []) : '$' ∉ fetchText elsewhere w name := by
  rw [fetchText, fetchSetting, htype]
  cases w.findChild ((parseSettingName name).block.getD []) with
  | none => exact List.not_mem_nil
  | some settings =>
    dsimp only
    cases (settings (parseSettingName name).name).or
        (elsewhere w ((parseSettingName name).block.getD []) (parseSettingName name).name) with
    | none => exact List.not_mem_nil
    | some found => exact hformat found.raw

theorem settingType_net {name : Str} (hslash : '/' ∉ name) :
    (parseSettingName (netName i ++ '/' :: name)).settingType =
      (parseSettingName name).settingType := by
  rw [parseSettingName_net i hslash]
  rfl

end Values

section Tokens

variable {env : Environment} {w : Host} {i : ℕ} (hfuel : 2 ≤ env.fuel) (hi : i ≤ 10)
  (hidx : w.root "idx".toList = some ⟨.int 1, [UInt8.ofNat i]⟩)

theorem expand_of_not_mem {token : Str} (h : '$' ∉ token) : (shell env).expand w token =
    some token :=
  expandSettings_of_not_mem h

include hfuel in
/-- A setting that is not nested. -/
theorem expand_setting (pre name post : Str) (hpre : '$' ∉ pre ∧ '\x7d' ∉ pre)
    (hname : '$' ∉ name ∧ '\x7d' ∉ name) (hpost : '$' ∉ post)
    (hvalue : '$' ∉ fetchText env.elsewhere w name) :
    (shell env).expand w (pre ++ '$' :: '\x7b' :: (name ++ '\x7d' :: post)) =
      some (pre ++ fetchText env.elsewhere w name ++ post) := by
  obtain ⟨fuel, hfuel⟩ := Nat.exists_eq_add_of_le' hfuel
  change expandSettings (fetchText env.elsewhere w) env.fuel _ = _
  rw [hfuel, expandSettings_succ hpre.2 hname.1 hname.2]
  apply expandSettings_of_not_mem
  simp only [List.mem_append, not_or]
  exact ⟨⟨hpre.1, hvalue⟩, hpost⟩

include hfuel hi hidx

theorem expand_netIdx (post : Str) (hpost : '$' ∉ post) :
    (shell env).expand w ("net".toList ++ '$' :: '\x7b' :: ("idx".toList ++ '\x7d' :: post)) =
      some (netName i ++ post) := by
  have hvalue := @fetchText_idx env.elsewhere w i hi hidx
  have hdigits : '$' ∉ decimal i := fun hmem => absurd (isDigit_of_mem_decimal hmem) (by decide)
  rw [expand_setting hfuel _ _ _ ⟨by decide, by decide⟩ ⟨by decide, by decide⟩ hpost
    (by rw [hvalue]; exact hdigits), hvalue]
  rfl

/-- A setting of the interface that is tried. -/
theorem expand_net (pre name post : Str) (hpre : '$' ∉ pre ∧ '\x7d' ∉ pre)
    (hname : '$' ∉ name ∧ '\x7d' ∉ name) (hpost : '$' ∉ post)
    (hvalue : '$' ∉ fetchText env.elsewhere w (netName i ++ '/' :: name)) :
    (shell env).expand w (pre ++ '$' :: '\x7b' ::
      ("net".toList ++ '$' :: '\x7b' :: ("idx".toList ++ '\x7d' ::
        ('/' :: name ++ '\x7d' :: post)))) =
      some (pre ++ fetchText env.elsewhere w (netName i ++ '/' :: name) ++ post) := by
  obtain ⟨fuel, hfuel⟩ := Nat.exists_eq_add_of_le' hfuel
  have hindex := @fetchText_idx env.elsewhere w i hi hidx
  have hnet : "net".toList ++ decimal i = netName i := rfl
  -- the inner setting is replaced first, the outer one in the next round
  have hinner : ∀ net rest : Str, pre ++ '$' :: '\x7b' :: (net ++ rest) =
      (pre ++ '$' :: '\x7b' :: net) ++ rest := by
    simp
  have houter : ∀ net digits : Str, pre ++ '$' :: '\x7b' :: net ++ digits ++
    ('/' :: name ++ '\x7d' :: post) =
      pre ++ '$' :: '\x7b' :: ((net ++ digits ++ '/' :: name) ++ '\x7d' :: post) := by
    simp
  have hopen : '\x7d' ∉ pre ++ '$' :: '\x7b' :: "net".toList := by
    rw [List.mem_append, not_or]
    exact ⟨hpre.2, by decide⟩
  have hsetting : ∀ c : Char, c.isAlphanum = false → c ≠ '/' → c ∉ name →
      c ∉ netName i ++ '/' :: name := by
    intro c hc hslash hcname
    rw [List.mem_append, List.mem_cons, not_or, not_or]
    exact ⟨not_mem_netName hc i, hslash, hcname⟩
  change expandSettings (fetchText env.elsewhere w) env.fuel _ = _
  rw [hfuel, hinner, expandSettings_succ hopen (by decide) (by decide), hindex, houter, hnet,
    expandSettings_succ hpre.2 (hsetting '$' rfl (by decide) hname.1)
      (hsetting '\x7d' rfl (by decide) hname.2)]
  apply expandSettings_of_not_mem
  rw [List.mem_append, List.mem_append, not_or, not_or]
  exact ⟨⟨hpre.1, hvalue⟩, hpost⟩

/-- The settings of an interface that `echo` shows. -/
theorem expand_net_typed (pre name post : Str) {type : SettingType}
    (hpre : '$' ∉ pre ∧ '\x7d' ∉ pre) (hname : '$' ∉ name ∧ '\x7d' ∉ name ∧ '/' ∉ name)
    (hpost : '$' ∉ post) (htype : (parseSettingName name).settingType = some (some type))
    (hformat : ∀ raw, '$' ∉ (type.format raw).getD []) :
    ∃ value, (shell env).expand w
      (pre ++ '$' :: '\x7b' :: ("net".toList ++ '$' :: '\x7b' :: ("idx".toList ++ '\x7d' ::
        ('/' :: name ++ '\x7d' :: post)))) = some value :=
  ⟨_, expand_net hfuel hi hidx _ _ _ hpre ⟨hname.1, hname.2.1⟩ hpost
    (dollar_not_mem_fetchText ((settingType_net hname.2.2).trans htype) hformat)⟩

end Tokens

section Commands

variable {env : Environment} {data : JobData} {script : Script} {w w' : Host} {i : ℕ}

/-- Each token has a value, and the first is no option. -/
theorem system_echo_tokens {command first : Str} {tokens : List Str}
    (htokens : splitCommand command = "echo".toList :: first :: tokens)
    (hargs : ∀ token ∈ first :: tokens, IsArgument token)
    (hfirst : ∃ value, (shell env).expand w first = some value ∧ value.head? ≠ some '-')
    (hexpand : ∀ token ∈ tokens, ∃ value, (shell env).expand w token = some value) :
    system (shell env) script command w = (w, .status true) := by
  obtain ⟨value, hvalue, hhead⟩ := hfirst
  have hvalues : ∃ values, tokens.mapM ((shell env).expand w) = some values := by
    clear htokens hargs
    induction tokens with
    | nil => exact ⟨[], rfl⟩
    | cons token tokens ih =>
      obtain ⟨⟨value, hvalue⟩, hexpand⟩ := List.forall_mem_cons.mp hexpand
      obtain ⟨values, hvalues⟩ := ih hexpand
      exact ⟨value :: values, by rw [List.mapM_cons, hvalue, hvalues]; rfl⟩
  obtain ⟨values, hvalues⟩ := hvalues
  have hargv : (first :: tokens).mapM ((shell env).expand w) = some (value :: values) := by
    rw [List.mapM_cons, hvalue, hvalues]
    rfl
  refine system_echo htokens hargs hargv ?_
  rintro arg harg
  cases harg
  exact hhead

theorem execv_command {tokens args rest : List Str} {name : Str} {command : Command}
    {given : List (Char × Str)} (hexpand : tokens.mapM ((shell env).expand w) = some (name :: args))
    (hname : commands.lookup name = some command)
    (hoptions : parseOptions command.descriptor args = some (given, rest)) :
    execv (shell env) script tokens w =
      ((command.exec env w given rest).1,
        (command.exec env w given rest).2.outcome script.lines) := by
  rw [execv_of_expand hexpand (List.cons_ne_nil _ _)]
  exact congrArg (fun reply : Host × Reply Departure => (reply.1, reply.2.outcome script.lines))
    (exec_eq hname hoptions)

theorem execv_goto {label : Str} {rest : List Line} (hlabel : '$' ∉ label)
    (hhead : label.head? ≠ some '-') (h : gotoFindLabel script.lines label = some rest) :
    execv (shell env) script ["goto".toList, label] w = (w, .jump rest) := by
  have hexpand : ["goto".toList, label].mapM ((shell env).expand w) = some ["goto".toList, label] :=
    mapM_expand_of_not_mem (by simpa using hlabel)
  have hname : commands.lookup "goto".toList = some .goto := by decide
  rw [execv_command hexpand hname (parseOptions_cons _ hhead le_rfl rfl)]
  simp only [Command.exec, List.headD_cons, Reply.outcome, h]

theorem execv_isset {token value : Str} (hexpand : (shell env).expand w token = some value)
    (hhead : value.head? ≠ some '-') :
    execv (shell env) script ["isset".toList, token] w = (w, .status (value ≠ [])) := by
  have hname : commands.lookup "isset".toList = some .isset := by decide
  have hargv : ["isset".toList, token].mapM ((shell env).expand w) =
      some ["isset".toList, value] := by
    rw [List.mapM_cons, expand_of_not_mem (by decide), List.mapM_cons, hexpand]
    rfl
  rw [execv_command hargv hname (parseOptions_cons _ hhead le_rfl rfl)]
  rfl

theorem execv_sleep {seconds : Str} {n : ℕ} (hdollar : '$' ∉ seconds)
    (hhead : seconds.head? ≠ some '-') (hn : parseInteger seconds = some n)
    (hsleep : env.sleep w n = true) :
    execv (shell env) script ["sleep".toList, seconds] w = (w, .status true) := by
  have hname : commands.lookup "sleep".toList = some .sleep := by decide
  have hargv : ["sleep".toList, seconds].mapM ((shell env).expand w) =
      some ["sleep".toList, seconds] :=
    mapM_expand_of_not_mem (by simpa using hdollar)
  rw [execv_command hargv hname (parseOptions_cons _ hhead le_rfl rfl)]
  simp only [Command.exec, List.headD_cons, hn, hsleep, Reply.outcome]

theorem execv_iseq {token value other : Str} (hexpand : (shell env).expand w token = some value)
    (hhead : value.head? ≠ some '-') (hdollar : '$' ∉ other) :
    execv (shell env) script ["iseq".toList, token, other] w = (w, .status (value = other)) := by
  have hname : commands.lookup "iseq".toList = some .iseq := by decide
  have hargv : ["iseq".toList, token, other].mapM ((shell env).expand w) =
      some ["iseq".toList, value, other] := by
    rw [List.mapM_cons, expand_of_not_mem (by decide), List.mapM_cons, hexpand, List.mapM_cons,
      expand_of_not_mem hdollar]
    rfl
  rw [execv_command hargv hname (parseOptions_cons _ hhead le_rfl rfl)]
  rfl

theorem execv_set {token name token' value : Str} (hexpand : (shell env).expand w token = some name)
    (hhead : name.head? ≠ some '-') (hvalue : (shell env).expand w token' = some value) :
    execv (shell env) script ["set".toList, token, token'] w =
      ((setExec w name value).1, .status (setExec w name value).2) := by
  have hname : commands.lookup "set".toList = some .set := by decide
  have hargv : ["set".toList, token, token'].mapM ((shell env).expand w) =
      some ["set".toList, name, value] := by
    rw [List.mapM_cons, expand_of_not_mem (by decide), List.mapM_cons, hexpand,
      List.mapM_cons, hvalue]
    rfl
  rw [execv_command hargv hname (parseOptions_cons _ hhead (by simp [Command.descriptor]) rfl)]
  simp only [Command.exec, List.headD_cons, List.tail_cons, join_singleton, status, Reply.outcome]

theorem execv_inc {token : Str} (hdollar : '$' ∉ token) (hhead : token.head? ≠ some '-') :
    execv (shell env) script ["inc".toList, token] w =
      ((incExec env.elsewhere w token 1).1, .status (incExec env.elsewhere w token 1).2) := by
  have hname : commands.lookup "inc".toList = some .inc := by decide
  have hargv : ["inc".toList, token].mapM ((shell env).expand w) = some ["inc".toList, token] :=
    mapM_expand_of_not_mem (by simpa using hdollar)
  rw [execv_command hargv hname (parseOptions_cons _ hhead le_rfl rfl)]
  rfl

theorem execv_ifcommon {name : Str} {command : Command} {payload : Host → Device → Host × Bool}
    {token : Str} {device : Device} (hlookup : commands.lookup name = some command)
    (hdollar : '$' ∉ name) (hcommand : ∀ args, command.exec env w [] args =
      status (ifcommonExec payload (interfaces w args) w))
    (hdescriptor : command.descriptor = ⟨[], 0, none⟩)
    (hexpand : (shell env).expand w token = some (netName i))
    (hdevice : w.findNetdev (netName i) = some device) :
    execv (shell env) script [name, token] w =
      ((payload w device).1, .status (payload w device).2) := by
  have hargv : [name, token].mapM ((shell env).expand w) = some [name, netName i] := by
    rw [List.mapM_cons, expand_of_not_mem hdollar, List.mapM_cons, hexpand]
    rfl
  have hhead : (netName i).head? ≠ some '-' := by
    rw [netName, List.head?_append_of_ne_nil _ (by decide)]
    decide
  have hoptions : parseOptions command.descriptor [netName i] = some ([], [netName i]) := by
    rw [hdescriptor]
    exact parseOptions_cons _ hhead (Nat.zero_le _) rfl
  rw [execv_command hargv hlookup hoptions, hcommand]
  simp [interfaces, ifcommonExec, ifcommonStep, hdevice, status, Reply.outcome]

/-- Listing the interfaces fails only if there are none. -/
theorem ifcommonExec_ifstat (w : Host) :
    ifcommonExec (fun w _ => (w, true)) (w.devices.map (·.name)) w = (w, !w.devices.isEmpty) := by
  have hstep : ∀ device ∈ w.devices, ∀ ok, ifcommonStep (fun w _ => (w, true)) (w, ok) device.name =
      (w, true) := by
    intro device hdevice ok
    have hfound : (w.findNetdev device.name).isSome = true :=
      List.find?_isSome.mpr ⟨device, hdevice, decide_eq_true rfl⟩
    obtain ⟨found, hfound⟩ := Option.isSome_iff_exists.mp hfound
    simp only [ifcommonStep, hfound]
  have hall : ∀ devices ⊆ w.devices,
    (devices.map (·.name)).foldl (ifcommonStep fun w _ => (w, true)) (w, true) =
      (w, true) := by
    intro devices hdevices
    induction devices with
    | nil => rfl
    | cons device devices ih =>
      obtain ⟨hdevice, hdevices⟩ := List.cons_subset.mp hdevices
      rw [List.map_cons, List.foldl_cons, hstep device hdevice]
      exact ih hdevices
  cases hdevices : w.devices with
  | nil => rfl
  | cons device devices =>
    have hsub : device :: devices ⊆ w.devices := hdevices ▸ List.Subset.refl _
    obtain ⟨hdevice, hrest⟩ := List.cons_subset.mp hsub
    rw [ifcommonExec, List.map_cons, List.foldl_cons, hstep device hdevice]
    exact hall devices hrest

theorem execv_ifstat : execv (shell env) script ["ifstat".toList] w =
    (w, .status (!w.devices.isEmpty)) := by
  have hname : commands.lookup "ifstat".toList = some .ifstat := by decide
  have hargv := @mapM_expand_of_not_mem env w ["ifstat".toList] (by decide)
  rw [execv_command hargv hname (parseOptions_nil _ rfl)]
  simp only [Command.exec, interfaces, if_true, ifcommonExec_ifstat, status, Reply.outcome]

theorem execv_ping {ok : Bool} (h : reachesInternet env w = ok) :
    execv (shell env) script ["ping".toList, "--count".toList, "3".toList, "--timeout".toList,
      "2000".toList,
      "1.1.1.1".toList] w = (w, .status ok) := by
  have hargv :=
    @mapM_expand_of_not_mem env w ["ping".toList, "--count".toList, "3".toList, "--timeout".toList,
      "2000".toList, "1.1.1.1".toList] (by decide)
  have hname : commands.lookup "ping".toList = some .ping := by decide
  have hoptions : parseOptions Command.ping.descriptor
      ["--count".toList, "3".toList, "--timeout".toList, "2000".toList, "1.1.1.1".toList] =
      some ([('c', "3".toList), ('t', "2000".toList)], ["1.1.1.1".toList]) := rfl
  have hparsed : pingOptions [('c', "3".toList), ('t', "2000".toList)] = ⟨64, 2000, 3, false⟩ := by
    decide
  rw [execv_command hargv hname hoptions]
  simp only [Command.exec, List.headD_cons, hparsed, Reply.outcome]
  rw [← h]
  rfl

end Commands

section Settings

variable {w : Host} {i : ℕ} {device : Device}

theorem autovivify_nil (w : Host) : autovivify w [] = w := if_pos (Or.inl rfl)

theorem setExec_root {name bare value : Str} {type : Option SettingType} {raw : List UInt8}
    {typeName : Option Str} (hparse : parseSettingName name = ⟨none, bare, typeName⟩)
    (htype : SettingName.settingType ⟨none, bare, typeName⟩ = some type) (hne : value ≠ [])
    (hraw : (type.getD .string).parse value = some raw) :
    setExec w name value =
      ({ w with root := Function.update w.root bare (some ⟨type.getD .string, raw⟩) }, true) := by
  rw [setExec, hparse]
  simp only [Option.getD_none, autovivify_nil, htype, if_neg hne, hraw, storeSetting, if_true]

/-- A value that does not fit leaves the settings as they are. -/
theorem setExec_root_none {name bare value : Str} {type : Option SettingType}
    {typeName : Option Str} (hparse : parseSettingName name = ⟨none, bare, typeName⟩)
    (htype : SettingName.settingType ⟨none, bare, typeName⟩ = some type) (hne : value ≠ [])
    (hraw : (type.getD .string).parse value = none) : setExec w name value = (w, false) := by
  rw [setExec, hparse]
  simp only [Option.getD_none, autovivify_nil, htype, if_neg hne, hraw]

theorem setExec_idx (w : Host) : setExec w "idx:int8".toList "0".toList = (setIdx w 0, true) := by
  have hparse : parseSettingName "idx:int8".toList = ⟨none, "idx".toList, some "int8".toList⟩ := by
    decide
  have htype : SettingName.settingType ⟨none, "idx".toList, some "int8".toList⟩ =
      some (some (.int 1)) := by decide
  exact setExec_root hparse htype (by decide) (by decide)

theorem setExec_net {name value : Str} {raw : List UInt8} (hslash : '/' ∉ name)
    (hparse : parseSettingName name = ⟨none, name, none⟩)
    (htype : predefined.lookup name = some .ipv4) (hmac : name ≠ "mac".toList)
    (hhwaddr : name ≠ "hwaddr".toList) (hne : value ≠ []) (hraw : inetAton value = some raw)
    (hdevice : w.findNetdev (netName i) = some device) :
    setExec w (netName i ++ '/' :: name) value =
      (w.modifyNetdev (netName i) fun device =>
        device.withSetting name (ipv4Setting value), true) := by
  have hauto : autovivify w (netName i) = w := if_pos (Or.inr (Or.inl (by rw [hdevice]; rfl)))
  have hsetting : SettingName.settingType ⟨some (netName i), name, none⟩ = some (some .ipv4) :=
    congrArg some htype
  have hstore : ∀ device : Device, device.store name (some ⟨.ipv4, raw⟩) =
      some (device.withSetting name (ipv4Setting value)) := by
    intro device
    rw [Device.store, if_neg hmac, if_neg hhwaddr, ipv4Setting, hraw]
    rfl
  rw [setExec, parseSettingName_net i hslash, hparse]
  simp only [Option.getD_some, hauto, hsetting, if_neg hne, SettingType.parse, hraw, storeSetting,
    if_neg (netName_ne_nil i), hdevice, hstore, Option.isSome_some, if_true]

theorem incExec_idx {elsewhere : Host → Str → Str → Option Setting} (hi : i < 10)
    (hidx : w.root "idx".toList = some ⟨.int 1, [UInt8.ofNat i]⟩) :
    incExec elsewhere w "idx".toList 1 = (setIdx w (i + 1), true) := by
  have hparse : parseSettingName "idx".toList = ⟨none, "idx".toList, none⟩ := by decide
  have htype : SettingName.settingType ⟨none, "idx".toList, none⟩ = some none := by decide
  have hnumber : ∀ i < 10, ((SettingType.numerate (.int 1) [UInt8.ofNat i]).getD 0 + 1) % 2 ^
      64 = i + 1 := by
    decide
  have hraw : ∀ i < 10, SettingType.denumerate (.int 1) (i + 1) = some [UInt8.ofNat (i + 1)] := by
    decide
  have hfound : fetchSetting elsewhere w ⟨none, "idx".toList, none⟩ =
      some ⟨.int 1, [UInt8.ofNat i]⟩ := by
    rw [fetchSetting, htype, Host.findChild, Option.getD_none, if_pos rfl]
    simp only [hidx, Option.some_or, Option.map_some, Option.getD_none]
  have hchild : w.findChild [] = some w.root := if_pos rfl
  rw [incExec, hparse]
  simp only [Option.getD_none, hchild, htype, hfound, Option.bind_some, hnumber i hi,
    Option.map_some, Option.getD_some, hraw i hi, storeSetting, if_true]
  rfl

end Settings

/-- The interfaces with their addresses, the other blocks of settings and the images. -/
structure Keeps (w w' : Host) : Prop where
  macs : ∀ name, (w'.findNetdev name).map Device.mac = (w.findNetdev name).map Device.mac
  blocks : w'.blocks = w.blocks
  images : w'.images = w.images

theorem Keeps.refl (w : Host) : Keeps w w := ⟨fun _ => rfl, rfl, rfl⟩

theorem Keeps.trans {w w' w'' : Host} (h : Keeps w w') (h' : Keeps w' w'') : Keeps w w'' :=
  ⟨fun name => (h'.macs name).trans (h.macs name), h'.blocks.trans h.blocks,
    h'.images.trans h.images⟩

theorem Keeps.findNetdev {w w' : Host} (h : Keeps w w') {name : Str} {device : Device}
    (hdevice : w.findNetdev name = some device) :
    ∃ device', w'.findNetdev name = some device' ∧ device'.mac = device.mac := by
  have hmac := h.macs name
  rw [hdevice, Option.map_some] at hmac
  exact Option.map_eq_some_iff.mp hmac

theorem keeps_root (w : Host) (root : Settings) : Keeps w { w with root := root } :=
  ⟨fun _ => rfl, rfl, rfl⟩

theorem keeps_modifyNetdev (w : Host) (name : Str) {f : Device → Device}
    (hf : ∀ device, (f device).name = device.name ∧ (f device).mac = device.mac) :
    Keeps w (w.modifyNetdev name f) := by
  refine ⟨fun name' => ?_, rfl, rfl⟩
  rw [Host.findNetdev_modifyNetdev _ _ _ fun device => (hf device).1, Option.map_map]
  congr 1
  funext device
  rw [Function.comp_apply]
  split_ifs
  · exact (hf device).2
  · rfl

section Keep

variable (env : Environment) (data : JobData) (w : Host) (i : ℕ)

theorem keeps_ifopenPayload (device : Device) : Keeps w (ifopenPayload env w device).1 := by
  rw [ifopenPayload]
  split_ifs
  · exact Keeps.refl w
  · exact keeps_modifyNetdev w _ fun _ => ⟨rfl, rfl⟩
  · exact Keeps.refl w

theorem keeps_assign : Keeps w (assign data w i) := keeps_modifyNetdev w _ fun _ => ⟨rfl, rfl⟩

theorem keeps_close : Keeps w (close w i) := keeps_modifyNetdev w _ fun _ => ⟨rfl, rfl⟩

theorem keeps_setDns {w' : Host} (h : setDns data w = some w') : Keeps w w' := by
  obtain ⟨raw, -, rfl⟩ := Option.map_eq_some_iff.mp h
  exact keeps_root w _

/-- One round opens, assigns, sets and closes. -/
theorem probe_rule {P : Host → Prop} (hw : P w)
    (hopen : ∀ device, w.findNetdev (netName i) = some device → P (ifopenPayload env w device).1)
    (hassign : ∀ w', P w' → P (assign data w' i))
    (hdns : ∀ w' w'', setDns data w' = some w'' → P w' → P w'')
    (hclose : ∀ w', P w' → P (close w' i)) : P (probe env data w i).1 := by
  cases hdevice : w.findNetdev (netName i) with
  | none =>
    rw [probe_of_none hdevice]
    exact hw
  | some device =>
    have hopened := hopen device hdevice
    rcases hresult : ifopenPayload env w device with ⟨w', ok⟩
    rw [hresult] at hopened
    cases ok with
    | false =>
      rw [probe_of_closed hdevice hresult]
      exact hopened
    | true =>
      have hassigned := hassign _ hopened
      cases hset : setDns data (assign data w' i) with
      | none =>
        rw [probe_of_unset hdevice hresult hset]
        exact hclose _ hassigned
      | some w'' =>
        rw [probe_of_set hdevice hresult hset]
        split_ifs
        · exact hdns _ _ hset hassigned
        · exact hclose _ (hdns _ _ hset hassigned)

theorem keeps_probe : Keeps w (probe env data w i).1 :=
  probe_rule env data w i (Keeps.refl w) (fun device _ => keeps_ifopenPayload env w device)
    (fun _ hw => hw.trans (keeps_assign data _ i))
    (fun _ _ hdns hw => hw.trans (keeps_setDns data _ hdns)) fun _ hw => hw.trans (keeps_close _ i)

theorem root_ifopenPayload (device : Device) : (ifopenPayload env w device).1.root = w.root := by
  rw [ifopenPayload]
  split_ifs <;> rfl

theorem root_setDns {w' : Host} {name : Str} (hname : name ≠ "dns".toList)
    (h : setDns data w = some w') :
    w'.root name = w.root name := by
  obtain ⟨raw, -, rfl⟩ := Option.map_eq_some_iff.mp h
  simp only [Function.update_of_ne hname]

/-- The only setting of the root that a round changes is the name server. -/
theorem root_probe {name : Str} (hname : name ≠ "dns".toList) : (probe env data w i).1.root name =
    w.root name :=
  @probe_rule env data w i (fun w' => w'.root name = w.root name) rfl
    (fun device _ => congrFun (root_ifopenPayload env w device) name) (fun _ hw => hw)
    (fun _ _ hdns hw => (root_setDns data _ hname hdns).trans hw) fun _ hw => hw

theorem keeps_searchFrom (rounds : ℕ) : Keeps w (searchFrom env data rounds i w).1 := by
  induction rounds generalizing i w with
  | zero => exact keeps_root w _
  | succ rounds ih =>
    have hprobe := (keeps_root w _).trans (keeps_probe env data (setIdx w i) i)
    rw [searchFrom]
    split
    · rename_i heq
      rw [heq] at hprobe
      exact hprobe
    · rename_i heq
      rw [heq] at hprobe
      exact hprobe.trans (ih _ _)

end Keep

/-- The interface is not open, if there is one. -/
def IsClosed (w : Host) (i : ℕ) : Prop := ∀ device, w.findNetdev (netName i) = some device →
    device.isOpen = false

/-- The interface is open with the settings of the job, and the name server of the job is set. -/
structure IsConfigured (data : JobData) (w : Host) (i : ℕ) (device : Device) : Prop where
  found : w.findNetdev (netName i) = some device
  isOpen : device.isOpen = true
  ip : device.generic "ip".toList = some (ipv4Setting data.request.ipv4.address.val)
  netmask : device.generic "netmask".toList = some (ipv4Setting data.request.ipv4.netmask.val)
  gateway : device.generic "gateway".toList = some (ipv4Setting data.request.ipv4.gateway.val)
  dns : ∃ raw, inetAton (dnsPrimary data) = some raw ∧ w.root "dns".toList = some ⟨.ipv4, raw⟩

section Found

variable {env : Environment} {data : JobData} {w w' : Host} {i j : ℕ}

theorem findNetdev_modifyNetdev_self {w : Host} {name : Str} {f : Device → Device}
    (hf : ∀ device, (f device).name = device.name) :
    (w.modifyNetdev name f).findNetdev name = (w.findNetdev name).map f := by
  rw [Host.findNetdev_modifyNetdev w name name hf]
  cases hdevice : w.findNetdev name with
  | none => rfl
  | some device => rw [Option.map_some, Option.map_some, if_pos (Host.name_of_findNetdev hdevice)]

theorem findNetdev_modifyNetdev_of_ne {w : Host} {name name' : Str} {f : Device → Device}
    (hf : ∀ device, (f device).name = device.name) (hne : name' ≠ name) :
    (w.modifyNetdev name f).findNetdev name' = w.findNetdev name' := by
  rw [Host.findNetdev_modifyNetdev w name name' hf]
  cases hdevice : w.findNetdev name' with
  | none => rfl
  | some device => rw [Option.map_some, if_neg (Host.name_of_findNetdev hdevice ▸ hne)]

theorem isClosed_close (w : Host) (i : ℕ) : IsClosed (close w i) i := by
  intro device hdevice
  rw [close, findNetdev_modifyNetdev_self] at hdevice
  · obtain ⟨before, -, rfl⟩ := Option.map_eq_some_iff.mp hdevice
    rfl
  · exact fun _ => rfl

theorem isClosed_of_ifopenPayload {device : Device}
    (hdevice : w.findNetdev (netName i) = some device)
    (h : ifopenPayload env w device = (w', false)) : IsClosed w' i := by
  rw [ifopenPayload] at h
  split_ifs at h with hopen
  · cases h
  · cases h
  · obtain ⟨rfl, -⟩ := Prod.mk.inj h
    intro found hfound
    obtain rfl := Option.some.inj (hdevice.symm.trans hfound)
    simpa using hopen

theorem isOpen_of_ifopenPayload {device : Device} (hdevice : w.findNetdev (netName i) = some device)
    (h : ifopenPayload env w device = (w', true)) :
    ∃ opened, w'.findNetdev (netName i) = some opened ∧ opened.isOpen = true := by
  rw [ifopenPayload] at h
  split_ifs at h with hopen
  · obtain ⟨rfl, -⟩ := Prod.mk.inj h
    exact ⟨device, hdevice, hopen⟩
  · obtain ⟨rfl, -⟩ := Prod.mk.inj h
    refine ⟨{ device with isOpen := true }, ?_, rfl⟩
    have hname := Host.name_of_findNetdev hdevice
    rw [← hname] at hdevice ⊢
    rw [findNetdev_modifyNetdev_self, hdevice, Option.map_some]
    exact fun _ => rfl
  · cases h

/-- An interface that does not answer is closed again. -/
theorem isClosed_of_probe (h : probe env data w i = (w', false)) : IsClosed w' i := by
  cases hdevice : w.findNetdev (netName i) with
  | none =>
    rw [probe_of_none hdevice] at h
    obtain ⟨rfl, -⟩ := Prod.mk.inj h
    intro device hfound
    rw [hdevice] at hfound
    cases hfound
  | some device =>
    rcases hresult : ifopenPayload env w device with ⟨w₁, ok⟩
    cases ok with
    | false =>
      rw [probe_of_closed hdevice hresult] at h
      obtain ⟨rfl, -⟩ := Prod.mk.inj h
      exact isClosed_of_ifopenPayload hdevice hresult
    | true =>
      cases hdns : setDns data (assign data w₁ i) with
      | none =>
        rw [probe_of_unset hdevice hresult hdns] at h
        obtain ⟨rfl, -⟩ := Prod.mk.inj h
        exact isClosed_close _ i
      | some w₂ =>
        rw [probe_of_set hdevice hresult hdns] at h
        split_ifs at h
        · cases h
        · obtain ⟨rfl, -⟩ := Prod.mk.inj h
          exact isClosed_close _ i

theorem probe_eq_true (h : probe env data w i = (w', true)) :
    ∃ device opened, w.findNetdev (netName i) = some device ∧
      ifopenPayload env w device = (opened, true) ∧
      setDns data (assign data opened i) = some w' ∧ reachesInternet env w' = true := by
  cases hdevice : w.findNetdev (netName i) with
  | none =>
    rw [probe_of_none hdevice] at h
    cases h
  | some device =>
    rcases hresult : ifopenPayload env w device with ⟨opened, ok⟩
    cases ok with
    | false =>
      rw [probe_of_closed hdevice hresult] at h
      cases h
    | true =>
      cases hdns : setDns data (assign data opened i) with
      | none =>
        rw [probe_of_unset hdevice hresult hdns] at h
        cases h
      | some configured =>
        rw [probe_of_set hdevice hresult hdns] at h
        split_ifs at h with hreach
        · obtain ⟨rfl, -⟩ := Prod.mk.inj h
          exact ⟨device, opened, rfl, hresult, hdns, hreach⟩
        · cases h

/-- One that answers has the settings of the job. -/
theorem isConfigured_of_probe (h : probe env data w i = (w', true)) :
    ∃ device, IsConfigured data w' i device := by
  obtain ⟨device, w₁, hdevice, hresult, hdns, -⟩ := probe_eq_true h
  obtain ⟨opened, hopened, hopen⟩ := isOpen_of_ifopenPayload hdevice hresult
  obtain ⟨raw, hraw, rfl⟩ := Option.map_eq_some_iff.mp hdns
  have hassigned : (assign data w₁ i).findNetdev (netName i) = some
      (((opened.withSetting "ip" (ipv4Setting data.request.ipv4.address.val)).withSetting
        "netmask" (ipv4Setting data.request.ipv4.netmask.val)).withSetting
        "gateway" (ipv4Setting data.request.ipv4.gateway.val)) := by
    rw [assign, findNetdev_modifyNetdev_self, hopened, Option.map_some]
    exact fun _ => rfl
  refine ⟨_, ⟨hassigned, hopen, rfl, rfl, rfl, raw, hraw, ?_⟩⟩
  simp only [Function.update_self]

/-- A round leaves all other interfaces alone. -/
theorem findNetdev_probe (hne : j ≠ i) :
    (probe env data w i).1.findNetdev (netName j) = w.findNetdev (netName j) := by
  have hname : netName j ≠ netName i :=
    fun heq => hne (decimal_injective (List.append_cancel_left heq))
  refine @probe_rule env data w i (fun w' => w'.findNetdev (netName j) = w.findNetdev (netName j))
    rfl ?_ ?_ ?_ ?_
  · intro device hdevice
    rw [ifopenPayload]
    split_ifs
    · rfl
    · rw [Host.name_of_findNetdev hdevice, findNetdev_modifyNetdev_of_ne _ hname]
      exact fun _ => rfl
    · rfl
  · intro w' hw
    rw [assign, findNetdev_modifyNetdev_of_ne _ hname, hw]
    exact fun _ => rfl
  · intro w' w'' hdns hw
    obtain ⟨raw, -, rfl⟩ := Option.map_eq_some_iff.mp hdns
    exact hw
  · intro w' hw
    rw [close, findNetdev_modifyNetdev_of_ne _ hname, hw]
    exact fun _ => rfl

theorem findNetdev_searchFrom (env : Environment) (data : JobData) (w : Host) (rounds : ℕ)
    (hj : j < i) :
    (searchFrom env data rounds i w).1.findNetdev (netName j) = w.findNetdev (netName j) := by
  induction rounds generalizing i w with
  | zero => rfl
  | succ rounds ih =>
    have hprobe := @findNetdev_probe env data (setIdx w i) i j hj.ne
    rw [searchFrom]
    rcases hresult : probe env data (setIdx w i) i with ⟨w₁, ok⟩
    rw [hresult] at hprobe
    cases ok with
    | true => exact hprobe
    | false => exact (ih w₁ (Nat.lt_succ_of_lt hj)).trans hprobe

/-- An interface that was closed in its own round is not opened by a later one. -/
theorem isClosed_searchFrom {w₁ : Host} (h : probe env data w i = (w₁, false)) (rounds : ℕ) :
    IsClosed (searchFrom env data rounds (i + 1) w₁).1 i := by
  intro device hdevice
  rw [findNetdev_searchFrom env data w₁ rounds (Nat.lt_succ_self i)] at hdevice
  exact isClosed_of_probe h device hdevice

/-- The search stops at the first interface that answers, and those before it are closed. -/
theorem searchFrom_found {rounds k : ℕ} (h : searchFrom env data rounds i w = (w', some k)) :
    (i ≤ k ∧ k < i + rounds) ∧ (∃ w₀, probe env data (setIdx w₀ k) k = (w', true)) ∧
      ∀ j, i ≤ j → j < k → IsClosed w' j := by
  induction rounds generalizing i w with
  | zero => cases h
  | succ rounds ih =>
    rw [searchFrom] at h
    rcases hresult : probe env data (setIdx w i) i with ⟨w₁, ok⟩
    rw [hresult] at h
    cases ok with
    | true =>
      obtain ⟨rfl, hk⟩ := Prod.mk.inj h
      obtain rfl := Option.some.inj hk
      exact ⟨⟨le_rfl, by omega⟩, ⟨w, hresult⟩, fun j hij hji => absurd hji (by omega)⟩
    | false =>
      replace h : searchFrom env data rounds (i + 1) w₁ = (w', some k) := h
      obtain ⟨⟨hik, hk⟩, hprobe, hclosed⟩ := ih h
      refine ⟨⟨by omega, by omega⟩, hprobe, fun j hij hjk => ?_⟩
      rcases Nat.eq_or_lt_of_le hij with rfl | hlt
      · have hclosed := isClosed_searchFrom hresult rounds
        rwa [h] at hclosed
      · exact hclosed j hlt hjk

/-- The interface is there and can be opened, it takes the settings of the job, and over it the ping
is answered. -/
def AnswersIn (env : Environment) (data : JobData) (w : Host) (i : ℕ) : Prop :=
  ∃ device opened configured, w.findNetdev (netName i) = some device ∧
    ifopenPayload env w device = (opened, true) ∧
    setDns data (assign data opened i) = some configured ∧ reachesInternet env configured = true

theorem answersIn_iff : AnswersIn env data w i ↔ (probe env data w i).2 = true := by
  constructor
  · rintro ⟨device, opened, configured, hdevice, hopen, hdns, hreach⟩
    rw [probe_of_set hdevice hopen hdns, if_pos hreach]
  · intro h
    obtain ⟨device, opened, hprobe⟩ := probe_eq_true (Prod.ext rfl h)
    exact ⟨device, opened, _, hprobe⟩

/-- The machine when an interface is tried, after the rounds of those before it. -/
def atRound (env : Environment) (data : JobData) (w : Host) : ℕ → Host
  | 0 => setIdx w 0
  | i + 1 => setIdx (probe env data (atRound env data w i) i).1 (i + 1)

/-- The interface that is found answers in its round, and none before it has answered in its own. -/
theorem searchFrom_first {start : Host} {rounds k : ℕ}
    (hround : atRound env data start i = setIdx w i)
    (h : searchFrom env data rounds i w = (w', some k)) :
    AnswersIn env data (atRound env data start k) k ∧
      ∀ j, i ≤ j → j < k → ¬ AnswersIn env data (atRound env data start j) j := by
  induction rounds generalizing i w with
  | zero => cases h
  | succ rounds ih =>
    have hprobe := @answersIn_iff env data (setIdx w i) i
    rw [searchFrom] at h
    rcases hresult : probe env data (setIdx w i) i with ⟨w₁, ok⟩
    rw [hresult] at h hprobe
    cases ok with
    | true =>
      obtain rfl := Option.some.inj (Prod.mk.inj h).2
      exact ⟨hround ▸ hprobe.mpr rfl, fun j hij hji => absurd hji (by omega)⟩
    | false =>
      replace h : searchFrom env data rounds (i + 1) w₁ = (w', some k) := h
      have hnext : atRound env data start (i + 1) = setIdx w₁ (i + 1) := by
        rw [atRound, hround, hresult]
      obtain ⟨hfound, hbefore⟩ := ih hnext h
      refine ⟨hfound, fun j hij hjk => ?_⟩
      rcases Nat.eq_or_lt_of_le hij with rfl | hlt
      · rw [hround]
        exact fun hanswers => Bool.false_ne_true (hprobe.mp hanswers)
      · exact hbefore j hlt hjk

/-- Without an interface that answers, all of them are closed. -/
theorem searchFrom_none {rounds : ℕ} (h : searchFrom env data rounds i w = (w', none)) :
    ∀ j, i ≤ j → j < i + rounds → IsClosed w' j := by
  induction rounds generalizing i w with
  | zero => exact fun j hij hj => absurd hij (by omega)
  | succ rounds ih =>
    rw [searchFrom] at h
    rcases hresult : probe env data (setIdx w i) i with ⟨w₁, ok⟩
    rw [hresult] at h
    cases ok with
    | true => cases h
    | false =>
      replace h : searchFrom env data rounds (i + 1) w₁ = (w', none) := h
      intro j hij hj
      rcases Nat.eq_or_lt_of_le hij with rfl | hlt
      · have hclosed := isClosed_searchFrom hresult rounds
        rwa [h] at hclosed
      · exact ih h j hlt (by omega)

/-- An interface that answers whenever it is tried ends the search. -/
theorem searchFrom_of_works {rounds k : ℕ} (hik : i ≤ k) (hk : k < i + rounds)
    (hworks : ∀ w₀, Keeps w w₀ → (probe env data w₀ k).2 = true) :
    ∃ w' found, searchFrom env data rounds i w = (w', some found) ∧ found ≤ k := by
  induction rounds generalizing i w with
  | zero => omega
  | succ rounds ih =>
    have hkeeps := (keeps_root w _).trans (keeps_probe env data (setIdx w i) i)
    rw [searchFrom]
    rcases hresult : probe env data (setIdx w i) i with ⟨w₁, ok⟩
    rw [hresult] at hkeeps
    cases ok with
    | true => exact ⟨w₁, i, rfl, hik⟩
    | false =>
      rcases Nat.eq_or_lt_of_le hik with rfl | hlt
      · have hprobe := hworks (setIdx w i) (keeps_root w _)
        rw [hresult] at hprobe
        cases hprobe
      · exact ih hlt (by omega) fun w₀ hw₀ => hworks w₀ (hkeeps.trans hw₀)

/-- With a name server that is no IPv4 address no interface is found. -/
theorem searchFrom_of_unset (rounds : ℕ) (hdns : inetAton (dnsPrimary data) = none) :
    (searchFrom env data rounds i w).2 = none := by
  have hprobe : ∀ w i, (probe env data w i).2 = false := by
    intro w i
    cases hresult : probe env data w i with
    | mk w' ok =>
      cases ok with
      | false => rfl
      | true =>
        obtain ⟨device, hdevice⟩ := isConfigured_of_probe hresult
        obtain ⟨raw, hraw, -⟩ := hdevice.dns
        rw [hdns] at hraw
        cases hraw
  induction rounds generalizing i w with
  | zero => rfl
  | succ rounds ih =>
    have hfalse := hprobe (setIdx w i) i
    rw [searchFrom]
    rcases hresult : probe env data (setIdx w i) i with ⟨w₁, ok⟩
    rw [hresult] at hfalse
    cases hfalse
    exact ih

end Found

end Astro.InterfaceSearch
