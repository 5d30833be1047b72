import Astro.BootScriptResult
import Astro.StageNetworks

/-!
# Networking in the initial ramdisk

`init` reads the kernel command line and calls `configure_networking` of `scripts/functions`: the
device is the one that `ip=` names, or the one with the hardware address of `BOOTIF=`, which may
show up only after a while. What the function does to the machine is the list of the commands that
it runs.
-/

namespace Astro.InitNetworking

open PythonText ShellText IpxePipeline CustomIsoHandler RequestModels HostNames KernelCommandLine
  StageNetworks IpxeSettings InterfaceSearch

/-- An unquoted expansion with one delimiter in `IFS` that is no blank: it ends a field. -/
def fields (delimiter : Char) (text : Str) : List Str :=
  if (split delimiter text).getLast? =
    some [] then (split delimiter text).dropLast else split delimiter text

/-- `${text#*-}`: what follows the first hyphen. -/
def afterHyphen (text : Str) : Str := ((cut '-' text).map Prod.snd).getD text

/-- `${text##*:}` and `${text%:*}`: around the last colon. -/
def afterColon (text : Str) : Str := (split ':' text).getLastD []

def beforeColon (text : Str) : Str :=
  if ':' ∈ text then join ":" (split ':' text).dropLast else text

structure Variables where
  ip : Str
  ip6 : Str
  vlan : Str
  device : Str
  device6 : Str
  bootif : Str
deriving DecidableEq, Repr

/-- One round of the loop over the command line. -/
def readOption (v : Variables) (x : Str) : Variables :=
  match cut '=' x with
  | none => v
  | some (name, value) =>
    if name = "ip".toList then { v with ip := value }
    else if name = "ip6".toList then { v with ip6 := value }
    else if name = "vlan".toList then { v with vlan := value }
    else if name = "BOOTIF".toList ∨ name = "hwaddr".toList then { v with bootif := value }
    else v

/-- The loop of `init`: the last argument of a name counts. -/
def readCmdline (cmdline : Str) : Variables :=
  (words cmdline).foldl readOption ⟨[], [], [], [], [], []⟩

/-- A directory of `/sys/class/net`, with the contents of two of its files. -/
structure Netdev where
  name : Str
  name_ne_nil : name ≠ []
  address : Option Str
  flags : Option ℕ
deriving DecidableEq, Repr

/-- A directory of `/sys/firmware/ibft`. -/
structure Ibft where
  mac : Option Str
  ipAddr : Str
deriving DecidableEq, Repr

inductive Action where
  | chzdev (device : Str)
  | linkUp (device : Str)
  | linkAdd (name link id : Str)
  | dhcpcd4 (timeout : ℕ) (device : Option Str)
  | dhcpcd6 (timeout : ℕ) (device : Option Str)
  | ipconfig (timeout : ℕ) (ip : Str)
deriving DecidableEq, Repr

structure Machine where
  /-- The devices at the successive looks at them. -/
  devices : ℕ → List Netdev
  /-- `time_elapsed` in the successive rounds of the wait, which sleep for a second. -/
  elapsed : ℕ → ℤ
  tick : ∀ k, elapsed k + 1 ≤ elapsed (k + 1)
  ibft : Option (List Ibft)
  /-- `/run/net-<device>.conf` and `/run/net6-<device>.conf` after these commands. -/
  conf : List Action → Str → Bool
  conf6 : List Action → Str → Bool
  /-- Any of them. -/
  anyConf : List Action → Bool
  anyConf6 : List Action → Bool

/-- `_set_netdev_from_ip_param`. -/
def setNetdevFromIpParam (v : Variables) : Variables × Bool :=
  let named := (fields ':' v.ip)[5]?.getD []
  let v' := if named ≠ [] then { v with device := named } else v
  if v.ip6 ∈ ["", "on", "dhcp", "any", "none", "off"].map String.toList then (v', named ≠ [])
  else ({ v' with device6 := v.ip6 }, true)

/-- `_set_netdev_from_hw_address`. -/
def setNetdevFromHwAddress (devices : List Netdev) (want : Str) (v : Variables) :
    Option Variables :=
  (devices.find? (·.address = some want)).map fun found =>
    { v with device := found.name, device6 := found.name }

/-- `_usable_netdev_exists`: no loopback, and broadcast or point to point. -/
def usableNetdevExists (devices : List Netdev) : Bool :=
  devices.any fun found => found.flags.any fun flags => flags &&& 8 = 0 ∧ flags &&& 0x12 ≠ 0

/-- `_update_ip_param`: the device becomes the sixth field, unless there is one. -/
def updateIpParam (v : Variables) : Variables :=
  let args := fields ':' v.ip
  let arg (i : ℕ) : Str := args[i]?.getD []
  if arg 5 = [] ∧ 2 ≤ args.length ∧ v.device ≠ [] then
    { v with
      ip := join ":" [arg 0, arg 1, arg 2, arg 3, arg 4, v.device] ++ ':' ::
        join ":" (args.drop 6) }
  else v

/-- `_set_bootif_and_ip_param_from_ibft`. -/
def setFromIbft (entries : List Ibft) (v : Variables) : Variables :=
  entries.foldl (fun v entry =>
    match entry.mac with
    | none | some [] => v
    | some mac =>
      if ':' ∈ entry.ipAddr then { v with bootif := mac, ip := "off", ip6 := "on" } else { v with
        bootif := mac }) v

/-- The hardware address in `BOOTIF`, without the leading type. -/
def bootifToMac (bootif : Str) : Str :=
  (fields '-' (afterHyphen bootif)).foldl (fun mac x => if mac = [] then x else mac ++ ':' :: x) []

/-- The device before the wait, and the address that is waited for. -/
def chooseDevice (m : Machine) (v : Variables) : Variables × Str :=
  match setNetdevFromIpParam v with
  | (v', true) => (v', [])
  | (v', false) =>
    if v'.bootif ≠ [] then
      ((setNetdevFromHwAddress (m.devices 0) (bootifToMac v'.bootif) v').getD v',
        bootifToMac v'.bootif)
    else (v', [])

/-- The wait, from a round on; a round looks at the devices once. -/
def waitForNetdev (m : Machine) (mac : Str) (v : Variables) (k : ℕ) : Variables :=
  if 180 ≤ m.elapsed k then v
  else if v.device ≠ [] then
    if (m.devices (k + 1)).any (·.name = v.device) then v else waitForNetdev m mac v (k + 1)
  else if mac ≠ [] then
    match setNetdevFromHwAddress (m.devices (k + 1)) mac v with
    | some v' => v'
    | none => waitForNetdev m mac v (k + 1)
  else if usableNetdevExists (m.devices (k + 1)) then v else waitForNetdev m mac v (k + 1)
termination_by (180 - m.elapsed k).toNat
decreasing_by
  all_goals
    have htick := m.tick k
    omega

/-- `${device:+"${device}"}`. -/
def given (device : Str) : Option Str := if device = [] then none else some device

/-- Devices that are activated and virtual ones that are created before the wait. -/
def prepare (v : Variables) : List Action :=
  let vlans := words v.vlan
  let devices := words v.device ++ words v.device6 ++ vlans.map afterColon
  ((devices.filter (· ∉ vlans.map beforeColon)).filter ("enc".toList <+: ·)).map (fun device =>
    .chzdev (device.drop 3)) ++
    vlans.flatMap fun vlan =>
      [.linkUp (afterColon vlan),
        .linkAdd (beforeColon vlan) (afterColon vlan)
          (((cut '.' (beforeColon vlan)).map Prod.snd).getD (beforeColon vlan))]

def configure4 (t : ℕ) (v : Variables) : Variables × List Action :=
  if v.ip ∈ ["none", "done", "off"].map String.toList then ({ v with ip := "done" }, [])
  else if v.ip ∈ ["", "on", "any", "dhcp", "bootp", "both"].map
    String.toList then (v, [.dhcpcd4 t (given v.device)])
  else (v, [.ipconfig t v.ip])

def configure6 (t : ℕ) (v : Variables) : Variables × List Action :=
  if v.ip6 ∈ ["", "none", "done", "off"].map String.toList then ({ v with ip6 := "done" }, [])
  else
    let v' :=
      if v.ip6 ∈ ["on", "dhcp", "any"].map String.toList then v else { v with device6 := v.ip6 }
    (v', [.dhcpcd6 t (given v'.device6)])

/-- The file of the device in `/run` is there; without a device, any such file. -/
def IsCollected (m : Machine) (v : Variables) (actions : List Action) : Prop :=
  v.device = [] ∧ m.anyConf actions = true ∨ m.conf actions v.device = true

instance (m : Machine) (v : Variables) (actions : List Action) :
    Decidable (IsCollected m v actions) :=
  inferInstanceAs (Decidable (_ ∨ _))

def collect4 (m : Machine) (actions : List Action) (v : Variables) : Variables :=
  if IsCollected m v actions then { v with ip := "done" } else v

def collect6 (m : Machine) (actions : List Action) (v : Variables) : Variables :=
  if v.device6 = [] ∧ m.anyConf6 actions = true ∨
    m.conf6 actions v.device6 = true then { v with ip6 := "done" } else v

/-- One round, after the commands so far. -/
def configureRound (m : Machine) (t : ℕ) (v : Variables) (actions : List Action) :
    Variables × List Action :=
  let result₄ := configure4 t v
  let result₆ := configure6 t result₄.1
  let actions' := actions ++ result₄.2 ++ result₆.2
  (collect6 m actions' (collect4 m actions' result₆.1), actions')

/-- The rounds, until there is nothing left to do. -/
def configureRounds (m : Machine) : List ℕ → Variables → List Action → Variables × List Action
  | [], v, actions => (v, actions)
  | t :: rounds, v, actions =>
    let result := configureRound m t v actions
    if result.1.ip = "done".toList ∧ result.1.ip6 = "done".toList then result
    else configureRounds m rounds result.1 result.2

/-- `configure_networking`. -/
def configureNetworking (m : Machine) (v : Variables) : Variables × List Action :=
  let v₀ := match m.ibft with
    | some entries =>
      if v.device = [] ∧ v.device6 = [] ∧ v.bootif = [] then setFromIbft entries v else v
    | none => v
  let (v₁, mac) := chooseDevice m v₀
  let v₂ := waitForNetdev m mac v₁ 0
  configureRounds m [30, 60, 90, 120] (updateIpParam v₂) (prepare v₁)

/-- The part of `init` that calls it. -/
def network (m : Machine) (v : Variables) : Variables × List Action :=
  let unset := ["", "none", "off"].map String.toList
  if v.ip ∈ unset ∧ v.ip6 ∈ unset then (v, []) else configureNetworking m v

/-- The arguments that networking looks at. -/
def networkOptions : List Str := ["ip", "ip6", "vlan", "BOOTIF", "hwaddr"].map String.toList

theorem readOption_other {x : Str} (h : x.takeWhile (· ≠ '=') ∉ networkOptions) (v : Variables) :
    readOption v x = v := by
  have hne : ∀ name ∈ networkOptions, x.takeWhile (· ≠ '=') ≠ name :=
    fun name hname heq => h (heq ▸ hname)
  rw [readOption]
  split
  · rfl
  · rename_i name value hcut
    rw [cut] at hcut
    split_ifs at hcut
    obtain ⟨rfl, -⟩ := Prod.mk.inj (Option.some.inj hcut)
    rw [if_neg (hne _ (by decide)), if_neg (hne _ (by decide)), if_neg (hne _ (by decide)),
      if_neg (not_or.mpr ⟨hne _ (by decide), hne _ (by decide)⟩)]

theorem readOption_skip {name : Str} (hname : '=' ∉ name ∧ name ∉ networkOptions) (v : Variables)
    (value : Str) :
    readOption v (argument name value) = v := by
  refine readOption_other ?_ v
  have hfront : ∀ c ∈ name, decide (c ≠ '=') = true :=
    fun c hc => decide_eq_true (ne_of_mem_of_not_mem hc hname.1)
  rw [argument, List.takeWhile_append_of_pos hfront, List.takeWhile_cons_of_neg (by simp),
    List.append_nil]
  exact hname.2

section Job

variable {data : JobData} {mac : Mac} {appended : Str}

/-- What `init` makes of the command line that the boot loader passes on. -/
theorem readCmdline_bootArguments (hplain : HasPlainContext data)
    (happended : ∀ x ∈ words appended, x.takeWhile (· ≠ '=') ∉ networkOptions) :
    readCmdline (join " " (bootArguments data mac) ++ ' ' :: appended) =
      ⟨ipArgument data, [], [], [], [], bootifMac mac⟩ := by
  have hother : ∀ v : Variables, (words appended).foldl readOption v = v := by
    intro v
    generalize words appended = more at happended
    induction more with
    | nil => rfl
    | cons x more ih =>
      obtain ⟨hx, hmore⟩ := List.forall_mem_cons.mp happended
      rw [List.foldl_cons, readOption_other hx, ih hmore]
  have hip : ∀ v value, readOption v (argument "ip" value) = { v with ip := value } := by
    intro v value
    rw [readOption, argument, cut_append_cons (by decide)]
    exact if_pos rfl
  have hbootif : ∀ v value, readOption v (argument "BOOTIF" value) =
      { v with bootif := value } := by
    intro v value
    rw [readOption, argument, cut_append_cons (by decide)]
    exact (if_neg (by decide)).trans
      ((if_neg (by decide)).trans ((if_neg (by decide)).trans (if_pos (Or.inl rfl))))
  rw [readCmdline, words_join (isWord_bootArguments mac hplain), List.foldl_append, hother,
    bootArguments]
  simp only [List.foldl_cons, List.foldl_nil]
  rw [hip, hbootif, readOption_skip (by decide), readOption_skip (by decide),
    readOption_skip (by decide)]

end Job

theorem fields_eq_split {delimiter : Char} {text : Str}
    (h : (split delimiter text).getLast? ≠ some []) :
    fields delimiter text = split delimiter text := if_neg h

example : fields ':' "a::b" = ["a".toList, [], "b".toList] ∧ fields ':' "a::" = ["a".toList, []] ∧
    fields ':' [] = [] := by
  decide

/-- The address as the kernel shows it. -/
def hexColon (mac : Mac) : Str := join ":" ((List.ofFn mac).map hexByte)

theorem foldl_colons {mac : Str} (hmac : mac ≠ []) (pieces : List Str) :
    pieces.foldl (fun mac x => if mac = [] then x else mac ++ ':' :: x) mac =
      join ":" (mac :: pieces) := by
  induction pieces generalizing mac with
  | nil => simp [join, List.intercalate]
  | cons piece pieces ih =>
    rw [List.foldl_cons, if_neg hmac, ih (List.append_ne_nil_of_left_ne_nil hmac _), join_cons_cons]
    cases pieces with
    | nil => simp [join, List.intercalate]
    | cons piece' pieces => rw [join_cons_cons, join_cons_cons]; simp

theorem bootifToMac_bootifMac (mac : Mac) : bootifToMac (bootifMac mac) = hexColon mac := by
  have hbyte : ∀ b : UInt8, '-' ∉ hexByte b ∧ hexByte b ≠ [] := by
    intro b
    have hdigits : ∀ n < 16, '-' ≠ Nat.digitChar n := by decide
    have hhigh := hdigits (b.toNat / 16) (Nat.div_lt_of_lt_mul b.toNat_lt)
    have hlow := hdigits (b.toNat % 16) (Nat.mod_lt _ (by decide))
    simp [hexByte, hhigh, hlow]
  have hsplit : split '-' (hexhyp mac) = (List.ofFn mac).map hexByte := by
    refine List.splitOn_intercalate '-' ?_ ?_
    · exact List.forall_mem_map.mpr fun b _ => (hbyte b).1
    · simp
  have hafter : afterHyphen (bootifMac mac) = hexhyp mac := by
    have hcut := cut_append_cons (by decide : '-' ∉ "01".toList) (hexhyp mac)
    have htext : bootifMac mac = "01".toList ++ '-' :: hexhyp mac := rfl
    rw [afterHyphen, htext, hcut]
    rfl
  have hfields : fields '-' (hexhyp mac) = (List.ofFn mac).map hexByte := by
    rw [fields_eq_split, hsplit]
    rw [hsplit]
    intro hlast
    obtain ⟨b, -, hb⟩ := List.mem_map.mp (List.mem_of_getLast? hlast)
    exact (hbyte b).2 hb
  rw [bootifToMac, hafter, hfields, hexColon, List.ofFn_succ, List.map_cons,
    List.foldl_cons, if_pos rfl, foldl_colons (hbyte _).2]

section Wait

variable {m : Machine} {mac : Str} {v : Variables}

theorem elapsed_mono (m : Machine) {j k : ℕ} (h : j ≤ k) : m.elapsed j ≤ m.elapsed k := by
  induction h with
  | refl => exact le_rfl
  | @step n _ ih =>
    have htick : m.elapsed n + 1 ≤ m.elapsed n.succ := m.tick n
    omega

/-- A device that has been chosen is not given up. -/
theorem waitForNetdev_of_device (h : v.device ≠ []) (k : ℕ) : waitForNetdev m mac v k = v := by
  induction k using waitForNetdev.induct m mac v with
  | case1 k htime => rw [waitForNetdev, if_pos htime]
  | case2 k htime hdevice hthere => rw [waitForNetdev, if_neg htime, if_pos hdevice, if_pos hthere]
  | case3 k htime hdevice hthere ih =>
    rw [waitForNetdev, if_neg htime, if_pos hdevice, if_neg hthere, ih]
  | case4 k htime hdevice => exact absurd h hdevice
  | case5 k htime hdevice => exact absurd h hdevice
  | case6 k htime hdevice => exact absurd h hdevice
  | case7 k htime hdevice => exact absurd h hdevice

variable (hdevice : v.device = []) (hmac : mac ≠ [])
include hdevice hmac

theorem waitForNetdev_succ {k : ℕ} (htime : m.elapsed k < 180)
    (hnone : (m.devices (k + 1)).find? (·.address = some mac) = none) :
    waitForNetdev m mac v k = waitForNetdev m mac v (k + 1) := by
  rw [waitForNetdev, if_neg (by omega), if_neg (by simpa using hdevice), if_pos hmac,
    setNetdevFromHwAddress, hnone]
  rfl

/-- The wait ends with the first device that has the address, if it comes in time. -/
theorem waitForNetdev_found {n : ℕ} {found : Netdev} (htime : m.elapsed n < 180)
    (hbefore : ∀ j < n, (m.devices (j + 1)).find? (·.address = some mac) = none)
    (hfound : (m.devices (n + 1)).find? (·.address = some mac) = some found) {k : ℕ} (hk : k ≤ n) :
    waitForNetdev m mac v k = { v with device := found.name, device6 := found.name } := by
  induction hrounds : n - k generalizing k with
  | zero =>
    obtain rfl : k = n := by omega
    rw [waitForNetdev, if_neg (by omega), if_neg (by simpa using hdevice), if_pos hmac,
      setNetdevFromHwAddress, hfound]
    rfl
  | succ rounds ih =>
    have hlt : k < n := by omega
    have helapsed := elapsed_mono m hk
    rw [waitForNetdev_succ hdevice hmac (by omega) (hbefore k hlt)]
    exact ih hlt (by omega)

/-- If none comes in time, there is no device. -/
theorem waitForNetdev_none (hnone : ∀ j, m.elapsed j < 180 →
    (m.devices (j + 1)).find? (·.address = some mac) = none) (k : ℕ) :
      waitForNetdev m mac v k = v := by
  induction hrounds : (180 - m.elapsed k).toNat using Nat.strong_induction_on generalizing k with
  | _ rounds ih =>
    by_cases htime : m.elapsed k < 180
    · have htick := m.tick k
      rw [waitForNetdev_succ hdevice hmac htime (hnone k htime)]
      exact ih _ (by omega) (k + 1) rfl
    · rw [waitForNetdev, if_pos (by omega)]

end Wait

/-- The look at the devices is taken: the first one always, another one before the time is over. -/
def InTime (m : Machine) : ℕ → Prop
  | 0 => True
  | n + 1 => m.elapsed n < 180

/-- The device with the address, at one look. -/
def lookup (m : Machine) (address : Str) (n : ℕ) : Option Netdev :=
  (m.devices n).find? (·.address = some address)

/-- The device that the first look in time with the address on some device shows, or none. -/
def IsBootDevice (m : Machine) (address device : Str) : Prop :=
  (∃ n found, InTime m n ∧ lookup m address n = some found ∧ (∀ j < n, lookup m address j = none) ∧
      device = found.name) ∨
    (∀ n, InTime m n → lookup m address n = none) ∧ device = []

theorem InTime.of_le {m : Machine} {j n : ℕ} (h : InTime m n) (hle : j ≤ n) : InTime m j := by
  cases j with
  | zero => trivial
  | succ j =>
    obtain ⟨n, rfl⟩ := Nat.exists_eq_succ_of_ne_zero (by omega : n ≠ 0)
    exact lt_of_le_of_lt (elapsed_mono m (Nat.le_of_succ_le_succ hle)) h

theorem exists_isBootDevice (m : Machine) (address : Str) : ∃ device,
    IsBootDevice m address device := by
  classical
  by_cases h : ∃ n, InTime m n ∧ (lookup m address n).isSome = true
  · obtain ⟨htime, hsome⟩ := Nat.find_spec h
    obtain ⟨found, hfound⟩ := Option.isSome_iff_exists.mp hsome
    refine ⟨found.name, Or.inl ⟨Nat.find h, found, htime, hfound, fun j hj => ?_, rfl⟩⟩
    have hnot := Nat.find_min h hj
    exact Option.not_isSome_iff_eq_none.mp fun hsome => hnot ⟨htime.of_le hj.le, hsome⟩
  · exact ⟨[], Or.inr ⟨fun n htime => Option.not_isSome_iff_eq_none.mp fun hsome =>
      h ⟨n, htime, hsome⟩, rfl⟩⟩

theorem waitForNetdev_bootDevice {m : Machine} {address device : Str}
    (h : IsBootDevice m address device) (haddress : address ≠ []) {v : Variables}
    (hv : v.device = [] ∧ v.device6 = []) :
    waitForNetdev m address ((setNetdevFromHwAddress (m.devices 0) address v).getD v) 0 =
      { v with device := device, device6 := device } := by
  rcases h with ⟨n, found, htime, hfound, hbefore, rfl⟩ | ⟨hnone, rfl⟩
  · cases n with
    | zero =>
      have hfirst : setNetdevFromHwAddress (m.devices 0) address v =
          some { v with device := found.name, device6 := found.name } :=
            congrArg (Option.map _) hfound
      rw [hfirst]
      exact waitForNetdev_of_device found.name_ne_nil 0
    | succ n =>
      have hfirst : setNetdevFromHwAddress (m.devices 0) address v = none :=
        congrArg (Option.map _) (hbefore 0 (Nat.succ_pos n))
      rw [hfirst]
      exact waitForNetdev_found hv.1 haddress htime (fun j hj => hbefore (j + 1) (by omega)) hfound
        (Nat.zero_le n)
  · have hfirst : setNetdevFromHwAddress (m.devices 0) address v = none :=
      congrArg (Option.map _) (hnone 0 trivial)
    rw [hfirst]
    refine (waitForNetdev_none hv.1 haddress (fun j hj => hnone (j + 1) hj) 0).trans ?_
    obtain ⟨ip, ip6, vlan, device, device6, bootif⟩ := v
    obtain ⟨rfl, rfl⟩ : device = [] ∧ device6 = [] := hv
    rfl

/-- The texts of `ip=` that do not call `ipconfig`. -/
def isKeyword (ip : Str) : Bool :=
  ip ∈ ["none", "done", "off", "", "on", "any", "dhcp", "bootp", "both"].map String.toList

theorem not_mem_of_isKeyword {ip : Str} (h : isKeyword ip = false) {keywords : List String}
    (hkeywords : keywords ⊆ ["none", "done", "off", "", "on", "any", "dhcp", "bootp", "both"]) :
    ip ∉ keywords.map String.toList := by
  rw [isKeyword, decide_eq_false_iff_not] at h
  exact fun hmem => h (List.map_subset _ hkeywords hmem)

theorem configure4_ipconfig {v : Variables} (h : isKeyword v.ip = false) (t : ℕ) :
    configure4 t v = (v, [.ipconfig t v.ip]) := by
  rw [configure4, if_neg (not_mem_of_isKeyword h (by decide)),
    if_neg (not_mem_of_isKeyword h (by decide))]

theorem configure6_unset {v : Variables} (h : v.ip6 = [] ∨ v.ip6 = "done".toList) (t : ℕ) :
    configure6 t v = ({ v with ip6 := "done" }, []) := by
  refine if_pos ?_
  rcases h with h | h <;> rw [h] <;> decide

theorem collect6_done {m : Machine} {v : Variables} (h : v.ip6 = "done".toList)
    (actions : List Action) :
    collect6 m actions v = v := by
  rw [collect6, ← h]
  split_ifs <;> rfl

theorem configureRound_ipconfig {v : Variables} (hip : isKeyword v.ip = false)
    (hip6 : v.ip6 = [] ∨ v.ip6 = "done".toList) (m : Machine) (t : ℕ) (actions : List Action) :
    configureRound m t v actions =
      (collect4 m (actions ++ [.ipconfig t v.ip]) { v with ip6 := "done" },
        actions ++ [.ipconfig t v.ip]) := by
  have hip6' : (collect4 m (actions ++ [.ipconfig t v.ip]) { v with ip6 := "done" }).ip6 =
      "done".toList := by
    rw [collect4]
    split_ifs <;> rfl
  simp only [configureRound, configure4_ipconfig hip, configure6_unset hip6, List.append_nil]
  rw [collect6_done hip6']

/-- With addresses in `ip=` and no IPv6, every command of the rounds is an `ipconfig` with these
addresses; the rounds end when the file is there. -/
theorem configureRounds_ipconfig {m : Machine} {v : Variables} (hip : isKeyword v.ip = false)
    (hip6 : v.ip6 = [] ∨ v.ip6 = "done".toList) (rounds : List ℕ) (actions : List Action) :
    ∃ taken, taken <+: rounds ∧ (rounds ≠ [] → taken ≠ []) ∧
      (configureRounds m rounds v actions).1.device = v.device ∧
      (configureRounds m rounds v actions).2 = actions ++ taken.map (.ipconfig · v.ip) ∧
      (taken = rounds ∨ IsCollected m v (configureRounds m rounds v actions).2) := by
  induction rounds generalizing v actions with
  | nil => exact ⟨[], List.prefix_rfl, id, rfl, (List.append_nil _).symm, Or.inl rfl⟩
  | cons t rounds ih =>
    have hdone : v.ip ≠ "done".toList := by
      rintro heq
      rw [heq] at hip
      exact absurd hip (by decide)
    rw [configureRounds, configureRound_ipconfig hip hip6]
    by_cases hcollected : IsCollected m { v with ip6 := "done" } (actions ++ [.ipconfig t v.ip])
    · rw [collect4, if_pos hcollected, if_pos ⟨rfl, rfl⟩]
      exact ⟨[t], ⟨rounds, rfl⟩, fun _ => List.cons_ne_nil _ _, rfl, rfl, Or.inr hcollected⟩
    · rw [collect4, if_neg hcollected, if_neg fun hboth => hdone hboth.1]
      obtain ⟨taken, htaken, -, hdevice, hactions, hend⟩ :=
        @ih { v with ip6 := "done" } hip (Or.inr rfl) (actions ++ [.ipconfig t v.ip])
      refine ⟨t :: taken, (List.cons_prefix_cons.mpr ⟨rfl, htaken⟩), fun _ =>
        List.cons_ne_nil _ _, hdevice, ?_, ?_⟩
      · rw [hactions, List.append_assoc]
        rfl
      · exact hend.imp (congrArg _) id

theorem prepare_of_no_vlan {v : Variables} (h : v.vlan = []) : ∀ action ∈ prepare v, ∃ device,
    action = .chzdev device := by
  have hwords : words v.vlan = [] := by rw [h]; rfl
  rw [prepare, hwords]
  intro action haction
  rw [List.flatMap_nil, List.append_nil] at haction
  obtain ⟨device, -, rfl⟩ := List.mem_map.mp haction
  exact ⟨_, rfl⟩

theorem join_eq_fieldsText (front : List Str) (last : Str) : join ":" (front ++ [last]) =
    fieldsText front last := by
  induction front with
  | nil => simp [join, List.intercalate, fieldsText]
  | cons field front ih =>
    have hjoin : join ":" (field :: (front ++ [last])) = field ++
        (":".toList ++ join ":" (front ++ [last])) := by
      cases front with
      | nil => exact join_cons_cons _ _ _ _
      | cons _ _ => exact join_cons_cons _ _ _ _
    rw [List.cons_append, hjoin, ih]
    rfl

section Boot

variable (data : JobData)

/-- `ip=` with a device in it. -/
def ipWithDevice (device : Str) : Str :=
  fieldsText [data.request.ipv4.address.val, [], data.request.ipv4.gateway.val,
    data.request.ipv4.netmask.val, [], device, "off".toList] (dnsPrimary data)

variable {data} (hdns : isIpv4Address (dnsPrimary data) = true)
include hdns

theorem fields_ipArgument : fields ':' (ipArgument data) = networkFields data [] ++
    [dnsPrimary data] := by
  have hsplit : split ':' (ipArgument data) = networkFields data [] ++ [dnsPrimary data] := by
    rw [ipArgument_eq_fieldsText, split_fieldsText (networkFields_not_colon data List.not_mem_nil)]
    exact congrArg _ (List.splitOn_eq_singleton (not_colon_ipv4 hdns))
  rw [fields_eq_split, hsplit]
  rw [hsplit, List.getLast?_concat]
  exact fun hnil => ipv4_ne_nil hdns (Option.some.inj hnil)

theorem updateIpParam_ipArgument {v : Variables} (hip : v.ip = ipArgument data) :
    (updateIpParam v).ip = ipWithDevice data v.device ∧ (updateIpParam v).ip6 = v.ip6 ∧
      (updateIpParam v).device = v.device := by
  rw [updateIpParam, hip, fields_ipArgument hdns]
  by_cases hdevice : v.device = []
  · rw [if_neg fun h => h.2.2 hdevice, hdevice, hip]
    exact ⟨rfl, rfl, rfl⟩
  · rw [if_pos ⟨rfl, by simp [networkFields], hdevice⟩]
    refine ⟨?_, rfl, rfl⟩
    have hfront :=
      join_eq_fieldsText [data.request.ipv4.address.val, [], data.request.ipv4.gateway.val,
        data.request.ipv4.netmask.val, []] v.device
    have hback := join_eq_fieldsText ["off".toList] (dnsPrimary data)
    have happend :=
      fieldsText_append [data.request.ipv4.address.val, [], data.request.ipv4.gateway.val,
        data.request.ipv4.netmask.val, []] v.device
          (':' :: fieldsText ["off".toList] (dnsPrimary data))
    exact (congrArg₂ (fun front back : Str => front ++ ':' :: back) hfront hback).trans happend

theorem setNetdevFromIpParam_ipArgument {v : Variables} (hip : v.ip = ipArgument data)
    (hip6 : v.ip6 = []) :
    setNetdevFromIpParam v = (v, false) := by
  rw [setNetdevFromIpParam, hip, fields_ipArgument hdns, hip6]
  rfl

omit hdns in
theorem isKeyword_ipWithDevice (device : Str) : isKeyword (ipWithDevice data device) = false := by
  have hcolon : ':' ∈ ipWithDevice data device := List.mem_append_right _ List.mem_cons_self
  have hkeywords : ∀ ip ∈ ["none", "done", "off", "", "on", "any", "dhcp", "bootp", "both"].map
    String.toList,
      ':' ∉ ip := by decide
  rw [isKeyword, decide_eq_false_iff_not]
  exact fun hmem => hkeywords _ hmem hcolon

theorem network_eq {m : Machine} {v : Variables} (hip : v.ip = ipArgument data) (hip6 : v.ip6 = [])
    (hbootif : v.bootif ≠ []) :
    network m v = configureRounds m [30, 60, 90, 120]
      (updateIpParam (waitForNetdev m (bootifToMac v.bootif)
        ((setNetdevFromHwAddress (m.devices 0) (bootifToMac v.bootif) v).getD v) 0))
      (prepare ((setNetdevFromHwAddress (m.devices 0) (bootifToMac v.bootif) v).getD v)) := by
  have hset : v.ip ∉ ["", "none", "off"].map String.toList :=
    not_mem_of_isKeyword (hip ▸ isKeyword_ipWithDevice []) (by decide)
  have hibft : (match m.ibft with
    | some entries =>
      if v.device = [] ∧ v.device6 = [] ∧ v.bootif = [] then setFromIbft entries v else v
    | none => v) = v := by
    split
    · exact if_neg fun hunset => hbootif hunset.2.2
    · rfl
  have hchoose : chooseDevice m v =
      ((setNetdevFromHwAddress (m.devices 0) (bootifToMac v.bootif) v).getD v,
          bootifToMac v.bootif) := by
    rw [chooseDevice, setNetdevFromIpParam_ipArgument hdns hip hip6]
    exact if_pos hbootif
  rw [network, if_neg fun h => hset h.1, configureNetworking, hibft, hchoose]

/-- With the command line of the boot loader: the device is the one with the address of
`BOOTIF`, if it shows up in time, and otherwise none; every command that sets an address is an
`ipconfig` with the addresses of the job and that device. -/
theorem network_bootArguments {mac : Mac} {appended : Str} (hplain : HasPlainContext data)
    (happended : ∀ x ∈ words appended, x.takeWhile (· ≠ '=') ∉ networkOptions) (m : Machine)
    {device : Str} (hdevice : IsBootDevice m (hexColon mac) device) :
    ∃ activated taken, (∀ action ∈ activated, ∃ zdev, action = .chzdev zdev) ∧
      taken <+: [30, 60, 90, 120] ∧ taken ≠ [] ∧
      (network m (readCmdline (join " " (bootArguments data mac) ++ ' ' :: appended))).1.device =
        device ∧
      (network m (readCmdline (join " " (bootArguments data mac) ++ ' ' :: appended))).2 =
        activated ++ taken.map (.ipconfig · (ipWithDevice data device)) := by
  have haddress : hexColon mac ≠ [] := by
    simp [hexColon, List.ofFn_succ, join, List.intercalate, hexByte]
  have hwait :=
    @waitForNetdev_bootDevice m _ device hdevice haddress
      ⟨ipArgument data, [], [], [], [], bootifMac mac⟩ ⟨rfl, rfl⟩
  rw [readCmdline_bootArguments hplain happended, network_eq hdns rfl rfl (List.cons_ne_nil _ _),
    bootifToMac_bootifMac, hwait]
  obtain ⟨hip, hip6, hupdated⟩ := @updateIpParam_ipArgument data hdns
    ⟨ipArgument data, [], [], device, device, bootifMac mac⟩ rfl
  obtain ⟨taken, htaken, hne, hrounds, hactions, -⟩ := @configureRounds_ipconfig m
    (updateIpParam ⟨ipArgument data, [], [], device, device, bootifMac mac⟩)
    (hip ▸ isKeyword_ipWithDevice device) (Or.inl hip6) [30, 60, 90, 120]
    (prepare ((setNetdevFromHwAddress (m.devices 0)
      (hexColon mac) ⟨ipArgument data, [], [], [], [], bootifMac mac⟩).getD
      ⟨ipArgument data, [], [], [], [], bootifMac mac⟩))
  rw [hip] at hactions
  refine ⟨_, taken, prepare_of_no_vlan ?_, htaken, hne (List.cons_ne_nil _ _),
    hrounds.trans hupdated, hactions⟩
  rw [setNetdevFromHwAddress]
  cases (m.devices 0).find? (·.address = some (hexColon mac)) <;> rfl

end Boot

open RepositorySite IpxeScripts IpxeCommands BootScriptLines BootScriptResult

/-- A server that the boot loader could set is an IPv4 address. -/
theorem isIpv4Address_of_inetAton {data : JobData} {raw : List UInt8}
    (hdns : ∀ address ∈ split ',' data.request.dnsServers, IsIpAddress address)
    (hraw : inetAton (dnsPrimary data) = some raw) : isIpv4Address (dnsPrimary data) = true := by
  have hserver : dnsPrimary data = firstServer data := dnsPrimary_eq hdns
  rw [hserver] at hraw ⊢
  rcases hdns _ (firstServer_mem data) with hipv4 | ⟨hipv6, -⟩
  · exact hipv4
  · rw [inetAton_of_colon (colon_mem_of_isIpv6Address hipv6)] at hraw
    exact absurd hraw (Option.some_ne_none raw).symm

/-- When the boot loader starts a kernel, the ramdisk waits for the very interface that the
loader used, whatever its name is now, and sets no addresses but those of the job, with
`ipconfig` and on that device; without the interface no device is named. -/
theorem ramdisk_configures_boot_interface {site : Site} {host : Str} {body : Option Json}
    {data : JobData} {env : Environment} {w w' : Host} {kernel : Image} {initrds : List Image}
    (hsite : ServesRepository site host) (haccept : accept site host body = .ok data)
    (hname : IsHostName data.request.hostname.val)
    (hdns : ∀ address ∈ split ',' data.request.dnsServers, IsIpAddress address)
    (hhost : IsHostHeader host) (henv : IsAttended env) (hblocks : ∀ i, w.blocks (netName i) = none)
    (himages : w.images = []) (hboot : .ended (.gone (.boot kernel initrds)) w' ∈
      scriptExec (shell env) (Script.ofText (bootScript site data)) w)
    {appended : Str} (happended : ∀ x ∈ words appended, x.takeWhile (· ≠ '=') ∉ networkOptions)
    (m : Machine) :
    ∃ i < 10, ∃ nic device, IsConfigured data w' i nic ∧ IsBootDevice m (hexColon nic.mac) device ∧
      ∃ activated taken, (∀ action ∈ activated, ∃ zdev, action = .chzdev zdev) ∧
        taken <+: [30, 60, 90, 120] ∧ taken ≠ [] ∧
        (network m (readCmdline (kernel.cmdline.getD [] ++ ' ' :: appended))).1.device = device ∧
        (network m (readCmdline (kernel.cmdline.getD [] ++ ' ' :: appended))).2 =
          activated ++ taken.map (.ipconfig · (ipWithDevice data device)) := by
  have hrun := run_of_mem_scriptExec hsite haccept hname hdns hhost henv hblocks hboot
  obtain ⟨i, hi, -, -, nic, hnic, -, -, hcmdline, -⟩ := run_eq_boot himages hrun
  obtain ⟨raw, hraw, -⟩ := hnic.dns
  obtain ⟨device, hdevice⟩ := exists_isBootDevice m (hexColon nic.mac)
  refine ⟨i, hi, nic, device, hnic, hdevice, ?_⟩
  rw [hcmdline]
  exact network_bootArguments (isIpv4Address_of_inetAton hdns hraw)
    (runs_of_accept hsite haccept hname hdns hhost henv).plain
    happended m hdevice

/-- The second interface of the example shows up as `eno2` two seconds after the start. -/
def exampleMachine : Machine where
  devices :=
    fun n => if n < 2 then [] else [⟨"eno2", by decide, some "02:02:02:02:02:02", some 0x1003⟩]
  elapsed := fun k => k
  tick := fun k => by push_cast; omega
  ibft := none
  conf := fun actions _ => !actions.isEmpty
  conf6 := fun _ _ => false
  anyConf := fun _ => false
  anyConf6 := fun _ => false

theorem ramdisk_configures_boot_interface_twoServers :
    ∃ (kernel : Image) (w' : Host), ∃ i < 10, ∃ nic device, IsConfigured twoServersJob w' i nic ∧
      IsBootDevice exampleMachine (hexColon nic.mac) device ∧
      ∃ activated taken, (∀ action ∈ activated, ∃ zdev, action = .chzdev zdev) ∧
        taken <+: [30, 60, 90, 120] ∧ taken ≠ [] ∧
        (network exampleMachine (readCmdline
          (kernel.cmdline.getD [] ++ ' ' :: "initrd=initrd.magic".toList))).1.device =
          device ∧
        (network exampleMachine (readCmdline
          (kernel.cmdline.getD [] ++ ' ' :: "initrd=initrd.magic".toList))).2 =
          activated ++ taken.map (.ipconfig · (ipWithDevice twoServersJob device)) := by
  obtain ⟨kernel, initrds, w', hboot⟩ := mem_scriptExec_twoServers
  exact ⟨kernel, w', ramdisk_configures_boot_interface servesRepository_exampleSite
    accept_twoServers (by decide)
    (by decide) (by decide) isAttended_exampleEnvironment (fun _ => rfl) rfl hboot (by decide)
      exampleMachine⟩

end Astro.InitNetworking
