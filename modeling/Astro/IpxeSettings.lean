import Astro.IpxeScripts
import Astro.KernelCommandLine

/-!
# Settings of the boot loader

Settings of iPXE are typed byte strings in blocks: a root block, one block for each network
device and blocks that `set` creates. `$\x7bblock/name:type\x7d` stands for the formatted value
of a setting. A character of a script is one of its bytes.
-/

namespace Astro.IpxeSettings

open PythonText RequestModels HostNames KernelCommandLine IpxeScripts

/-- Unsigned, so that a character below the digits has a large value. -/
def digitValue (c : Char) : ℕ :=
  if 'a' ≤ c then c.toNat - ('a'.toNat - 10)
  else if 'A' ≤ c then c.toNat - ('A'.toNat - 10)
  else if c ≤ '9' then (c.toNat + 2 ^ 32 - '0'.toNat) % 2 ^ 32
  else c.toNat

def strtoulDigits (base : ℕ) : ℕ → Str → ℕ × Str
  | value, [] => (value, [])
  | value, c :: text =>
    if digitValue c < base then strtoulDigits base ((value * base + digitValue c) % 2 ^ 64) text
    else (value, c :: text)

/-- Whether there is a minus sign, and the text behind a sign. -/
def strtoulSign : Str → Bool × Str
  | '-' :: text => (true, text)
  | '+' :: text => (false, text)
  | text => (false, text)

/-- The base and the text behind its mark. -/
def strtoulBase : Str → ℕ × Str
  | '0' :: 'x' :: text => (16, text)
  | '0' :: 'X' :: text => (16, text)
  | '0' :: text => (8, text)
  | text => (10, text)

/-- `strtoul` with base zero: the value and the text that is left. -/
def strtoul (text : Str) : ℕ × Str :=
  let sign := strtoulSign (text.dropWhile isspace)
  let base := strtoulBase sign.2
  let number := strtoulDigits base.1 0 base.2
  (if sign.1 then (2 ^ 64 - number.1) % 2 ^ 64 else number.1, number.2)

def parseInteger (text : Str) : Option ℕ :=
  if (strtoul text).2 = [] ∧ text ≠ [] then some ((strtoul text).1 % 2 ^ 32) else none

/-- One number of an address, which is not empty and fits a byte. -/
def parseByte (text : Str) : Option (UInt8 × Str) :=
  if (strtoul text).2.length = text.length ∨ 255 < (strtoul text).1 then none
  else some (UInt8.ofNat (strtoul text).1, (strtoul text).2)

/-- The loop of `inet_aton` over its separators. -/
def inetAtonFrom : Str → Str → Option (List UInt8)
  | [], text => (parseByte text).bind fun (byte, rest) => if rest = [] then some [byte] else none
  | separator :: separators, text => (parseByte text).bind fun (byte, rest) =>
    match rest with
    | c :: rest => if c = separator then (inetAtonFrom separators rest).map (byte :: ·) else none
    | [] => none

def inetAton (text : Str) : Option (List UInt8) := inetAtonFrom "...".toList text

theorem toNat_of_isDigit {c : Char} (h : c.isDigit = true) : 48 ≤ c.toNat ∧ c.toNat ≤ 57 := by
  simpa [Char.isDigit, UInt32.le_iff_toNat_le] using h

theorem digitValue_of_isDigit {c : Char} (h : c.isDigit = true) :
    digitValue c = c.toNat - '0'.toNat := by
  obtain ⟨hlow, hhigh⟩ := toNat_of_isDigit h
  have hle : ∀ d : Char, 57 < d.toNat → ¬ d ≤ c :=
    fun d hd hdc => absurd (UInt32.le_iff_toNat_le.mp (Char.le_def.mp hdc))
      (Nat.not_le.mpr (hhigh.trans_lt hd))
  have hnine : c ≤ '9' := Char.le_def.mpr (UInt32.le_iff_toNat_le.mpr hhigh)
  have hzero : '0'.toNat = 48 := rfl
  rw [digitValue, if_neg (hle 'a' (by decide)), if_neg (hle 'A' (by decide)), if_pos hnine]
  omega

theorem digitValue_lt_ten {c : Char} (h : c.isDigit = true) : digitValue c < 10 := by
  obtain ⟨hlow, hhigh⟩ := toNat_of_isDigit h
  have hzero : '0'.toNat = 48 := rfl
  rw [digitValue_of_isDigit h]
  omega

/-- The digits are read up to the first character that is none. -/
theorem strtoulDigits_append {base : ℕ} {digits rest : Str}
    (hdigits : ∀ c ∈ digits, digitValue c < base)
    (hrest : ∀ c, rest.head? = some c → base ≤ digitValue c) (value : ℕ) :
    strtoulDigits base value (digits ++ rest) =
      (digits.foldl (fun value c => (value * base + digitValue c) % 2 ^ 64) value, rest) := by
  induction digits generalizing value with
  | nil =>
    cases rest with
    | nil => rfl
    | cons c rest => exact if_neg (Nat.not_lt.mpr (hrest c rfl))
  | cons c digits ih =>
    obtain ⟨hc, hdigits⟩ := List.forall_mem_cons.mp hdigits
    rw [List.cons_append, strtoulDigits, if_pos hc, ih hdigits, List.foldl_cons]

/-- Reading wraps around where the number does not fit. -/
theorem foldl_digits {digits : Str} (hdigits : ∀ c ∈ digits, c.isDigit = true) {value value' : ℕ}
    (h : value = value' % 2 ^ 64) :
    digits.foldl (fun value c => (value * 10 + digitValue c) % 2 ^ 64) value =
      digits.foldl (fun n c => 10 * n + (c.toNat - '0'.toNat)) value' % 2 ^ 64 := by
  induction digits generalizing value value' with
  | nil => exact h
  | cons c digits ih =>
    obtain ⟨hc, hdigits⟩ := List.forall_mem_cons.mp hdigits
    refine ih hdigits ?_
    simp only [h, digitValue_of_isDigit hc]
    omega

theorem isDigit_of_isOctet {piece : Str} (h : isOctet piece = true) : ∀ c ∈ piece,
    c.isDigit = true := by
  simp only [isOctet, decide_eq_true_eq] at h
  exact List.all_eq_true.mp h.2.1

theorem isspace_of_isDigit {c : Char} (h : c.isDigit = true) : isspace c = false := by
  by_contra hspace
  simp only [isspace, Bool.not_eq_false, Bool.or_eq_true, decide_eq_true_eq] at hspace
  rcases hspace with ((((rfl | rfl) | rfl) | rfl) | rfl) | rfl <;> exact absurd h (by decide)

/-- A number that starts with a digit has no blanks and no sign before it. -/
theorem strtoul_of_isDigit {c : Char} (h : c.isDigit = true) (text : Str) :
    strtoul (c :: text) = strtoulDigits (strtoulBase (c :: text)).1 0
      (strtoulBase (c :: text)).2 := by
  have hdrop : (c :: text).dropWhile isspace = c :: text :=
    List.dropWhile_cons_of_neg (by simp [isspace_of_isDigit h])
  have hsign : strtoulSign (c :: text) = (false, c :: text) := by
    rw [strtoulSign]
    all_goals
      intro rest heq
      cases heq
      exact absurd h (by decide)
  rw [strtoul, hdrop, hsign]
  rfl

theorem strtoulBase_of_ne {c : Char} (h : c ≠ '0') (text : Str) : strtoulBase (c :: text) =
    (10, c :: text) := by
  rw [strtoulBase]
  all_goals
    intro rest heq
    cases heq
    exact h rfl

/-- The numbers of an address, which are written without leading zeros, are decimal. -/
theorem strtoul_octet {piece rest : Str} (h : isOctet piece = true)
    (hrest : ∀ c, rest.head? = some c → c = '.') :
    ∃ value ≤ 255, strtoul (piece ++ rest) = (value, rest) := by
  have hdigits := isDigit_of_isOctet h
  have hstop : ∀ base ≤ 10, ∀ c, rest.head? = some c → base ≤ digitValue c := by
    intro base hbase c hc
    rw [hrest c hc]
    exact hbase.trans (by decide)
  simp only [isOctet, decide_eq_true_eq] at h
  obtain ⟨hne, -, -, hzero, hvalue⟩ := h
  cases piece with
  | nil => exact absurd rfl hne
  | cons c digits =>
    rw [List.cons_append, strtoul_of_isDigit (hdigits c List.mem_cons_self)]
    by_cases hc : c = '0'
    · -- a leading zero stands alone
      subst hc
      have hdigits : digits = [] := by
        rcases hzero with hlength | hzero
        · simpa using hlength
        · exact absurd (List.prefix_append ['0'] digits) hzero
      subst hdigits
      refine ⟨0, by decide, ?_⟩
      have hbase : strtoulBase ('0' :: ([] ++ rest)) = (8, rest) := by
        cases rest with
        | nil => rfl
        | cons c rest =>
          have hc := hrest c rfl
          subst hc
          rfl
      rw [hbase]
      exact strtoulDigits_append (List.forall_mem_nil _) (hstop 8 (by decide)) 0
    · rw [strtoulBase_of_ne hc, ← List.cons_append,
        strtoulDigits_append (fun d hd => digitValue_lt_ten (hdigits d hd)) (hstop 10 le_rfl) 0,
        foldl_digits hdigits (Nat.zero_mod (2 ^ 64)).symm]
      exact ⟨_, (Nat.mod_le _ _).trans hvalue, rfl⟩

theorem parseByte_octet {piece rest : Str} (h : isOctet piece = true)
    (hrest : ∀ c, rest.head? = some c → c = '.') : ∃ byte, parseByte (piece ++ rest) =
      some (byte, rest) := by
  obtain ⟨value, hvalue, hstrtoul⟩ := strtoul_octet h hrest
  have hne : piece ≠ [] := by
    simp only [isOctet, decide_eq_true_eq] at h
    exact h.1
  refine ⟨UInt8.ofNat value, ?_⟩
  rw [parseByte, hstrtoul, if_neg]
  have hlength := List.length_pos_iff.mpr hne
  simp only [List.length_append]
  omega

/-- Every address that the request models accept is an address to the boot loader. -/
theorem inetAton_ipv4 {text : Str} (h : isIpv4Address text = true) :
    ∃ a b c d, inetAton text = some [a, b, c, d] := by
  simp only [isIpv4Address, decide_eq_true_eq] at h
  obtain ⟨a, b, c, d, hsplit⟩ := List.length_eq_four.mp h.1
  have hjoin : ['.'].intercalate (split '.' text) = text := List.intercalate_splitOn '.'
  have htext : a ++ '.' :: (b ++ '.' :: (c ++ '.' :: (d ++ []))) = text := by
    rw [← hjoin, hsplit]
    simp
  have hoctets := h.2
  rw [hsplit] at hoctets
  simp only [List.all_cons, Bool.and_eq_true] at hoctets
  obtain ⟨ha, hb, hc, hd, -⟩ := hoctets
  have hdot : ∀ more : Str, ∀ c, ('.' :: more).head? = some c → c = '.' := by simp
  have hend : ∀ c, ([] : Str).head? = some c → c = '.' := by simp
  obtain ⟨a', ha⟩ := parseByte_octet ha (hdot (b ++ '.' :: (c ++ '.' :: (d ++ []))))
  obtain ⟨b', hb⟩ := parseByte_octet hb (hdot (c ++ '.' :: (d ++ [])))
  obtain ⟨c', hc⟩ := parseByte_octet hc (hdot (d ++ []))
  obtain ⟨d', hd⟩ := parseByte_octet hd hend
  have hdots : "...".toList = ['.', '.', '.'] := by decide
  refine ⟨a', b', c', d', ?_⟩
  rw [inetAton, hdots, ← htext]
  simp only [inetAtonFrom, ha, hb, hc, hd, Option.bind_some, if_true, Option.map_some]

theorem colon_mem_strtoulDigits {base : ℕ} (hbase : base ≤ 16) (value : ℕ) {text : Str}
    (h : ':' ∈ text) :
    ':' ∈ (strtoulDigits base value text).2 := by
  induction text generalizing value with
  | nil => cases h
  | cons c text ih =>
    rw [strtoulDigits]
    split
    · rename_i hc
      rcases List.mem_cons.mp h with rfl | h
      · exact absurd (hc.trans_le hbase) (by decide)
      · exact ih _ h
    · exact h

/-- A colon is never part of a number. -/
theorem colon_mem_strtoul {text : Str} (h : ':' ∈ text) : ':' ∈ (strtoul text).2 := by
  have hspaces : ':' ∈ text.dropWhile isspace := by
    rw [← List.takeWhile_append_dropWhile (p := isspace) (l := text), List.mem_append] at h
    exact h.resolve_left fun hmem => absurd (List.mem_takeWhile_imp hmem) (by decide)
  have hsign : ∀ text : Str, ':' ∈ text → ':' ∈ (strtoulSign text).2 := by
    intro text hmem
    rw [strtoulSign.eq_def]
    split <;> simp_all
  have hbase : ∀ text : Str, ':' ∈ text →
      (strtoulBase text).1 ≤ 16 ∧ ':' ∈ (strtoulBase text).2 := by
    intro text hmem
    rw [strtoulBase.eq_def]
    split <;> simp_all
  obtain ⟨hle, hmem⟩ := hbase _ (hsign _ hspaces)
  exact colon_mem_strtoulDigits hle 0 hmem

theorem colon_mem_parseByte {text rest : Str} {byte : UInt8} (h : ':' ∈ text)
    (hbyte : parseByte text = some (byte, rest)) : ':' ∈ rest := by
  rw [parseByte] at hbyte
  split at hbyte
  · cases hbyte
  · cases hbyte
    exact colon_mem_strtoul h

/-- So no IPv6 address is an address to the boot loader. -/
theorem inetAton_of_colon {text : Str} (h : ':' ∈ text) : inetAton text = none := by
  have hseparators : ∀ separators : Str, ':' ∉ separators →
      inetAtonFrom separators text = none := by
    intro separators hseparators
    induction separators generalizing text with
    | nil =>
      cases hbyte : parseByte text with
      | none => rw [inetAtonFrom, hbyte, Option.bind_none]
      | some parsed =>
        have hmem := colon_mem_parseByte h hbyte
        rw [inetAtonFrom, hbyte, Option.bind_some]
        exact if_neg (List.ne_nil_of_mem hmem)
    | cons separator separators ih =>
      obtain ⟨hne, hseparators⟩ := List.ne_and_not_mem_of_not_mem_cons hseparators
      cases hbyte : parseByte text with
      | none => rw [inetAtonFrom, hbyte, Option.bind_none]
      | some parsed =>
        obtain ⟨byte, rest⟩ := parsed
        have hmem := colon_mem_parseByte h hbyte
        rw [inetAtonFrom, hbyte, Option.bind_some]
        cases rest with
        | nil => cases hmem
        | cons c rest =>
          -- the separator is no colon, so the colon stands behind it
          refine ite_eq_right_iff.mpr fun hc => ?_
          rw [ih ((List.mem_cons.mp hmem).resolve_left fun heq => hne (heq.trans hc)) hseparators,
            Option.map_none]
  exact hseparators _ (by decide)

def hexDecodeFrom (separator : Option Char) : Bool → Str → Option (List UInt8)
  | _, [] => some []
  | first, c :: text =>
    match separator, first with
    | some s, false =>
      if c ≠ s then none else
        match text with
        | high :: low :: rest =>
          if digitValue high < 16 ∧ digitValue low < 16 then
            (hexDecodeFrom separator false rest).map
              (UInt8.ofNat (16 * digitValue high + digitValue low) :: ·)
          else none
        | _ => none
    | _, _ =>
      match text with
      | low :: rest =>
        if digitValue c < 16 ∧ digitValue low < 16 then
          (hexDecodeFrom separator false rest).map
            (UInt8.ofNat (16 * digitValue c + digitValue low) :: ·)
        else none
      | [] => none

def hexDecode (separator : Option Char) (text : Str) : Option (List UInt8) :=
  hexDecodeFrom separator true text

inductive SettingType where
  | string
  | ipv4
  | int (width : ℕ)
  | hex (separator : Option Char)
deriving DecidableEq, Repr

def settingTypes : List (Str × SettingType) :=
  [("string", .string), ("ipv4", .ipv4), ("int8", .int 1), ("int16", .int 2), ("int32", .int 4),
    ("hex", .hex (some ':')), ("hexhyp", .hex (some '-')), ("hexraw", .hex none)]

def findSettingType (name : Str) : Option SettingType := settingTypes.lookup name

def bytes (text : Str) : List UInt8 := text.map fun c => UInt8.ofNat c.toNat

/-- Up to a NUL. -/
def text (raw : List UInt8) : Str := (raw.takeWhile (· ≠ 0)).map fun b => Char.ofNat b.toNat

/-- The bytes of a signed number; those that do not fit repeat its sign. -/
def numericSettingValue (raw : List UInt8) : Option ℕ :=
  let pad : UInt8 := if raw.head?.any (128 ≤ ·) then 255 else 0
  if (raw.take (raw.length - 8)).all (· = pad) then
    some (raw.foldl (fun value b => (value * 256 + b.toNat) % 2 ^ 64)
      (if pad = 0 then 0 else 2 ^ 64 - 1))
  else none

def SettingType.numerate : SettingType → List UInt8 → Option ℕ
  | .int _, raw => numericSettingValue raw
  | _, _ => none

def SettingType.denumerate : SettingType → ℕ → Option (List UInt8)
  | .int width, value =>
      some ((List.range width).reverse.map fun k => UInt8.ofNat (value / 256 ^ k))
  | _, _ => none

def SettingType.parse : SettingType → Str → Option (List UInt8)
  | .string, value => some (bytes value)
  | .ipv4, value => inetAton value
  | .int width, value =>
    if (strtoul value).2 = [] then SettingType.denumerate (.int width) (strtoul value).1 else none
  | .hex separator, value => hexDecode separator value

def signedDecimal (value : ℕ) : Str :=
  if value < 2 ^ 63 then decimal value else '-' :: decimal (2 ^ 64 - value)

def SettingType.format : SettingType → List UInt8 → Option Str
  | .string, raw => some (text raw)
  | .ipv4, raw =>
      if raw.length < 4 then none else some (join "." ((raw.take 4).map fun b => decimal b.toNat))
  | .int _, raw => (numericSettingValue raw).map signedDecimal
  | .hex separator, raw => some (join separator.toList (raw.map hexByte))

structure Setting where
  type : SettingType
  raw : List UInt8
deriving DecidableEq, Repr

abbrev Settings := Str → Option Setting

structure Device where
  name : Str
  hwAddr : Mac
  mac : Mac
  isOpen : Bool
  generic : Settings

structure Image where
  uri : Str
  name : Str
  /-- A type of images recognises it. -/
  executable : Bool
  cmdline : Option Str
deriving DecidableEq, Repr

structure Host where
  devices : List Device
  root : Settings
  /-- The blocks that `set` has created. -/
  blocks : Str → Option Settings
  images : List Image
  /-- The image that `kernel` has tagged, by its place in the list. -/
  selected : Option ℕ

namespace Host

def findNetdev (w : Host) (name : Str) : Option Device := w.devices.find? (·.name = name)

def modifyNetdev (w : Host) (name : Str) (f : Device → Device) : Host :=
  { w with devices := w.devices.map fun device => if device.name = name then f device else device }

theorem name_of_findNetdev {w : Host} {name : Str} {device : Device}
    (h : w.findNetdev name = some device) :
    device.name = name := by
  simpa using List.find?_some h

theorem findNetdev_modifyNetdev (w : Host) (name name' : Str) {f : Device → Device}
    (hf : ∀ device, (f device).name = device.name) :
    (w.modifyNetdev name f).findNetdev name' =
      (w.findNetdev name').map fun device => if device.name = name then f device else device := by
  have hname : ∀ device : Device, (if device.name = name then f device else device).name =
      device.name := by
    intro device
    split
    · exact hf device
    · rfl
  rw [findNetdev, modifyNetdev, List.find?_map]
  simp only [Function.comp_def, hname]
  rfl

theorem modifyNetdev_modifyNetdev (w : Host) (name : Str) {f g : Device → Device}
    (hf : ∀ device, (f device).name = device.name) :
    (w.modifyNetdev name f).modifyNetdev name g = w.modifyNetdev name (g ∘ f) := by
  have hmap : ∀ device : Device,
      (if (if device.name = name then f device else device).name = name then
        g (if device.name = name then f device else device) else
        (if device.name = name then f device else device)) =
      if device.name = name then g (f device) else device := by
    intro device
    by_cases hname : device.name = name
    · rw [if_pos hname, if_pos ((hf device).trans hname), if_pos hname]
    · rw [if_neg hname, if_neg hname, if_neg hname]
  simp only [modifyNetdev, List.map_map, Function.comp_def, hmap]

end Host

namespace Device

def macBytes (mac : Mac) : List UInt8 := List.ofFn mac

/-- `netdev_fetch`. -/
def fetch (device : Device) : Settings := fun name =>
  if name = "mac".toList then some ⟨.hex (some ':'), macBytes device.mac⟩
  else if name = "hwaddr".toList then some ⟨.hex (some ':'), macBytes device.hwAddr⟩
  else device.generic name

def withSetting (device : Device) (name : Str) (setting : Setting) : Device :=
  { device with generic := Function.update device.generic name (some setting) }

/-- `netdev_store`; no value deletes the setting, and resets an address. -/
def store (device : Device) (name : Str) (value : Option Setting) : Option Device :=
  if name = "mac".toList then
    match value with
    | none => some { device with mac := device.hwAddr }
    | some setting =>
      if h : setting.raw.length = 6 then some { device with
        mac := fun i => setting.raw.get (i.cast h.symm) }
      else none
  else if name = "hwaddr".toList then none
  else some { device with generic := Function.update device.generic name value }

end Device

structure SettingName where
  block : Option Str
  name : Str
  type : Option Str
deriving DecidableEq, Repr

/-- What stands before and after the first such character. -/
def cut (c : Char) (text : Str) : Option (Str × Str) :=
  if c ∈ text then some (text.takeWhile (· ≠ c), (text.dropWhile (· ≠ c)).tail) else none

def parseSettingName (name : Str) : SettingName :=
  let (block, rest) := match cut '/' name with
    | some (block, rest) => (some block, rest)
    | none => (none, name)
  match cut ':' rest with
  | some (name, type) => ⟨block, name, some type⟩
  | none => ⟨block, rest, none⟩

def predefined : List (Str × SettingType) :=
  [("ip", .ipv4), ("netmask", .ipv4), ("gateway", .ipv4), ("dns", .ipv4), ("next-server", .ipv4),
    ("mac", .hex (some ':')), ("hwaddr", .hex (some ':')), ("priority", .int 1),
      ("hostname", .string),
    ("domain", .string), ("filename", .string), ("username", .string), ("password", .string)]

/-- The type of a setting where its name gives one, or nothing if there is no such type. -/
def SettingName.settingType (setting : SettingName) : Option (Option SettingType) :=
  match setting.type with
  | some type => (findSettingType type).map some
  | none => some (predefined.lookup setting.name)

section Fetch

-- The settings of the blocks that a fetch turns to after the named one.
variable (elsewhere : Host → Str → Str → Option Setting)

/-- The blocks under the root by name; no name is the root itself. -/
def Host.findChild (w : Host) (block : Str) : Option Settings :=
  if block = [] then some w.root
  else match w.findNetdev block with
    | some device => some device.fetch
    | none => w.blocks block

def fetchSetting (w : Host) (setting : SettingName) : Option Setting :=
  match w.findChild (setting.block.getD []), setting.settingType with
  | some settings, some type =>
    ((settings setting.name).or (elsewhere w (setting.block.getD []) setting.name)).map fun found =>
      { found with type := type.getD found.type }
  | _, _ => none

/-- What a name stands for; anything that fails stands for nothing. -/
def fetchText (w : Host) (name : Str) : Str :=
  ((fetchSetting elsewhere w (parseSettingName name)).bind fun setting =>
    setting.type.format setting.raw).getD []

/-- The text around the name between the last `$\x7b` and the first closing brace behind one.
The first argument is the text before the last opening, the second what has been read behind its
dollar sign. -/
def locate : Str → Option Str → Str → Option (Str × Str × Str)
  | _, _, [] => none
  | front, start, c :: text =>
    if c = '$' ∧ text.head? = some '\x7b' then locate (front ++ start.elim [] ('$' :: ·))
      (some []) text
    else match start with
      | none => locate (front ++ [c]) none text
      | some name =>
          if c = '\x7d' then some (front, name.tail, text) else locate front
            (some (name ++ [c])) text

/-- `expand_settings`, for so many rounds at most: a value is itself expanded. -/
def expandSettings (fetch : Str → Str) : ℕ → Str → Option Str
  | 0, text => if (locate [] none text).isNone then some text else none
  | fuel + 1, text =>
    match locate [] none text with
    | none => some text
    | some (head, name, tail) => expandSettings fetch fuel (head ++ fetch name ++ tail)

theorem locate_of_not_mem {text : Str} (h : '$' ∉ text) (front : Str) :
    locate front none text = none := by
  induction text generalizing front with
  | nil => rfl
  | cons c text ih =>
    obtain ⟨hc, htext⟩ := List.ne_and_not_mem_of_not_mem_cons h
    rw [locate, if_neg fun hopen => hc hopen.1.symm]
    exact ih htext _

theorem locate_opening {pre : Str} (hpre : '\x7d' ∉ pre) (front : Str) (start : Option Str)
    (rest : Str) :
    locate front start (pre ++ '$' :: '\x7b' :: rest) =
      locate (front ++ start.elim [] ('$' :: ·) ++ pre) (some ['\x7b']) rest := by
  induction pre generalizing front start with
  | nil => simp [locate]
  | cons c pre ih =>
    obtain ⟨hc, hpre⟩ := List.ne_and_not_mem_of_not_mem_cons hpre
    rw [List.cons_append]
    by_cases hopen : c = '$' ∧ (pre ++ '$' :: '\x7b' :: rest).head? = some '\x7b'
    · cases start <;> rw [locate, if_pos hopen, ih hpre, hopen.1] <;> simp
    · cases start with
      | none =>
        rw [locate, if_neg hopen, ih hpre]
        simp
      | some name =>
        rw [locate, if_neg hopen, if_neg hc.symm, ih hpre]
        simp

theorem locate_closing {name : Str} (hdollar : '$' ∉ name) (hclose : '\x7d' ∉ name)
    (front read tail : Str) :
    locate front (some read) (name ++ '\x7d' :: tail) =
      some (front, (read ++ name).tail, tail) := by
  induction name generalizing read with
  | nil => simp [locate]
  | cons c name ih =>
    obtain ⟨hc, hdollar⟩ := List.ne_and_not_mem_of_not_mem_cons hdollar
    obtain ⟨hc', hclose⟩ := List.ne_and_not_mem_of_not_mem_cons hclose
    rw [List.cons_append, locate, if_neg fun hopen => hc hopen.1.symm]
    simp only [if_neg hc'.symm, ih hdollar hclose]
    simp

variable {fetch : Str → Str} {fuel : ℕ}

theorem expandSettings_of_not_mem {text : Str} (h : '$' ∉ text) : expandSettings fetch fuel text =
    some text := by
  cases fuel <;> simp [expandSettings, locate_of_not_mem h]

/-- One round: the innermost setting is replaced. -/
theorem expandSettings_succ {pre name post : Str} (hpre : '\x7d' ∉ pre) (hdollar : '$' ∉ name)
    (hclose : '\x7d' ∉ name) :
    expandSettings fetch (fuel + 1) (pre ++ '$' :: '\x7b' :: (name ++ '\x7d' :: post)) =
      expandSettings fetch fuel (pre ++ fetch name ++ post) := by
  rw [expandSettings, locate_opening hpre, locate_closing hdollar hclose]
  rfl

end Fetch

/-- `store_setting` in the block, which `autovivify_child_settings` creates if there is none. -/
def storeSetting (w : Host) (block name : Str) (value : Option Setting) : Host × Bool :=
  if block = [] then ({ w with root := Function.update w.root name value }, true)
  else match w.findNetdev block with
    | some device =>
      if (device.store name value).isSome then
        (w.modifyNetdev block fun device => (device.store name value).getD device, true)
      else (w, false)
    | none =>
      let settings := (w.blocks block).getD fun _ => none
      ({ w with
        blocks := Function.update w.blocks block (some (Function.update settings name value)) },
        true)

/-- The block alone, as `set` has created it when the rest of the name does not fit. -/
def autovivify (w : Host) (block : Str) : Host :=
  if block = [] ∨ (w.findNetdev block).isSome ∨ (w.blocks block).isSome then w
  else { w with blocks := Function.update w.blocks block (some fun _ => none) }

/-- `set_core_exec` and `storef_setting`; an empty value deletes. -/
def setExec (w : Host) (name value : Str) : Host × Bool :=
  let setting := parseSettingName name
  let block := setting.block.getD []
  let w' := autovivify w block
  match setting.settingType with
  | none => (w', false)
  | some type =>
    if value = [] then storeSetting w' block setting.name none
    else match (type.getD .string).parse value with
      | some raw => storeSetting w' block setting.name (some ⟨type.getD .string, raw⟩)
      | none => (w', false)

/-- `inc_exec`: what is no number counts as zero, and what has no type becomes a number. -/
def incExec (elsewhere : Host → Str → Str → Option Setting) (w : Host) (name : Str)
    (increment : ℕ) :
    Host × Bool :=
  let setting := parseSettingName name
  let block := setting.block.getD []
  match w.findChild block, setting.settingType with
  | some _, some type =>
    let found := fetchSetting elsewhere w setting
    let value :=
      ((found.bind fun setting => setting.type.numerate setting.raw).getD 0 + increment) % 2 ^ 64
    let type' := (found.map (·.type)).getD (type.getD (.int 4))
    match type'.denumerate value with
    | some raw => storeSetting w block setting.name (some ⟨type', raw⟩)
    | none => (w, false)
  | _, _ => (w, false)

end Astro.IpxeSettings
