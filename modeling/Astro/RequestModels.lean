import Astro.JsonValues

/-!
# The request bodies the handlers validate

The three body classes with their required fields, defaults and validators. What
pydantic accepts for a `bool` or an `int` field is left open; everything the
classes themselves declare is checked here, and an accepted body carries it.
-/

namespace Astro.RequestModels

open PythonText

/-- `ipaddress` on one octet: one to three digits, no leading zero, at most 255. -/
def isOctet (piece : Str) : Bool :=
  piece ≠ [] ∧ piece.all Char.isDigit ∧ piece.length ≤ 3 ∧
    (piece.length = 1 ∨ ¬ ("0" : Str) <+: piece) ∧
    piece.foldl (fun n c => 10 * n + (c.toNat - '0'.toNat)) 0 ≤ 255

def isIpv4Address (text : Str) : Bool :=
  (split '.' text).length = 4 ∧ (split '.' text).all isOctet

def isHextet (piece : Str) : Bool :=
  piece ≠ [] ∧ piece.length ≤ 4 ∧
    piece.all (fun c => c.isDigit || ('a' ≤ c && c ≤ 'f') || ('A' ≤ c && c ≤ 'F'))

/-- The parts of an IPv6 text once an IPv4 suffix has become two hextets. -/
def ipv6Parts (text : Str) : Option (List Str) :=
  let parts := split ':' text
  if parts.length < 3 then none
  else if '.' ∈ parts.getLastD [] then
    if isIpv4Address (parts.getLastD []) then some (parts.dropLast ++ ["0".toList, "0".toList])
    else none
  else some parts

/-- The parts around one `::`; a text may only start or end with a colon there. -/
def isCompressed (high low : List Str) : Bool :=
  let high := if high = [[]] then [] else high
  let low := if low = [[]] then [] else low
  high.all isHextet ∧ low.all isHextet ∧ high.length + low.length ≤ 7

def areIpv6Groups (parts : List Str) : Bool :=
  let inner := (parts.drop 1).dropLast
  if [] ∈ inner then
    let skip := 1 + inner.findIdx (· = [])
    parts.length ≤ 9 ∧ inner.count [] = 1 ∧ isCompressed (parts.take skip) (parts.drop (skip + 1))
  else parts.length = 8 ∧ parts.all isHextet

/-- `ipaddress.IPv6Address(text)` raises no `ValueError`; a scope follows one `%`. -/
def isIpv6Address (text : Str) : Bool :=
  !text.contains '/' && match split '%' text with
    | [address] => (ipv6Parts address).any areIpv6Groups
    | [address, scope] => scope ≠ [] && (ipv6Parts address).any areIpv6Groups
    | _ => false

inductive Problem where
  | missing
  | notString
  | tooShort
  | notBool
  | notInt
  | notList
  | notObject
  | notGreaterThanZero
  | valueError (message : Str)
  deriving DecidableEq

structure FieldError where
  loc : Str
  problem : Problem
  deriving DecidableEq

/-- A body that is not even an object cannot be passed as keyword arguments. -/
inductive Rejection where
  | notMapping
  | invalid (errors : List FieldError)
  deriving DecidableEq

/-- What pydantic makes of a value for a `bool` and for an `int` field. -/
structure Coercions where
  bool : Json → Option Bool
  int : Json → Option ℤ

abbrev Check (α : Type) := Json → Except Problem α

def isStr : Check Str
  | .str s => .ok s
  | _ => .error .notString

/-- `str = Field(..., min_length=1)`. -/
def isNonempty : Check {s : Str // s ≠ []}
  | .str s => if h : s ≠ [] then .ok ⟨s, h⟩ else .error .tooShort
  | _ => .error .notString

def isOptionalStr : Check (Option Str)
  | .null => .ok none
  | .str s => .ok (some s)
  | _ => .error .notString

def isBool (co : Coercions) : Check Bool := fun value =>
  match co.bool value with
  | some b => .ok b
  | none => .error .notBool

/-- `int = Field(..., gt=0)`. -/
def isPositive (co : Coercions) : Check {n : ℤ // 0 < n} := fun value =>
  match co.int value with
  | some n => if h : 0 < n then .ok ⟨n, h⟩ else .error .notGreaterThanZero
  | none => .error .notInt

def validateIpv4 (text : Str) : Except Problem {s : Str // isIpv4Address s = true} :=
  if h : isIpv4Address text = true then .ok ⟨text, h⟩
  else .error (.valueError (("Invalid IPv4 address format: " : Str) ++ text))

def validateIpv6 (text : Str) : Except Problem {s : Str // isIpv6Address s = true} :=
  if h : isIpv6Address text = true then .ok ⟨text, h⟩
  else .error (.valueError (("Invalid IPv6 address format: " : Str) ++ text))

def isIpv4 : Check {s : Str // isIpv4Address s = true} := fun value =>
  (isStr value).bind validateIpv4

def Given (value : Option Str) : Prop := ∃ s, value = some s ∧ s ≠ []

instance (value : Option Str) : Decidable (Given value) :=
  match value with
  | none => isFalse (by rintro ⟨s, h, -⟩; cases h)
  | some s => if h : s ≠ [] then isTrue ⟨s, rfl, h⟩
      else isFalse (by rintro ⟨t, ht, hne⟩; cases ht; exact h hne)

/-- An optional address is a valid one unless it is absent or empty. -/
abbrev Ipv6Field := {v : Option Str // Given v → isIpv6Address (v.getD []) = true}

def validateIpv6Addr : Check Ipv6Field := fun value =>
  (isOptionalStr value).bind fun v =>
    if h : Given v then (validateIpv6 (v.getD [])).map fun s => ⟨some s.val, fun _ => s.property⟩
    else .ok ⟨v, fun hv => absurd hv h⟩

/-- `validate_ipv6_gw`: with an address, the gateway has to be there and valid. -/
def validateIpv6Gw (address : Option Str) :
    Check {v : Option Str // Given address → v.any isIpv6Address = true} := fun value =>
  (isOptionalStr value).bind fun v =>
    if ha : Given address then
      if Given v then
        (validateIpv6 (v.getD [])).map fun s => ⟨some s.val, fun _ => s.property⟩
      else .error (.valueError "IPv6 address provided but 'ipv6_gateway' is missing")
    else .ok ⟨v, fun h => absurd h ha⟩

section Lookup
variable {α : Type} (fields : Fields) (name : Str)

/-- A field without default. -/
def required (check : Check α) : Except FieldError α :=
  match fields.get? name with
  | none => .error ⟨name, .missing⟩
  | some value => (check value).mapError (FieldError.mk name)

/-- A field with default; validators do not run on the default. -/
def defaulted (check : Check α) (default : α) : Except FieldError α :=
  match fields.get? name with
  | none => .ok default
  | some value => (check value).mapError (FieldError.mk name)

variable {fields name}

theorem required_of_get? {check : Check α} {value : Json} (h : fields.get? name = some value) :
    required fields name check = (check value).mapError (FieldError.mk name) := by
  rw [required, h]

theorem defaulted_of_get? {check : Check α} {value : Json} (default : α)
    (h : fields.get? name = some value) :
    defaulted fields name check default = (check value).mapError (FieldError.mk name) := by
  rw [defaulted, h]

end Lookup

theorem isNonempty_str {s : Str} (h : s ≠ []) : isNonempty (.str s) = .ok ⟨s, h⟩ := by
  rw [isNonempty, dif_pos h]

def errorsOf {α : Type} : Except FieldError α → List FieldError
  | .ok _ => []
  | .error e => [e]

structure Ipv4Fields where
  address : {s : Str // isIpv4Address s = true}
  gateway : {s : Str // isIpv4Address s = true}
  netmask : {s : Str // isIpv4Address s = true}

/-- The optional IPv6 texts. An absent gateway is not validated; a present one
fits the address. -/
structure Ipv6Fields where
  address : Ipv6Field
  gateway : Option Str
  gateway_valid : ∀ g, gateway = some g → Given address.val → isIpv6Address g = true

def Ipv4Fields.ofFields (fields : Fields) : Except FieldError Ipv4Fields := do
  let address ← required fields "ipv4_address" isIpv4
  let gateway ← required fields "ipv4_gateway" isIpv4
  let netmask ← required fields "ipv4_netmask" isIpv4
  return ⟨address, gateway, netmask⟩

def Ipv4Fields.errors (fields : Fields) : List FieldError :=
  errorsOf (required fields "ipv4_address" isIpv4) ++
    errorsOf (required fields "ipv4_gateway" isIpv4) ++
    errorsOf (required fields "ipv4_netmask" isIpv4)

/-- `ipv6_address`, which the gateway validator finds in `info.data`. -/
def ipv6AddressOf (fields : Fields) : Except FieldError Ipv6Field :=
  defaulted fields "ipv6_address" validateIpv6Addr ⟨none, by rintro ⟨s, h, -⟩; cases h⟩

def Ipv6Fields.ofFields (fields : Fields) : Except FieldError Ipv6Fields := do
  let address ← ipv6AddressOf fields
  let gateway ← defaulted fields "ipv6_gateway"
    (fun value => (validateIpv6Gw address.val value).map some) none
  return {
    address
    gateway := gateway.bind Subtype.val
    gateway_valid := by
      intro g hg ha
      cases gateway with
      | none => cases hg
      | some v =>
        have hv := v.property ha
        simp only [Option.bind_some] at hg
        rw [hg] at hv
        simpa using hv }

/-- An address that failed its own validator is not in `info.data`. -/
def Ipv6Fields.errors (fields : Fields) : List FieldError :=
  let seen := match ipv6AddressOf fields with
    | .ok a => a.val
    | .error _ => none
  errorsOf (ipv6AddressOf fields) ++ errorsOf (defaulted fields "ipv6_gateway"
    (fun value => (validateIpv6Gw seen value).map some) none)

/-- Build a body from keyword arguments, or collect the errors of all fields. -/
def construct {α : Type} (build : Fields → Except FieldError α)
    (errors : Fields → List FieldError) : Json → Except Rejection α
  | .obj fields => (build fields).mapError (fun _ => .invalid (errors fields))
  | _ => .error .notMapping

structure ProvisionCustomISORequest where
  hostname : {s : Str // s ≠ []}
  ipv4 : Ipv4Fields
  osVersion : Str
  username : Str
  password : Str
  dnsServers : Str
  raid : Bool
  disableUpdates : Bool
  ipv6 : Ipv6Fields
  ipv6Cidr : Str

namespace ProvisionCustomISORequest

def ofFields (co : Coercions) (fields : Fields) : Except FieldError ProvisionCustomISORequest := do
  let hostname ← required fields "hostname" isNonempty
  let ipv4 ← Ipv4Fields.ofFields fields
  let osVersion ← defaulted fields "os_version" isStr "24.04.4"
  let username ← defaulted fields "username" isStr "ubuntu"
  let password ← defaulted fields "password" isStr "ubuntu"
  let dnsServers ← defaulted fields "dns_servers" isStr "8.8.8.8"
  let raid ← defaulted fields "raid" (isBool co) false
  let disableUpdates ← defaulted fields "disable_updates" (isBool co) true
  let ipv6 ← Ipv6Fields.ofFields fields
  let ipv6Cidr ← defaulted fields "ipv6_cidr" isStr "64"
  return {
    hostname, ipv4, osVersion, username, password, dnsServers, raid, disableUpdates,
      ipv6, ipv6Cidr }

def errors (co : Coercions) (fields : Fields) : List FieldError :=
  errorsOf (required fields "hostname" isNonempty) ++ Ipv4Fields.errors fields ++
    errorsOf (defaulted fields "os_version" isStr "24.04.4") ++
    errorsOf (defaulted fields "username" isStr "ubuntu") ++
    errorsOf (defaulted fields "password" isStr "ubuntu") ++
    errorsOf (defaulted fields "dns_servers" isStr "8.8.8.8") ++
    errorsOf (defaulted fields "raid" (isBool co) false) ++
    errorsOf (defaulted fields "disable_updates" (isBool co) true) ++
    Ipv6Fields.errors fields ++ errorsOf (defaulted fields "ipv6_cidr" isStr "64")

def ofJson (co : Coercions) : Json → Except Rejection ProvisionCustomISORequest :=
  construct (ofFields co) (errors co)

end ProvisionCustomISORequest

structure AnsibleProvisionRequest where
  bmcAddress : {s : Str // s ≠ []}
  bmcUsername : {s : Str // s ≠ []}
  bmcPassword : {s : Str // s ≠ []}
  osType : {s : Str // s ≠ []}
  osVersion : {s : Str // s ≠ []}
  arch : {s : Str // s ≠ []}
  variant : {s : Str // s ≠ []}
  hostname : {s : Str // s ≠ []}
  username : {s : Str // s ≠ []}
  password : {s : Str // s ≠ []}
  ipv4 : Ipv4Fields
  ipv6 : Ipv6Fields
  ipv6Cidr : Option Str
  dnsServers : Str
  raid : Bool
  disableUpdates : Bool
  isWtr : Bool

namespace AnsibleProvisionRequest

def ofFields (co : Coercions) (fields : Fields) : Except FieldError AnsibleProvisionRequest := do
  let bmcAddress ← required fields "bmc_address" isNonempty
  let bmcUsername ← required fields "bmc_username" isNonempty
  let bmcPassword ← required fields "bmc_password" isNonempty
  let osType ← required fields "os_type" isNonempty
  let osVersion ← required fields "os_version" isNonempty
  let arch ← required fields "arch" isNonempty
  let variant ← required fields "variant" isNonempty
  let hostname ← required fields "hostname" isNonempty
  let username ← required fields "username" isNonempty
  let password ← required fields "password" isNonempty
  let ipv4 ← Ipv4Fields.ofFields fields
  let ipv6 ← Ipv6Fields.ofFields fields
  let ipv6Cidr ← defaulted fields "ipv6_cidr" isOptionalStr (some "64")
  let dnsServers ← defaulted fields "dns_servers" isStr "8.8.8.8"
  let raid ← defaulted fields "raid" (isBool co) false
  let disableUpdates ← defaulted fields "disable_updates" (isBool co) true
  let isWtr ← defaulted fields "is_wtr" (isBool co) false
  return {
    bmcAddress, bmcUsername, bmcPassword, osType, osVersion, arch, variant, hostname, username,
    password, ipv4, ipv6, ipv6Cidr, dnsServers, raid, disableUpdates, isWtr }

def errors (co : Coercions) (fields : Fields) : List FieldError :=
  (["bmc_address".toList, "bmc_username".toList, "bmc_password".toList, "os_type".toList,
    "os_version".toList, "arch".toList, "variant".toList, "hostname".toList, "username".toList,
    "password".toList].flatMap fun name => errorsOf (required fields name isNonempty)) ++
    Ipv4Fields.errors fields ++ Ipv6Fields.errors fields ++
    errorsOf (defaulted fields "ipv6_cidr" isOptionalStr (some "64")) ++
    errorsOf (defaulted fields "dns_servers" isStr "8.8.8.8") ++
    errorsOf (defaulted fields "raid" (isBool co) false) ++
    errorsOf (defaulted fields "disable_updates" (isBool co) true) ++
    errorsOf (defaulted fields "is_wtr" (isBool co) false)

def ofJson (co : Coercions) : Json → Except Rejection AnsibleProvisionRequest :=
  construct (ofFields co) (errors co)

end AnsibleProvisionRequest

structure DiskInfo where
  dev : {s : Str // s ≠ []}
  id : {s : Str // s ≠ []}
  sizeMb : {n : ℤ // 0 < n}

def DiskInfo.ofJson (co : Coercions) : Check DiskInfo
  | .obj fields =>
    let disk : Except FieldError DiskInfo := do
      let dev ← required fields "dev" isNonempty
      let id ← required fields "id" isNonempty
      let sizeMb ← required fields "size_mb" (isPositive co)
      return ⟨dev, id, sizeMb⟩
    disk.mapError FieldError.problem
  | _ => .error .notObject

def isDiskList (co : Coercions) : Check (List DiskInfo)
  | .arr items => items.mapM (DiskInfo.ofJson co)
  | _ => .error .notList

structure PhoneHomeRequest where
  jobId : {s : Str // s ≠ []}
  machineSerial : {s : Str // s ≠ []}
  bootif : {s : Str // s ≠ []}
  uuids : List DiskInfo

namespace PhoneHomeRequest

def ofFields (co : Coercions) (fields : Fields) : Except FieldError PhoneHomeRequest := do
  let jobId ← required fields "job_id" isNonempty
  let machineSerial ← required fields "machine_serial" isNonempty
  let bootif ← required fields "bootif" isNonempty
  let uuids ← required fields "uuids" (isDiskList co)
  return ⟨jobId, machineSerial, bootif, uuids⟩

def errors (co : Coercions) (fields : Fields) : List FieldError :=
  errorsOf (required fields "job_id" isNonempty) ++
    errorsOf (required fields "machine_serial" isNonempty) ++
    errorsOf (required fields "bootif" isNonempty) ++
    errorsOf (required fields "uuids" (isDiskList co))

def ofJson (co : Coercions) : Json → Except Rejection PhoneHomeRequest :=
  construct (ofFields co) (errors co)

end PhoneHomeRequest

end Astro.RequestModels
