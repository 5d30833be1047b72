import Astro.CustomIsoHandler

/-!
# A provisioning request on its way through Ansible

`POST /api/v1/provision` writes the fields of its body into an inventory, and a task of the
playbook builds the body of a custom-iso request from the variables of that inventory. A
variable that is `None` is rendered as the empty text.
-/

namespace Astro.AnsibleInventory

open PythonText RequestModels

/-- `model_dump()` of an accepted body. -/
def dump (data : AnsibleProvisionRequest) : Fields :=
  let optional : Option Str → Json := fun v => v.elim .null .str
  [("bmc_address".toList, .str data.bmcAddress.val),
    ("bmc_username".toList, .str data.bmcUsername.val),
    ("bmc_password".toList, .str data.bmcPassword.val),
    ("os_type".toList, .str data.osType.val),
    ("os_version".toList, .str data.osVersion.val),
    ("arch".toList, .str data.arch.val),
    ("variant".toList, .str data.variant.val),
    ("hostname".toList, .str data.hostname.val),
    ("username".toList, .str data.username.val),
    ("password".toList, .str data.password.val),
    ("ipv4_address".toList, .str data.ipv4.address.val),
    ("ipv4_gateway".toList, .str data.ipv4.gateway.val),
    ("ipv4_netmask".toList, .str data.ipv4.netmask.val),
    ("ipv6_address".toList, optional data.ipv6.address.val),
    ("ipv6_gateway".toList, optional data.ipv6.gateway),
    ("ipv6_cidr".toList, optional data.ipv6Cidr),
    ("dns_servers".toList, .str data.dnsServers),
    ("raid".toList, .bool data.raid),
    ("disable_updates".toList, .bool data.disableUpdates),
    ("is_wtr".toList, .bool data.isWtr)]

/-- The variables of the group `all`, and its one host with the variables of its own. -/
structure Inventory where
  vars : Fields
  hostName : Str
  host : Fields

def buildAnsibleInventory (sourceDict : Fields) (hostIp : Str) (isWtr : Bool) : Inventory :=
  let get (name : Str) : Json := sourceDict.getD name .null
  { vars := [("validate_certs".toList, .bool false),
      ("api_base_url".toList, .str (("https://" : Str) ++ hostIp))]
    hostName := if isWtr then "testWTR" else "testXR11"
    host := [("bmc_address".toList, get "bmc_address"),
      ("bmc_user".toList, get "bmc_username"),
      ("bmc_password".toList, get "bmc_password"),
      ("os_arch".toList, get "arch"),
      ("os_type".toList, get "os_type"),
      ("os_version".toList, get "os_version"),
      ("os_variant".toList, get "variant"),
      ("os_hostname".toList, get "hostname"),
      ("os_username".toList, get "username"),
      ("os_password".toList, get "password"),
      ("os_ipv4_address".toList, get "ipv4_address"),
      ("os_ipv4_gateway".toList, get "ipv4_gateway"),
      ("os_ipv4_netmask".toList, get "ipv4_netmask"),
      ("os_ipv6_address".toList, get "ipv6_address"),
      ("os_ipv6_gateway".toList, get "ipv6_gateway"),
      ("os_ipv6_cidr".toList, get "ipv6_cidr"),
      ("os_dns_servers".toList, get "dns_servers"),
      ("os_raid".toList, get "raid"),
      ("ansible_host".toList, .str "\x7b\x7b os_ipv4_address \x7d\x7d".toList),
      ("ansible_user".toList, .str "\x7b\x7b os_username \x7d\x7d".toList),
      ("ansible_password".toList, .str "\x7b\x7b os_password \x7d\x7d".toList),
      ("ansible_python_interpreter".toList, .str "/usr/bin/python3".toList),
      ("ansible_ssh_common_args".toList,
        .str "-o StrictHostKeyChecking=no -o UserKnownHostsFile=/dev/null".toList),
      ("ansible_become_password".toList, .str "\x7b\x7b os_password \x7d\x7d".toList)] }

def rendered : Json → Json
  | .null => .str []
  | value => value

/-- The variables that a task on the host sees. -/
def Inventory.variables (inventory : Inventory) : Fields := inventory.host ++ inventory.vars

/-- A reference to a variable. An undefined one ends the task. -/
def Inventory.lookup (inventory : Inventory) (name : Str) : Option Json :=
  (inventory.variables.get? name).map rendered

/-- A reference with `default(...)`, which applies to an undefined variable only. -/
def Inventory.lookupD (inventory : Inventory) (name : Str) (default : Json) : Json :=
  (inventory.lookup name).getD default

/-- The body of `Request Custom ISO NEW`. -/
def customIsoBody (inventory : Inventory) : Option Json := do
  let hostname ← inventory.lookup "os_hostname"
  let username ← inventory.lookup "os_username"
  let password ← inventory.lookup "os_password"
  let ipv4Address ← inventory.lookup "os_ipv4_address"
  let ipv4Gateway ← inventory.lookup "os_ipv4_gateway"
  let ipv4Netmask ← inventory.lookup "os_ipv4_netmask"
  let ipv6Address ← inventory.lookup "os_ipv6_address"
  let ipv6Gateway ← inventory.lookup "os_ipv6_gateway"
  let ipv6Cidr ← inventory.lookup "os_ipv6_cidr"
  return .obj [("os_type".toList, inventory.lookupD "os_type" (.str "ubuntu".toList)),
    ("os_version".toList, inventory.lookupD "os_version" (.str "24.04.3".toList)),
    ("arch".toList, inventory.lookupD "os_arch" (.str "amd64".toList)),
    ("variant".toList, inventory.lookupD "os_variant" (.str "ipxe-uefi".toList)),
    ("hostname".toList, hostname),
    ("username".toList, username),
    ("password".toList, password),
    ("ipv4_address".toList, ipv4Address),
    ("ipv4_gateway".toList, ipv4Gateway),
    ("ipv4_netmask".toList, ipv4Netmask),
    ("ipv6_address".toList, ipv6Address),
    ("ipv6_gateway".toList, ipv6Gateway),
    ("ipv6_cidr".toList, ipv6Cidr),
    ("dns_servers".toList, inventory.lookupD "os_dns_servers" (.str "8.8.8.8".toList)),
    ("raid".toList, inventory.lookupD "os_raid" (.bool false))]

/-- The custom-iso body that an accepted provisioning request leads to. -/
def forwarded (hostIp : Str) (data : AnsibleProvisionRequest) : Option Json :=
  customIsoBody (buildAnsibleInventory (dump data) hostIp data.isWtr)

def forwardedFields (data : AnsibleProvisionRequest) : Fields :=
  [("os_type".toList, .str data.osType.val),
    ("os_version".toList, .str data.osVersion.val),
    ("arch".toList, .str data.arch.val),
    ("variant".toList, .str data.variant.val),
    ("hostname".toList, .str data.hostname.val),
    ("username".toList, .str data.username.val),
    ("password".toList, .str data.password.val),
    ("ipv4_address".toList, .str data.ipv4.address.val),
    ("ipv4_gateway".toList, .str data.ipv4.gateway.val),
    ("ipv4_netmask".toList, .str data.ipv4.netmask.val),
    ("ipv6_address".toList, .str (data.ipv6.address.val.getD [])),
    ("ipv6_gateway".toList, .str (data.ipv6.gateway.getD [])),
    ("ipv6_cidr".toList, .str (data.ipv6Cidr.getD [])),
    ("dns_servers".toList, .str data.dnsServers),
    ("raid".toList, .bool data.raid)]

theorem rendered_optional (v : Option Str) : rendered (v.elim .null .str) = .str (v.getD []) := by
  cases v <;> rfl

theorem forwarded_eq (hostIp : Str) (data : AnsibleProvisionRequest) :
    forwarded hostIp data = some (.obj (forwardedFields data)) := by
  rw [forwardedFields, ← rendered_optional, ← rendered_optional, ← rendered_optional]
  rfl

theorem given_getD (v : Option Str) : Given (some (v.getD [])) ↔ Given v := by
  cases v with
  | none => simp [Given]
  | some s => rfl

theorem validateIpv6_ok {text : Str} (h : isIpv6Address text = true) :
    validateIpv6 text = .ok ⟨text, h⟩ := by
  rw [validateIpv6, dif_pos h]

theorem isIpv4_val (address : {s : Str // isIpv4Address s = true}) :
    isIpv4 (.str address.val) = .ok address := by
  change validateIpv4 address.val = _
  rw [validateIpv4, dif_pos address.property]

theorem validateIpv6Addr_getD (field : Ipv6Field) :
    ∃ arrived : Ipv6Field, validateIpv6Addr (.str (field.val.getD [])) = .ok arrived ∧
      arrived.val = some (field.val.getD []) := by
  have hgiven := given_getD field.val
  by_cases h : Given (some (field.val.getD []))
  · have hvalid := field.property (hgiven.mp h)
    refine ⟨⟨some (field.val.getD []), fun _ => hvalid⟩, ?_, rfl⟩
    change (if h : Given (some (field.val.getD [])) then _ else _) = _
    rw [dif_pos h, Option.getD_some, validateIpv6_ok hvalid]
    rfl
  · refine ⟨⟨some (field.val.getD []), fun hv => absurd hv h⟩, ?_, rfl⟩
    change (if h : Given (some (field.val.getD [])) then _ else _) = _
    rw [dif_neg h]

theorem ne_nil_of_isIpv6Address {text : Str} (h : isIpv6Address text = true) : text ≠ [] := by
  rintro rfl
  exact absurd h (by decide)

section Gateway
variable {ipv6 : Ipv6Fields} {address : Option Str}

theorem validateIpv6Gw_getD (haddress : address = some (ipv6.address.val.getD []))
    (hpresent : Given ipv6.address.val → ipv6.gateway ≠ none) :
    ∃ arrived, validateIpv6Gw address (.str (ipv6.gateway.getD [])) = .ok arrived ∧
      arrived.val = some (ipv6.gateway.getD []) := by
  subst haddress
  by_cases ha : Given (some (ipv6.address.val.getD []))
  · have hgiven := (given_getD _).mp ha
    obtain ⟨g, hg⟩ := Option.ne_none_iff_exists'.mp (hpresent hgiven)
    have hvalid := ipv6.gateway_valid g hg hgiven
    rw [hg]
    refine ⟨⟨some g, fun _ => hvalid⟩, ?_, rfl⟩
    change (if ha : _ then if Given (some g) then _ else _ else _) = _
    rw [dif_pos ha, if_pos ⟨g, rfl, ne_nil_of_isIpv6Address hvalid⟩]
    change (validateIpv6 g).map _ = _
    rw [validateIpv6_ok hvalid]
    rfl
  · refine ⟨⟨some (ipv6.gateway.getD []), fun h => absurd h ha⟩, ?_, rfl⟩
    change (if ha : _ then _ else _) = _
    rw [dif_neg ha]

/-- With an address, a gateway that was left out has become an empty text, which the
validator refuses. -/
theorem validateIpv6Gw_missing (haddress : address = some (ipv6.address.val.getD []))
    (hgiven : Given ipv6.address.val) (hmissing : ipv6.gateway = none) :
    ∃ problem, validateIpv6Gw address (.str (ipv6.gateway.getD [])) = .error problem := by
  subst haddress
  rw [hmissing]
  have hnot : ¬ Given (some []) := by
    rintro ⟨s, hs, hne⟩
    cases hs
    exact hne rfl
  refine ⟨.valueError "IPv6 address provided but 'ipv6_gateway' is missing", ?_⟩
  change (if ha : _ then if Given (some []) then _ else _ else _) = _
  rw [dif_pos ((given_getD _).mpr hgiven), if_neg hnot]

end Gateway

section Arrival
variable {co : Coercions} (hbool : ∀ b, co.bool (.bool b) = some b) {data : AnsibleProvisionRequest}

theorem ipv6AddressOf_forwarded : ∃ address, ipv6AddressOf (forwardedFields data) = .ok address ∧
    address.val = some (data.ipv6.address.val.getD []) := by
  obtain ⟨address, haddress, hval⟩ := validateIpv6Addr_getD data.ipv6.address
  refine ⟨address, ?_, hval⟩
  rw [ipv6AddressOf, defaulted_of_get? _ rfl, haddress]
  rfl

theorem ipv6_arrives (hpresent : Given data.ipv6.address.val → data.ipv6.gateway ≠ none) :
    ∃ ipv6, Ipv6Fields.ofFields (forwardedFields data) = .ok ipv6 ∧
      ipv6.address.val = some (data.ipv6.address.val.getD []) ∧
      ipv6.gateway = some (data.ipv6.gateway.getD []) := by
  obtain ⟨address, haddress, haddress'⟩ := @ipv6AddressOf_forwarded data
  obtain ⟨gateway, hgateway, hgateway'⟩ := validateIpv6Gw_getD haddress' hpresent
  have hfield : defaulted (forwardedFields data) "ipv6_gateway"
      (fun value => (validateIpv6Gw address.val value).map some) none = .ok (some gateway) := by
    rw [defaulted_of_get? _ rfl, hgateway]
    rfl
  rw [Ipv6Fields.ofFields, haddress]
  dsimp only [bind, Except.bind]
  rw [hfield]
  exact ⟨_, rfl, haddress', hgateway'⟩

theorem ipv6_refused (hgiven : Given data.ipv6.address.val) (hmissing : data.ipv6.gateway = none) :
    ∃ error, Ipv6Fields.ofFields (forwardedFields data) = .error error := by
  obtain ⟨address, haddress, haddress'⟩ := @ipv6AddressOf_forwarded data
  obtain ⟨problem, hproblem⟩ := validateIpv6Gw_missing haddress' hgiven hmissing
  have hfield : defaulted (forwardedFields data) "ipv6_gateway"
      (fun value => (validateIpv6Gw address.val value).map some) none =
        .error ⟨"ipv6_gateway", problem⟩ := by
    rw [defaulted_of_get? _ rfl, hproblem]
    rfl
  rw [Ipv6Fields.ofFields, haddress]
  dsimp only [bind, Except.bind]
  rw [hfield]
  exact ⟨_, rfl⟩

/-- The custom-iso request with the IPv6 addresses that are accepted. Whether updates are
disabled is not in the body. -/
def arrived (data : AnsibleProvisionRequest) (ipv6 : Ipv6Fields) : ProvisionCustomISORequest where
  hostname := data.hostname
  ipv4 := data.ipv4
  osVersion := data.osVersion.val
  username := data.username.val
  password := data.password.val
  dnsServers := data.dnsServers
  raid := data.raid
  disableUpdates := true
  ipv6 := ipv6
  ipv6Cidr := data.ipv6Cidr.getD []

include hbool in
theorem ofFields_forwarded : ProvisionCustomISORequest.ofFields co (forwardedFields data) =
    (Ipv6Fields.ofFields (forwardedFields data)).map (arrived data) := by
  have hraid : isBool co (.bool data.raid) = .ok data.raid := by rw [isBool, hbool]
  have hipv4 : Ipv4Fields.ofFields (forwardedFields data) = .ok data.ipv4 := by
    rw [Ipv4Fields.ofFields, required_of_get? rfl, required_of_get? rfl, required_of_get? rfl,
      isIpv4_val, isIpv4_val, isIpv4_val]
    rfl
  rw [ProvisionCustomISORequest.ofFields, hipv4, required_of_get? rfl,
    isNonempty_str data.hostname.property, defaulted_of_get? _ rfl, defaulted_of_get? _ rfl,
    defaulted_of_get? _ rfl, defaulted_of_get? _ rfl, defaulted_of_get? _ rfl, hraid]
  cases Ipv6Fields.ofFields (forwardedFields data) <;> rfl

end Arrival

/-- The two requests agree on the fields that they share; an absent text counts as the empty
one. -/
structure Agrees (data : AnsibleProvisionRequest) (request : ProvisionCustomISORequest) : Prop where
  hostname : request.hostname.val = data.hostname.val
  username : request.username = data.username.val
  password : request.password = data.password.val
  osVersion : request.osVersion = data.osVersion.val
  ipv4Address : request.ipv4.address.val = data.ipv4.address.val
  ipv4Gateway : request.ipv4.gateway.val = data.ipv4.gateway.val
  ipv4Netmask : request.ipv4.netmask.val = data.ipv4.netmask.val
  ipv6Address : request.ipv6.address.val.getD [] = data.ipv6.address.val.getD []
  ipv6Gateway : request.ipv6.gateway.getD [] = data.ipv6.gateway.getD []
  ipv6Cidr : request.ipv6Cidr = data.ipv6Cidr.getD []
  dnsServers : request.dnsServers = data.dnsServers
  raid : request.raid = data.raid
  disableUpdates : request.disableUpdates = data.disableUpdates

/-- A provisioning request, as it was accepted, arrives exactly when it leaves updates disabled,
which the inventory does not say, and does not leave out the gateway of an IPv6 address. -/
theorem forwarded_agrees_iff {co : Coercions} (hbool : ∀ b, co.bool (.bool b) = some b)
    (hostIp : Str) (data : AnsibleProvisionRequest) :
    (∃ isoBody request, forwarded hostIp data = some isoBody ∧
      ProvisionCustomISORequest.ofJson co isoBody = .ok request ∧ Agrees data request) ↔
      data.disableUpdates = true ∧ (Given data.ipv6.address.val → data.ipv6.gateway ≠ none) := by
  constructor
  · rintro ⟨isoBody, request, hforwarded, hrequest, hagrees⟩
    rw [forwarded_eq, Option.some.injEq] at hforwarded
    subst hforwarded
    rw [ProvisionCustomISORequest.ofJson, construct, ofFields_forwarded hbool] at hrequest
    cases hipv6 : Ipv6Fields.ofFields (forwardedFields data) with
    | error error =>
      rw [hipv6] at hrequest
      cases hrequest
    | ok ipv6 =>
      rw [hipv6] at hrequest
      cases hrequest
      refine ⟨hagrees.disableUpdates.symm, fun hgiven hmissing => ?_⟩
      obtain ⟨error, herror⟩ := ipv6_refused hgiven hmissing
      rw [herror] at hipv6
      cases hipv6
  · rintro ⟨hupdates, hpresent⟩
    obtain ⟨ipv6, hipv6, haddress, hgateway⟩ := ipv6_arrives hpresent
    refine ⟨_, arrived data ipv6, forwarded_eq hostIp data, ?_, ?_⟩
    · rw [ProvisionCustomISORequest.ofJson, construct, ofFields_forwarded hbool, hipv6]
      rfl
    · exact {
        hostname := rfl, username := rfl, password := rfl, osVersion := rfl, ipv4Address := rfl
        ipv4Gateway := rfl, ipv4Netmask := rfl, ipv6Cidr := rfl, dnsServers := rfl, raid := rfl
        ipv6Address := by rw [arrived, haddress, Option.getD_some]
        ipv6Gateway := by rw [arrived, hgateway, Option.getD_some]
        disableUpdates := hupdates.symm }

/-- An accepted body with the given further fields. -/
def bodyWith (more : Fields) : Json :=
  .obj ([("bmc_address".toList, .str "10.0.1.2".toList),
    ("bmc_username".toList, .str "root".toList), ("bmc_password".toList, .str "calvin".toList),
    ("os_type".toList, .str "ubuntu".toList),
    ("os_version".toList, .str "24.04.4".toList), ("arch".toList, .str "amd64".toList),
    ("variant".toList, .str "ipxe-uefi".toList), ("hostname".toList, .str "node-a".toList),
    ("username".toList, .str "ubuntu".toList), ("password".toList, .str "secret".toList),
    ("ipv4_address".toList, .str "10.0.0.2".toList),
      ("ipv4_gateway".toList, .str "10.0.0.254".toList),
    ("ipv4_netmask".toList, .str "255.255.255.0".toList)] ++ more)

def dataWith (disableUpdates : Bool) (ipv6 : Ipv6Fields) : AnsibleProvisionRequest where
  bmcAddress := ⟨"10.0.1.2".toList, by decide⟩
  bmcUsername := ⟨"root".toList, by decide⟩
  bmcPassword := ⟨"calvin".toList, by decide⟩
  osType := ⟨"ubuntu".toList, by decide⟩
  osVersion := ⟨"24.04.4".toList, by decide⟩
  arch := ⟨"amd64".toList, by decide⟩
  variant := ⟨"ipxe-uefi".toList, by decide⟩
  hostname := CustomIsoHandler.nodeA.request.hostname
  username := ⟨"ubuntu".toList, by decide⟩
  password := ⟨"secret".toList, by decide⟩
  ipv4 := CustomIsoHandler.nodeA.request.ipv4
  ipv6 := ipv6
  ipv6Cidr := some "64"
  dnsServers := "8.8.8.8"
  raid := false
  disableUpdates := disableUpdates
  isWtr := false

def noIpv6 : Ipv6Fields := CustomIsoHandler.nodeA.request.ipv6

/-- An address whose gateway is left out. -/
def noGateway : Ipv6Fields :=
  ⟨⟨some "2001:db8::7".toList, fun _ => by decide⟩, none, by intro g h; cases h⟩

theorem forwarded_agrees_bodyWith_nil :
    AnsibleProvisionRequest.ofJson RepositorySite.coercions (bodyWith []) =
      .ok (dataWith true noIpv6) ∧
    ∃ isoBody request, forwarded "10.0.0.1" (dataWith true noIpv6) = some isoBody ∧
      ProvisionCustomISORequest.ofJson RepositorySite.coercions isoBody = .ok request ∧
      Agrees (dataWith true noIpv6) request :=
  ⟨rfl, (forwarded_agrees_iff (fun _ => rfl) "10.0.0.1" (dataWith true noIpv6)).mpr
    ⟨rfl, fun hgiven => absurd hgiven (by decide)⟩⟩

/-- Updates that were asked for are disabled on arrival, and an address without a gateway
is accepted for provisioning but refused on arrival. -/
theorem fields_lost_on_the_way :
    (AnsibleProvisionRequest.ofJson RepositorySite.coercions
        (bodyWith [("disable_updates".toList, .bool false)]) = .ok (dataWith false noIpv6) ∧
      ∃ request, (forwarded "10.0.0.1" (dataWith false noIpv6)).map
          (ProvisionCustomISORequest.ofJson RepositorySite.coercions) = some (.ok request) ∧
        request.disableUpdates = true) ∧
    AnsibleProvisionRequest.ofJson RepositorySite.coercions
        (bodyWith [("ipv6_address".toList, .str "2001:db8::7".toList)]) =
          .ok (dataWith true noGateway) ∧
      (forwarded "10.0.0.1" (dataWith true noGateway)).map
          (ProvisionCustomISORequest.ofJson RepositorySite.coercions) = some (.error (.invalid
        [⟨"ipv6_gateway", .valueError "IPv6 address provided but 'ipv6_gateway' is missing"⟩])) :=
  ⟨⟨rfl, _, rfl, rfl⟩, rfl, rfl⟩

end Astro.AnsibleInventory
