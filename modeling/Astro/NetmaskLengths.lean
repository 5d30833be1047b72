import Astro.KernelCommandLine
import Mathlib.Algebra.GroupWithZero.Nat

/-!
# Netmasks and prefix lengths

A job has a netmask, and the installed system is given a prefix length. The phone-home handler
lets `ipaddress` compute it, with 24 where that raises; `generate.py` counts bits and `init` adds
up a table of octets. The three agree, and the mask is the one of the length, exactly when its
ones come first.
-/

namespace Astro.NetmaskLengths

open PythonText TemplateChunks JobPaths RequestModels IpxePipeline ServerHandlers CustomIsoHandler
  SeedRendering RepositorySite RepositoryTemplates SimultaneousRendering HostNames KernelCommandLine

/-- What phone-home renders as `IPV4_CIDR`. -/
def renderedLength (netmask : Str) : ℕ := (prefixLength netmask).getD 24

/-- `mask_to_cidr`: `bin` writes the digits. -/
def maskToCidr (mask : Str) : ℕ :=
  ((split '.' mask).map fun x => (Nat.toDigits 2 (number x)).count '1').sum

/-- The patterns of the `case` in `mask2cidr`. -/
def octetLength (i : Str) : Option ℕ :=
  if i = "255" then some 8 else if i = "254" then some 7 else if i = "252" then some 6
  else if i = "248" then some 5 else if i = "240" then some 4 else if i = "224" then some 3
  else if i = "192" then some 2 else if i = "128" then some 1 else if i = "0" then some 0
  else none

/-- `IFS=. read -r i1 i2 i3 i4`; the last name takes what is left. Unset names expand to no
word. -/
def readOctets (mask : Str) : List Str :=
  let pieces := split '.' mask
  (pieces.take 3 ++ [join "." (pieces.drop 3)]).filter (· ≠ [])

/-- `mask2cidr`, with what it prints when it fails. -/
def mask2cidr (mask : Str) : Except Str ℕ :=
  (readOctets mask).foldlM (fun cidr i => match octetLength i with
    | some n => .ok (cidr + n)
    | none => .error "Invalid netmask") 0

/-- The dotted quad of a number of 32 bits. -/
def dottedQuad (n : ℕ) : Str :=
  join "." [decimal (n / 2 ^ 24), decimal (n / 2 ^ 16 % 2 ^ 8), decimal (n / 2 ^ 8 % 2 ^ 8),
    decimal (n % 2 ^ 8)]

/-- The netmask with `p` leading ones. -/
def netmaskText (p : ℕ) : Str := dottedQuad (2 ^ 32 - 2 ^ (32 - p))

/-- There are 33 masks whose ones come first. -/
theorem lengths_netmaskText : ∀ p < 33, prefixLength (netmaskText p) = some p ∧
    maskToCidr (netmaskText p) = p ∧ mask2cidr (netmaskText p) = .ok p := by
  decide

theorem netmaskText_of_le {p : ℕ} (h : 32 ≤ p) : netmaskText p = netmaskText 32 := by
  rw [netmaskText, netmaskText, Nat.sub_eq_zero_of_le h]

/-- The length that is rendered belongs to the mask, and the other two are the same. -/
def LengthsAgree (netmask : Str) : Prop :=
  netmaskText (renderedLength netmask) = netmask ∧ maskToCidr netmask = renderedLength netmask ∧
    mask2cidr netmask = .ok (renderedLength netmask)

theorem lengthsAgree_iff (netmask : Str) : LengthsAgree netmask ↔
    ∃ p ≤ 32, netmask = netmaskText p := by
  constructor
  · rintro ⟨hmask, -, -⟩
    rcases Nat.le_total (renderedLength netmask) 32 with hle | hge
    · exact ⟨_, hle, hmask.symm⟩
    · exact ⟨32, le_rfl, (netmaskText_of_le hge ▸ hmask).symm⟩
  · rintro ⟨p, hp, rfl⟩
    obtain ⟨hnetwork, hcount, htable⟩ := lengths_netmaskText p (Nat.lt_succ_of_le hp)
    have hlength : renderedLength (netmaskText p) = p := by
      rw [renderedLength, hnetwork, Option.getD_some]
    rw [LengthsAgree, hlength]
    exact ⟨rfl, hcount, htable⟩

section Result
variable {site : Site} {opensslPasswd : Str → Option Str} {hostIp : Str}
  {request : PhoneHomeRequest}
  {data : JobData} {m : List (Str × Str) × Str}

theorem map_decimal_getD (length? : Option ℕ) : (length?.map decimal).getD "24" =
    decimal (length?.getD 24) := by
  cases length? with
  | none => rfl
  | some p => rfl

/-- The two values of the line that assigns `V4`. -/
theorem v4_values (h : userDataMap (deployment site opensslPasswd) hostIp request
    (jobFields data) = some m) :
    ("\x7b\x7bIPV4_ADDRESS\x7d\x7d".toList, data.request.ipv4.address.val) ∈ m.1 ∧
      ("\x7b\x7bIPV4_CIDR\x7d\x7d".toList, decimal (renderedLength data.request.ipv4.netmask.val)) ∈
        m.1 := by
  obtain ⟨disks, hashedPw, -, -, hpairs, -⟩ := userDataMap_spec h
  have hgiven : ((jobFields data).getD "ipv4_address" (.str [])).truthy = true :=
    decide_eq_true (ipv4_ne_nil data.request.ipv4.address.property)
  rw [hpairs]
  refine ⟨List.mem_of_getElem? (i := 5) rfl, List.mem_of_getElem? (i := 6) ?_⟩
  change some ("\x7b\x7bIPV4_CIDR\x7d\x7d".toList,
    if ((jobFields data).getD "ipv4_address" (.str [])).truthy then
    ((prefixLength data.request.ipv4.netmask.val).map decimal).getD "24" else []) = _
  rw [if_pos hgiven, map_decimal_getD, renderedLength]

/-- The line of `apply-serialization.sh` with the address and the length. -/
def v4Line (data : JobData) : Str :=
  ("      V4=" : Str) ++ '"' :: (data.request.ipv4.address.val ++ '/' ::
    (decimal (renderedLength data.request.ipv4.netmask.val) ++ ['"']))

theorem v4Line_in_userData
    (h : userDataMap (deployment site opensslPasswd) hostIp request (jobFields data) = some m) :
    v4Line data ++ ['\n'] <:+: replaceAll m.1 m.2 := by
  obtain ⟨haddress, hlength⟩ := v4_values h
  have hassigns := (userDataMap_cases h).1
  have hfree : ∀ {text : Str}, '\x7b' ∉ text → ∀ key ∈ seedPlaceholders.keys, ¬ key <:+: text :=
    fun h => Placeholders.absent_of_unmarked (Placeholders.unmarked_of_not_mem List.mem_cons_self h)
  have hdigits : '\x7b' ∉ decimal (renderedLength data.request.ipv4.netmask.val) :=
    fun hmem => absurd (isDigit_of_mem_decimal hmem) (by decide)
  have hfront : ¬ seedPlaceholders.mark <:+: "      V4=".toList := by decide
  have htext : "      V4=\"\x7b\x7bIPV4_ADDRESS\x7d\x7d/\x7b\x7bIPV4_CIDR\x7d\x7d\"".toList =
      "      V4=".toList ++ '"' :: ("\x7b\x7bIPV4_ADDRESS\x7d\x7d".toList ++ '/' ::
        ("\x7b\x7bIPV4_CIDR\x7d\x7d".toList ++ ['"'])) := rfl
  have hline := userData_common_line h (Or.inr (Or.inl (by decide :
    "      V4=\"\x7b\x7bIPV4_ADDRESS\x7d\x7d/\x7b\x7bIPV4_CIDR\x7d\x7d\"" ∈ settingLines)))
  rw [htext, replaceAll_append_cons (hassigns.separates rfl),
    replaceAll_append_cons (hassigns.separates rfl),
    replaceAll_append_cons (hassigns.separates rfl), replaceAll_nil,
    hassigns.replaceAll_of_mem haddress (hfree ((isPlain_ipv4 _).not_mem rfl)),
    hassigns.replaceAll_of_mem hlength (hfree hdigits),
    Placeholders.replaceAll_of_unmarked (fun _ => hassigns.mem) hfront] at hline
  unfold v4Line
  exact hline

/-- For every accepted netmask: the length in the line, which stands beside the mask that the
first boot stage uses, is right exactly when the ones of the mask come first. -/
theorem prefix_length_iff
    (h : userDataMap (deployment site opensslPasswd) hostIp request (jobFields data) = some m) :
    v4Line data ++ ['\n'] <:+: replaceAll m.1 m.2 ∧
    ("MASK".toList, data.request.ipv4.netmask.val) ∈ buildIpxeContext data ∧
    (LengthsAgree data.request.ipv4.netmask.val ↔
      ∃ p ≤ 32, data.request.ipv4.netmask.val = netmaskText p) :=
  ⟨v4Line_in_userData h, List.mem_of_getElem? (i := 4) rfl, lengthsAgree_iff _⟩

end Result

def maskedBody (netmask : Str) : Json :=
  .obj [("hostname".toList, .str "node-m".toList), ("ipv4_address".toList, .str "10.0.0.20".toList),
    ("ipv4_gateway".toList, .str "10.0.0.254".toList), ("ipv4_netmask".toList, .str netmask)]

def maskedJob (netmask : Str) (h : isIpv4Address netmask = true) : JobData :=
  let job := namedJob "node-m" "ubuntu" "8.8.8.8" (by decide)
  { job with request := { job.request with
    ipv4 := { job.request.ipv4 with netmask := ⟨netmask, h⟩ } } }

def classlessJob : JobData := maskedJob "255.255.252.0" (by decide)

theorem prefix_length_classless :
    ∃ m, userDataMap exampleDep "10.0.0.1"
      (requestOf "node-m" classlessJob.request.hostname.property)
        (jobFields classlessJob) = some m ∧
      "      V4=\"10.0.0.20/22\"\n".toList <:+: replaceAll m.1 m.2 ∧
      LengthsAgree classlessJob.request.ipv4.netmask.val := by
  have hmap : ∃ m, userDataMap exampleDep "10.0.0.1"
      (requestOf "node-m" classlessJob.request.hostname.property) (jobFields classlessJob) =
        some m := ⟨_, rfl⟩
  obtain ⟨m, hm⟩ := hmap
  obtain ⟨hline, -, hiff⟩ := prefix_length_iff hm
  have htext : "      V4=\"10.0.0.20/22\"\n".toList = v4Line classlessJob ++ ['\n'] := rfl
  rw [htext]
  exact ⟨m, hm, hline, hiff.mpr ⟨22, by decide, rfl⟩⟩

def holeJob : JobData := maskedJob "255.0.255.0" (by decide)

/-- A mask with a hole is rendered as 24, which is neither its own length nor what the two other
functions compute; an inverted mask gets the length of the mask that it inverts. -/
theorem hole_rendered_as_24 :
    accept exampleSite "10.0.0.1" (some (maskedBody "255.0.255.0")) = .ok holeJob ∧
    (∃ m, userDataMap exampleDep "10.0.0.1" (requestOf "node-m" holeJob.request.hostname.property)
        (jobFields holeJob) = some m ∧
      "      V4=\"10.0.0.20/24\"\n".toList <:+: replaceAll m.1 m.2) ∧
    netmaskText 24 = "255.255.255.0" ∧ maskToCidr "255.0.255.0" = 16 ∧
      mask2cidr "255.0.255.0" = .ok 16 ∧
    renderedLength "0.0.0.255" = 24 ∧ maskToCidr "0.0.0.255" = 8 := by
  have hmap : ∃ m, userDataMap exampleDep "10.0.0.1"
      (requestOf "node-m" holeJob.request.hostname.property) (jobFields holeJob) = some m :=
        ⟨_, rfl⟩
  obtain ⟨m, hm⟩ := hmap
  have htext : "      V4=\"10.0.0.20/24\"\n".toList = v4Line holeJob ++ ['\n'] := rfl
  refine ⟨rfl, ⟨m, hm, htext ▸ v4Line_in_userData hm⟩, ?_⟩
  decide

end Astro.NetmaskLengths
