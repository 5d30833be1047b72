import Astro.StageNetworks
import Astro.YamlBlocks

/-!
# The netplan document of an installed machine

`apply-serialization.sh` puts the addresses, gateways and name servers of a job into a YAML text
without quotes. The text is read as the network that was asked for unless the interface name is no
plain scalar, an IPv6 text ends in a colon, or a gateway is zero in a spelling that the script does
not know.
-/

namespace Astro.NetplanDocuments

open PythonText RequestModels HostNames StageNetworks YamlScalars YamlBlocks

/-- The variables that the network part of the script reads. `detected` is the interface it finds
under `/sys/class/net` when it is given none. -/
structure Variables where
  v4 : Str
  gw4 : Str
  v6 : Str
  gw6 : Str
  nsrv : Str
  ifn : Str
  detected : Str

/-- The escapes of one letter. -/
def escapeValue (c : Char) : Option Char :=
  ([('a', '\x07'), ('b', '\x08'), ('e', '\x1b'), ('E', '\x1b'), ('f', '\x0c'), ('n', '\n'),
    ('r', '\x0d'), ('t', '\t'), ('v', '\x0b'), ('\\', '\\')] : List (Char × Char)).lookup c

/-- `printf "%b"`. Escapes with codes and the one that ends the output are not followed. -/
def printfB : Str → Option Str
  | [] => some []
  | [c] => some [c]
  | c :: e :: text =>
    if c = '\\' then (escapeValue e).bind fun value => (printfB text).map (value :: ·)
    else (printfB (e :: text)).map (c :: ·)

def echo (text : Str) : Str := text ++ ['\n']

/-- A line as the script collects it for `printf "%b"`. -/
def collected (text : Str) : Str := text ++ "\\n"

/-- `case "$GW4" in ""|"0.0.0.0") GW4="";; esac`. -/
def kept4 (gw4 : Str) : Str := if gw4 = [] ∨ gw4 = "0.0.0.0" then [] else gw4

/-- `case "$GW6" in ""|"::"|"0:0:0:0:0:0:0:0") GW6="";; esac`. -/
def kept6 (gw6 : Str) : Str := if gw6 = [] ∨ gw6 = "::" ∨ gw6 = "0:0:0:0:0:0:0:0" then [] else gw6

/-- `read` takes the first line only. -/
def nsYaml (nsrv : Str) : Str :=
  (nameservers (nsrv.takeWhile (· ≠ '\n'))).flatMap fun a => collected (("        - " : Str) ++ a)

def addrsYaml (v4 v6 : Str) : Str :=
  (if v4 ≠ [] then collected (("        - " : Str) ++ v4) else []) ++
    (if v6 ≠ [] then collected (("        - " : Str) ++ v6) else [])

def routesYaml (gw4 gw6 : Str) : Str :=
  let routes := if gw4 ≠ [] then collected "      routes:" ++ collected "        - to: 0.0.0.0/0" ++
    collected (("          via: " : Str) ++ gw4) else []
  if gw6 ≠ [] then
    routes ++ (if routes = [] then collected "      routes:" else []) ++
      collected "        - to: ::/0" ++
      collected (("          via: " : Str) ++ gw6) ++ collected "          on-link: true"
  else routes

/-- The block that goes to `/etc/netplan/99-manual.yaml`. -/
def netplanFile (vars : Variables) : Option Str := do
  let ifn := if vars.ifn = [] then vars.detected else vars.ifn
  let addrs := addrsYaml vars.v4 vars.v6
  let routes := routesYaml (kept4 vars.gw4) (kept6 vars.gw6)
  let ns := nsYaml vars.nsrv
  let addrsText ← printfB addrs
  let routesText ← printfB routes
  let nsText ← printfB ns
  pure (echo "network:" ++ echo "  version: 2" ++ echo "  ethernets:" ++
    if ifn ≠ [] then
      echo (("    " : Str) ++ ifn ++ (":" : Str)) ++ echo "      dhcp4: false" ++
        echo "      dhcp6: false" ++
        (if addrs ≠ [] then echo "      addresses:" ++ addrsText else []) ++
        (if routes ≠ [] then routesText else []) ++
        (if ns ≠ [] then echo "      nameservers:" ++ echo "        addresses:" ++ nsText else [])
    else echo "    # No interface detected, skipping config")

def IsIpv6Text (text : Str) : Prop := isIpv6Address text = true ∧ '%' ∉ text

instance (text : Str) : Decidable (IsIpv6Text text) := inferInstanceAs (Decidable (_ ∧ _))

/-- All digits of the address are zero. -/
def IsAllZero (address : Str) : Prop := ∀ c ∈ address, c = '0' ∨ c = ':' ∨ c = '.'

instance (address : Str) : Decidable (IsAllZero address) := List.decidableBAll _ _

structure Network where
  interface : {s : Str // s ≠ []}
  ipv4 : {s : Str // isIpv4Address s = true} × ℕ
  ipv6 : Option ({s : Str // IsIpv6Text s} × ℕ)
  gateway4 : Option {s : Str // isIpv4Address s = true}
  gateway6 : Option {s : Str // IsIpv6Text s}
  nameServers : {s : Str // ∀ entry ∈ split ',' s, IsEntry entry}

/-- An address with the length of its network. -/
def cidr (address : Str) (length : ℕ) : Str := address ++ '/' :: decimal length

/-- A gateway that leads somewhere. -/
def asked (gateway : Str) : Str := if IsAllZero gateway then [] else gateway

def route4 (gateway : Str) : Yaml :=
  .map [("to".toList, .scalar "0.0.0.0/0".toList), ("via".toList, .scalar gateway)]

def route6 (gateway : Str) : Yaml :=
  .map [("to".toList, .scalar "::/0".toList), ("via".toList, .scalar gateway),
    ("on-link".toList, .scalar "true".toList)]

def defaultRoutes (gateway4 gateway6 : Str) : List Yaml :=
  (if gateway4 = [] then [] else [route4 gateway4]) ++
    (if gateway6 = [] then [] else [route6 gateway6])

/-- The keys of empty lists are left out. -/
def settings (addresses : List Str) (routes : List Yaml) (servers : List Str) : List (Str × Yaml) :=
  [("dhcp4".toList, .scalar "false".toList), ("dhcp6".toList, .scalar "false".toList),
    ("addresses".toList, .seq (addresses.map .scalar))] ++
  (if routes.isEmpty then [] else [("routes".toList, .seq routes)]) ++
  (if servers.isEmpty then [] else
    [("nameservers".toList, .map [("addresses".toList, .seq (servers.map .scalar))])])

/-- A document for one interface. -/
def netplan (interface : Str) (settings : Yaml) : Yaml :=
  .map [("network".toList, .map [("version".toList, .scalar "2".toList),
    ("ethernets".toList, .map [(interface, settings)])])]

namespace Network
variable (n : Network)

def addresses : List Str :=
  cidr n.ipv4.1.val n.ipv4.2 :: (n.ipv6.map fun a => cidr a.1.val a.2).toList

def gw4 : Str := (n.gateway4.map Subtype.val).getD []

def gw6 : Str := (n.gateway6.map Subtype.val).getD []

/-- What the script is given for the network. -/
def vars (detected : Str) : Variables where
  v4 := cidr n.ipv4.1.val n.ipv4.2
  gw4 := n.gw4
  v6 := (n.ipv6.map fun a => cidr a.1.val a.2).getD []
  gw6 := n.gw6
  nsrv := n.nameServers.val
  ifn := n.interface.val
  detected

def document : Yaml :=
  netplan n.interface.val (.map (settings n.addresses (defaultRoutes (asked n.gw4) (asked n.gw6))
    (nameservers n.nameServers.val)))

/-- The interface name is a plain key, no name server ends in a colon, and neither does an IPv6
gateway, which is zero only in a spelling that the script knows. -/
structure IsReadable : Prop where
  interface : isPlainKey n.interface.val = true
  gateway : ∀ g, n.gateway6 = some g → g.val = "::" ∨ g.val = "0:0:0:0:0:0:0:0" ∨
    (¬ IsAllZero g.val ∧ g.val.getLast? ≠ some ':')
  nameServers : ∀ a ∈ nameservers n.nameServers.val, a.getLast? ≠ some ':'

end Network

theorem isInline_of_ascii {c : Char} (hlow : 0x20 < c.toNat) (hhigh : c.toNat ≤ 0x7e) :
    isInline c = true ∧ YamlScalars.isBlank c = false := by
  have hne : ∀ d : Char, d.toNat ≤ 0x20 ∨ 0x7e < d.toNat → c ≠ d := by
    rintro d hd rfl
    omega
  have hprintable : isPrintable c = true := by
    have hrange : (decide (0x20 ≤ c.toNat) && decide (c.toNat ≤ 0x7e)) = true := by
      rw [Bool.and_eq_true, decide_eq_true_eq, decide_eq_true_eq]
      omega
    rw [isPrintable, hrange]
    simp
  have hbreak : isBreak c = false := by
    rw [isBreak, decide_eq_false (hne '\n' (by decide)), decide_eq_false (hne '\x0d' (by decide)),
      decide_eq_false (hne '\u0085' (by decide)), decide_eq_false (hne '\u2028' (by decide)),
      decide_eq_false (hne '\u2029' (by decide))]
    rfl
  constructor
  · rw [isInline, hprintable, hbreak]
    rfl
  · rw [YamlScalars.isBlank, decide_eq_false (hne ' ' (by decide)),
      decide_eq_false (hne '\t' (by decide))]
    rfl

theorem toNat_of_isHexDigit {c : Char} (h : isHexDigit c = true) :
    0x20 < c.toNat ∧ c.toNat ≤ 0x7e := by
  obtain ⟨hlow, hhigh⟩ := HostNames.toNat_of_isAlphanum (HostNames.isAlphanum_of_isHexDigit h)
  exact ⟨by omega, by omega⟩

/-- The characters of addresses and of addresses with a length. -/
def isCidrChar (c : Char) : Bool := isAddressChar c || c = '/'

theorem isInline_of_isCidrChar {c : Char} (h : isCidrChar c = true) :
    isInline c = true ∧ YamlScalars.isBlank c = false := by
  simp only [isCidrChar, isAddressChar, Bool.or_eq_true, decide_eq_true_eq] at h
  rcases h with ((h | rfl) | rfl) | rfl
  · obtain ⟨hlow, hhigh⟩ := toNat_of_isHexDigit h
    exact isInline_of_ascii hlow hhigh
  · decide
  · decide
  · decide

section Plain
variable {text : Str} (h : ∀ c ∈ text, isCidrChar c = true)
include h

theorem isPlain_of_cidrChars : isPlain text = true := by
  have hinline : text.all isInline = true :=
    List.all_eq_true.mpr fun c hc => (isInline_of_isCidrChar (h c hc)).1
  have hblank : ∀ c ∈ text, YamlScalars.isBlank c = false :=
    fun c hc => (isInline_of_isCidrChar (h c hc)).2
  have hcomment : ∀ c ∈ text, decide (c = '#') = false := by
    intro c hc
    refine decide_eq_false ?_
    rintro rfl
    exact absurd (h '#' hc) (by decide)
  have hlast : text.getLast?.any YamlScalars.isBlank = false := by
    cases hlast : text.getLast? with
    | none => rfl
    | some c => exact hblank c (List.mem_of_getLast? hlast)
  rw [isPlain, hinline, adjacent_of_forall_not hblank, adjacent_of_forall_not hcomment, hlast]
  rfl

/-- Only a lone colon could not start one. -/
theorem startsPlain_of_cidrChars (hne : text ≠ []) (hcolon : text ≠ [':']) :
    startsPlain text = true := by
  obtain ⟨c, rest, rfl⟩ := List.exists_cons_of_ne_nil hne
  have hc : isCidrChar c = true := h c List.mem_cons_self
  have hindicators : c ∉ indicators := by
    intro hmem
    have hnone : ∀ i ∈ indicators, (!isCidrChar i) = true := List.all_eq_true.mp rfl
    have hc' := hnone c hmem
    rw [hc] at hc'
    cases hc'
  rw [startsPlain]
  split_ifs with hspecial
  · have hcc : c = ':' := by
      rcases hspecial with rfl | rfl | rfl
      · exact absurd hc (by decide)
      · exact absurd hc (by decide)
      · rfl
    subst hcc
    cases rest with
    | nil => exact absurd rfl hcolon
    | cons b rest =>
      have hb : YamlScalars.isBlank b = false := (isInline_of_isCidrChar (h b (by simp))).2
      simp [hb]
  · rw [(isInline_of_isCidrChar hc).2]
    simpa using hindicators

theorem isPlainScalar_iff_of_cidrChars (hne : text ≠ []) (hcolon : text ≠ [':']) :
    isPlainScalar text = true ↔ text.getLast? ≠ some ':' := by
  rw [isPlainScalar, startsPlain_of_cidrChars h hne hcolon, isPlain_of_cidrChars h, Bool.true_and,
    Bool.true_and, decide_eq_true_eq]

end Plain

theorem isCidrChar_of_isIpAddress {a : Str} (h : IsIpAddress a) : ∀ c ∈ a, isCidrChar c = true := by
  intro c hc
  rw [isCidrChar, h.isAddressChar hc]
  rfl

theorem ne_colon_of_isIpAddress {a : Str} (h : IsIpAddress a) : a ≠ [':'] := by
  rintro rfl
  exact absurd h (by decide)

theorem isPlainScalar_address_iff {a : Str} (h : IsIpAddress a) :
    isPlainScalar a = true ↔ a.getLast? ≠ some ':' :=
  isPlainScalar_iff_of_cidrChars (isCidrChar_of_isIpAddress h) h.ne_nil (ne_colon_of_isIpAddress h)

theorem isCidrChar_cidr {a : Str} (h : IsIpAddress a) (length : ℕ) :
    ∀ c ∈ cidr a length, isCidrChar c = true := by
  intro c hc
  rw [cidr, List.mem_append, List.mem_cons] at hc
  rcases hc with hc | rfl | hc
  · exact isCidrChar_of_isIpAddress h c hc
  · rfl
  · rw [isCidrChar, isAddressChar, isHexDigit, isDigit_of_mem_decimal hc]
    rfl

/-- With its length, every address is a plain scalar. -/
theorem isPlainScalar_cidr {a : Str} (h : IsIpAddress a) (length : ℕ) :
    isPlainScalar (cidr a length) = true := by
  have hdecimal := decimal_ne_nil length
  refine (isPlainScalar_iff_of_cidrChars (isCidrChar_cidr h length) ?_ ?_).mpr ?_
  · simp [cidr]
  · intro hcolon
    have hslash : '/' ∈ cidr a length := by simp [cidr]
    rw [hcolon] at hslash
    exact absurd hslash (by decide)
  · intro hlast
    have hmem : ':' ∈ decimal length := by
      rw [cidr, List.getLast?_append_of_ne_nil _ (List.cons_ne_nil _ _),
        List.getLast?_cons_of_ne_nil hdecimal] at hlast
      exact List.mem_of_getLast? hlast
    exact absurd (isDigit_of_mem_decimal hmem) (by decide)

section Servers
variable {ns : Str} (h : ∀ entry ∈ split ',' ns, IsEntry entry)
include h

theorem isIpAddress_of_mem_nameservers {a : Str} (ha : a ∈ nameservers ns) : IsIpAddress a := by
  obtain ⟨hmem, hne⟩ := List.mem_filter.mp ha
  obtain ⟨entry, hentry, rfl⟩ := List.mem_map.mp hmem
  obtain ⟨left, middle, right, rfl, hleft, hright, hmiddle⟩ := h entry hentry
  rw [filter_entry hmiddle hleft hright] at hne ⊢
  exact hmiddle.resolve_left (of_decide_eq_true hne)

theorem takeWhile_nameServers : ns.takeWhile (· ≠ '\n') = ns := by
  refine List.takeWhile_eq_self_iff.mpr fun c hc => decide_eq_true ?_
  rintro rfl
  rcases @mem_split ',' _ _ hc with hcomma | ⟨entry, hentry, hmem⟩
  · exact absurd hcomma (by decide)
  · exact absurd hmem ((h entry hentry).not_mem (by decide))

end Servers

theorem printfB_cons {c : Char} (hc : c ≠ '\\') (text : Str) :
    printfB (c :: text) = (printfB text).map (c :: ·) := by
  cases text with
  | nil => rfl
  | cons e text => rw [printfB, if_neg hc]

theorem printfB_append {front : Str} (h : '\\' ∉ front) (text : Str) :
    printfB (front ++ text) = (printfB text).map (front ++ ·) := by
  induction front with
  | nil =>
    rw [List.nil_append]
    exact Option.map_id'.symm
  | cons c front ih =>
    rw [List.mem_cons, not_or] at h
    rw [List.cons_append, printfB_cons (Ne.symm h.1), ih h.2, Option.map_map]
    rfl

/-- Lines without a backslash come out as they went in. -/
theorem printfB_collected {lines : List Str} (h : ∀ line ∈ lines, '\\' ∉ line) :
    printfB (lines.flatMap collected) = some (lines.flatMap echo) := by
  induction lines with
  | nil => rfl
  | cons line lines ih =>
    obtain ⟨hline, hlines⟩ := List.forall_mem_cons.mp h
    have hsplit : (line :: lines).flatMap collected = line ++ '\\' :: 'n' ::
        lines.flatMap collected := by
      rw [List.flatMap_cons, collected, List.append_assoc]
      rfl
    have hfeed : ∀ text, printfB ('\\' :: 'n' :: text) = (printfB text).map ('\n' :: ·) :=
      fun _ => rfl
    rw [hsplit, printfB_append hline, hfeed, ih hlines, List.flatMap_cons, echo, List.append_assoc]
    rfl

def itemText (a : Str) : Str := ("        - " : Str) ++ a

def routeTexts (gw4 gw6 : Str) : List Str :=
  (if gw4 = [] ∧ gw6 = [] then [] else ["      routes:".toList]) ++
    (if gw4 = [] then [] else ["        - to: 0.0.0.0/0".toList,
      ("          via: " : Str) ++ gw4]) ++
    (if gw6 = [] then [] else
      ["        - to: ::/0".toList, ("          via: " : Str) ++ gw6,
        "          on-link: true".toList])

theorem routesYaml_eq (gw4 gw6 : Str) :
    routesYaml gw4 gw6 = (routeTexts gw4 gw6).flatMap collected := by
  unfold routesYaml routeTexts
  by_cases h4 : gw4 = []
  · by_cases h6 : gw6 = []
    · simp [h4, h6]
    · simp [h4, h6]
  · by_cases h6 : gw6 = []
    · simp [h4, h6]
    · simp [h4, h6, collected]

/-- The lines of the routes, of the name servers, and of the whole document. -/
def routeBlocks (gw4 gw6 : Str) : List (Line × List Line) :=
  (if gw4 = [] then [] else
    [itemBlock 8 "to: 0.0.0.0/0" (blockLines [leafBlock 10 "via" gw4])]) ++
  (if gw6 = [] then [] else
    [itemBlock 8 "to: ::/0" (blockLines [leafBlock 10 "via" gw6, leafBlock 10 "on-link" "true"])])

def addressBlocks (addresses : List Str) : List (Line × List Line) :=
  addresses.map fun a => itemBlock 8 a []

def settingBlocks (addresses : List Str) (gw4 gw6 : Str) (servers : List Str) :
    List (Line × List Line) :=
  [leafBlock 6 "dhcp4" "false", leafBlock 6 "dhcp6" "false",
    fieldBlock 6 "addresses" (blockLines (addressBlocks addresses))] ++
  (if (routeBlocks gw4 gw6).isEmpty then [] else
    [fieldBlock 6 "routes" (blockLines (routeBlocks gw4 gw6))]) ++
  (if servers.isEmpty then [] else
    [fieldBlock 6 "nameservers" (blockLines
      [fieldBlock 8 "addresses" (blockLines (addressBlocks servers))])])

def interfaceBlocks (interface : Str) (settings : List (Line × List Line)) :
    List (Line × List Line) :=
  [leafBlock 2 "version" "2",
    fieldBlock 2 "ethernets" (blockLines [fieldBlock 4 interface (blockLines settings)])]

def documentBlocks (interface : Str) (settings : List (Line × List Line)) :
    List (Line × List Line) :=
  [fieldBlock 0 "network" (blockLines (interfaceBlocks interface settings))]

/-- The lines of the blocks as texts. -/
def lineTexts (blocks : List (Line × List Line)) : List Str :=
  (blockLines blocks).map fun line => List.replicate line.indent ' ' ++ line.content

theorem render_blockLines (blocks : List (Line × List Line)) :
    render (blockLines blocks) = (lineTexts blocks).flatMap echo := by
  rw [render, lineTexts, List.flatMap_map]
  rfl

theorem lineTexts_append (blocks blocks' : List (Line × List Line)) :
    lineTexts (blocks ++ blocks') = lineTexts blocks ++ lineTexts blocks' := by
  rw [lineTexts, blockLines, List.flatMap_append, List.map_append]
  rfl

theorem lineTexts_fieldBlock (n : ℕ) (key : Str) (blocks : List (Line × List Line)) :
    lineTexts [fieldBlock n key (blockLines blocks)] =
      (List.replicate n ' ' ++ (key ++ [':'])) :: lineTexts blocks := by
  rw [lineTexts, blockLines, List.flatMap_cons, List.flatMap_nil, List.append_nil]
  rfl

theorem lineTexts_addressBlocks (addresses : List Str) :
    lineTexts (addressBlocks addresses) = addresses.map itemText := by
  induction addresses with
  | nil => rfl
  | cons a addresses ih => exact congrArg (itemText a :: ·) ih

theorem lineTexts_routes (gw4 gw6 : Str) :
    lineTexts (if (routeBlocks gw4 gw6).isEmpty then [] else
      [fieldBlock 6 "routes" (blockLines (routeBlocks gw4 gw6))]) = routeTexts gw4 gw6 := by
  cases gw4 <;> cases gw6 <;> rfl

theorem lineTexts_settingBlocks (addresses : List Str) (gw4 gw6 : Str) (servers : List Str) :
    lineTexts (settingBlocks addresses gw4 gw6 servers) =
      ["      dhcp4: false".toList, "      dhcp6: false".toList, "      addresses:".toList] ++
        addresses.map itemText ++ routeTexts gw4 gw6 ++
        (if servers.isEmpty then [] else
          ["      nameservers:".toList, "        addresses:".toList] ++ servers.map itemText) := by
  have haddresses : lineTexts [leafBlock 6 "dhcp4" "false", leafBlock 6 "dhcp6" "false",
      fieldBlock 6 "addresses" (blockLines (addressBlocks addresses))] =
      ["      dhcp4: false".toList, "      dhcp6: false".toList, "      addresses:".toList] ++
        addresses.map itemText := by
    have hfield := lineTexts_fieldBlock 6 "addresses" (addressBlocks addresses)
    rw [lineTexts_addressBlocks] at hfield
    exact (lineTexts_append [leafBlock 6 "dhcp4" "false", leafBlock 6 "dhcp6" "false"] _).trans
      (congrArg (_ ++ ·) hfield)
  have hservers : lineTexts (if servers.isEmpty then [] else
      [fieldBlock 6 "nameservers"
        (blockLines [fieldBlock 8 "addresses" (blockLines (addressBlocks servers))])]) =
      if servers.isEmpty then [] else
        ["      nameservers:".toList, "        addresses:".toList] ++ servers.map itemText := by
    split_ifs
    · rfl
    · rw [lineTexts_fieldBlock, lineTexts_fieldBlock, lineTexts_addressBlocks]
      rfl
  rw [settingBlocks, lineTexts_append, lineTexts_append, haddresses, lineTexts_routes, hservers]

theorem lineTexts_documentBlocks (interface : Str) (settings : List (Line × List Line)) :
    lineTexts (documentBlocks interface settings) =
      ["network:".toList, "  version: 2".toList, "  ethernets:".toList,
        ("    " : Str) ++ interface ++ (":" : Str)] ++ lineTexts settings := by
  have hinterface : lineTexts (interfaceBlocks interface settings) =
      "  version: 2".toList :: "  ethernets:".toList :: (("    " : Str) ++ (interface ++ [':'])) ::
        lineTexts settings := by
    have hfield := lineTexts_fieldBlock 2 "ethernets" [fieldBlock 4 interface (blockLines settings)]
    rw [lineTexts_fieldBlock 4] at hfield
    exact (lineTexts_append [leafBlock 2 "version" "2"] _).trans (congrArg (_ ++ ·) hfield)
  rw [documentBlocks, lineTexts_fieldBlock, hinterface, ← List.append_assoc]
  rfl

theorem flatMap_collected_eq_nil {lines : List Str} : lines.flatMap collected = [] ↔
    lines = [] := by
  cases lines with
  | nil => exact iff_of_true rfl rfl
  | cons line lines => simp [collected]

/-- What holds of the parts that are always written holds of those that may be left out. -/
theorem forall_mem_unless {α : Type} {c : Prop} [Decidable c] {parts : List α} {p : α → Prop}
    (h : ∀ a ∈ parts, p a) : ∀ a ∈ (if c then [] else parts), p a := by
  split_ifs
  · exact List.forall_mem_nil p
  · exact h

theorem not_mem_itemText {a : Str} (h : ∀ c ∈ a, isCidrChar c = true) : '\\' ∉ itemText a := by
  unfold itemText
  intro hmem
  rcases List.mem_append.mp hmem with hmem | hmem
  · exact absurd hmem (by decide)
  · exact absurd (h _ hmem) (by decide)

theorem not_mem_routeTexts {gw4 gw6 : Str} (h4 : ∀ c ∈ gw4, isCidrChar c = true)
    (h6 : ∀ c ∈ gw6, isCidrChar c = true) : ∀ line ∈ routeTexts gw4 gw6, '\\' ∉ line := by
  have hvia : ∀ {g : Str}, (∀ c ∈ g, isCidrChar c = true) →
      '\\' ∉ ("          via: " : Str) ++ g := by
    intro g h hmem
    rcases List.mem_append.mp hmem with hmem | hmem
    · exact absurd hmem (by decide)
    · exact absurd (h _ hmem) (by decide)
  unfold routeTexts
  rw [List.forall_mem_append, List.forall_mem_append]
  refine ⟨⟨forall_mem_unless ?_, forall_mem_unless ?_⟩, forall_mem_unless ?_⟩
  · exact List.forall_mem_singleton.mpr (by decide)
  · simp only [List.forall_mem_cons]
    exact ⟨by decide, hvia h4, List.forall_mem_nil _⟩
  · simp only [List.forall_mem_cons]
    exact ⟨by decide, hvia h6, by decide, List.forall_mem_nil _⟩

namespace Network
variable (n : Network)

theorem addresses_spec {a : Str} (h : a ∈ n.addresses) :
    (∀ c ∈ a, isCidrChar c = true) ∧ isPlainScalar a = true := by
  rcases List.mem_cons.mp h with rfl | h
  · exact ⟨isCidrChar_cidr (Or.inl n.ipv4.1.property) _,
      isPlainScalar_cidr (Or.inl n.ipv4.1.property) _⟩
  · obtain ⟨a', -, rfl⟩ := Option.map_eq_some_iff.mp (Option.mem_toList.mp h)
    exact ⟨isCidrChar_cidr (Or.inr a'.1.property) _, isPlainScalar_cidr (Or.inr a'.1.property) _⟩

theorem gw4_chars : ∀ c ∈ n.gw4, isCidrChar c = true := by
  unfold gw4
  cases n.gateway4 with
  | none =>
    intro c hc
    cases hc
  | some g => exact isCidrChar_of_isIpAddress (Or.inl g.property)

theorem gw6_chars : ∀ c ∈ n.gw6, isCidrChar c = true := by
  unfold gw6
  cases n.gateway6 with
  | none =>
    intro c hc
    cases hc
  | some g => exact isCidrChar_of_isIpAddress (Or.inr g.property)

theorem kept4_chars : ∀ c ∈ kept4 n.gw4, isCidrChar c = true := by
  unfold kept4
  split_ifs
  · intro c hc
    cases hc
  · exact n.gw4_chars

theorem kept6_chars : ∀ c ∈ kept6 n.gw6, isCidrChar c = true := by
  unfold kept6
  split_ifs
  · intro c hc
    cases hc
  · exact n.gw6_chars

/-- The blocks of the file that the script writes. -/
def written : List (Line × List Line) :=
  documentBlocks n.interface.val
    (settingBlocks n.addresses (kept4 n.gw4) (kept6 n.gw6) (nameservers n.nameServers.val))

theorem addrsYaml_eq (detected : Str) :
    addrsYaml (n.vars detected).v4 (n.vars detected).v6 =
      (n.addresses.map itemText).flatMap collected := by
  have hne : ∀ (a : Str) (length : ℕ), cidr a length ≠ [] := fun a length => by simp [cidr]
  unfold addrsYaml vars addresses
  dsimp only
  cases n.ipv6 with
  | none =>
    rw [Option.map_none, Option.getD_none, if_pos (hne _ _), if_neg (not_not.mpr rfl)]
    rfl
  | some a =>
    rw [Option.map_some, Option.getD_some, if_pos (hne _ _), if_pos (hne _ _)]
    exact congrArg (collected _ ++ ·) (List.append_nil (collected _)).symm

theorem nsYaml_eq :
    nsYaml n.nameServers.val = ((nameservers n.nameServers.val).map itemText).flatMap
      collected := by
  rw [nsYaml, takeWhile_nameServers n.nameServers.property, List.flatMap_map]
  rfl

theorem netplanFile_eq (detected : Str) :
    netplanFile (n.vars detected) = some (render (blockLines n.written)) := by
  have haddrs : printfB (addrsYaml (n.vars detected).v4 (n.vars detected).v6) =
      some ((n.addresses.map itemText).flatMap echo) := by
    rw [n.addrsYaml_eq detected]
    apply printfB_collected
    intro line hline
    obtain ⟨a, ha, rfl⟩ := List.mem_map.mp hline
    exact not_mem_itemText (n.addresses_spec ha).1
  have hroutes : printfB (routesYaml (kept4 n.gw4) (kept6 n.gw6)) =
      some ((routeTexts (kept4 n.gw4) (kept6 n.gw6)).flatMap echo) := by
    rw [routesYaml_eq]
    exact printfB_collected (not_mem_routeTexts n.kept4_chars n.kept6_chars)
  have hns : printfB (nsYaml n.nameServers.val) =
      some (((nameservers n.nameServers.val).map itemText).flatMap echo) := by
    rw [n.nsYaml_eq]
    apply printfB_collected
    intro line hline
    obtain ⟨a, ha, rfl⟩ := List.mem_map.mp hline
    exact not_mem_itemText (isCidrChar_of_isIpAddress
      (isIpAddress_of_mem_nameservers n.nameServers.property ha))
  have haddresses : addrsYaml (n.vars detected).v4 (n.vars detected).v6 ≠ [] := by
    rw [n.addrsYaml_eq detected, Ne, flatMap_collected_eq_nil]
    exact List.cons_ne_nil _ _
  have hroutesText : (if routesYaml (kept4 n.gw4) (kept6 n.gw6) ≠ [] then
      (routeTexts (kept4 n.gw4) (kept6 n.gw6)).flatMap echo else []) =
      (routeTexts (kept4 n.gw4) (kept6 n.gw6)).flatMap echo := by
    rw [routesYaml_eq]
    split_ifs with hnil
    · rfl
    · rw [flatMap_collected_eq_nil.mp (not_not.mp hnil)]
      rfl
  have hnsText : (if nsYaml n.nameServers.val ≠ [] then echo "      nameservers:" ++
    echo "        addresses:" ++
      ((nameservers n.nameServers.val).map itemText).flatMap echo else []) =
      (if (nameservers n.nameServers.val).isEmpty then [] else
        ["      nameservers:".toList, "        addresses:".toList] ++
          (nameservers n.nameServers.val).map itemText).flatMap echo := by
    rw [n.nsYaml_eq]
    cases nameservers n.nameServers.val with
    | nil => rfl
    | cons a servers =>
      rw [if_pos (by simp [collected]), List.append_assoc]
      rfl
  have hifn : (if (n.vars detected).ifn =
    [] then (n.vars detected).detected else (n.vars detected).ifn) =
      n.interface.val := if_neg n.interface.property
  have hgw4 : (n.vars detected).gw4 = n.gw4 := rfl
  have hgw6 : (n.vars detected).gw6 = n.gw6 := rfl
  have hnsrv : (n.vars detected).nsrv = n.nameServers.val := rfl
  unfold netplanFile
  dsimp only
  rw [hifn, hgw4, hgw6, hnsrv, haddrs, hroutes, hns, Option.bind_eq_bind, Option.bind_some,
    Option.bind_some, Option.bind_some, if_pos haddresses, if_pos n.interface.property, hroutesText,
    hnsText, written,
    render_blockLines, lineTexts_documentBlocks, lineTexts_settingBlocks]
  simp only [List.flatMap_append, List.flatMap_cons, List.flatMap_nil, List.append_assoc,
    List.append_nil, Option.pure_def]

end Network

section Reading
variable (depth : ℕ)

theorem isItem_addressBlocks (addresses : List Str) : ∀ b ∈ addressBlocks addresses,
    IsItem 8 b := by
  intro b hb
  obtain ⟨a, -, rfl⟩ := List.mem_map.mp hb
  exact isItem_itemBlock (List.forall_mem_nil _)

theorem readNode_addressBlocks {addresses : List Str} (hne : addresses ≠ [])
    (h : ∀ a ∈ addresses, isPlainScalar a = true) :
    readNode (depth + 2) (blockLines (addressBlocks addresses)) =
      some (.seq (addresses.map .scalar)) := by
  have hblocks : addressBlocks addresses ≠ [] := mt List.map_eq_nil_iff.mp hne
  have hitems : (addressBlocks addresses).mapM (readItem (readNode (depth + 1)) 8) =
      some (addresses.map .scalar) := mapM_map_eq_some fun a ha => readItem_leaf depth (h a ha)
  rw [readNode_seq hblocks (depth + 1) (isItem_addressBlocks addresses), hitems, Option.map_some]

section Routes
variable {gw : Str} (hne : gw ≠ []) (h : ∀ c ∈ gw, isCidrChar c = true)
include hne h

theorem readField_via (read : List Line → Option Yaml) :
    readField read 10 (leafBlock 10 "via" gw) =
      if isPlainScalar gw then some ("via".toList, .scalar gw) else none := by
  have hhead : gw.head?.any YamlScalars.isBlank = false := by
    obtain ⟨c, rest, rfl⟩ := List.exists_cons_of_ne_nil hne
    exact (isInline_of_isCidrChar (h c List.mem_cons_self)).2
  rw [readField_leafBlock (by decide) hne hhead, readScalar]
  split_ifs <;> rfl

theorem readItem_route4 : readItem (readNode (depth + 1)) 8
    (itemBlock 8 "to: 0.0.0.0/0" (blockLines [leafBlock 10 "via" gw])) =
      if isPlainScalar gw then some (route4 gw) else none := by
  have hfields : ∀ b ∈ [leafBlock 10 "to" "0.0.0.0/0", leafBlock 10 "via" gw], IsField 10 b := by
    simp only [List.forall_mem_cons]
    exact ⟨isField_leafBlock (by decide), isField_leafBlock (by decide), List.forall_mem_nil _⟩
  have hto : readField (readNode depth) 10 (leafBlock 10 "to" "0.0.0.0/0") =
      some ("to".toList, .scalar "0.0.0.0/0".toList) := readField_leaf (by decide) (by decide)
  rw [readItem_itemBlock (by decide) (by decide)]
  refine (readNode_map (List.cons_ne_nil _ _) depth hfields).trans ?_
  rw [List.mapM_cons, List.mapM_cons, List.mapM_nil, hto, readField_via hne h]
  split_ifs <;> rfl

theorem readItem_route6 : readItem (readNode (depth + 1)) 8
    (itemBlock 8 "to: ::/0" (blockLines [leafBlock 10 "via" gw, leafBlock 10 "on-link" "true"])) =
      if isPlainScalar gw then some (route6 gw) else none := by
  have hfields : ∀ b ∈ [leafBlock 10 "to" "::/0", leafBlock 10 "via" gw,
    leafBlock 10 "on-link" "true"],
      IsField 10 b := by
    simp only [List.forall_mem_cons]
    exact ⟨isField_leafBlock (by decide), isField_leafBlock (by decide),
      isField_leafBlock (by decide),
      List.forall_mem_nil _⟩
  have hto : readField (readNode depth) 10 (leafBlock 10 "to" "::/0") =
      some ("to".toList, .scalar "::/0".toList) := readField_leaf (by decide) (by decide)
  have honLink : readField (readNode depth) 10 (leafBlock 10 "on-link" "true") =
      some ("on-link".toList, .scalar "true".toList) := readField_leaf (by decide) (by decide)
  rw [readItem_itemBlock (by decide) (by decide)]
  refine (readNode_map (List.cons_ne_nil _ _) depth hfields).trans ?_
  rw [List.mapM_cons, List.mapM_cons, List.mapM_cons, List.mapM_nil, hto,
    readField_via hne h, honLink]
  split_ifs <;> rfl

end Routes

theorem isItem_routeBlocks (gw4 gw6 : Str) : ∀ b ∈ routeBlocks gw4 gw6, IsItem 8 b := by
  have hleaf : ∀ {leaves : List (Line × List Line)}, (∀ b ∈ leaves, IsField 10 b) →
      ∀ line ∈ blockLines leaves, inItem 8 line = true := fun h => inItem_of_fields h (by decide)
  unfold routeBlocks
  rw [List.forall_mem_append]
  refine ⟨forall_mem_unless ?_, forall_mem_unless ?_⟩
  · refine List.forall_mem_singleton.mpr (isItem_itemBlock (hleaf ?_))
    exact List.forall_mem_singleton.mpr (isField_leafBlock (by decide))
  · refine List.forall_mem_singleton.mpr (isItem_itemBlock (hleaf ?_))
    simp only [List.forall_mem_cons]
    exact ⟨isField_leafBlock (by decide), isField_leafBlock (by decide), List.forall_mem_nil _⟩

/-- The second gateway is left to be looked at. -/
theorem readNode_routeBlocks {gw4 gw6 : Str} (hne : routeBlocks gw4 gw6 ≠ [])
    (h4 : ∀ c ∈ gw4, isCidrChar c = true) (hplain4 : gw4 = [] ∨ isPlainScalar gw4 = true)
    (h6 : ∀ c ∈ gw6, isCidrChar c = true) :
    readNode (depth + 2) (blockLines (routeBlocks gw4 gw6)) =
      if gw6 = [] ∨ isPlainScalar gw6 =
        true then some (.seq (defaultRoutes gw4 gw6)) else none := by
  rw [readNode_seq hne (depth + 1) (isItem_routeBlocks gw4 gw6), routeBlocks, List.mapM_append]
  have hfirst : (if gw4 = [] then [] else
      [itemBlock 8 "to: 0.0.0.0/0" (blockLines [leafBlock 10 "via" gw4])]).mapM
        (readItem (readNode (depth + 1)) 8) = some (if gw4 = [] then [] else [route4 gw4]) := by
    split_ifs with hnil
    · rfl
    · rw [List.mapM_cons, List.mapM_nil, readItem_route4 depth hnil h4,
        if_pos (hplain4.resolve_left hnil)]
      rfl
  have hsecond : (if gw6 = [] then [] else
      [itemBlock 8 "to: ::/0" (blockLines
        [leafBlock 10 "via" gw6, leafBlock 10 "on-link" "true"])]).mapM
        (readItem (readNode (depth + 1)) 8) =
      if gw6 = [] ∨ isPlainScalar gw6 =
          true then some (if gw6 = [] then [] else [route6 gw6]) else none := by
    by_cases hnil : gw6 = []
    · rw [if_pos hnil, if_pos (Or.inl hnil), if_pos hnil]
      rfl
    · rw [if_neg hnil, List.mapM_cons, List.mapM_nil, readItem_route6 depth hnil h6, if_neg hnil]
      simp only [hnil, false_or]
      split_ifs <;> rfl
  rw [hfirst, hsecond]
  by_cases hplain6 : gw6 = [] ∨ isPlainScalar gw6 = true
  · rw [if_pos hplain6, if_pos hplain6]
    rfl
  · rw [if_neg hplain6, if_neg hplain6]
    rfl

section Settings
variable {addresses : List Str} {gw4 gw6 : Str} {servers : List Str}

theorem isField_nameservers :
    ∀ b ∈ [fieldBlock 8 "addresses" (blockLines (addressBlocks servers))], IsField 8 b :=
  List.forall_mem_singleton.mpr
    (isField_fieldBlock (by decide) (inField_of_items (isItem_addressBlocks servers) le_rfl))

theorem isField_settingBlocks : ∀ b ∈ settingBlocks addresses gw4 gw6 servers, IsField 6 b := by
  unfold settingBlocks
  rw [List.forall_mem_append, List.forall_mem_append]
  refine ⟨⟨?_, forall_mem_unless (List.forall_mem_singleton.mpr ?_)⟩,
    forall_mem_unless (List.forall_mem_singleton.mpr ?_)⟩
  · simp only [List.forall_mem_cons]
    exact ⟨isField_leafBlock (by decide), isField_leafBlock (by decide),
      isField_fieldBlock (by decide)
      (inField_of_items (isItem_addressBlocks addresses) (by decide)), List.forall_mem_nil _⟩
  · exact isField_fieldBlock (by decide) (inField_of_items (isItem_routeBlocks gw4 gw6) (by decide))
  · exact isField_fieldBlock (by decide) (inField_of_fields isField_nameservers (by decide))

theorem isEmpty_routeBlocks (gw4 gw6 : Str) :
    (routeBlocks gw4 gw6).isEmpty = (defaultRoutes gw4 gw6).isEmpty := by
  cases gw4 <;> cases gw6 <;> rfl

theorem readNode_nameservers (hne : servers ≠ []) (h : ∀ a ∈ servers, isPlainScalar a = true) :
    readNode (depth + 3) (blockLines
      [fieldBlock 8 "addresses" (blockLines (addressBlocks servers))]) =
      some (.map [("addresses".toList, .seq (servers.map .scalar))]) := by
  rw [readNode_map (List.cons_ne_nil _ _) (depth + 2) isField_nameservers, List.mapM_cons,
    List.mapM_nil, readField_fieldBlock (by decide), readNode_addressBlocks depth hne h]
  rfl

theorem mapM_addresses (hne : addresses ≠ []) (h : ∀ a ∈ addresses, isPlainScalar a = true) :
    [leafBlock 6 "dhcp4" "false", leafBlock 6 "dhcp6" "false",
      fieldBlock 6 "addresses" (blockLines (addressBlocks addresses))].mapM
        (readField (readNode (depth + 2)) 6) =
      some [("dhcp4".toList, .scalar "false".toList), ("dhcp6".toList, .scalar "false".toList),
        ("addresses".toList, .seq (addresses.map .scalar))] := by
  have hdhcp4 : readField (readNode (depth + 2)) 6 (leafBlock 6 "dhcp4" "false") =
      some ("dhcp4".toList, .scalar "false".toList) := readField_leaf (by decide) (by decide)
  have hdhcp6 : readField (readNode (depth + 2)) 6 (leafBlock 6 "dhcp6" "false") =
      some ("dhcp6".toList, .scalar "false".toList) := readField_leaf (by decide) (by decide)
  rw [List.mapM_cons, List.mapM_cons, List.mapM_cons, List.mapM_nil, hdhcp4, hdhcp6,
    readField_fieldBlock (by decide), readNode_addressBlocks depth hne h]
  rfl

theorem mapM_routes (h4 : ∀ c ∈ gw4, isCidrChar c = true)
    (hplain4 : gw4 = [] ∨ isPlainScalar gw4 = true) (h6 : ∀ c ∈ gw6, isCidrChar c = true) :
    (if (routeBlocks gw4 gw6).isEmpty then [] else
      [fieldBlock 6 "routes" (blockLines (routeBlocks gw4 gw6))]).mapM
        (readField (readNode (depth + 2)) 6) =
      if gw6 = [] ∨ isPlainScalar gw6 =
        true then some (if (defaultRoutes gw4 gw6).isEmpty then [] else
        [("routes".toList, .seq (defaultRoutes gw4 gw6))]) else none := by
  rw [isEmpty_routeBlocks]
  by_cases hempty : (defaultRoutes gw4 gw6).isEmpty = true
  · have hnil : gw6 = [] := by
      cases gw6 with
      | nil => rfl
      | cons c gw6 => simp [defaultRoutes] at hempty
    rw [if_pos hempty, if_pos (Or.inl hnil), if_pos hempty]
    rfl
  · have hblocks : routeBlocks gw4 gw6 ≠ [] := by
      intro hnil
      rw [← isEmpty_routeBlocks, hnil] at hempty
      exact hempty rfl
    rw [if_neg hempty, if_neg hempty, List.mapM_cons, List.mapM_nil,
      readField_fieldBlock (by decide),
      readNode_routeBlocks depth hblocks h4 hplain4 h6]
    by_cases hplain6 : gw6 = [] ∨ isPlainScalar gw6 = true
    · rw [if_pos hplain6, if_pos hplain6]
      rfl
    · rw [if_neg hplain6, if_neg hplain6]
      rfl

theorem mapM_nameservers (h : ∀ a ∈ servers, isPlainScalar a = true) :
    (if servers.isEmpty then [] else [fieldBlock 6 "nameservers"
      (blockLines [fieldBlock 8 "addresses" (blockLines (addressBlocks servers))])]).mapM
        (readField (readNode (depth + 3)) 6) =
      some (if servers.isEmpty then [] else
        [("nameservers".toList, .map [("addresses".toList, .seq (servers.map .scalar))])]) := by
  cases servers with
  | nil => rfl
  | cons a rest =>
    rw [if_neg (by simp), if_neg (by simp), List.mapM_cons, List.mapM_nil,
      readField_fieldBlock (by decide),
      readNode_nameservers depth (List.cons_ne_nil a rest) h]
    rfl

/-- All of the settings but the second gateway are known to be plain. -/
theorem readNode_settingBlocks (haddresses : addresses ≠ [])
    (hplain : ∀ a ∈ addresses, isPlainScalar a = true) (h4 : ∀ c ∈ gw4, isCidrChar c = true)
    (hplain4 : gw4 = [] ∨ isPlainScalar gw4 = true) (h6 : ∀ c ∈ gw6, isCidrChar c = true)
    (hservers : ∀ a ∈ servers, isPlainScalar a = true) :
    readNode (depth + 4) (blockLines (settingBlocks addresses gw4 gw6 servers)) =
      if gw6 = [] ∨ isPlainScalar gw6 = true then
        some (.map (settings addresses (defaultRoutes gw4 gw6) servers)) else none := by
  have hne : settingBlocks addresses gw4 gw6 servers ≠ [] := List.cons_ne_nil _ _
  rw [readNode_map hne (depth + 3) isField_settingBlocks, settingBlocks, List.mapM_append,
    List.mapM_append, mapM_addresses (depth + 1) haddresses hplain,
    mapM_routes (depth + 1) h4 hplain4 h6,
    mapM_nameservers depth hservers]
  by_cases hplain6 : gw6 = [] ∨ isPlainScalar gw6 = true
  · rw [if_pos hplain6, if_pos hplain6]
    rfl
  · rw [if_neg hplain6, if_neg hplain6]
    rfl

end Settings

theorem readNode_documentBlocks {interface : Str} {settings : List (Line × List Line)}
    (hinterface : isPlainKey interface = true) (hsettings : ∀ b ∈ settings, IsField 6 b) :
    readNode (depth + 3) (blockLines (documentBlocks interface settings)) =
      (readNode depth (blockLines settings)).map (netplan interface) := by
  have h4 : ∀ b ∈ [fieldBlock 4 interface (blockLines settings)], IsField 4 b :=
    List.forall_mem_singleton.mpr
      (isField_fieldBlock hinterface (inField_of_fields hsettings (by decide)))
  have h2 : ∀ b ∈ interfaceBlocks interface settings, IsField 2 b := by
    intro b hb
    rcases List.mem_pair.mp hb with rfl | rfl
    · exact isField_leafBlock (by decide)
    · exact isField_fieldBlock (by decide) (inField_of_fields h4 (by decide))
  have h0 : ∀ b ∈ documentBlocks interface settings, IsField 0 b :=
    List.forall_mem_singleton.mpr
      (isField_fieldBlock (by decide) (inField_of_fields h2 (by decide)))
  have hne0 : documentBlocks interface settings ≠ [] := List.cons_ne_nil _ _
  have hne2 : interfaceBlocks interface settings ≠ [] := List.cons_ne_nil _ _
  have hversion : readField (readNode (depth + 1)) 2 (leafBlock 2 "version" "2") =
      some ("version".toList, .scalar "2".toList) := readField_leaf (by decide) (by decide)
  rw [readNode_map hne0 (depth + 2) h0, documentBlocks, List.mapM_cons, List.mapM_nil,
    readField_fieldBlock (by decide), readNode_map hne2 (depth + 1) h2, interfaceBlocks,
      List.mapM_cons,
    List.mapM_cons, List.mapM_nil, hversion, readField_fieldBlock (by decide),
    readNode_map (List.cons_ne_nil _ _) depth h4, List.mapM_cons, List.mapM_nil,
      readField_fieldBlock hinterface]
  cases readNode depth (blockLines settings) <;> rfl

end Reading

section Written

theorem inline_of_cidrChars {a : Str} (h : ∀ c ∈ a, isCidrChar c = true) : ∀ c ∈ a,
    isInline c = true :=
  fun c hc => (isInline_of_isCidrChar (h c hc)).1

theorem blockWritten_leaf {n : ℕ} {key value : Str} (hn : n ≠ 0) (hkey : isPlainKey key = true)
    (hvalue : ∀ c ∈ value, isInline c = true) : BlockWritten (leafBlock n key value) := by
  refine ⟨isWritten_key hkey (fun c hc => ?_) fun h0 => absurd h0 hn, List.forall_mem_nil _⟩
  rcases List.mem_cons.mp hc with rfl | hc
  · decide
  · exact hvalue c hc

theorem blockWritten_field {n : ℕ} {key : Str} (hn : n ≠ 0) (hkey : isPlainKey key = true)
    {nested : List Line} (h : ∀ line ∈ nested, IsWritten line) :
    BlockWritten (fieldBlock n key nested) :=
  ⟨isWritten_key hkey (List.forall_mem_nil _) fun h0 => absurd h0 hn, h⟩

theorem isWritten_addressBlocks {addresses : List Str}
    (h : ∀ a ∈ addresses, ∀ c ∈ a, isCidrChar c = true) :
    ∀ line ∈ blockLines (addressBlocks addresses), IsWritten line := by
  apply isWritten_blockLines
  intro b hb
  obtain ⟨a, ha, rfl⟩ := List.mem_map.mp hb
  exact ⟨isWritten_item (by decide) (inline_of_cidrChars (h a ha)), List.forall_mem_nil _⟩

variable {gw4 gw6 : Str} (h4 : ∀ c ∈ gw4, isCidrChar c = true) (h6 : ∀ c ∈ gw6, isCidrChar c = true)
include h4 h6

theorem isWritten_routeBlocks : ∀ line ∈ blockLines (routeBlocks gw4 gw6), IsWritten line := by
  have hvia : ∀ {g : Str}, (∀ c ∈ g, isCidrChar c = true) → BlockWritten (leafBlock 10 "via" g) :=
    fun h => blockWritten_leaf (by decide) (by decide) (inline_of_cidrChars h)
  apply isWritten_blockLines
  unfold routeBlocks
  rw [List.forall_mem_append]
  refine ⟨forall_mem_unless (List.forall_mem_singleton.mpr ?_),
    forall_mem_unless (List.forall_mem_singleton.mpr ?_)⟩
  · refine ⟨isWritten_item (by decide) (List.all_eq_true.mp rfl), isWritten_blockLines ?_⟩
    exact List.forall_mem_singleton.mpr (hvia h4)
  · refine ⟨isWritten_item (by decide) (List.all_eq_true.mp rfl), isWritten_blockLines ?_⟩
    simp only [List.forall_mem_cons]
    exact ⟨hvia h6, blockWritten_leaf (by decide) (by decide) (List.all_eq_true.mp rfl),
      List.forall_mem_nil _⟩

theorem isWritten_settingBlocks {addresses servers : List Str}
    (haddresses : ∀ a ∈ addresses, ∀ c ∈ a, isCidrChar c = true)
    (hservers : ∀ a ∈ servers, ∀ c ∈ a, isCidrChar c = true) :
    ∀ line ∈ blockLines (settingBlocks addresses gw4 gw6 servers), IsWritten line := by
  have hfalse : ∀ c ∈ ("false" : Str), isInline c = true := List.all_eq_true.mp rfl
  apply isWritten_blockLines
  unfold settingBlocks
  rw [List.forall_mem_append, List.forall_mem_append]
  refine ⟨⟨?_, forall_mem_unless (List.forall_mem_singleton.mpr ?_)⟩,
    forall_mem_unless (List.forall_mem_singleton.mpr ?_)⟩
  · simp only [List.forall_mem_cons]
    exact ⟨blockWritten_leaf (by decide) (by decide) hfalse, blockWritten_leaf (by decide)
      (by decide) hfalse,
      blockWritten_field (by decide) (by decide) (isWritten_addressBlocks haddresses),
        List.forall_mem_nil _⟩
  · exact blockWritten_field (by decide) (by decide) (isWritten_routeBlocks h4 h6)
  · refine blockWritten_field (by decide) (by decide)
      (isWritten_blockLines (List.forall_mem_singleton.mpr ?_))
    exact blockWritten_field (by decide) (by decide) (isWritten_addressBlocks hservers)

end Written

theorem isWritten_documentBlocks {interface : Str} {settings : List (Line × List Line)}
    (hinterface : isPlainKey interface = true) (h : ∀ line ∈ blockLines settings, IsWritten line) :
    ∀ line ∈ blockLines (documentBlocks interface settings), IsWritten line := by
  have hethernets : BlockWritten (fieldBlock 2 "ethernets"
      (blockLines [fieldBlock 4 interface (blockLines settings)])) := by
    refine blockWritten_field (by decide) (by decide)
      (isWritten_blockLines (List.forall_mem_singleton.mpr ?_))
    exact blockWritten_field (by decide) hinterface h
  apply isWritten_blockLines
  refine List.forall_mem_singleton.mpr ?_
  refine ⟨isWritten_key (by decide) (List.forall_mem_nil _) (by decide),
    isWritten_blockLines fun b hb => ?_⟩
  rcases List.mem_pair.mp hb with rfl | rfl
  · exact blockWritten_leaf (by decide) (by decide) (List.all_eq_true.mp rfl)
  · exact hethernets

theorem eq_zero_of_isOctet {piece : Str} (h : isOctet piece = true) (hzero : IsAllZero piece) :
    piece = ['0'] := by
  simp only [isOctet, decide_eq_true_eq] at h
  obtain ⟨hne, hdigits, -, hleading, -⟩ := h
  obtain ⟨c, rest, rfl⟩ := List.exists_cons_of_ne_nil hne
  have hdigit : c.isDigit = true := List.all_eq_true.mp hdigits c List.mem_cons_self
  obtain rfl : c = '0' := by
    rcases hzero c List.mem_cons_self with hc | rfl | rfl
    · exact hc
    · exact absurd hdigit (by decide)
    · exact absurd hdigit (by decide)
  have hlength : ('0' :: rest).length = 1 := hleading.resolve_right fun hno => hno ⟨rest, rfl⟩
  rw [List.length_eq_zero_iff.mp (Nat.succ.inj hlength)]

/-- Octets have no leading zeros, so that zero has one spelling. -/
theorem eq_zero_of_isIpv4Address {g : Str} (h : isIpv4Address g = true) (hzero : IsAllZero g) :
    g = "0.0.0.0" := by
  simp only [isIpv4Address, decide_eq_true_eq] at h
  obtain ⟨a, b, c, d, hsplit⟩ := List.length_eq_four.mp h.1
  have hjoin : ['.'].intercalate (split '.' g) = g := List.intercalate_splitOn '.'
  have hg : a ++ '.' :: (b ++ '.' :: (c ++ '.' :: d)) = g := by
    rw [← hjoin, hsplit]
    simp
  have hoctets := h.2
  rw [hsplit] at hoctets
  simp only [List.all_cons, Bool.and_eq_true] at hoctets
  obtain ⟨ha, hb, hc, hd, -⟩ := hoctets
  rw [← hg] at hzero ⊢
  simp only [IsAllZero, List.forall_mem_append, List.forall_mem_cons] at hzero
  obtain ⟨ha0, -, hb0, -, hc0, -, hd0⟩ := hzero
  rw [eq_zero_of_isOctet ha ha0, eq_zero_of_isOctet hb hb0, eq_zero_of_isOctet hc hc0,
    eq_zero_of_isOctet hd hd0]
  rfl

namespace Network
variable (n : Network)

theorem kept4_eq : kept4 n.gw4 = asked n.gw4 := by
  unfold gw4
  cases n.gateway4 with
  | none => rfl
  | some g =>
    rw [Option.map_some, Option.getD_some, kept4, asked]
    by_cases hzero : g.val = "0.0.0.0"
    · rw [if_pos (Or.inr hzero), hzero]
      rfl
    · rw [if_neg (not_or.mpr ⟨ipv4_ne_nil g.property, hzero⟩),
        if_neg (mt (eq_zero_of_isIpv4Address g.property) hzero)]

theorem isPlainScalar_kept4 : kept4 n.gw4 = [] ∨ isPlainScalar (kept4 n.gw4) = true := by
  unfold gw4
  cases n.gateway4 with
  | none => exact Or.inl rfl
  | some g =>
    rw [Option.map_some, Option.getD_some, kept4]
    split_ifs
    · exact Or.inl rfl
    · refine Or.inr ((isPlainScalar_address_iff (Or.inl g.property)).mpr fun hlast => ?_)
      exact not_colon_ipv4 g.property (List.mem_of_getLast? hlast)

/-- The gateway is written when it is asked for, and can be read. -/
theorem gateway_iff :
    (kept6 n.gw6 = asked n.gw6 ∧ (kept6 n.gw6 = [] ∨ isPlainScalar (kept6 n.gw6) = true)) ↔
      ∀ g, n.gateway6 = some g → g.val = "::" ∨ g.val = "0:0:0:0:0:0:0:0" ∨
        (¬ IsAllZero g.val ∧ g.val.getLast? ≠ some ':') := by
  unfold gw6
  cases n.gateway6 with
  | none => exact iff_of_true ⟨rfl, Or.inl rfl⟩ fun _ h => absurd h (by simp)
  | some g =>
    have hne : g.val ≠ [] := IsIpAddress.ne_nil (Or.inr g.property)
    rw [Option.map_some, Option.getD_some]
    constructor
    · rintro ⟨hkept, hplain⟩ _ ⟨⟩
      by_cases hknown : g.val = "::" ∨ g.val = "0:0:0:0:0:0:0:0"
      · exact hknown.imp_right Or.inl
      · rw [kept6, if_neg (not_or.mpr ⟨hne, hknown⟩)] at hkept hplain
        have hnonzero : ¬ IsAllZero g.val := by
          intro hzero
          rw [asked, if_pos hzero] at hkept
          exact hne hkept
        exact Or.inr (Or.inr ⟨hnonzero,
          (isPlainScalar_address_iff (Or.inr g.property)).mp (hplain.resolve_left hne)⟩)
    · intro h
      rcases h g rfl with hg | hg | ⟨hnonzero, hlast⟩
      · rw [hg]
        exact ⟨rfl, Or.inl rfl⟩
      · rw [hg]
        exact ⟨rfl, Or.inl rfl⟩
      · have hknown : ¬ (g.val = [] ∨ g.val = "::" ∨ g.val = "0:0:0:0:0:0:0:0") := by
          rintro (hg | hg | hg)
          · exact hne hg
          · exact hnonzero (hg ▸ by decide)
          · exact hnonzero (hg ▸ by decide)
        rw [kept6, if_neg hknown, asked, if_neg hnonzero]
        exact ⟨rfl, Or.inr ((isPlainScalar_address_iff (Or.inr g.property)).mpr hlast)⟩

theorem six_le_length_render : 6 ≤ (render (blockLines n.written)).length := by
  rw [written, render_blockLines, lineTexts_documentBlocks, List.cons_append, List.flatMap_cons,
    List.length_append]
  have hfirst : (echo "network:".toList).length = 9 := rfl
  omega

theorem readYaml_written (hinterface : isPlainKey n.interface.val = true)
    (hservers : ∀ a ∈ nameservers n.nameServers.val, isPlainScalar a = true) :
    readYaml (render (blockLines n.written)) =
      if kept6 n.gw6 = [] ∨ isPlainScalar (kept6 n.gw6) = true then
        some (netplan n.interface.val
          (.map (settings n.addresses (defaultRoutes (kept4 n.gw4) (kept6 n.gw6))
          (nameservers n.nameServers.val)))) else none := by
  have hwritten : ∀ line ∈ blockLines n.written, IsWritten line :=
    isWritten_documentBlocks hinterface (isWritten_settingBlocks n.kept4_chars n.kept6_chars
      (fun a ha => (n.addresses_spec ha).1)
      fun a ha => isCidrChar_of_isIpAddress
        (isIpAddress_of_mem_nameservers n.nameServers.property ha))
  obtain ⟨depth, hdepth⟩ := Nat.exists_eq_add_of_le' n.six_le_length_render
  have haddresses : n.addresses ≠ [] := List.cons_ne_nil _ _
  have hsettings := readNode_settingBlocks depth haddresses (fun a ha => (n.addresses_spec ha).2)
    n.kept4_chars n.isPlainScalar_kept4 n.kept6_chars hservers
  rw [readYaml_render hwritten, hdepth, written]
  refine (readNode_documentBlocks (depth + 4) hinterface isField_settingBlocks).trans ?_
  rw [hsettings]
  split_ifs <;> rfl

end Network

theorem isPlain_of_netplan {interface : Str} {addresses : List Str} {routes : List Yaml}
    {servers : List Str} (h : AllPlain
      (netplan interface (.map (settings addresses routes servers)))) :
    isPlainKey interface = true ∧ ∀ a ∈ servers, isPlainScalar a = true := by
  have hnetwork := (h.of_map List.mem_cons_self).2
  have hethernets := (hnetwork.of_map (List.mem_cons_of_mem _ List.mem_cons_self)).2
  obtain ⟨hinterface, hsettings⟩ := hethernets.of_map List.mem_cons_self
  refine ⟨hinterface, fun a ha => ?_⟩
  have hmem : ("nameservers".toList, .map [("addresses".toList, .seq (servers.map .scalar))]) ∈
      settings addresses routes servers := by
    refine List.mem_append_right _ ?_
    rw [if_neg (by simp [List.ne_nil_of_mem ha])]
    exact List.mem_cons_self
  have hservers := ((hsettings.of_map hmem).2.of_map List.mem_cons_self).2
  exact (hservers.of_seq _ (List.mem_map_of_mem ha)).of_scalar

theorem settings_of_netplan_eq {interface : Str} {entries entries' : List (Str × Yaml)}
    (h : netplan interface (.map entries) = netplan interface (.map entries')) :
    entries = entries' := by
  cases h
  rfl

theorem routes_of_settings_eq {addresses : List Str} {routes routes' : List Yaml}
    {servers : List Str} (h : settings addresses routes servers =
      settings addresses routes' servers) : routes = routes' := by
  have hroutes := List.append_cancel_left (List.append_cancel_right h)
  cases routes with
  | nil =>
    cases routes' with
    | nil => rfl
    | cons r routes' => cases hroutes
  | cons r routes =>
    cases routes' with
    | nil => cases hroutes
    | cons r' routes' =>
      cases hroutes
      rfl

theorem gateway_of_defaultRoutes_eq {gw4 gw6 gw6' : Str}
    (h : defaultRoutes gw4 gw6 = defaultRoutes gw4 gw6') :
    gw6 = gw6' := by
  have hroutes := List.append_cancel_left h
  cases gw6 with
  | nil =>
    cases gw6' with
    | nil => rfl
    | cons c gw6' => cases hroutes
  | cons c gw6 =>
    cases gw6' with
    | nil => cases hroutes
    | cons c' gw6' =>
      cases hroutes
      rfl

/-- The file that the applier writes is read as the requested network exactly when the network is
readable. -/
theorem netplan_decodes_iff (n : Network) (detected : Str) :
    (netplanFile (n.vars detected)).bind readYaml = some n.document ↔ n.IsReadable := by
  rw [n.netplanFile_eq, Option.bind_some]
  constructor
  · intro h
    obtain ⟨hinterface, hservers⟩ := isPlain_of_netplan (readYaml_allPlain h)
    rw [n.readYaml_written hinterface hservers, n.kept4_eq] at h
    split_ifs at h with hplain
    have hsettings := settings_of_netplan_eq (Option.some.inj h)
    have hkept := gateway_of_defaultRoutes_eq (routes_of_settings_eq hsettings)
    refine ⟨hinterface, n.gateway_iff.mp ⟨hkept, hplain⟩, fun a ha => ?_⟩
    have haddress := isIpAddress_of_mem_nameservers n.nameServers.property ha
    exact (isPlainScalar_address_iff haddress).mp (hservers a ha)
  · rintro ⟨hinterface, hgateway, hlast⟩
    obtain ⟨hkept, hplain⟩ := n.gateway_iff.mpr hgateway
    have hservers : ∀ a ∈ nameservers n.nameServers.val, isPlainScalar a = true := fun a ha =>
      (isPlainScalar_address_iff (isIpAddress_of_mem_nameservers n.nameServers.property ha)).mpr
        (hlast a ha)
    rw [n.readYaml_written hinterface hservers, if_pos hplain, n.kept4_eq, hkept]
    rfl

theorem isEntry_of_mem_split {a : Str} (h : IsIpAddress a) : ∀ entry ∈ split ',' a,
    IsEntry entry := by
  have hcomma : ',' ∉ a := fun hmem => absurd (h.isAddressChar hmem) (by decide)
  intro entry hentry
  rw [split, List.splitOn_eq_singleton hcomma, List.mem_singleton] at hentry
  exact ⟨[], a, [], by rw [hentry, List.append_nil, List.nil_append], List.forall_mem_nil _,
    List.forall_mem_nil _, Or.inr h⟩

/-- One machine with different IPv6 gateways and name servers. -/
def officeNetwork (gateway6 server : {s : Str // IsIpv6Text s}) : Network where
  interface := ⟨"eno1", List.cons_ne_nil _ _⟩
  ipv4 := (⟨"10.40.0.7", by decide⟩, 24)
  ipv6 := none
  gateway4 := some ⟨"10.40.0.1", by decide⟩
  gateway6 := some gateway6
  nameServers := ⟨server.val, isEntry_of_mem_split (Or.inr server.property)⟩

theorem netplan_decodes_office :
    (netplanFile ((officeNetwork ⟨"2001:db8::1", by decide⟩ ⟨"2620:fe::fe", by decide⟩).vars
      [])).bind readYaml =
      some (officeNetwork ⟨"2001:db8::1", by decide⟩ ⟨"2620:fe::fe", by decide⟩).document := by
  refine (netplan_decodes_iff _ _).mpr ⟨by decide, ?_, by decide⟩
  rintro _ ⟨⟩
  exact Or.inr (Or.inr ⟨by decide, by decide⟩)

set_option maxRecDepth 100000 in
/-- An address that ends in a colon is a key: as a gateway it makes the file unreadable, as a name
server it becomes a mapping. Zero in a spelling of its own becomes a route. -/
theorem colon_ended_addresses_misread :
    (netplanFile ((officeNetwork ⟨"2001:db8::", by decide⟩
      ⟨"2620:fe::9", by decide⟩).vars [])).bind readYaml = none ∧
    (netplanFile ((officeNetwork ⟨"2001:db8::1", by decide⟩
      ⟨"2001:db8::", by decide⟩).vars [])).bind readYaml =
      some (netplan "eno1" (.map (settings ["10.40.0.7/24".toList]
        (defaultRoutes "10.40.0.1" "2001:db8::1") [] ++
        [("nameservers".toList, .map
          [("addresses".toList, .seq [.map [("2001:db8:".toList, .null)]])])]))) ∧
    (netplanFile ((officeNetwork ⟨"::0", by decide⟩
      ⟨"2620:fe::9", by decide⟩).vars [])).bind readYaml =
      some (netplan "eno1" (.map (settings ["10.40.0.7/24".toList]
        (defaultRoutes "10.40.0.1" "::0") ["2620:fe::9".toList]))) ∧
    asked "::0" = [] := by
  refine ⟨?_, rfl, ?_, rfl⟩
  · rw [Network.netplanFile_eq, Option.bind_some,
      Network.readYaml_written _ (by decide) (List.all_eq_true.mp rfl), if_neg (by decide)]
  · rw [Network.netplanFile_eq, Option.bind_some,
      Network.readYaml_written _ (by decide) (List.all_eq_true.mp rfl), if_pos (by decide)]
    rfl

end Astro.NetplanDocuments
