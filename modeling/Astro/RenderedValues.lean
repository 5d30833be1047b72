import Astro.Ipv6Pairs
import Astro.NetmaskLengths
import Astro.ShellSettings

/-!
# What the rendered values mean

The values of a job and of a phone-home are put between quotes in `user-data`: as scalars of the
document, and as words of the settings that `apply-serialization.sh` reads one after the other in
one of its blocks. The host name and the user name are put into both. Every place reads back its
value exactly when the characters of the values mean nothing there.
-/

namespace Astro.RenderedValues

open PythonText TemplateChunks JobPaths RequestModels ServerHandlers CustomIsoHandler SeedRendering
  RepositorySite RepositoryTemplates SimultaneousRendering Ipv6Pairs NetmaskLengths
    KernelCommandLine
  YamlScalars ShellSettings

/-- A line of a template with a quoted scalar, and what stands between the quotes there. -/
structure Place where
  line : String
  start : Str
  inner : Str
  trail : Str
  line_eq : line.toList = start ++ '"' :: (inner ++ '"' :: trail)
  start_plain : '"' ∉ start ∧ '\x7b' ∉ start

def hostnamePlace : Place where
  line := "    hostname: \"\x7b\x7bHOSTNAME\x7d\x7d\""
  start := "    hostname: "
  inner := "\x7b\x7bHOSTNAME\x7d\x7d"
  trail := []
  line_eq := rfl
  start_plain := by decide

def usernamePlace : Place where
  line := "    username: \"\x7b\x7bUSERNAME\x7d\x7d\""
  start := "    username: "
  inner := "\x7b\x7bUSERNAME\x7d\x7d"
  trail := []
  line_eq := rfl
  start_plain := by decide

def serialPlace₀ : Place where
  line := "          - serial: \"\x7b\x7bDISK_SERIAL_0\x7d\x7d\""
  start := "          - serial: "
  inner := "\x7b\x7bDISK_SERIAL_0\x7d\x7d"
  trail := []
  line_eq := rfl
  start_plain := by decide

def serialPlace₁ : Place where
  line := "          - serial: \"\x7b\x7bDISK_SERIAL_1\x7d\x7d\""
  start := serialPlace₀.start
  inner := "\x7b\x7bDISK_SERIAL_1\x7d\x7d"
  trail := []
  line_eq := rfl
  start_plain := serialPlace₀.start_plain

def pathPlace₀ : Place where
  line := "          - path: \"/dev/\x7b\x7bDISK_DEV_0\x7d\x7d\""
  start := "          - path: "
  inner := "/dev/\x7b\x7bDISK_DEV_0\x7d\x7d"
  trail := []
  line_eq := rfl
  start_plain := by decide

/-- The same path in the template for two disks, with blanks behind it. -/
def raidPathPlace₀ : Place where
  line := "          - path: \"/dev/\x7b\x7bDISK_DEV_0\x7d\x7d\"        "
  start := pathPlace₀.start
  inner := pathPlace₀.inner
  trail := "        "
  line_eq := rfl
  start_plain := pathPlace₀.start_plain

def raidPathPlace₁ : Place where
  line := "          - path: \"/dev/\x7b\x7bDISK_DEV_1\x7d\x7d\""
  start := pathPlace₀.start
  inner := "/dev/\x7b\x7bDISK_DEV_1\x7d\x7d"
  trail := []
  line_eq := rfl
  start_plain := pathPlace₀.start_plain

def endpointPlace : Place where
  line := "      endpoint: \"http://\x7b\x7bAPI_HOST\x7d\x7d/api/v1/jobs/telemetry\""
  start := "      endpoint: "
  inner := "http://\x7b\x7bAPI_HOST\x7d\x7d/api/v1/jobs/telemetry"
  trail := []
  line_eq := rfl
  start_plain := by decide

/-- The settings of `apply-serialization.sh`, with what the template has between their quotes. -/
def applierSettings : List (Setting × Str) :=
  [(⟨"HN", .double⟩, "\x7b\x7bHOSTNAME\x7d\x7d"), (⟨"UN", .double⟩, "\x7b\x7bUSERNAME\x7d\x7d"),
    (⟨"UPASS", .single⟩, "\x7b\x7bUSER_PASSWORD\x7d\x7d"),
    (⟨"ADD_USERS", .double⟩, "\x7b\x7bADD_USERS\x7d\x7d"),
      (⟨"RM_USER", .double⟩, "\x7b\x7bRM_USER\x7d\x7d"),
    (⟨"SSH_USER_LINE", .double⟩, "\x7b\x7bSSH_USER_LINE\x7d\x7d"),
    (⟨"V4", .double⟩, "\x7b\x7bIPV4_ADDRESS\x7d\x7d/\x7b\x7bIPV4_CIDR\x7d\x7d"),
    (⟨"GW4", .double⟩, "\x7b\x7bIPV4_GATEWAY\x7d\x7d"),
      (⟨"V6", .double⟩, "\x7b\x7bIPV6_FULL\x7d\x7d"),
    (⟨"GW6", .double⟩, "\x7b\x7bIPV6_GATEWAY\x7d\x7d"),
      (⟨"NSRV", .double⟩, "\x7b\x7bNAME_SERVERS\x7d\x7d"),
    (⟨"IFN", .double⟩, "\x7b\x7bINTERFACE\x7d\x7d")]

theorem applierSettings_lines : (settingLines ++ ipv6Lines ++ lastSettingLines).map String.toList =
    applierSettings.map fun g => g.1.line 6 g.2 := rfl

/-- The rendered file from a line of its template on. -/
def fileFrom (pairs : List (Str × Str)) (lines : List String) (line : String) : Str :=
  replaceAll pairs (textOf (lines.dropWhile (· ≠ line)))

def afterQuote (text : Str) : Str := (text.dropWhile (· ≠ '"')).tail

/-- The scalar at a place. -/
def scalarAt (pairs : List (Str × Str)) (lines : List String) (place : Place) : Option Str :=
  scalarValue (afterQuote (fileFrom pairs lines place.line))

def hnLine : String := "      HN=\"\x7b\x7bHOSTNAME\x7d\x7d\""

/-- The settings that the script reads; it is indented by six blanks. -/
def settingsAt (pairs : List (Str × Str)) (lines : List String) : Option (List (Str × Str)) :=
  readSettings 6 (applierSettings.map Prod.fst) (fileFrom pairs lines hnLine)

/-- The settings are the last lines of the first part of both templates. -/
theorem dropWhile_hnLine (name : TemplateName) : ∃ more,
    (templateLines name).dropWhile (· ≠ hnLine) = settingLines ++ ipv6Lines ++
      lastSettingLines ++ more := by
  have hdrop : ∀ {front more : List String}, hnLine ∉ front →
      (front ++ (settingLines ++ ipv6Lines ++ lastSettingLines ++ more)).dropWhile (· ≠ hnLine) =
        settingLines ++ ipv6Lines ++ lastSettingLines ++ more :=
    fun h => dropWhile_ne_append_cons h _
  have hshared : hnLine ∉ headLines ∧ hnLine ∉ sshLines ∧ hnLine ∉ reportingLines ∧
      hnLine ∉ lateLines := by
    decide
  have hown : hnLine ∉ storageLines ∧ hnLine ∉ earlyLines ∧ hnLine ≠ "    " ∧
      hnLine ≠ "      " := by decide
  have hraid : hnLine ∉ raidStorageLines ∧ hnLine ∉ raidEarlyLines ∧ hnLine ≠ "" := by decide
  cases name with
  | userData =>
    have hfront : hnLine ∉ headLines ++ "    " :: sshLines ++ storageLines ++ reportingLines ++
      earlyLines ++
        lateLines ++ ["      "] := by
      simp only [List.mem_append, List.mem_cons, hshared, hown, List.not_mem_nil, or_self,
        not_false_eq_true]
    refine ⟨userDataAfter.drop 2, ?_⟩
    rw [← hdrop hfront]
    rfl
  | userDataRaid =>
    have hfront : hnLine ∉ headLines ++ "" :: sshLines ++ raidStorageLines ++ reportingLines ++
      raidEarlyLines ++
        lateLines ++ [""] := by
      simp only [List.mem_append, List.mem_cons, hshared, hraid, List.not_mem_nil, or_self,
        not_false_eq_true]
    refine ⟨userDataRaidAfter.drop 2, ?_⟩
    rw [← hdrop hfront]
    rfl

section Places
variable {pairs : List (Str × Str)} (hpairs : seedPlaceholders.Assigns pairs) {lines : List String}
  {place : Place}
include hpairs

theorem render_textOf (part : List String) : replaceAll pairs (textOf part) =
    textOfLines ((part.map String.toList).map (replaceAll pairs)) := by
  rw [textOf_eq, hpairs.render_lines rfl]

theorem fileFrom_suffix (line : String) : fileFrom pairs lines line <:+
    replaceAll pairs (textOf lines) := by
  have hsplit := congrArg (List.map (replaceAll pairs)) (congrArg (List.map String.toList)
    (List.takeWhile_append_dropWhile (p := (· ≠ line)) (l := lines)))
  rw [List.map_append, List.map_append] at hsplit
  rw [fileFrom, render_textOf hpairs, render_textOf hpairs, ← hsplit, textOfLines, textOfLines,
    List.flatMap_append]
  exact List.suffix_append _ _

/-- The text between the quotes is rendered on its own. -/
theorem render_quoted {start inner trail : Str} (hstart : '\x7b' ∉ start) {quote : Char}
    (hquote : isSeedChar quote = false) :
    replaceAll pairs (start ++ quote :: (inner ++ quote :: trail)) =
      start ++ quote :: (replaceAll pairs inner ++ quote :: replaceAll pairs trail) := by
  have hunmarked : ¬ seedPlaceholders.mark <:+: start :=
    Placeholders.unmarked_of_not_mem List.mem_cons_self hstart
  rw [replaceAll_append_cons (hpairs.separates hquote),
    replaceAll_append_cons (hpairs.separates hquote),
    Placeholders.replaceAll_of_unmarked (fun _ => hpairs.mem) hunmarked]

theorem afterQuote_fileFrom (hline : place.line ∈ lines) : ∃ more,
    afterQuote (fileFrom pairs lines place.line) = replaceAll pairs place.inner ++ '"' :: more := by
  obtain ⟨more, hmore⟩ : ∃ more, lines.dropWhile (· ≠ place.line) = place.line :: more := by
    obtain ⟨front, back, rfl, hfront⟩ := List.eq_append_cons_of_mem hline
    exact ⟨back, dropWhile_ne_append_cons hfront back⟩
  have hfile : fileFrom pairs lines place.line = place.start ++ '"' ::
    (replaceAll pairs place.inner ++
      '"' :: (replaceAll pairs place.trail ++ '\n' :: replaceAll pairs (textOf more))) := by
    rw [fileFrom, hmore, textOf_eq, List.map_cons, textOfLines_cons,
      replaceAll_append_cons (hpairs.separates rfl), place.line_eq,
      render_quoted hpairs place.start_plain.2 rfl, ← textOf_eq]
    simp only [List.append_assoc, List.cons_append]
  refine ⟨replaceAll pairs place.trail ++ '\n' :: replaceAll pairs (textOf more), ?_⟩
  rw [hfile, afterQuote, dropWhile_ne_append_cons place.start_plain.1, List.tail_cons]

theorem scalarAt_iff (hline : place.line ∈ lines) {value : Str}
    (hvalue : replaceAll pairs place.inner = value) :
    scalarAt pairs lines place = some value ↔ IsExact false value := by
  obtain ⟨more, hmore⟩ := afterQuote_fileFrom hpairs hline
  rw [scalarAt, hmore, hvalue]
  exact scalarValue_eq_self_iff value more

/-- The settings stand in the file with their values between their quotes. -/
theorem fileFrom_hnLine (name : TemplateName) : ∃ more, fileFrom pairs (templateLines name) hnLine =
    settingsText 6 (applierSettings.map fun g => (g.1, replaceAll pairs g.2)) ++ more := by
  obtain ⟨more, hmore⟩ := dropWhile_hnLine name
  have hname : ∀ g ∈ applierSettings, '\x7b' ∉ List.replicate 6 ' ' ++ (g.1.name ++ ['=']) := by
    decide
  have hline : ∀ g ∈ applierSettings,
      replaceAll pairs (g.1.line 6 g.2) = g.1.line 6 (replaceAll pairs g.2) := by
    intro g hg
    have hquote : isSeedChar g.1.quotes.mark = false := by cases g.1.quotes <;> rfl
    have hsplit : ∀ text : Str, g.1.line 6 text =
        (List.replicate 6 ' ' ++ (g.1.name ++ ['='])) ++ g.1.quotes.mark ::
            (text ++ g.1.quotes.mark :: []) := by
      intro text
      simp only [Setting.line, Setting.opening, List.append_assoc, List.cons_append,
        List.nil_append]
    rw [hsplit, hsplit, render_quoted hpairs (hname g hg) hquote, replaceAll_nil]
  have hlines : (applierSettings.map fun g => g.1.line 6 g.2).map (replaceAll pairs) =
      applierSettings.map fun g => g.1.line 6 (replaceAll pairs g.2) := by
    rw [List.map_map]
    exact List.map_congr_left hline
  refine ⟨replaceAll pairs (textOf more), ?_⟩
  rw [fileFrom, hmore, textOf_append, textOf_eq, applierSettings_lines,
    render_textOfLines (replaceAll_append_cons (hpairs.separates rfl)), hlines, textOfLines,
      settingsText,
    List.flatMap_map, List.flatMap_map]

theorem settingsAt_iff (name : TemplateName) {given : List (Setting × Str)}
    (hgiven : applierSettings.map (fun g => (g.1, replaceAll pairs g.2)) = given) :
    settingsAt pairs (templateLines name) = some (given.map fun g => (g.1.name, g.2)) ↔
      ∀ g ∈ given, g.1.quotes.IsPlain g.2 := by
  obtain ⟨more, hmore⟩ := fileFrom_hnLine hpairs name
  have hnames : applierSettings.map Prod.fst = given.map Prod.fst := by
    rw [← hgiven, List.map_map]
    rfl
  rw [settingsAt, hmore, hgiven, hnames]
  exact readSettings_eq_iff 6 given more

end Places

def devicePath (dev : Str) : Str := ("/dev/" : Str) ++ dev

def telemetryUrl (hostIp : Str) : Str :=
  ("http://" : Str) ++ hostIp ++ ("/api/v1/jobs/telemetry" : Str)

/-- The scalars of the document with the values that are asked for. -/
def scalars (hostIp : Str) (disks : DiskChoice) (data : JobData) : List (Place × Str) :=
  [(hostnamePlace, data.request.hostname.val), (usernamePlace, data.request.username),
    (serialPlace₀, disks.serial₀), (endpointPlace, telemetryUrl hostIp)] ++
  match disks.templateName with
  | .userData => [(pathPlace₀, devicePath disks.dev₀)]
  | .userDataRaid => [(raidPathPlace₀, devicePath disks.dev₀), (serialPlace₁, disks.serial₁),
      (raidPathPlace₁, devicePath disks.dev₁)]

/-- The settings of the script with the values that are asked for; a job file has no further users
and no interface. -/
def settings (hashedPw : Str) (data : JobData) : List (Setting × Str) :=
  [(⟨"HN", .double⟩, data.request.hostname.val), (⟨"UN", .double⟩, data.request.username),
    (⟨"UPASS", .single⟩, hashedPw), (⟨"ADD_USERS", .double⟩, []), (⟨"RM_USER", .double⟩, []),
    (⟨"SSH_USER_LINE", .double⟩, []),
    (⟨"V4", .double⟩, data.request.ipv4.address.val ++ '/' ::
      decimal (renderedLength data.request.ipv4.netmask.val)),
    (⟨"GW4", .double⟩, data.request.ipv4.gateway.val), (⟨"V6", .double⟩, renderedV6 data.request),
    (⟨"GW6", .double⟩, renderedGw6 data.request), (⟨"NSRV", .double⟩, data.request.dnsServers),
    (⟨"IFN", .double⟩, [])]

/-- Every scalar of the document and every setting of the script is read back, the settings one
after the other, and nothing is expanded or executed between them. -/
structure ReadsBack (hostIp hashedPw : Str) (disks : DiskChoice) (data : JobData)
    (pairs : List (Str × Str)) :
    Prop where
  scalars : ∀ scalar ∈ scalars hostIp disks data,
    scalarAt pairs (templateLines disks.templateName) scalar.1 = some scalar.2
  settings : settingsAt pairs (templateLines disks.templateName) =
    some ((settings hashedPw data).map fun g => (g.1.name, g.2))

/-- The characters of the values mean nothing at their places. -/
structure ArePlain (hostIp : Str) (disks : DiskChoice) (data : JobData) : Prop where
  hostname : IsLiteral data.request.hostname.val ∧ '\\' ∉ data.request.hostname.val
  username : IsLiteral data.request.username ∧ '\\' ∉ data.request.username
  ipv6 : IsLiteral (renderedV6 data.request) ∧ IsLiteral (renderedGw6 data.request)
  dnsServers : IsLiteral data.request.dnsServers
  host : IsExact false (telemetryUrl hostIp)
  disk₀ : IsExact false disks.serial₀ ∧ IsExact false (devicePath disks.dev₀)
  disk₁ : disks.templateName = .userDataRaid →
    IsExact false disks.serial₁ ∧ IsExact false (devicePath disks.dev₁)

/-- The values of the settings have no placeholder. -/
structure FreeSettings (request : ProvisionCustomISORequest) : Prop where
  hostname : IsFree request.hostname.val
  username : IsFree request.username
  dnsServers : IsFree request.dnsServers
  ipv6 : AreFree request

/-- A character of a password hash. -/
def isCryptChar (c : Char) : Bool := c.isAlphanum || c = '.' || c = '/' || c = '$'

theorem chooseDisks_reported {isRaid : Bool} {uuids : List DiskInfo} {disks : DiskChoice}
    (h : chooseDisks isRaid uuids = some disks) :
    (∃ d ∈ uuids, disks.serial₀ = replace " " [] d.id.val ∧ disks.dev₀ = d.dev.val) ∧
      ∃ d ∈ uuids, disks.serial₁ = replace " " [] d.id.val ∧ disks.dev₁ = d.dev.val := by
  have hreported : ∀ d ∈ sortedDisks uuids,
      ∃ info ∈ uuids, d.id = replace " " [] info.id.val ∧ d.dev = info.dev.val := by
    intro d hd
    rw [sortedDisks, (List.perm_insertionSort _ _).mem_iff] at hd
    obtain ⟨info, hinfo, rfl⟩ := List.mem_map.mp (List.mem_filter.mp hd).1
    exact ⟨info, hinfo, rfl, rfl⟩
  unfold chooseDisks at h
  split at h
  · cases h
  · next d hsorted =>
    obtain rfl := Option.some.inj h
    have hd := hreported d (hsorted ▸ List.mem_cons_self)
    exact ⟨hd, hd⟩
  · next d d' rest hsorted =>
    have hd := hreported d (hsorted ▸ List.mem_cons_self)
    have hd' := hreported d' (hsorted ▸ List.mem_cons_of_mem _ List.mem_cons_self)
    split_ifs at h
    · obtain rfl := Option.some.inj h
      exact ⟨hd, hd'⟩
    · obtain rfl := Option.some.inj h
      exact ⟨hd, hd⟩

theorem scalar_and_word_iff {value : Str} : IsExact false value ∧ IsLiteral value ↔
    IsLiteral value ∧ '\\' ∉ value := by
  rw [and_comm]
  exact and_congr_right fun h => h.isExact_iff

/-- Letters and digits mean nothing in quotes. -/
theorem isAlphanum_plain {c : Char} (h : c.isAlphanum = true) : isPrintable c = true ∧
    isBreak c = false ∧
    c ≠ '"' ∧ c ≠ '\x60' ∧ c ≠ '$' ∧ c ≠ '\\' ∧ c ≠ '\x27' := by
  obtain ⟨hlow, hhigh⟩ := HostNames.toNat_of_isAlphanum h
  have hascii : 0x20 ≤ c.toNat ∧ c.toNat ≤ 0x7e := by omega
  have hne : ∀ d : Char, d.isAlphanum = false → c ≠ d := by
    rintro d hd rfl
    rw [h] at hd
    cases hd
  have hprintable : isPrintable c = true := by simp [isPrintable, hascii]
  have hbreak : isBreak c = false := by
    simp [isBreak, hne '\n' rfl, hne '\x0d' rfl, hne '\u0085' rfl, hne '\u2028' rfl,
      hne '\u2029' rfl]
  exact ⟨hprintable, hbreak, hne _ rfl, hne _ rfl, hne _ rfl, hne _ rfl, hne _ rfl⟩

theorem isLiteral_of_isPlain {text : Str} (h : IsPlain text) : IsLiteral text := by
  refine isLiteral_of_forall fun c hc => ?_
  have hchar := h c hc
  simp only [isArgChar, Bool.or_eq_true, decide_eq_true_eq] at hchar
  rcases hchar with ((((halphanum | rfl) | rfl) | rfl) | rfl) | rfl
  · obtain ⟨hprintable, hbreak, hquote, hback, hdollar, hslash, -⟩ := isAlphanum_plain halphanum
    exact ⟨hprintable, hbreak, hquote, hback, hdollar, hslash⟩
  all_goals decide

theorem isQuotable_of_isCryptChar {text : Str} (h : ∀ c ∈ text, isCryptChar c = true) :
    IsQuotable text := by
  intro c hc
  have hchar := h c hc
  simp only [isCryptChar, Bool.or_eq_true, decide_eq_true_eq] at hchar
  rcases hchar with ((halphanum | rfl) | rfl) | rfl
  · obtain ⟨hprintable, hbreak, -, -, -, -, happstrophe⟩ := isAlphanum_plain halphanum
    exact ⟨hprintable, hbreak, happstrophe⟩
  all_goals decide

theorem isFree_of_isCryptChar {text : Str} (h : ∀ c ∈ text, isCryptChar c = true) :
    IsFree text := by
  refine isFree_of_no_brace fun hmem => ?_
  exact absurd (h _ hmem) (by decide)

theorem isFree_of_isPlain {text : Str} (h : IsPlain text) : IsFree text :=
  isFree_of_no_brace (h.not_mem rfl)

theorem isPlain_decimal (n : ℕ) : IsPlain (decimal n) := by
  intro c hc
  have hdigit := isDigit_of_mem_decimal hc
  simp [isArgChar, Char.isAlphanum, hdigit]

section Result
variable {site : Site} {opensslPasswd : Str → Option Str} {hostIp : Str}
  {request : PhoneHomeRequest}
  {data : JobData} {m : List (Str × Str) × Str}

/-- What the template has between the quotes becomes the value that is asked for. -/
theorem rendered_settings (hnone : site.py.repr .null = "None")
    (hm : userDataMap (deployment site opensslPasswd) hostIp request (jobFields data) = some m)
    {hashedPw : Str} (hhash : hashedPassword (deployment site opensslPasswd) (jobFields data) =
      some hashedPw)
    (hcrypt : ∀ c ∈ hashedPw, isCryptChar c = true) (hfree : FreeSettings data.request) :
    applierSettings.map (fun g => (g.1, replaceAll m.1 g.2)) = settings hashedPw data := by
  obtain ⟨disks, hashedPw', -, hhash', hpairs, -⟩ := userDataMap_spec hm
  obtain rfl := Option.some.inj (hhash.symm.trans hhash')
  have hassigns := (userDataMap_cases hm).1
  obtain ⟨hv6, hgw6⟩ := ipv6_values hnone hm
  obtain ⟨haddress, hlength⟩ := v4_values hm
  have hvalue : ∀ {n : ℕ} {key value : Str},
      (substitutions site.py hostIp request.jobId.val hashedPw disks (jobFields data))[n]? =
        some (key, value) →
        IsFree value → replaceAll m.1 key = value :=
    fun h => hassigns.replaceAll_of_mem (hpairs ▸ List.mem_of_getElem? h)
  have hnil : IsFree [] := isFree_of_no_brace List.not_mem_nil
  have hhn : replaceAll m.1 "\x7b\x7bHOSTNAME\x7d\x7d" = data.request.hostname.val :=
    hvalue (n := 2) rfl hfree.hostname
  have hun : replaceAll m.1 "\x7b\x7bUSERNAME\x7d\x7d" = data.request.username :=
    hvalue (n := 3) rfl hfree.username
  have hupass : replaceAll m.1 "\x7b\x7bUSER_PASSWORD\x7d\x7d" = hashedPw :=
    hvalue (n := 4) rfl (isFree_of_isCryptChar hcrypt)
  have hadd : replaceAll m.1 "\x7b\x7bADD_USERS\x7d\x7d" = [] := hvalue (n := 16) rfl hnil
  have hrm : replaceAll m.1 "\x7b\x7bRM_USER\x7d\x7d" = [] := hvalue (n := 17) rfl hnil
  have hssh : replaceAll m.1 "\x7b\x7bSSH_USER_LINE\x7d\x7d" = [] := hvalue (n := 18) rfl hnil
  have hv4 : replaceAll m.1 "\x7b\x7bIPV4_ADDRESS\x7d\x7d/\x7b\x7bIPV4_CIDR\x7d\x7d" =
      data.request.ipv4.address.val ++ '/' ::
          decimal (renderedLength data.request.ipv4.netmask.val) := by
    have htext : ("\x7b\x7bIPV4_ADDRESS\x7d\x7d/\x7b\x7bIPV4_CIDR\x7d\x7d" : Str) =
        "\x7b\x7bIPV4_ADDRESS\x7d\x7d".toList ++ '/' :: "\x7b\x7bIPV4_CIDR\x7d\x7d".toList := rfl
    rw [htext, replaceAll_append_cons (hassigns.separates rfl),
      hassigns.replaceAll_of_mem haddress (isFree_of_isPlain (isPlain_ipv4 _)),
      hassigns.replaceAll_of_mem hlength (isFree_of_isPlain (isPlain_decimal _))]
  have hgw4 : replaceAll m.1 "\x7b\x7bIPV4_GATEWAY\x7d\x7d" = data.request.ipv4.gateway.val :=
    hvalue (n := 7) rfl (isFree_of_isPlain (isPlain_ipv4 _))
  have hnsrv : replaceAll m.1 "\x7b\x7bNAME_SERVERS\x7d\x7d" = data.request.dnsServers :=
    hvalue (n := 10) rfl hfree.dnsServers
  have hifn : replaceAll m.1 "\x7b\x7bINTERFACE\x7d\x7d" = [] := hvalue (n := 11) rfl hnil
  simp only [applierSettings, settings, List.map_cons, List.map_nil, hhn, hun, hupass, hadd,
    hrm, hssh, hv4, hgw4, hassigns.replaceAll_of_mem hv6 hfree.ipv6.rendered.1,
    hassigns.replaceAll_of_mem hgw6 hfree.ipv6.rendered.2, hnsrv, hifn]

/-- The settings that the script reads when the values are plain in their quotes. -/
theorem settings_plain_iff {hashedPw : Str} (hcrypt : ∀ c ∈ hashedPw, isCryptChar c = true) :
    (∀ g ∈ settings hashedPw data, g.1.quotes.IsPlain g.2) ↔
      IsLiteral data.request.hostname.val ∧ IsLiteral data.request.username ∧
        IsLiteral (renderedV6 data.request) ∧ IsLiteral (renderedGw6 data.request) ∧
        IsLiteral data.request.dnsServers := by
  have hv4 : IsLiteral (data.request.ipv4.address.val ++ '/' ::
      decimal (renderedLength data.request.ipv4.netmask.val)) :=
    isLiteral_of_isPlain ((isPlain_ipv4 _).append ((isPlain_decimal _).cons rfl))
  have hgw4 : IsLiteral data.request.ipv4.gateway.val := isLiteral_of_isPlain (isPlain_ipv4 _)
  have hnil : IsLiteral [] := trivial
  simp only [settings, List.forall_mem_cons, Quotes.IsPlain, isQuotable_of_isCryptChar hcrypt,
    hv4, hgw4, hnil, true_and, and_true, List.not_mem_nil, false_implies, implies_true]

theorem scalar_lines (hostIp : Str) (disks : DiskChoice) (data : JobData) :
    ∀ scalar ∈ scalars hostIp disks data, scalar.1.line ∈ templateLines disks.templateName := by
  have hhead : hostnamePlace.line ∈ headLines ∧ usernamePlace.line ∈ headLines := by decide
  have hreporting : endpointPlace.line ∈ reportingLines := by decide
  have hstorage : serialPlace₀.line ∈ storageLines ∧ pathPlace₀.line ∈ storageLines := by decide
  have hraid : serialPlace₀.line ∈ raidStorageLines ∧ raidPathPlace₀.line ∈ raidStorageLines ∧
      serialPlace₁.line ∈ raidStorageLines ∧ raidPathPlace₁.line ∈ raidStorageLines := by decide
  obtain ⟨name, serial₀, dev₀, serial₁, dev₁⟩ := disks
  cases name with
  | userData =>
    have hmem : ∀ line, line ∈ headLines ∨ line ∈ reportingLines ∨ line ∈ storageLines →
        line ∈ templateLines .userData := by
      intro line h
      simp only [templateLines, userDataBefore, List.mem_append, List.mem_cons]
      tauto
    refine List.forall_mem_append.mpr
      ⟨?_, List.forall_mem_singleton.mpr (hmem _ (Or.inr (Or.inr hstorage.2)))⟩
    simp only [List.forall_mem_cons]
    exact ⟨hmem _ (Or.inl hhead.1), hmem _ (Or.inl hhead.2), hmem _ (Or.inr (Or.inr hstorage.1)),
      hmem _ (Or.inr (Or.inl hreporting)), List.forall_mem_nil _⟩
  | userDataRaid =>
    have hmem : ∀ line, line ∈ headLines ∨ line ∈ reportingLines ∨ line ∈ raidStorageLines →
        line ∈ templateLines .userDataRaid := by
      intro line h
      simp only [templateLines, userDataRaidBefore, List.mem_append, List.mem_cons]
      tauto
    refine List.forall_mem_append.mpr ⟨?_, ?_⟩
    · simp only [List.forall_mem_cons]
      exact ⟨hmem _ (Or.inl hhead.1), hmem _ (Or.inl hhead.2), hmem _ (Or.inr (Or.inr hraid.1)),
        hmem _ (Or.inr (Or.inl hreporting)), List.forall_mem_nil _⟩
    · simp only [List.forall_mem_cons]
      exact ⟨hmem _ (Or.inr (Or.inr hraid.2.1)), hmem _ (Or.inr (Or.inr hraid.2.2.1)),
        hmem _ (Or.inr (Or.inr hraid.2.2.2)), List.forall_mem_nil _⟩

theorem rendered_endpoint {pairs : List (Str × Str)} (hpairs : seedPlaceholders.Assigns pairs)
    {hostIp : Str} (hkey : replaceAll pairs "\x7b\x7bAPI_HOST\x7d\x7d".toList = hostIp) :
    replaceAll pairs endpointPlace.inner = telemetryUrl hostIp := by
  have hslash := hpairs.separates (rfl : seedPlaceholders.isKeyChar '/' = false)
  have hstart : ¬ seedPlaceholders.mark <:+: "http:/".toList := by decide
  have hend : ¬ seedPlaceholders.mark <:+: "api/v1/jobs/telemetry".toList := by decide
  have htext : endpointPlace.inner = "http:/".toList ++ '/' ::
      ("\x7b\x7bAPI_HOST\x7d\x7d".toList ++ '/' :: "api/v1/jobs/telemetry".toList) := rfl
  have hurl : telemetryUrl hostIp = ("http:/".toList ++ ['/']) ++ hostIp ++
      ('/' :: "api/v1/jobs/telemetry".toList) :=
    rfl
  rw [htext, replaceAll_append_cons hslash, replaceAll_append_cons hslash, hkey,
    Placeholders.replaceAll_of_unmarked (fun _ => hpairs.mem) hstart,
    Placeholders.replaceAll_of_unmarked (fun _ => hpairs.mem) hend, hurl, List.append_assoc,
      List.append_assoc,
    List.singleton_append]

theorem rendered_scalars
    (hm : userDataMap (deployment site opensslPasswd) hostIp request (jobFields data) = some m)
    {disks : DiskChoice} (hdisks : chosenDisks request (jobFields data) = some disks)
    (hfree : FreeSettings data.request) (hhost : IsFree hostIp)
    (hids : ∀ d ∈ request.uuids, IsFree (replace " " [] d.id.val) ∧ IsFree d.dev.val) :
    ∀ scalar ∈ scalars hostIp disks data, replaceAll m.1 scalar.1.inner = scalar.2 := by
  obtain ⟨disks', hashedPw, hdisks', -, hpairs, -⟩ := userDataMap_spec hm
  obtain rfl := Option.some.inj (hdisks.symm.trans hdisks')
  have hassigns := (userDataMap_cases hm).1
  obtain ⟨⟨d, hd, hserial, hdev⟩, d', hd', hserial', hdev'⟩ := chooseDisks_reported hdisks
  have hvalue : ∀ {n : ℕ} {key value : Str},
      (substitutions site.py hostIp request.jobId.val hashedPw disks (jobFields data))[n]? =
        some (key, value) →
        IsFree value → replaceAll m.1 key = value :=
    fun h => hassigns.replaceAll_of_mem (hpairs ▸ List.mem_of_getElem? h)
  have hslash : ∀ front back : Str, replaceAll m.1 (front ++ '/' :: back) =
      replaceAll m.1 front ++ '/' :: replaceAll m.1 back :=
        replaceAll_append_cons (hassigns.separates rfl)
  have hrest : ∀ {text : Str}, '\x7b' ∉ text → replaceAll m.1 text = text := fun h =>
    Placeholders.replaceAll_of_unmarked (fun _ => hassigns.mem)
      (Placeholders.unmarked_of_not_mem List.mem_cons_self h)
  have hhostname : replaceAll m.1 hostnamePlace.inner = data.request.hostname.val :=
    hvalue (n := 2) rfl hfree.hostname
  have husername : replaceAll m.1 usernamePlace.inner = data.request.username :=
    hvalue (n := 3) rfl hfree.username
  have hserial₀ : replaceAll m.1 serialPlace₀.inner = disks.serial₀ :=
    hvalue (n := 12) rfl (hserial ▸ (hids d hd).1)
  have hserial₁ : replaceAll m.1 serialPlace₁.inner = disks.serial₁ :=
    hvalue (n := 14) rfl (hserial' ▸ (hids d' hd').1)
  have hdevice : ∀ {key dev : Str}, replaceAll m.1 key = dev →
      replaceAll m.1 (("/dev" : Str) ++ '/' :: key) = devicePath dev := by
    intro key dev h
    rw [hslash, h, hrest (by decide : '\x7b' ∉ "/dev".toList)]
    rfl
  have hpath₀ : replaceAll m.1 pathPlace₀.inner = devicePath disks.dev₀ :=
    hdevice (hvalue (n := 13) rfl (hdev ▸ (hids d hd).2))
  have hpath₁ : replaceAll m.1 raidPathPlace₁.inner = devicePath disks.dev₁ :=
    hdevice (hvalue (n := 15) rfl (hdev' ▸ (hids d' hd').2))
  have hkey : replaceAll m.1 "\x7b\x7bAPI_HOST\x7d\x7d".toList = hostIp := hvalue (n := 1) rfl hhost
  have hendpoint := rendered_endpoint hassigns hkey
  have hraidPath₀ : replaceAll m.1 raidPathPlace₀.inner = devicePath disks.dev₀ := hpath₀
  unfold scalars
  rw [List.forall_mem_append]
  refine ⟨?_, ?_⟩
  · simp only [List.forall_mem_cons, hhostname, husername, hserial₀, hendpoint, true_and]
    exact List.forall_mem_nil _
  · split
    · exact List.forall_mem_singleton.mpr hpath₀
    · simp only [List.forall_mem_cons, hraidPath₀, hserial₁, hpath₁, true_and]
      exact List.forall_mem_nil _

theorem scalars_plain_iff {hostIp : Str} {disks : DiskChoice} :
    (∀ scalar ∈ scalars hostIp disks data, IsExact false scalar.2) ↔
      IsExact false data.request.hostname.val ∧ IsExact false data.request.username ∧
        IsExact false (telemetryUrl hostIp) ∧
        (IsExact false disks.serial₀ ∧ IsExact false (devicePath disks.dev₀)) ∧
        (disks.templateName = .userDataRaid →
          IsExact false disks.serial₁ ∧ IsExact false (devicePath disks.dev₁)) := by
  obtain ⟨name, serial₀, dev₀, serial₁, dev₁⟩ := disks
  cases name with
  | userData =>
    simp only [scalars, List.forall_mem_append, List.forall_mem_cons, List.not_mem_nil,
      false_implies, implies_true, and_true, reduceCtorEq]
    tauto
  | userDataRaid =>
    simp only [scalars, List.forall_mem_append, List.forall_mem_cons, List.not_mem_nil,
      false_implies, implies_true, and_true, true_implies]
    tauto

/-- For every job and every phone-home that is answered, with values without placeholders and a hash
that `openssl` prints, every place reads back its value exactly when the characters of the values
mean nothing there. -/
theorem rendered_values_iff (hnone : site.py.repr .null = "None")
    (hm : userDataMap (deployment site opensslPasswd) hostIp request (jobFields data) = some m)
    (hcrypt : ∀ hash ∈ hashedPassword (deployment site opensslPasswd) (jobFields data),
      ∀ c ∈ hash, isCryptChar c = true)
    (hfree : FreeSettings data.request) (hhost : IsFree hostIp)
    (hids : ∀ d ∈ request.uuids, IsFree (replace " " [] d.id.val) ∧ IsFree d.dev.val) :
    ∃ disks hash, chosenDisks request (jobFields data) = some disks ∧
      hashedPassword (deployment site opensslPasswd) (jobFields data) = some hash ∧
      userData (deployment site opensslPasswd) hostIp request (jobFields data) =
        some (replaceAll m.1 m.2) ∧
      (∀ line, fileFrom m.1 (templateLines disks.templateName) line <:+ replaceAll m.1 m.2) ∧
      (ReadsBack hostIp hash disks data m.1 ↔ ArePlain hostIp disks data) := by
  obtain ⟨disks, hash, hdisks, hhash, -, htemplate⟩ := userDataMap_spec hm
  have hassigns := (userDataMap_cases hm).1
  have hhashed := hcrypt hash hhash
  refine ⟨disks, hash, hdisks, hhash, ?_, fun line => ?_, ?_⟩
  · rw [userData_eq_map, hm, Option.map_some]
  · rw [htemplate]
    exact fileFrom_suffix hassigns line
  · have hinner := rendered_scalars hm hdisks hfree hhost hids
    have hscalars : (∀ scalar ∈ scalars hostIp disks data,
        scalarAt m.1 (templateLines disks.templateName) scalar.1 = some scalar.2) ↔
          ∀ scalar ∈ scalars hostIp disks data, IsExact false scalar.2 :=
      forall₂_congr fun scalar hscalar =>
        scalarAt_iff hassigns (scalar_lines hostIp disks data scalar hscalar)
          (hinner scalar hscalar)
    have hsettings := (settingsAt_iff hassigns disks.templateName
      (rendered_settings hnone hm hhash hhashed hfree)).trans (settings_plain_iff hhashed)
    rw [scalars_plain_iff] at hscalars
    constructor
    · intro h
      obtain ⟨hname, huser, hurl, hdisk₀, hdisk₁⟩ := hscalars.mp h.scalars
      obtain ⟨hhn, hun, hv6, hgw6, hnsrv⟩ := hsettings.mp h.settings
      exact ⟨scalar_and_word_iff.mp ⟨hname, hhn⟩, scalar_and_word_iff.mp ⟨huser, hun⟩, ⟨hv6, hgw6⟩,
        hnsrv, hurl, hdisk₀, hdisk₁⟩
    · intro h
      have hname := scalar_and_word_iff.mpr h.hostname
      have huser := scalar_and_word_iff.mpr h.username
      exact ⟨hscalars.mpr ⟨hname.1, huser.1, h.host, h.disk₀, h.disk₁⟩,
        hsettings.mpr ⟨hname.2, huser.2, h.ipv6.1, h.ipv6.2, h.dnsServers⟩⟩

end Result

def spacedName : Str := "node 5$ [a]"

def spacedJob : JobData := namedJob spacedName "o'brien" "9.9.9.9, 2620:fe::fe" (by decide)

def spacedRequest : PhoneHomeRequest := requestOf spacedName spacedJob.request.hostname.property

theorem isCryptChar_hash : ∀ c ∈ "$6$ubuntu".toList, isCryptChar c = true :=
  List.all_eq_true.mp rfl

/-- Blanks, brackets, an apostrophe and a `$` that stands alone. -/
theorem rendered_values_spacedName :
    ∃ m disks hash, userDataMap noneDep "10.0.0.1" spacedRequest (jobFields spacedJob) = some m ∧
      chosenDisks spacedRequest (jobFields spacedJob) = some disks ∧
      ReadsBack "10.0.0.1" hash disks spacedJob m.1 := by
  have hmap : ∃ m, userDataMap noneDep "10.0.0.1" spacedRequest (jobFields spacedJob) = some m :=
    ⟨_, rfl⟩
  obtain ⟨m, hm⟩ := hmap
  have hhash : hashedPassword noneDep (jobFields spacedJob) = some "$6$ubuntu".toList := rfl
  have hcrypt : ∀ hash ∈ hashedPassword noneDep (jobFields spacedJob), ∀ c ∈ hash,
      isCryptChar c = true := by
    rintro hash hmem
    obtain rfl := Option.some.inj (hhash.symm.trans hmem)
    exact isCryptChar_hash
  have hfree : ∀ {text : Str}, '\x7b' ∉ text → IsFree text := isFree_of_no_brace
  obtain ⟨disks, hash, hdisks, -, -, -, hiff⟩ := rendered_values_iff rfl hm hcrypt
    ⟨hfree (by decide), hfree (by decide), hfree (by decide),
      hfree (by decide), hfree (by decide), hfree (by decide)⟩
    (hfree (by decide)) (List.forall_mem_singleton.mpr ⟨hfree (by decide), hfree (by decide)⟩)
  obtain rfl : DiskChoice.mk .userData "S3Z9".toList "sdd".toList "S3Z9".toList
      "sdd".toList = disks :=
    Option.some.inj hdisks
  exact ⟨m, _, hash, hm, hdisks,
    hiff.mpr ⟨by decide, by decide, by decide, by decide, by decide, by decide,
    by decide⟩⟩

def commandName : Str := "web$(reboot)"

def commandJob : JobData := namedJob commandName "ubuntu" "8.8.8.8" (by decide)

def commandRequest : PhoneHomeRequest := requestOf commandName commandJob.request.hostname.property

/-- The script executes the host name of an accepted job. -/
theorem hostname_executed :
    accept exampleSite "10.0.0.1" (some (namedBody commandName "ubuntu" "8.8.8.8")) =
      .ok commandJob ∧
    phoneHomeRequest exampleDep.toSite (phoneHomeOf commandName) = some commandRequest ∧
    ∃ m, userDataMap exampleDep "10.0.0.1" commandRequest (jobFields commandJob) = some m ∧
      userData exampleDep "10.0.0.1" commandRequest (jobFields commandJob) =
        some (replaceAll m.1 m.2) ∧
      "      HN=\"web$(reboot)\"\n".toList <:+: replaceAll m.1 m.2 ∧
      settingsAt m.1 (templateLines .userData) = none := by
  have hmap : ∃ m, userDataMap exampleDep "10.0.0.1" commandRequest (jobFields commandJob) =
      some m := ⟨_, rfl⟩
  obtain ⟨m, hm⟩ := hmap
  obtain ⟨disks, hashedPw, -, -, hpairs, -⟩ := userDataMap_spec hm
  have hassigns := (userDataMap_cases hm).1
  have hname : ("\x7b\x7bHOSTNAME\x7d\x7d".toList, commandName) ∈ m.1 :=
    hpairs ▸ List.mem_of_getElem? (i := 2) rfl
  have hvalue := hassigns.replaceAll_of_mem hname (isFree_of_no_brace (by decide))
  refine ⟨rfl, rfl, m, hm, ?_, ?_, ?_⟩
  · rw [userData_eq_map, hm, Option.map_some]
  · have hmem : hnLine ∈ settingLines := List.mem_cons_self
    have hrendered := userData_common_line hm (Or.inr (Or.inl hmem))
    have hline : hnLine.toList =
        "      HN=".toList ++ '"' :: ("\x7b\x7bHOSTNAME\x7d\x7d".toList ++ '"' :: []) := rfl
    rw [hline, render_quoted hassigns (by decide) rfl, hvalue, replaceAll_nil] at hrendered
    exact hrendered
  · obtain ⟨more, hmore⟩ := fileFrom_hnLine hassigns .userData
    rw [settingsAt, hmore]
    change readSettings 6 (_ :: _)
      (settingsText 6 ((_, replaceAll m.1 "\x7b\x7bHOSTNAME\x7d\x7d".toList) :: _) ++ more) = none
    rw [hvalue, settingsText_cons]
    rfl

end Astro.RenderedValues
