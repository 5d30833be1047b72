import Astro.RenderedValues

/-!
# The network settings of the two boot stages

The name servers of a job are one text with commas. `compose.py` takes the first entry and
strips it, the launch script takes the first entry as it is, and the netplan applier removes all
blanks and drops empty entries. The three agree exactly when the first entry is an IPv4 address
with nothing before it.
-/

namespace Astro.StageNetworks

open PythonText TemplateChunks JobPaths RequestModels IpxePipeline ServerHandlers CustomIsoHandler
  SeedRendering
  RepositorySite RepositoryTemplates SimultaneousRendering HostNames Ipv6Pairs ShellText
    ShellSettings
  KernelCommandLine RenderedValues

def ipLine : String := "  ip=__IPV4__::__GW__:__MASK__:::off:__DNS_PRIMARY__ \\"

/-- The line of `boot.ipxe` with the `ip=` argument. -/
def bootIpLine (data : JobData) : Str := replaceAll (ipxeMap data) ipLine.toList

def appendLine : String :=
  "APPEND=\"ip=__IPV4_ADDRESS__::__IPV4_GATEWAY__:__IPV4_NETMASK__:__HOSTNAME__:__INTERFACE__:off:__DNS_PRIMARY__ \\"

/-- The line of `installer-launch.sh` that assigns the `ip=` argument of the second stage. -/
def launchIpLine (pairs : List (Str × Str)) : Str := replaceAll pairs appendLine.toList

/-- What the line assigns to `APPEND`, before it goes on in the next one. -/
def appendText (pairs : List (Str × Str)) : Str :=
  (launchIpLine pairs).drop ("APPEND=\"" : Str).length

/-- `[[:space:]]`. -/
def isSpace (c : Char) : Bool := c ∈ [' ', '\t', '\n', '\x0b', '\x0c', '\x0d']

/-- The entries that `apply-serialization.sh` writes, in their order. -/
def nameservers (nsrv : Str) : List Str :=
  ((split ',' nsrv).map fun entry => entry.filter fun c => !isSpace c).filter (· ≠ [])

/-- The name servers that the rendered `apply-serialization.sh` writes, from the settings that
it reads. The script ends before that where the user cannot be created with the password. -/
def appliedServers (createsUser : Str → Str → Bool) (pairs : List (Str × Str))
    (name : TemplateName) :
    Option (List Str) := do
  let settings ← settingsAt pairs (templateLines name)
  let un ← settings.lookup ("UN" : Str)
  let upass ← settings.lookup ("UPASS" : Str)
  let nsrv ← settings.lookup ("NSRV" : Str)
  if createsUser un upass then some (nameservers nsrv) else none

/-- Both `ip=` arguments are one word with eight fields; they have the address, the gateway, the
netmask and the name server in common, and the name server is the first that is written. A job
file has no interface. -/
def NetworksAgree (data : JobData) (launchPairs : List (Str × Str))
    (applied : Option (List Str)) : Prop :=
  ∃ dns,
    (cmdlineArgument "ip" (bootIpLine data)).map (split ':') =
      some [data.request.ipv4.address.val, [], data.request.ipv4.gateway.val,
        data.request.ipv4.netmask.val, [], [], "off".toList, dns] ∧
    (cmdlineArgument "ip" (appendText launchPairs)).map (split ':') =
      some [data.request.ipv4.address.val, [], data.request.ipv4.gateway.val,
        data.request.ipv4.netmask.val, data.request.hostname.val, [], "off".toList, dns] ∧
    applied.bind List.head? = some dns

def IsBlanks (text : Str) : Prop := ∀ c ∈ text, c = ' ' ∨ c = '\t'

instance (text : Str) : Decidable (IsBlanks text) := List.decidableBAll _ _

/-- An address between blanks, or only blanks. -/
def IsEntry (entry : Str) : Prop :=
  ∃ left middle right, entry = left ++ middle ++ right ∧ IsBlanks left ∧ IsBlanks right ∧
    (middle = [] ∨ IsIpAddress middle)

section Entries
variable {left middle right : Str} (hmiddle : middle = [] ∨ IsIpAddress middle)

theorem IsBlanks.isPythonSpace {text : Str} (h : IsBlanks text) : ∀ c ∈ text,
    isPythonSpace c = true := by
  intro c hc
  rcases h c hc with rfl | rfl <;> rfl

theorem IsBlanks.isBlank {text : Str} (h : IsBlanks text) : ∀ c ∈ text,
    ShellText.isBlank c = true := by
  intro c hc
  rcases h c hc with rfl | rfl <;> rfl

theorem IsBlanks.isSpace {text : Str} (h : IsBlanks text) : ∀ c ∈ text,
    StageNetworks.isSpace c = true := by
  intro c hc
  rcases h c hc with rfl | rfl <;> rfl

include hmiddle

theorem middle_isAddressChar : ∀ c ∈ middle, isAddressChar c = true := by
  intro c hc
  rcases hmiddle with rfl | h
  · cases hc
  · exact h.isAddressChar hc

theorem middle_not_blank : ∀ c ∈ middle, isPythonSpace c = false ∧ isBlank c = false ∧
    isSpace c = false := by
  intro c hc
  have hchar := middle_isAddressChar hmiddle c hc
  refine ⟨isPythonSpace_of_isAddressChar hchar, ?_, ?_⟩
  · cases hblank : isBlank c with
    | false => rfl
    | true =>
      simp only [isBlank, Bool.or_eq_true, decide_eq_true_eq] at hblank
      rcases hblank with (rfl | rfl) | rfl <;> exact absurd hchar (by decide)
  · refine decide_eq_false fun hspace => ?_
    simp only [List.mem_cons, List.not_mem_nil, or_false] at hspace
    rcases hspace with rfl | rfl | rfl | rfl | rfl | rfl <;> exact absurd hchar (by decide)

theorem stripBlanks_entry (hleft : IsBlanks left) (hright : IsBlanks right) :
    stripBlanks (left ++ middle ++ right) = middle :=
  stripBlanks_append hleft.isPythonSpace (fun c hc => (middle_not_blank hmiddle c hc).1)
    hright.isPythonSpace

theorem visible_entry (hright : IsBlanks right) : visible (middle ++ right) = middle := by
  have hall : visible middle = middle :=
    List.takeWhile_eq_self_iff.mpr fun c hc => by rw [(middle_not_blank hmiddle c hc).2.1]; rfl
  cases right with
  | nil => rw [List.append_nil, hall]
  | cons b right =>
    rw [visible_append_blank middle right (hright.isBlank b List.mem_cons_self), hall]

theorem filter_entry (hleft : IsBlanks left) (hright : IsBlanks right) :
    (left ++ middle ++ right).filter (fun c => !isSpace c) = middle := by
  have hblanks : ∀ {text : Str}, IsBlanks text → text.filter (fun c => !isSpace c) = [] := by
    intro text h
    refine List.filter_eq_nil_iff.mpr fun c hc => ?_
    rw [h.isSpace c hc]
    exact Bool.false_ne_true
  have hkept : middle.filter (fun c => !isSpace c) = middle := by
    refine List.filter_eq_self.mpr fun c hc => ?_
    rw [(middle_not_blank hmiddle c hc).2.2]
    rfl
  rw [List.filter_append, List.filter_append, hblanks hleft, hblanks hright, hkept, List.nil_append,
    List.append_nil]

end Entries

theorem split_eq_singleton_iff {sep : Char} {text piece : Str} :
    split sep text = [piece] ↔ piece = text ∧ sep ∉ text := by
  constructor
  · intro h
    by_cases hsep : sep ∈ text
    · obtain ⟨front, back, rfl⟩ := List.append_of_mem hsep
      rw [split, List.splitOn_append_cons_self] at h
      have hlength := congrArg List.length h
      have hfront := List.length_pos_iff.mpr (List.splitOnP_ne_nil (· == sep) front)
      have hback := List.length_pos_iff.mpr (List.splitOnP_ne_nil (· == sep) back)
      rw [List.length_append, List.length_singleton] at hlength
      unfold List.splitOn at hlength
      omega
    · rw [split, List.splitOn_eq_singleton hsep] at h
      exact ⟨(List.cons.inj h).1.symm, hsep⟩
  · rintro ⟨rfl, hsep⟩
    exact List.splitOn_eq_singleton hsep

theorem not_colon_ipv4 {text : Str} (h : isIpv4Address text = true) : ':' ∉ text := by
  intro hmem
  rcases ipv4_chars h hmem with hc | hc
  · exact absurd hc (by decide)
  · exact absurd hc (by decide)

/-- The first entry is an IPv4 address, with blanks after it at most. -/
def StartsWithIpv4 (entry : Str) : Prop :=
  ∃ address blanks, entry = address ++ blanks ∧ isIpv4Address address = true ∧ IsBlanks blanks

theorem ne_nil_of_head?_nameservers {nsrv dns : Str} (h : (nameservers nsrv).head? = some dns) :
    dns ≠ [] := by
  have hmem := List.mem_of_mem_head? (Option.mem_def.mpr h)
  simpa using (List.mem_filter.mp hmem).2

/-- The three readings of the first entry. -/
theorem readings_agree_iff {entry : Str} {entries : List Str} {nsrv : Str}
    (hsplit : split ',' nsrv = entry :: entries) (hentry : IsEntry entry) :
    (∃ dns, split ':' (stripBlanks entry) = [dns] ∧ split ':' (visible entry) = [dns] ∧
      (nameservers nsrv).head? = some dns) ↔ StartsWithIpv4 entry := by
  obtain ⟨left, middle, right, rfl, hleft, hright, hmiddle⟩ := hentry
  have hstrip := stripBlanks_entry hmiddle hleft hright
  constructor
  · rintro ⟨dns, h1, h2, hhead⟩
    rw [hstrip] at h1
    obtain ⟨rfl, hcolon⟩ := split_eq_singleton_iff.mp h1
    obtain ⟨hvisible, -⟩ := split_eq_singleton_iff.mp h2
    have hne : dns ≠ [] := ne_nil_of_head?_nameservers hhead
    have haddress := hmiddle.resolve_left hne
    have hleftnil : left = [] := by
      cases left with
      | nil => rfl
      | cons b left =>
        have hb := hleft.isBlank b List.mem_cons_self
        rw [List.cons_append, List.cons_append, visible,
          List.takeWhile_cons_of_neg (by rw [hb]; exact Bool.false_ne_true)] at hvisible
        exact absurd hvisible hne
    rw [hleftnil, List.nil_append]
    rcases haddress with hipv4 | ⟨hipv6, -⟩
    · exact ⟨dns, right, rfl, hipv4, hright⟩
    · exact absurd (colon_mem_of_isIpv6Address hipv6) hcolon
  · rintro ⟨address, blanks, heq, hipv4, hblanks⟩
    have haddress : address = [] ∨ IsIpAddress address := Or.inr (Or.inl hipv4)
    have hno : IsBlanks [] := List.forall_mem_nil _
    have hcolon := not_colon_ipv4 hipv4
    have hfirst := @stripBlanks_entry [] address blanks haddress hno hblanks
    have hkept := @filter_entry [] address blanks haddress hno hblanks
    rw [List.nil_append] at hfirst hkept
    rw [heq] at hsplit ⊢
    refine ⟨address, ?_, ?_, ?_⟩
    · rw [hfirst]
      exact split_eq_singleton_iff.mpr ⟨rfl, hcolon⟩
    · rw [visible_entry haddress hblanks]
      exact split_eq_singleton_iff.mpr ⟨rfl, hcolon⟩
    · rw [nameservers, hsplit, List.map_cons, hkept,
        List.filter_cons_of_pos (by simpa using ipv4_ne_nil hipv4)]
      rfl

/-- A text of fields before the last one. -/
def fieldsText (fields : List Str) (last : Str) : Str :=
  fields.foldr (fun field text => field ++ ':' :: text) last

theorem split_fieldsText {fields : List Str} (h : ∀ field ∈ fields, ':' ∉ field) (last : Str) :
    split ':' (fieldsText fields last) = fields ++ split ':' last := by
  induction fields with
  | nil => rfl
  | cons field fields ih =>
    obtain ⟨hfield, hrest⟩ := List.forall_mem_cons.mp h
    have hsplit : split ':' (fieldsText (field :: fields) last) =
        split ':' field ++ split ':' (fieldsText fields last) := List.splitOn_append_cons_self _ _
    rw [hsplit, ih hrest, split, List.splitOn_eq_singleton hfield]
    rfl

theorem fieldsText_append (fields : List Str) (last rest : Str) :
    fieldsText fields last ++ rest = fieldsText fields (last ++ rest) := by
  induction fields with
  | nil => rfl
  | cons field fields ih =>
    change (field ++ ':' :: fieldsText fields last) ++ rest = field ++ ':' ::
      fieldsText fields (last ++ rest)
    rw [List.append_assoc, List.cons_append, ih]

theorem mem_fieldsText {fields : List Str} {last : Str} {c : Char}
    (h : c ∈ fieldsText fields last) :
    c = ':' ∨ (∃ field ∈ fields, c ∈ field) ∨ c ∈ last := by
  induction fields with
  | nil => exact Or.inr (Or.inr h)
  | cons field fields ih =>
    rcases List.mem_append.mp (h : c ∈ field ++ ':' :: fieldsText fields last) with h | h
    · exact Or.inr (Or.inl ⟨field, List.mem_cons_self, h⟩)
    rcases List.mem_cons.mp h with h | h
    · exact Or.inl h
    rcases ih h with h | ⟨other, hother, h⟩ | h
    · exact Or.inl h
    · exact Or.inr (Or.inl ⟨other, List.mem_cons_of_mem _ hother, h⟩)
    · exact Or.inr (Or.inr h)

section Fields
variable (data : JobData)

/-- The seven fields before the name server. -/
def networkFields (hostname : Str) : List Str :=
  [data.request.ipv4.address.val, [], data.request.ipv4.gateway.val, data.request.ipv4.netmask.val,
    hostname, [], "off".toList]

theorem ipArgument_eq_fieldsText :
    ipArgument data = fieldsText (networkFields data []) (stripBlanks (firstServer data)) := rfl

theorem networkFields_isPlain {hostname : Str} (h : IsPlain hostname) :
    ∀ field ∈ networkFields data hostname, IsPlain field := by
  have hoff : IsPlain "off" := by decide
  unfold networkFields
  simp only [List.forall_mem_cons]
  exact ⟨isPlain_ipv4 _, isPlain_nil, isPlain_ipv4 _, isPlain_ipv4 _, h, isPlain_nil, hoff,
    List.forall_mem_nil _⟩

theorem networkFields_not_colon {hostname : Str} (h : ':' ∉ hostname) :
    ∀ field ∈ networkFields data hostname, ':' ∉ field := by
  have hipv4 : ∀ address : {s : Str // isIpv4Address s = true}, ':' ∉ address.val :=
    fun address => not_colon_ipv4 address.property
  unfold networkFields
  simp only [List.forall_mem_cons]
  exact ⟨hipv4 _, List.not_mem_nil, hipv4 _, hipv4 _, h, List.not_mem_nil, by decide,
    List.forall_mem_nil _⟩

end Fields

/-- The argument that starts a text is its first word. -/
theorem cmdlineArgument_argument {var value : Str} (hvar : '=' ∉ var) (hword : IsWord var)
    (hvalue : ∀ c ∈ value, isBlank c = false) (text : Str) :
    cmdlineArgument var (argument var value ++ text) = some (value ++ visible text) := by
  obtain ⟨more, hwords⟩ := words_append (isWord_argument hword hvalue) text
  have hargument : argument var value ++ visible text = argument var (value ++ visible text) := by
    rw [argument, List.append_assoc, List.cons_append, argument]
  rw [cmdlineArgument, hwords, hargument, lookup_cons_self hvar]

theorem cmdlineArgument_bootIpLine {data : JobData}
    (hdns : IsPlain (stripBlanks (firstServer data))) :
    cmdlineArgument "ip" (bootIpLine data) = some (ipArgument data) := by
  have hline : bootIpLine data = ' ' :: ' ' ::
      (argument "ip" (ipArgument data) ++ ' ' :: ['\\']) := by
    have hrender : bootIpLine data = argumentLine (argument "ip" (ipArgument data)) ++ ['\\'] :=
      render_ipLine data hdns
    rw [hrender, argumentLine, List.cons_append, List.cons_append, List.append_assoc,
      List.singleton_append]
  have hargument := cmdlineArgument_argument (by decide : '=' ∉ "ip".toList) (by decide)
    (isPlain_ipArgument hdns).not_blank (' ' :: ['\\'])
  have hvisible : visible (' ' :: ['\\']) = [] := by decide
  rw [hvisible, List.append_nil] at hargument
  rw [hline, cmdlineArgument, words_blank_cons rfl, words_blank_cons rfl]
  exact hargument

theorem render_fieldsText {pairs : List (Str × Str)} (h : Separates ':' pairs) (fields : List Str)
    (last : Str) :
    replaceAll pairs (fieldsText fields last) =
      fieldsText (fields.map (replaceAll pairs)) (replaceAll pairs last) := by
  induction fields with
  | nil => rfl
  | cons field fields ih =>
    have hfield := replaceAll_append_cons h field (fieldsText fields last)
    rw [ih] at hfield
    exact hfield

/-- The values of a job that the line takes. -/
def launchValues (data : JobData) : List (Str × Str) :=
  [("__IPV4_ADDRESS__".toList, data.request.ipv4.address.val),
    ("__IPV4_GATEWAY__".toList, data.request.ipv4.gateway.val),
    ("__IPV4_NETMASK__".toList, data.request.ipv4.netmask.val),
    ("__HOSTNAME__".toList, data.request.hostname.val), ("__INTERFACE__".toList, []),
    ("__DNS_PRIMARY__".toList, firstServer data)]

section Launch
variable {site : Site} {opensslPasswd : Str → Option Str} {hostIp : Str}
  {request : PhoneHomeRequest}
  {data : JobData} {m : List (Str × Str) × Str}

theorem launchMap_job
    (h : launchMap (deployment site opensslPasswd) hostIp request (jobFields data) = some m) :
    m.2 = launchTemplate ∧ launchValues data ⊆ m.1 := by
  have hspec := launchMap_spec h
  refine ⟨(Option.some.inj hspec.template).symm, ?_⟩
  unfold launchValues
  simp only [List.cons_subset, List.nil_subset, and_true]
  exact ⟨hspec.address _ rfl, hspec.gateway _ rfl, hspec.netmask _ rfl, hspec.hostname,
    hspec.interface, hspec.dns _ rfl⟩

theorem render_launchIpLine (hassigns : launchPlaceholders.Assigns m.1)
    (hvalues : launchValues data ⊆ m.1) (hname : IsPlain data.request.hostname.val)
    (hentry : '_' ∉ firstServer data) :
    launchIpLine m.1 = "APPEND".toList ++ '=' :: ("\"ip".toList ++ '=' ::
      fieldsText (networkFields data data.request.hostname.val)
        (firstServer data ++ ' ' :: ['\\'])) := by
  have hline : appendLine.toList = "APPEND".toList ++ '=' :: ("\"ip".toList ++ '=' ::
      fieldsText ["__IPV4_ADDRESS__".toList, [], "__IPV4_GATEWAY__".toList,
        "__IPV4_NETMASK__".toList, "__HOSTNAME__".toList, "__INTERFACE__".toList, "off".toList]
        ("__DNS_PRIMARY__".toList ++ ' ' :: ['\\'])) := rfl
  have hkey : ∀ pair ∈ launchValues data, '_' ∉ pair.2 → replaceAll m.1 pair.1 = pair.2 :=
    fun pair hpair hvalue => hassigns.replaceAll_of_mem (hvalues hpair)
      (Placeholders.absent_of_unmarked (Placeholders.unmarked_of_not_mem List.mem_cons_self hvalue))
  have hipv4 : ∀ address : {s : Str // isIpv4Address s = true}, '_' ∉ address.val :=
    fun address => (isPlain_ipv4 address).not_mem rfl
  have hrest : ∀ {text : Str}, '_' ∉ text → replaceAll m.1 text = text := fun h =>
    Placeholders.replaceAll_of_unmarked (fun _ => hassigns.mem)
      (Placeholders.unmarked_of_not_mem List.mem_cons_self h)
  simp only [launchValues, List.forall_mem_cons] at hkey
  obtain ⟨h1, h2, h3, h4, h5, h6, -⟩ := hkey
  have hfields : ["__IPV4_ADDRESS__".toList, [], "__IPV4_GATEWAY__".toList,
      "__IPV4_NETMASK__".toList, "__HOSTNAME__".toList, "__INTERFACE__".toList, "off".toList].map
        (replaceAll m.1) =
        networkFields data data.request.hostname.val := by
    simp only [List.map_cons, List.map_nil]
    rw [h1 (hipv4 _), h2 (hipv4 _), h3 (hipv4 _), h4 (hname.not_mem rfl), h5 List.not_mem_nil,
      hrest List.not_mem_nil, hrest (by decide : '_' ∉ "off".toList)]
    rfl
  unfold launchIpLine
  rw [hline, replaceAll_append_cons (hassigns.separates rfl),
    replaceAll_append_cons (hassigns.separates rfl), render_fieldsText (hassigns.separates rfl),
    replaceAll_append_cons (hassigns.separates rfl), hfields,
    h6 hentry, hrest (by decide : '_' ∉ "APPEND".toList), hrest (by decide : '_' ∉ "\"ip".toList),
    hrest (by decide : '_' ∉ ['\\'])]

theorem cmdlineArgument_appendText (hassigns : launchPlaceholders.Assigns m.1)
    (hvalues : launchValues data ⊆ m.1) (hname : IsPlain data.request.hostname.val)
    (hentry : '_' ∉ firstServer data) :
    cmdlineArgument "ip" (appendText m.1) =
      some (fieldsText (networkFields data data.request.hostname.val)
        (visible (firstServer data))) := by
  have hlast : ∀ text : Str, fieldsText (networkFields data data.request.hostname.val) text =
      fieldsText (networkFields data data.request.hostname.val) [] ++ text := by
    intro text
    rw [fieldsText_append, List.nil_append]
  have htext : appendText m.1 = argument "ip"
      (fieldsText (networkFields data data.request.hostname.val) []) ++
          (firstServer data ++ ' ' :: ['\\']) := by
    unfold appendText argument
    rw [render_launchIpLine hassigns hvalues hname hentry, hlast, List.append_assoc]
    rfl
  have hfields : ∀ c ∈ fieldsText (networkFields data data.request.hostname.val) [],
      isBlank c = false := by
    intro c hc
    rcases mem_fieldsText hc with rfl | ⟨field, hfield, hc⟩ | hc
    · rfl
    · exact (networkFields_isPlain data hname field hfield).not_blank c hc
    · exact absurd hc List.not_mem_nil
  rw [htext, cmdlineArgument_argument (by decide) (by decide) hfields, visible_append_blank _ _ rfl,
    ← hlast]

end Launch

/-- What the script reads in the other settings of a job: no value has a placeholder, and the
user name and the IPv6 settings mean nothing in their quotes. -/
structure HasPlainSettings (request : ProvisionCustomISORequest) : Prop where
  username : IsFree request.username ∧ IsLiteral request.username
  free : AreFree request
  ipv6 : IsLiteral (renderedV6 request) ∧ IsLiteral (renderedGw6 request)

theorem IsEntry.not_mem {entry : Str} (h : IsEntry entry) {c : Char}
    (hc : isAddressChar c = false ∧ c ≠ ' ' ∧ c ≠ '\t') : c ∉ entry := by
  obtain ⟨left, middle, right, rfl, hleft, hright, hmiddle⟩ := h
  have hblanks : ∀ {text : Str}, IsBlanks text → c ∉ text :=
    fun h hmem => (h c hmem).elim hc.2.1 hc.2.2
  have haddress : c ∉ middle := by
    intro hmem
    rw [middle_isAddressChar hmiddle c hmem] at hc
    exact absurd hc.1 (by decide)
  simp only [List.mem_append, not_or]
  exact ⟨⟨hblanks hleft, haddress⟩, hblanks hright⟩

/-- The characters of an entry mean nothing in double quotes. -/
theorem IsEntry.plain {entry : Str} (h : IsEntry entry) {c : Char} (hc : c ∈ entry) :
    YamlScalars.isPrintable c = true ∧ YamlScalars.isBreak c = false ∧ c ≠ '"' ∧
      c ≠ '\x60' ∧ c ≠ '$' ∧
      c ≠ '\\' := by
  obtain ⟨left, middle, right, rfl, hleft, hright, hmiddle⟩ := h
  have hblank : c = ' ' ∨ c = '\t' → YamlScalars.isPrintable c = true ∧
      YamlScalars.isBreak c = false ∧ c ≠ '"' ∧
      c ≠ '\x60' ∧ c ≠ '$' ∧ c ≠ '\\' := by
    rintro (rfl | rfl) <;> decide
  simp only [List.mem_append] at hc
  rcases hc with (hc | hc) | hc
  · exact hblank (hleft c hc)
  · have hchar := middle_isAddressChar hmiddle c hc
    simp only [isAddressChar, Bool.or_eq_true, decide_eq_true_eq] at hchar
    rcases hchar with (hdigit | rfl) | rfl
    · obtain ⟨hprintable, hbreak, hquote, hback, hdollar, hslash, -⟩ :=
        isAlphanum_plain (isAlphanum_of_isHexDigit hdigit)
      exact ⟨hprintable, hbreak, hquote, hback, hdollar, hslash⟩
    · decide
    · decide
  · exact hblank (hright c hc)

theorem IsEntry.isPlain_stripBlanks {entry : Str} (h : IsEntry entry) :
    IsPlain (stripBlanks entry) := by
  obtain ⟨left, middle, right, rfl, hleft, hright, hmiddle⟩ := h
  rw [stripBlanks_entry hmiddle hleft hright]
  rcases hmiddle with rfl | h
  · exact isPlain_nil
  · exact isPlain_address h

section Result
variable {site : Site} {opensslPasswd : Str → Option Str} {hostIp : Str}
  {request : PhoneHomeRequest}
  {data : JobData} {m : List (Str × Str) × Str}
  (hdns : ∀ entry ∈ split ',' data.request.dnsServers, IsEntry entry)
include hdns

theorem networksAgree_iff_startsWithIpv4 (hname : IsHostName data.request.hostname.val)
    (hassigns : launchPlaceholders.Assigns m.1) (hvalues : launchValues data ⊆ m.1) :
    NetworksAgree data m.1 (some (nameservers data.request.dnsServers)) ↔
      StartsWithIpv4 (firstServer data) := by
  have hentry : IsEntry (firstServer data) := hdns _ (firstServer_mem data)
  have hboot : (cmdlineArgument "ip" (bootIpLine data)).map (split ':') =
      some (networkFields data [] ++ split ':' (stripBlanks (firstServer data))) := by
    rw [cmdlineArgument_bootIpLine hentry.isPlain_stripBlanks, Option.map_some,
      ipArgument_eq_fieldsText, split_fieldsText (networkFields_not_colon data List.not_mem_nil)]
  have hlaunch : (cmdlineArgument "ip" (appendText m.1)).map (split ':') =
      some (networkFields data data.request.hostname.val ++
          split ':' (visible (firstServer data))) := by
    rw [cmdlineArgument_appendText hassigns hvalues (isPlain_hostName hname)
      (hentry.not_mem (by decide)),
      Option.map_some, split_fieldsText (networkFields_not_colon data (hname.not_mem rfl))]
  have hfields : ∀ (hostname dns : Str) (pieces : List Str),
      some (networkFields data hostname ++ pieces) = some (networkFields data hostname ++ [dns]) ↔
        pieces = [dns] := by
    intro hostname dns pieces
    rw [Option.some.injEq, List.append_cancel_left_eq]
  obtain ⟨entries, hsplit⟩ := split_dnsServers data
  rw [← readings_agree_iff hsplit hentry]
  refine exists_congr fun dns => ?_
  rw [hboot, hlaunch]
  exact and_congr (hfields [] dns _) (and_congr_left' (hfields data.request.hostname.val dns _))

theorem isFree_dnsServers : IsFree data.request.dnsServers := by
  refine isFree_of_no_brace fun hbrace => ?_
  rcases @mem_split ',' _ _ hbrace with hcomma | ⟨entry, hentry, hmem⟩
  · exact absurd hcomma (by decide)
  · exact (hdns entry hentry).not_mem (by decide) hmem

theorem isLiteral_dnsServers : IsLiteral data.request.dnsServers := by
  refine isLiteral_of_forall fun c hc => ?_
  rcases @mem_split ',' _ _ hc with rfl | ⟨entry, hentry, hmem⟩
  · decide
  · exact (hdns entry hentry).plain hmem

omit hdns in
theorem bootIpLine_in_script :
    bootIpLine data ++ ['\n'] <:+: bootScript (deployment site opensslPasswd).toSite data := by
  have hassigns := assigns_ipxeMap data
  have hkernel : ipLine ∈ kernelLines := List.mem_cons_of_mem _ List.mem_cons_self
  have hmem : ipLine.toList ∈ template2Lines.map String.toList := by
    rw [template2Lines_eq]
    exact List.mem_map_of_mem (List.mem_append_right _ (List.mem_append_left _ hkernel))
  have hline := hassigns.rendered_line rfl hmem []
  rw [List.append_nil, ← textOf_eq] at hline
  rw [bootScript_eq_render rfl]
  exact hline

theorem appliedServers_eq (hname : IsHostName data.request.hostname.val)
    (hnone : site.py.repr .null = "None")
    (hm : userDataMap (deployment site opensslPasswd) hostIp request (jobFields data) = some m)
    {createsUser : Str → Str → Bool}
    (hhash : ∀ hash ∈ hashedPassword (deployment site opensslPasswd) (jobFields data),
      (∀ c ∈ hash, isCryptChar c = true) ∧ createsUser data.request.username hash = true)
    (hplain : HasPlainSettings data.request) (name : TemplateName) :
    appliedServers createsUser m.1 name = some (nameservers data.request.dnsServers) := by
  obtain ⟨-, hash, -, hhashed, -, -⟩ := userDataMap_spec hm
  obtain ⟨hcrypt, hcreates⟩ := hhash hash hhashed
  have hname' := isPlain_hostName hname
  have hfree : FreeSettings data.request :=
    ⟨isFree_of_isPlain hname', hplain.username.1, isFree_dnsServers hdns, hplain.free⟩
  have hsettings : settingsAt m.1 (templateLines name) =
      some ((settings hash data).map fun g => (g.1.name, g.2)) :=
    (settingsAt_iff (userDataMap_cases hm).1 name
      (rendered_settings hnone hm hhashed hcrypt hfree)).mpr
      ((settings_plain_iff hcrypt).mpr ⟨isLiteral_of_isPlain hname', hplain.username.2,
        hplain.ipv6.1, hplain.ipv6.2, isLiteral_dnsServers hdns⟩)
  rw [appliedServers, hsettings]
  exact if_pos hcreates

/-- For every job with a host name and a list of addresses, whose other settings are plain and
whose user the applier creates, the two boot stages and the installed system have the same
network settings exactly when the list starts with an IPv4 address. -/
theorem networks_agree_iff (hname : IsHostName data.request.hostname.val)
    (hnone : site.py.repr .null = "None")
    (hm : launchMap (deployment site opensslPasswd) hostIp request (jobFields data) = some m)
    {m' : List (Str × Str) × Str}
    (hm' : userDataMap (deployment site opensslPasswd) hostIp request (jobFields data) = some m')
    {createsUser : Str → Str → Bool}
    (hhash : ∀ hash ∈ hashedPassword (deployment site opensslPasswd) (jobFields data),
      (∀ c ∈ hash, isCryptChar c = true) ∧ createsUser data.request.username hash = true)
    (hplain : HasPlainSettings data.request) :
    bootIpLine data ++ ['\n'] <:+: bootScript (deployment site opensslPasswd).toSite data ∧
    (∃ script, installerLaunch (deployment site opensslPasswd) hostIp request (jobFields data) =
      some script ∧
      launchIpLine m.1 ++ ['\n'] <:+: script) ∧
    ∃ disks, chosenDisks request (jobFields data) = some disks ∧
      (∃ file, userData (deployment site opensslPasswd) hostIp request
        (jobFields data) = some file ∧
        fileFrom m'.1 (templateLines disks.templateName) hnLine <:+ file) ∧
      (NetworksAgree data m.1 (appliedServers createsUser m'.1 disks.templateName) ↔
        StartsWithIpv4 (firstServer data)) := by
  obtain ⟨htemplate, hvalues⟩ := launchMap_job hm
  have hassigns := (launchMap_cases hm).1
  obtain ⟨disks, -, hdisks, -, -, htemplate'⟩ := userDataMap_spec hm'
  refine ⟨bootIpLine_in_script, ⟨replaceAll m.1 m.2, ?_, ?_⟩, disks, hdisks,
    ⟨replaceAll m'.1 m'.2, ?_, ?_⟩, ?_⟩
  · rw [installerLaunch_eq_map, hm, Option.map_some]
  · rw [htemplate]
    exact launch_line hassigns (by decide : appendLine ∈ launchLines)
  · rw [userData_eq_map, hm', Option.map_some]
  · rw [htemplate']
    exact fileFrom_suffix (userDataMap_cases hm').1 hnLine
  · rw [appliedServers_eq hdns hname hnone hm' hhash hplain]
    exact networksAgree_iff_startsWithIpv4 hdns hname hassigns hvalues

end Result

def spacedServers : Str := "9.9.9.9 ,, 2620:fe::fe"

def spacedJob : JobData :=
  namedJob "node-1.example" "ubuntu" spacedServers twoServersJob.request.hostname.property

def spacedRequest : PhoneHomeRequest :=
  requestOf spacedJob.request.hostname.val spacedJob.request.hostname.property

theorem isEntry_spacedServers : ∀ entry ∈ split ',' spacedServers, IsEntry entry := by
  have hsplit : split ',' spacedServers = ["9.9.9.9 ".toList, [], " 2620:fe::fe".toList] := rfl
  rw [hsplit]
  simp only [List.forall_mem_cons]
  exact ⟨⟨[], "9.9.9.9", " ", by decide, by decide, by decide, by decide⟩,
    ⟨[], [], [], rfl, by decide, by decide, Or.inl rfl⟩,
    ⟨" ", "2620:fe::fe", [], by decide, by decide, by decide, by decide⟩,
    List.forall_mem_nil _⟩

/-- Without IPv6 settings and with a plain user name. -/
theorem hasPlainSettings_named {hostname dnsServers : Str} {hhostname : hostname ≠ []} :
    HasPlainSettings (namedJob hostname "ubuntu" dnsServers hhostname).request where
  username :=
    ⟨isFree_of_no_brace (by decide : '\x7b' ∉ "ubuntu".toList), (by decide : IsLiteral "ubuntu")⟩
  free :=
    ⟨isFree_of_no_brace List.not_mem_nil, isFree_of_no_brace (by decide : '\x7b' ∉ "64".toList),
      isFree_of_no_brace List.not_mem_nil⟩
  ipv6 := ⟨trivial, trivial⟩

def everyUser (_username _hash : Str) : Bool := true

theorem hash_named {hostname dnsServers : Str} {hhostname : hostname ≠ []} :
    ∀ hash ∈ hashedPassword noneDep (jobFields (namedJob hostname "ubuntu" dnsServers hhostname)),
      (∀ c ∈ hash, isCryptChar c = true) ∧ everyUser "ubuntu" hash = true := by
  rintro hash hmem
  obtain rfl : "$6$ubuntu".toList = hash := Option.some.inj hmem
  exact ⟨isCryptChar_hash, rfl⟩

/-- A blank after the first address, and an empty entry behind it. -/
theorem networks_agree_spacedServers :
    ∃ m m' disks, launchMap noneDep "10.0.0.1" spacedRequest (jobFields spacedJob) = some m ∧
      userDataMap noneDep "10.0.0.1" spacedRequest (jobFields spacedJob) = some m' ∧
      chosenDisks spacedRequest (jobFields spacedJob) = some disks ∧
      NetworksAgree spacedJob m.1 (appliedServers everyUser m'.1 disks.templateName) := by
  have hfirst : StartsWithIpv4 (firstServer spacedJob) :=
    ⟨"9.9.9.9", " ", rfl, by decide, by decide⟩
  have hmap : ∃ m, launchMap noneDep "10.0.0.1" spacedRequest (jobFields spacedJob) = some m :=
    ⟨_, rfl⟩
  have hmap' : ∃ m, userDataMap noneDep "10.0.0.1" spacedRequest (jobFields spacedJob) = some m :=
    ⟨_, rfl⟩
  obtain ⟨m, hm⟩ := hmap
  obtain ⟨m', hm'⟩ := hmap'
  obtain ⟨-, -, disks, hdisks, -, hiff⟩ :=
    networks_agree_iff isEntry_spacedServers (by decide) rfl hm hm'
    hash_named hasPlainSettings_named
  exact ⟨m, m', disks, hm, hm', hdisks, hiff.mpr hfirst⟩

def blankServers : Str := " 8.8.8.8"

def blankJob : JobData :=
  namedJob "node-1.example" "ubuntu" blankServers twoServersJob.request.hostname.property

def blankRequest : PhoneHomeRequest :=
  requestOf blankJob.request.hostname.val blankJob.request.hostname.property

theorem isEntry_blankServers : ∀ entry ∈ split ',' blankServers, IsEntry entry := by
  have hsplit : split ',' blankServers = [" 8.8.8.8".toList] := rfl
  rw [hsplit]
  exact List.forall_mem_singleton.mpr
    ⟨" ", "8.8.8.8", [], by decide, by decide, by decide, by decide⟩

/-- The second stage has no name server, where the first stage and the installed system have
one. -/
theorem leading_blank_drops_server :
    accept noneSite "10.0.0.1" (some (namedBody "node-1.example" "ubuntu" blankServers)) =
      .ok blankJob ∧
    phoneHomeRequest noneDep.toSite (phoneHomeOf "node-1.example") = some blankRequest ∧
    ∃ m m', launchMap noneDep "10.0.0.1" blankRequest (jobFields blankJob) = some m ∧
      userDataMap noneDep "10.0.0.1" blankRequest (jobFields blankJob) = some m' ∧
      cmdlineArgument "ip" (bootIpLine blankJob) =
        some "10.0.0.20::10.0.0.254:255.255.255.0:::off:8.8.8.8".toList ∧
      cmdlineArgument "ip" (appendText m.1) =
        some "10.0.0.20::10.0.0.254:255.255.255.0:node-1.example::off:".toList ∧
      appliedServers everyUser m'.1 .userData = some ["8.8.8.8".toList] ∧
      ¬ NetworksAgree blankJob m.1 (appliedServers everyUser m'.1 .userData) := by
  have hmap : ∃ m, launchMap noneDep "10.0.0.1" blankRequest (jobFields blankJob) = some m :=
    ⟨_, rfl⟩
  have hmap' : ∃ m, userDataMap noneDep "10.0.0.1" blankRequest (jobFields blankJob) = some m :=
    ⟨_, rfl⟩
  obtain ⟨m, hm⟩ := hmap
  obtain ⟨m', hm'⟩ := hmap'
  have hassigns := (launchMap_cases hm).1
  have hvalues := (launchMap_job hm).2
  have hname : IsHostName blankJob.request.hostname.val := by decide
  have hboot := @cmdlineArgument_bootIpLine blankJob (by decide)
  have hlaunch := cmdlineArgument_appendText hassigns hvalues (isPlain_hostName hname) (by decide)
  have happlied :=
    appliedServers_eq isEntry_blankServers hname rfl hm' hash_named hasPlainSettings_named .userData
  refine ⟨rfl, rfl, m, m', hm, hm', ?_, ?_, happlied, ?_⟩
  · rw [hboot]
    rfl
  · rw [hlaunch]
    rfl
  · rw [happlied, networksAgree_iff_startsWithIpv4 isEntry_blankServers hname hassigns hvalues]
    rintro ⟨address, blanks, heq, hipv4, -⟩
    obtain ⟨c, address, rfl⟩ := List.exists_cons_of_ne_nil (ipv4_ne_nil hipv4)
    have hfirst : firstServer blankJob = ' ' :: "8.8.8.8".toList := rfl
    obtain rfl : ' ' = c := (List.cons.inj (hfirst.symm.trans heq)).1
    exact absurd (ipv4_chars hipv4 List.mem_cons_self) (by decide)

end Astro.StageNetworks
