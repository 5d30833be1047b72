import Astro.HostNames
import Astro.ShellText
import Astro.SimultaneousRendering

/-!
# The kernel command line of the first boot stage

`template2.ipxe` is hydrated with the context of a job; iPXE joins the continued kernel line,
expands `bootif_mac` and hands the arguments to the kernel; `init` looks them up by name. The
values of a job with plain names come out as they went in.
-/

namespace Astro.KernelCommandLine

open PythonText TemplateChunks JobPaths RequestModels IpxePipeline CustomIsoHandler RepositorySite
  RepositoryTemplates SimultaneousRendering HostNames ShellText

/-- The first argument with the name, without what stands up to its `=`. -/
def lookup (var : Str) (args : List Str) : Option Str :=
  (args.find? fun x => var ++ ['='] <+: x).map fun x => (x.dropWhile (· ≠ '=')).tail

def cmdlineArgument (var cmdline : Str) : Option Str := lookup var (words cmdline)

/-- An argument that `echo` takes as its options and does not print. -/
def isEchoOption : Str → Bool
  | '-' :: c :: text => (c :: text).all fun c => c ∈ ['n', 'e', 'E']
  | _ => false

/-- What `echo "$x"` prints, without the line feed that a command substitution takes away. -/
def printed (x : Str) : Str := if isEchoOption x then [] else x

/-- `get_cmdline_var`; there is no value for an argument that is not there. -/
def getCmdlineVar (var cmdline : Str) : Option Str := (cmdlineArgument var cmdline).map printed

/-- The first command of the script that loads a kernel. -/
def kernelLine (script : Str) : Option Str :=
  (joinContinued (split '\n' script)).find? fun line => (words line).head? = some "kernel".toList

/-- The arguments after the image, with the one setting that they use. -/
def kernelArguments (script bootifMac : Str) : Option (List Str) :=
  (kernelLine script).map fun line => (words (replace "$\x7bbootif_mac\x7d" bootifMac line)).drop 2

/-- The command line of the kernel, with what the boot loader appends. -/
def kernelCommandLine (script bootifMac appended : Str) : Option Str :=
  (kernelArguments script bootifMac).map fun args => join " " args ++ ' ' :: appended

abbrev Mac := Fin 6 → UInt8

def hexByte (b : UInt8) : Str := [Nat.digitChar (b.toNat / 16), Nat.digitChar (b.toNat % 16)]

/-- `mac:hexhyp`. -/
def hexhyp (mac : Mac) : Str := join "-" ((List.ofFn mac).map hexByte)

def bootifMac (mac : Mac) : Str := "01-".toList ++ hexhyp mac

def kernelLines : List String :=
  ["kernel __KERNEL_URL__ \\",
   "  ip=__IPV4__::__GW__:__MASK__:::off:__DNS_PRIMARY__ \\",
   "  BOOTIF=$\x7bbootif_mac\x7d \\",
   "  jobid=__JOB_ID__ \\",
   "  serverip=__SERVER_IP__ \\",
   "  init=/init"]

theorem template2Lines_eq : template2Lines =
    template2Lines.take 74 ++ (kernelLines ++ template2Lines.drop 80) := rfl

/-- Before the kernel line, no line is continued or starts with a blank, a placeholder or the
letter of `kernel`. -/
theorem lines_before : ∀ line ∈ (template2Lines.take 74).map String.toList,
    '\\' ∉ line ∧ line.head?.all (fun c => !isLaunchChar c && !isBlank c && c ≠ 'k') = true := by
  apply forall_of_characters
  · unfold template2Lines
    repeat apply map_toList_cons
    exact List.map_nil
  · decide

theorem no_lineFeed : ∀ line ∈ template2Lines.map String.toList, '\n' ∉ line := by
  apply forall_of_characters
  · unfold template2Lines
    repeat apply map_toList_cons
    exact List.map_nil
  · decide

/-- The characters of the values, of their lists and of the URLs. -/
def isArgChar (c : Char) : Bool :=
  c.isAlphanum || c = '-' || c = '.' || c = ':' || c = '/' || c = ','

def IsPlain (text : Str) : Prop := ∀ c ∈ text, isArgChar c = true

instance (text : Str) : Decidable (IsPlain text) := List.decidableBAll _ _

theorem isPlain_nil : IsPlain [] := List.forall_mem_nil _

theorem IsPlain.cons {c : Char} {text : Str} (hc : isArgChar c = true) (h : IsPlain text) :
    IsPlain (c :: text) :=
  List.forall_mem_cons.mpr ⟨hc, h⟩

theorem IsPlain.append {text text' : Str} (h : IsPlain text) (h' : IsPlain text') :
    IsPlain (text ++ text') :=
  List.forall_mem_append.mpr ⟨h, h'⟩

theorem IsPlain.not_mem {text : Str} (h : IsPlain text) {c : Char} (hc : isArgChar c = false) :
    c ∉ text := by
  intro hmem
  rw [h c hmem] at hc
  cases hc

theorem IsPlain.unmarked {text : Str} (h : IsPlain text) : ¬ ipxePlaceholders.mark <:+: text :=
  Placeholders.unmarked_of_not_mem List.mem_cons_self (h.not_mem rfl)

theorem IsPlain.not_blank {text : Str} (h : IsPlain text) : ∀ c ∈ text, isBlank c = false := by
  intro c hc
  cases hblank : isBlank c with
  | false => rfl
  | true =>
    simp only [isBlank, Bool.or_eq_true, decide_eq_true_eq] at hblank
    rcases hblank with (rfl | rfl) | rfl <;> exact absurd hc (h.not_mem rfl)

theorem IsPlain.isWord {text : Str} (h : IsPlain text) (hne : text ≠ []) : IsWord text :=
  ⟨hne, h.not_blank⟩

theorem isPlain_hostName {name : Str} (h : IsHostName name) : IsPlain name := by
  intro c hc
  have hchar := h.isHostChar hc
  simp only [isHostChar, Bool.or_eq_true] at hchar
  simp only [isArgChar, Bool.or_eq_true]
  tauto

theorem isPlain_address {text : Str} (h : IsIpAddress text) : IsPlain text := by
  intro c hc
  have hchar := h.isAddressChar hc
  have hdigit : isHexDigit c = true → c.isAlphanum = true := isAlphanum_of_isHexDigit
  simp only [isAddressChar, Bool.or_eq_true] at hchar
  simp only [isArgChar, Bool.or_eq_true]
  tauto

theorem isPlain_ipv4 (address : {s : Str // isIpv4Address s = true}) : IsPlain address.val :=
  isPlain_address (Or.inl address.property)

def isHostHeaderChar (c : Char) : Bool := c.isAlphanum || c = '.' || c = '-' || c = ':'

def IsHostHeader (host : Str) : Prop := ∀ c ∈ host, isHostHeaderChar c = true

instance (host : Str) : Decidable (IsHostHeader host) := List.decidableBAll _ _

theorem IsHostHeader.not_slash {host : Str} (h : IsHostHeader host) : '/' ∉ host :=
  fun hmem => absurd (h '/' hmem) (by decide)

theorem isPlain_hostHeader {host : Str} (h : IsHostHeader host) : IsPlain host := by
  intro c hc
  have hchar := h c hc
  simp only [isHostHeaderChar, Bool.or_eq_true] at hchar
  simp only [isArgChar, Bool.or_eq_true]
  tauto

/-- The site serves the template and the release map of the repository. Without a host the
release map takes the address of the environment. -/
structure ServesRepository (site : Site) (host : Str) : Prop where
  template2 : site.template2 = RepositorySite.template2
  releases : site.loadReleaseMap host =
    some (releaseMap (if host ≠ [] then host else site.serverIp))
  serverIp : IsHostHeader site.serverIp

theorem isPlain_mirror {host path : Str} (hhost : IsPlain host) (hpath : IsPlain path) :
    IsPlain (mirror host path) := by
  have hscheme : IsPlain "http://" := by decide
  have hroot : IsPlain "/customOS/releases.ubuntu.com/" := by decide
  exact ((hscheme.append hhost).append hroot).append hpath

/-- The releases of the repository have plain versions and URLs. -/
theorem isPlain_release {host version : Str} {release : Release} (hhost : IsPlain host)
    (h : (version, release) ∈ releaseMap host) :
    version ∈ ["24.04.4".toList, "24.04.3".toList, "24.04.2".toList, "22.04.5".toList] ∧
      (∀ url, release.kernel = some url → IsPlain url ∧ url ≠ []) ∧
      ∀ url, release.initrd = some url → IsPlain url := by
  have hkernel : IsPlain "http://releases.ubuntu.com/24.04/netboot/amd64/linux" ∧
      ("http://releases.ubuntu.com/24.04/netboot/amd64/linux" : Str) ≠ [] := by decide
  have hinitrd : IsPlain "http://releases.ubuntu.com/24.04/netboot/amd64/initrd" := by decide
  have hmirror : (IsPlain (mirror host "22.04.5/netboot/amd64/vmlinuz") ∧
        mirror host "22.04.5/netboot/amd64/vmlinuz" ≠ []) ∧
      IsPlain (mirror host "22.04.5/netboot/amd64/initrd") :=
    ⟨⟨isPlain_mirror hhost (by decide), List.append_ne_nil_of_right_ne_nil _ (by decide)⟩,
      isPlain_mirror hhost (by decide)⟩
  have hofficial : ∀ {iso : Option Str} {release : Release},
      release = ⟨some "http://releases.ubuntu.com/24.04/netboot/amd64/linux".toList,
        some "http://releases.ubuntu.com/24.04/netboot/amd64/initrd".toList, iso⟩ →
      (∀ url, release.kernel = some url → IsPlain url ∧ url ≠ []) ∧
        ∀ url, release.initrd = some url → IsPlain url := by
    rintro iso release rfl
    exact ⟨fun url hurl => Option.some.inj hurl ▸ hkernel, fun url hurl =>
      Option.some.inj hurl ▸ hinitrd⟩
  rcases List.mem_cons.mp h with h | h
  · obtain ⟨rfl, hrelease⟩ := Prod.mk.inj h
    exact ⟨List.mem_cons_self, hofficial hrelease⟩
  rcases List.mem_cons.mp h with h | h
  · obtain ⟨rfl, hrelease⟩ := Prod.mk.inj h
    exact ⟨List.mem_cons_of_mem _ List.mem_cons_self, hofficial hrelease⟩
  rcases List.mem_cons.mp h with h | h
  · obtain ⟨rfl, hrelease⟩ := Prod.mk.inj h
    exact ⟨List.mem_cons_of_mem _ (List.mem_cons_of_mem _ List.mem_cons_self), hofficial hrelease⟩
  · obtain ⟨rfl, rfl⟩ := Prod.mk.inj (List.mem_singleton.mp h)
    exact ⟨List.mem_cons_of_mem _
      (List.mem_cons_of_mem _ (List.mem_cons_of_mem _ List.mem_cons_self)), fun url hurl =>
        Option.some.inj hurl ▸ hmirror.1, fun url hurl => Option.some.inj hurl ▸ hmirror.2⟩

section Job
variable {site : Site} {host : Str} {body : Option Json} {data : JobData}

/-- What an accepted job has in its file, apart from the body. -/
theorem plain_urls (hsite : ServesRepository site host) (hhost : IsHostHeader host)
    (haccept : accept site host body = .ok data) :
    data.customOsUrl = ("http://" : Str) ++ host ∧ (IsPlain data.kernelUrl ∧ data.kernelUrl ≠ []) ∧
      IsPlain data.initrdUrl ∧
      data.request.osVersion ∈ ["24.04.4".toList, "24.04.3".toList, "24.04.2".toList,
        "22.04.5".toList] := by
  obtain ⟨request, -, hdata⟩ := accept_eq_ok haccept
  obtain ⟨rfl, hurl, releases, release, hreleases, hmem, hkernel, hinitrd⟩ := jobData_spec hdata
  obtain rfl := Option.some.inj (hsite.releases.symm.trans hreleases)
  have hmap : IsPlain (if host ≠ [] then host else site.serverIp) := by
    split_ifs
    · exact isPlain_hostHeader hhost
    · exact isPlain_hostHeader hsite.serverIp
  obtain ⟨hversion, hplainKernel, hplainInitrd⟩ := isPlain_release hmap hmem
  exact ⟨hurl, hplainKernel _ hkernel, hplainInitrd _ hinitrd, hversion⟩

theorem rawIp_eq (hhost : '/' ∉ host) :
    (split '/' (replace "https://" []
      (replace "http://" [] (("http://" : Str) ++ host)))).headD [] = host := by
  have habsent : ∀ old : Str, '/' ∈ old → ¬ old <:+: host :=
    fun old hold hpart => hhost (hpart.subset hold)
  rw [replace_append_self (by decide), List.nil_append, replace_of_absent (habsent _ (by decide)),
    replace_of_absent (habsent _ (by decide)), split, List.splitOn_eq_singleton hhost]
  rfl

/-- The first name server. -/
def firstServer (data : JobData) : Str := (split ',' data.request.dnsServers).headD []

theorem split_dnsServers (data : JobData) :
    ∃ entries, split ',' data.request.dnsServers = firstServer data :: entries := by
  unfold firstServer
  cases hpieces : split ',' data.request.dnsServers with
  | nil => exact absurd hpieces (List.splitOnP_ne_nil _ _)
  | cons piece pieces => exact ⟨pieces, rfl⟩

theorem firstServer_mem (data : JobData) :
    firstServer data ∈ split ',' data.request.dnsServers := by
  obtain ⟨entries, hsplit⟩ := split_dnsServers data
  rw [hsplit]
  exact List.mem_cons_self

/-- `SERVER_IP`, from the URL in the job file. -/
def rawIp (data : JobData) : Str :=
  (split '/' (replace "https://" [] (replace "http://" [] data.customOsUrl))).headD []

/-- Every value of the context is plain. -/
def HasPlainContext (data : JobData) : Prop := ∀ pair ∈ buildIpxeContext data, IsPlain pair.2

/-- Those of the kernel line. -/
theorem HasPlainContext.values (h : HasPlainContext data) :
    IsPlain data.request.hostname.val ∧ IsPlain data.kernelUrl ∧
      IsPlain (stripBlanks (firstServer data)) ∧
      IsPlain (rawIp data) := by
  have hvalue : ∀ {n : ℕ} {key value : Str}, (buildIpxeContext data)[n]? = some (key, value) →
      IsPlain value := fun hget => h _ (List.mem_of_getElem? hget)
  exact ⟨@hvalue 0 _ _ rfl, @hvalue 7 _ _ rfl, @hvalue 9 _ _ rfl, @hvalue 13 _ _ rfl⟩

theorem hasPlainContext (hsite : ServesRepository site host) (hhost : IsHostHeader host)
    (haccept : accept site host body = .ok data) (hname : IsHostName data.request.hostname.val)
    (hdns : ∀ address ∈ split ',' data.request.dnsServers, IsIpAddress address) :
    HasPlainContext data := by
  obtain ⟨hurl, ⟨hkernel, -⟩, hinitrd, hversion⟩ := plain_urls hsite hhost haccept
  have hplain : IsPlain host := isPlain_hostHeader hhost
  have hcustom : IsPlain data.customOsUrl := by
    rw [hurl]
    exact IsPlain.append (by decide) hplain
  have hservers : IsPlain data.request.dnsServers := by
    intro c hc
    rcases @mem_split ',' c _ hc with rfl | ⟨piece, hpiece, hc⟩
    · rfl
    · exact isPlain_address (hdns piece hpiece) c hc
  have hfirst : IsPlain (stripBlanks (firstServer data)) := by
    have haddress := hdns _ (firstServer_mem data)
    rw [stripBlanks_of_no_blank fun c hc =>
      isPythonSpace_of_isAddressChar (haddress.isAddressChar hc)]
    exact isPlain_address haddress
  have hlist : IsPlain (replace "," ":" data.request.dnsServers) := by
    intro c hc
    rcases mem_replace (by decide) hc with hc | hc
    · exact hservers c hc
    · exact (by decide : IsPlain ":") c hc
  have hbase : IsPlain (("http://releases.ubuntu.com/" : Str) ++
      join "." ((split '.' data.request.osVersion).take 2)) := by
    generalize data.request.osVersion = version at hversion
    revert version
    decide
  have hversion' : IsPlain data.request.osVersion := by
    generalize data.request.osVersion = version at hversion
    revert version
    decide
  have hip : IsPlain (rawIp data) := by
    rw [rawIp, hurl, rawIp_eq hhost.not_slash]
    exact hplain
  have hjob := isPlain_hostName hname
  unfold HasPlainContext buildIpxeContext
  simp only [List.forall_mem_cons]
  exact ⟨hjob, hversion', by decide, isPlain_ipv4 _, isPlain_ipv4 _, isPlain_ipv4 _,
    hcustom, hkernel, hinitrd, hfirst, hlist, hbase, hjob, hip, List.forall_mem_nil _⟩

end Job

section Rendered
variable (data : JobData)

theorem mem_ipxeMap {n : ℕ} {key value : Str}
    (h : (buildIpxeContext data)[n]? = some (key, value)) :
    (placeholder key, value) ∈ ipxeMap data :=
  List.mem_map_of_mem (List.mem_of_getElem? h)

theorem render_key {n : ℕ} {key value : Str} (h : (buildIpxeContext data)[n]? = some (key, value))
    (hvalue : IsPlain value) : replaceAll (ipxeMap data) (placeholder key) = value :=
  (assigns_ipxeMap data).replaceAll_of_mem (mem_ipxeMap data h)
    (Placeholders.absent_of_unmarked hvalue.unmarked)

theorem render_append_cons {c : Char} (hc : isLaunchChar c = false) (front back : Str) :
    replaceAll (ipxeMap data) (front ++ c :: back) =
      replaceAll (ipxeMap data) front ++ c :: replaceAll (ipxeMap data) back :=
  replaceAll_append_cons ((assigns_ipxeMap data).separates hc) front back

theorem render_unmarked {text : Str} (h : ¬ ['_', '_'] <:+: text) :
    replaceAll (ipxeMap data) text = text :=
  Placeholders.replaceAll_of_unmarked (fun _ => (assigns_ipxeMap data).mem) h

def argument (name value : Str) : Str := name ++ '=' :: value

/-- A line with one argument that continues. -/
def argumentLine (arg : Str) : Str := ' ' :: ' ' :: (arg ++ [' '])

/-- `address::gateway:netmask:::off:dns`. -/
def ipArgument : Str :=
  data.request.ipv4.address.val ++ ':' :: ':' :: (data.request.ipv4.gateway.val ++ ':' ::
    (data.request.ipv4.netmask.val ++ ':' :: ':' :: ':' :: ("off".toList ++ ':' ::
      stripBlanks (firstServer data))))

theorem render_ipLine (hdns : IsPlain (stripBlanks (firstServer data))) :
    replaceAll (ipxeMap data) "  ip=__IPV4__::__GW__:__MASK__:::off:__DNS_PRIMARY__ \\".toList =
      argumentLine (argument "ip" (ipArgument data)) ++ ['\\'] := by
  have hline : "  ip=__IPV4__::__GW__:__MASK__:::off:__DNS_PRIMARY__ \\".toList =
      "  ip".toList ++ '=' :: (placeholder "IPV4" ++ ':' ::
        ([] ++ ':' :: (placeholder "GW" ++ ':' ::
        (placeholder "MASK" ++ ':' :: ([] ++ ':' :: ([] ++ ':' :: ("off".toList ++ ':' ::
          (placeholder "DNS_PRIMARY" ++ ' ' :: ['\\'])))))))) := rfl
  have hspaces : "  ip".toList = [' ', ' ', 'i', 'p'] := by decide
  have hstart : "ip".toList = ['i', 'p'] := by decide
  rw [hline]
  simp only [render_append_cons data (rfl : isLaunchChar ':' = false),
    render_append_cons data (rfl : isLaunchChar '=' = false),
    render_append_cons data (rfl : isLaunchChar ' ' = false),
    @render_key data 3 _ _ rfl (isPlain_ipv4 _), @render_key data 5 _ _ rfl (isPlain_ipv4 _),
    @render_key data 4 _ _ rfl (isPlain_ipv4 _), @render_key data 9 _ _ rfl hdns]
  rw [render_unmarked data (by decide : ¬ ['_', '_'] <:+: "  ip".toList), replaceAll_nil,
    render_unmarked data (by decide : ¬ ['_', '_'] <:+: "off".toList),
    render_unmarked data (by decide : ¬ ['_', '_'] <:+: ['\\']), hspaces, hstart]
  simp only [argumentLine, argument, ipArgument, List.append_assoc, List.cons_append,
    List.nil_append]
  rfl

theorem render_kernelLine (hurl : IsPlain data.kernelUrl) :
    replaceAll (ipxeMap data) "kernel __KERNEL_URL__ \\".toList =
      ("kernel".toList ++ ' ' :: (data.kernelUrl ++ [' '])) ++ ['\\'] := by
  have hline : "kernel __KERNEL_URL__ \\".toList =
      "kernel".toList ++ ' ' :: (placeholder "KERNEL_URL" ++ ' ' :: ['\\']) := rfl
  rw [hline, render_append_cons data rfl, render_append_cons data rfl,
    @render_key data 7 _ _ rfl hurl,
    render_unmarked data (by decide : ¬ ['_', '_'] <:+: "kernel".toList),
    render_unmarked data (by decide : ¬ ['_', '_'] <:+: ['\\'])]
  simp only [List.append_assoc, List.cons_append, List.nil_append]

/-- A line `name=__KEY__` that continues. -/
theorem render_argument {n : ℕ} {name key value : Str}
    (hname : ¬ ['_', '_'] <:+: ' ' :: ' ' :: name)
    (h : (buildIpxeContext data)[n]? = some (key, value)) (hvalue : IsPlain value) :
    replaceAll (ipxeMap data) (argumentLine (argument name (placeholder key)) ++ ['\\']) =
      argumentLine (argument name value) ++ ['\\'] := by
  have hline : ∀ text : Str, argumentLine (argument name text) ++ ['\\'] =
      (' ' :: ' ' :: name) ++ '=' :: (text ++ ' ' :: ['\\']) := by
    intro text
    simp only [argumentLine, argument, List.append_assoc, List.cons_append, List.nil_append]
  rw [hline, hline, render_append_cons data rfl, render_append_cons data rfl,
    render_key data h hvalue, render_unmarked data hname,
    render_unmarked data (by decide : ¬ ['_', '_'] <:+: ['\\'])]

/-- The six lines, rendered. -/
def renderedLines : List Str :=
  [("kernel".toList ++ ' ' :: (data.kernelUrl ++ [' '])) ++ ['\\'],
    argumentLine (argument "ip" (ipArgument data)) ++ ['\\'],
    argumentLine (argument "BOOTIF" "$\x7bbootif_mac\x7d") ++ ['\\'],
    argumentLine (argument "jobid" data.request.hostname.val) ++ ['\\'],
    argumentLine (argument "serverip" (rawIp data)) ++ ['\\'],
    "  init=/init".toList]

theorem render_kernelLines (h : HasPlainContext data) :
    (kernelLines.map String.toList).map (replaceAll (ipxeMap data)) = renderedLines data := by
  obtain ⟨hname, hurl, hdns, hip⟩ := h.values
  have hbootif : "  BOOTIF=$\x7bbootif_mac\x7d \\".toList =
      argumentLine (argument "BOOTIF" "$\x7bbootif_mac\x7d") ++ ['\\'] := rfl
  have hjob : "  jobid=__JOB_ID__ \\".toList =
      argumentLine (argument "jobid" (placeholder "JOB_ID")) ++ ['\\'] := rfl
  have hserver : "  serverip=__SERVER_IP__ \\".toList =
      argumentLine (argument "serverip" (placeholder "SERVER_IP")) ++ ['\\'] := rfl
  have hunmarked : ¬ ['_', '_'] <:+: argumentLine (argument "BOOTIF" "$\x7bbootif_mac\x7d") ++
      ['\\'] := by
    decide
  simp only [kernelLines, List.map_cons, List.map_nil]
  rw [render_kernelLine data hurl, render_ipLine data hdns, hbootif,
    render_unmarked data hunmarked, hjob,
    @render_argument data 0 _ _ _ (by decide) rfl hname, hserver,
    @render_argument data 13 _ _ _ (by decide) rfl hip,
    render_unmarked data (by decide : ¬ ['_', '_'] <:+: "  init=/init".toList)]
  rfl

/-- The kernel command as one line. -/
def joinedLine : Str :=
  ("kernel".toList ++ ' ' :: (data.kernelUrl ++ [' '])) ++
    (argumentLine (argument "ip" (ipArgument data)) ++
      (argumentLine (argument "BOOTIF" "$\x7bbootif_mac\x7d") ++
        (argumentLine (argument "jobid" data.request.hostname.val) ++
          (argumentLine (argument "serverip" (rawIp data)) ++ "  init=/init".toList))))

theorem joinContinued_renderedLines (rest : List Str) :
    joinContinued (renderedLines data ++ rest) = joinedLine data :: joinContinued rest := by
  have hlast := joinContinued_cons (by decide : '\\' ∉ "  init=/init".toList) rest
  exact joinContinued_continued (joinContinued_continued (joinContinued_continued
    (joinContinued_continued (joinContinued_continued hlast _) _) _) _) _

theorem isWord_kernel : IsWord "kernel".toList := by decide

theorem words_joinedLine : (words (joinedLine data)).head? = some "kernel".toList := by
  unfold joinedLine
  rw [List.append_assoc, List.cons_append, words_append_cons rfl, isWord_kernel.words_eq]
  rfl

variable (hplain : HasPlainContext data)
include hplain

/-- Rendering adds no character that is not plain. -/
theorem not_mem_render {c : Char} (hc : isArgChar c = false) {line : Str} (h : c ∉ line) :
    c ∉ replaceAll (ipxeMap data) line := by
  intro hmem
  have hkeys : ∀ pair ∈ ipxeMap data, pair.1 ≠ [] :=
    fun pair hpair => Placeholders.ne_nil ((assigns_ipxeMap data).mem hpair)
  rcases mem_replaceAll hkeys hmem with hmem | ⟨pair, hpair, hmem⟩
  · exact h hmem
  · obtain ⟨entry, hentry, rfl⟩ := List.mem_map.mp hpair
    exact (hplain entry hentry).not_mem hc hmem

omit hplain in
theorem not_kernel {line : Str}
    (h : line.head?.all (fun c => !isLaunchChar c && !isBlank c && c ≠ 'k') = true) :
    (words (replaceAll (ipxeMap data) line)).head? ≠ some "kernel".toList := by
  cases line with
  | nil =>
    rw [replaceAll_nil, words_nil]
    exact (Option.some_ne_none _).symm
  | cons c line =>
    simp only [List.head?_cons, Option.all_some, Bool.and_eq_true, Bool.not_eq_true',
      decide_eq_true_eq] at h
    obtain ⟨word, more, hwords⟩ := words_cons h.1.2 (replaceAll (ipxeMap data) line)
    have hrender := render_append_cons data h.1.1 [] line
    rw [replaceAll_nil, List.nil_append, List.nil_append] at hrender
    rw [hrender, hwords, List.head?_cons]
    intro heq
    have hfirst := congrArg List.head? (Option.some.inj heq)
    exact h.2 (Option.some.inj hfirst)

theorem lineFeed_rendered :
    ∀ line ∈ (template2Lines.map String.toList).map (replaceAll (ipxeMap data)), '\n' ∉ line := by
  refine List.forall_mem_map.mpr fun line hline => ?_
  have hfree : '\n' ∉ line := no_lineFeed line hline
  exact not_mem_render data hplain (rfl : isArgChar '\n' = false) hfree

theorem rendered_before :
    ∀ line ∈ ((template2Lines.take 74).map String.toList).map (replaceAll (ipxeMap data)),
      '\\' ∉ line ∧ (words line).head? ≠ some "kernel".toList := by
  refine List.forall_mem_map.mpr fun line hline => ?_
  obtain ⟨hbackslash, hhead⟩ := lines_before line hline
  exact ⟨not_mem_render data hplain (rfl : isArgChar '\\' = false) hbackslash,
    not_kernel data hhead⟩

/-- The first command of the hydrated template that loads a kernel. -/
theorem kernelLine_template2 : kernelLine (replaceAll (ipxeMap data) template2) =
    some (joinedLine data) := by
  have hscript : replaceAll (ipxeMap data) template2 =
      textOfLines ((template2Lines.map String.toList).map (replaceAll (ipxeMap data))) := by
    rw [template2, textOf_eq, (assigns_ipxeMap data).render_lines rfl]
  have hsplit : (template2Lines.map String.toList).map (replaceAll (ipxeMap data)) =
      ((template2Lines.take 74).map String.toList).map (replaceAll (ipxeMap data)) ++
        (renderedLines data ++
          ((template2Lines.drop 80).map String.toList).map (replaceAll (ipxeMap data))) := by
    rw [← render_kernelLines data hplain, ← List.map_append, ← List.map_append, ← List.map_append,
      ← List.map_append, ← template2Lines_eq]
  have hnone : List.find? (fun line => decide ((words line).head? = some "kernel".toList))
      (((template2Lines.take 74).map String.toList).map (replaceAll (ipxeMap data))) = none :=
    List.find?_eq_none.mpr fun line hline hkernel =>
      (rendered_before data hplain line hline).2 (of_decide_eq_true hkernel)
  unfold kernelLine
  rw [hscript, split_textOfLines (lineFeed_rendered data hplain), hsplit, List.append_assoc,
    List.append_assoc, joinContinued_append fun line hline =>
      (rendered_before data hplain line hline).1,
    joinContinued_renderedLines, List.find?_append, hnone, Option.none_or, List.find?_cons,
    decide_eq_true (words_joinedLine data)]

end Rendered

theorem isWord_argument {name value : Str} (hname : IsWord name)
    (hvalue : ∀ c ∈ value, isBlank c = false) :
    IsWord (argument name value) :=
  ⟨List.append_ne_nil_of_left_ne_nil hname.1 _,
    List.forall_mem_append.mpr ⟨hname.2, List.forall_mem_cons.mpr ⟨rfl, hvalue⟩⟩⟩

section Expansion
variable (bootifMac : Str)

/-- The words of a text in which the setting is expanded. -/
def expandedWords (text : Str) : List Str := words (replace "$\x7bbootif_mac\x7d" bootifMac text)

theorem expandedWords_append (front back : Str) :
    expandedWords bootifMac (front ++ ' ' :: back) =
      expandedWords bootifMac front ++ expandedWords bootifMac back := by
  unfold expandedWords
  rw [replace_append_cons _ _ _ (by decide) (by decide), words_append_cons rfl]

theorem expandedWords_word {word : Str} (h : IsWord word) (hdollar : '$' ∉ word) :
    expandedWords bootifMac word = [word] := by
  unfold expandedWords
  rw [replace_of_absent fun hpart => hdollar (hpart.subset (by decide)), h.words_eq]

theorem expandedWords_argument (arg rest : Str) :
    expandedWords bootifMac (argumentLine arg ++ rest) =
      expandedWords bootifMac arg ++ expandedWords bootifMac rest := by
  have htext : argumentLine arg ++ rest = [] ++ ' ' :: ([] ++ ' ' :: (arg ++ ' ' :: rest)) := by
    simp only [argumentLine, List.cons_append, List.append_assoc, List.nil_append]
  rw [htext, expandedWords_append, expandedWords_append, expandedWords_append]
  rfl

theorem expandedWords_bootif (h : IsWord bootifMac) :
    expandedWords bootifMac (argument "BOOTIF" "$\x7bbootif_mac\x7d") =
      [argument "BOOTIF" bootifMac] := by
  have hword : IsWord (argument "BOOTIF" bootifMac) := isWord_argument (by decide) h.2
  rw [← hword.words_eq]
  unfold expandedWords argument
  rw [replace_append_cons _ _ _ (by decide) (by decide), replace_self (by decide),
    replace_of_absent (by decide)]

end Expansion

theorem isBlank_hexhyp (mac : Mac) : ∀ c ∈ hexhyp mac, isBlank c = false := by
  have hdigit : ∀ n < 16, isBlank (Nat.digitChar n) = false := by decide
  intro c hc
  rcases mem_join hc with hc | ⟨piece, hpiece, hc⟩
  · exact (by decide : IsWord "-".toList).2 c hc
  · obtain ⟨b, -, rfl⟩ := List.mem_map.mp hpiece
    have hb := b.toNat_lt
    rcases List.mem_cons.mp hc with rfl | hc
    · exact hdigit _ (by omega)
    · obtain rfl := List.mem_singleton.mp hc
      exact hdigit _ (Nat.mod_lt _ (by decide))

theorem isWord_bootifMac (mac : Mac) : IsWord (bootifMac mac) :=
  have hstart : IsWord "01-".toList := by decide
  ⟨List.append_ne_nil_of_left_ne_nil hstart.1 _,
    List.forall_mem_append.mpr ⟨hstart.2, isBlank_hexhyp mac⟩⟩

theorem lookup_cons_self {var : Str} (hvar : '=' ∉ var) (value : Str) (args : List Str) :
    lookup var (argument var value :: args) = some value := by
  have hprefix : var ++ ['='] <+: argument var value :=
    ⟨value, by rw [argument, List.append_assoc, List.singleton_append]⟩
  rw [lookup, List.find?_cons, decide_eq_true hprefix]
  dsimp only
  rw [Option.map_some, argument, dropWhile_ne_append_cons hvar, List.tail_cons]

theorem lookup_cons_ne {var name : Str} (hvar : '=' ∉ var) (hname : '=' ∉ name) (hne : var ≠ name)
    (value : Str) (args : List Str) : lookup var (argument name value :: args) =
      lookup var args := by
  have hprefix : ¬ var ++ ['='] <+: argument name value := by
    rintro ⟨rest, heq⟩
    rw [List.append_assoc, List.singleton_append, argument] at heq
    exact hne (append_cons_inj_of_count heq
      ((List.count_eq_zero.mpr hvar).trans (List.count_eq_zero.mpr hname).symm)).1
  rw [lookup, List.find?_cons, decide_eq_false hprefix, lookup]

example : getCmdlineVar "ip" "serverip=10.0.0.1 ip=10.0.0.2 ip=10.0.0.3\n" =
    some "10.0.0.2".toList := by
  decide

theorem printed_eq_self_iff {x : Str} : printed x = x ↔ isEchoOption x = false := by
  unfold printed
  split_ifs with h
  · refine iff_of_false ?_ (Bool.eq_false_iff.not.mpr (not_not.mpr h))
    rintro rfl
    cases h
  · exact iff_of_true rfl (Bool.eq_false_iff.mpr h)

theorem printed_of_head {x : Str} (h : x.head? ≠ some '-') : printed x = x := by
  have hoption : isEchoOption x = false := by
    unfold isEchoOption
    split
    · exact absurd rfl h
    · rfl
  rw [printed, hoption]
  rfl

theorem printed_hostName {name : Str} (h : IsHostName name) : printed name = name := by
  refine printed_of_head fun hhead => ?_
  obtain ⟨rest, rfl⟩ : ∃ rest, name = '-' :: rest := ⟨name.tail, (List.cons_head?_tail hhead).symm⟩
  by_cases hdot : '.' ∈ rest
  · obtain ⟨front, back, rfl, hfront⟩ := List.eq_append_cons_of_mem hdot
    have hmem : '-' :: front ∈ split '.' ('-' :: (front ++ '.' :: back)) := by
      have hnot : '.' ∉ '-' :: front := by simp [hfront]
      rw [← List.cons_append, split, List.splitOn_append_cons_self, List.splitOn_eq_singleton hnot]
      exact List.mem_append_left _ List.mem_cons_self
    exact (h _ hmem).2.2.1 rfl
  · have hnot : '.' ∉ '-' :: rest := by simp [hdot]
    have hmem : '-' :: rest ∈ split '.' ('-' :: rest) := by
      rw [split, List.splitOn_eq_singleton hnot]
      exact List.mem_cons_self
    exact (h _ hmem).2.2.1 rfl

theorem printed_ipv4_append (address : {s : Str // isIpv4Address s = true}) (text : Str) :
    printed (address.val ++ text) = address.val ++ text := by
  obtain ⟨c, rest, hcons⟩ := List.exists_cons_of_ne_nil (ipv4_ne_nil address.property)
  refine printed_of_head fun hhead => ?_
  rw [hcons] at hhead
  obtain rfl : c = '-' := Option.some.inj hhead
  have hmem : '-' ∈ address.val := hcons ▸ List.mem_cons_self
  rcases ipv4_chars address.property hmem with hc | hc
  · exact absurd hc (by decide)
  · exact absurd hc (by decide)

section Result
variable {site : Site} {host : Str} {body : Option Json} {data : JobData}

/-- The arguments that the kernel gets. -/
def bootArguments (data : JobData) (mac : Mac) : List Str :=
  [argument "ip" (ipArgument data), argument "BOOTIF" (bootifMac mac),
    argument "jobid" data.request.hostname.val, argument "serverip" (rawIp data),
      argument "init" "/init"]

theorem isPlain_ipArgument (hdns : IsPlain (stripBlanks (firstServer data))) :
    IsPlain (ipArgument data) := by
  have hcolon : ∀ {text : Str}, IsPlain text → IsPlain (':' :: text) := IsPlain.cons rfl
  have hoff : IsPlain "off" := by decide
  exact (isPlain_ipv4 _).append
    (hcolon (hcolon ((isPlain_ipv4 _).append (hcolon ((isPlain_ipv4 _).append
    (hcolon (hcolon (hcolon (hoff.append (hcolon hdns))))))))))

theorem expandedWords_plain (bootifMac : Str) {name value : Str} (hname : IsWord name)
    (hdollar : '$' ∉ name) (hvalue : IsPlain value) :
    expandedWords bootifMac (argument name value) = [argument name value] := by
  refine expandedWords_word _ (isWord_argument hname hvalue.not_blank) ?_
  rw [argument, List.mem_append, List.mem_cons, not_or, not_or]
  exact ⟨hdollar, by decide, hvalue.not_mem rfl⟩

theorem expandedWords_joinedLine (mac : Mac) (hplain : HasPlainContext data)
    (hurl : data.kernelUrl ≠ []) :
    expandedWords (bootifMac mac) (joinedLine data) =
      "kernel".toList :: data.kernelUrl :: bootArguments data mac := by
  obtain ⟨hname, hkernel, hdns, hserver⟩ := hplain.values
  have hinit : "  init=/init".toList = [] ++ ' ' :: ([] ++ ' ' :: argument "init" "/init") := rfl
  unfold joinedLine
  rw [List.append_assoc, List.cons_append, List.append_assoc, List.singleton_append,
    expandedWords_append, expandedWords_append, expandedWords_argument, expandedWords_argument,
    expandedWords_argument,
    expandedWords_argument, hinit, expandedWords_append, expandedWords_append,
    expandedWords_word _ isWord_kernel (by decide),
    expandedWords_word _ (hkernel.isWord hurl) (hkernel.not_mem rfl),
    expandedWords_plain _ (by decide) (by decide) (isPlain_ipArgument hdns),
    expandedWords_bootif _ (isWord_bootifMac mac), expandedWords_plain _ (by decide)
      (by decide) hname,
    expandedWords_plain _ (by decide) (by decide) hserver,
    expandedWords_plain _ (by decide) (by decide) (by decide : IsPlain "/init")]
  rfl

theorem isWord_bootArguments (mac : Mac) (hplain : HasPlainContext data) :
    ∀ arg ∈ bootArguments data mac, IsWord arg := by
  obtain ⟨hname, -, hdns, hserver⟩ := hplain.values
  unfold bootArguments
  simp only [List.forall_mem_cons]
  exact ⟨isWord_argument (by decide) (isPlain_ipArgument hdns).not_blank,
    isWord_argument (by decide) (isWord_bootifMac mac).2,
    isWord_argument (by decide) hname.not_blank, isWord_argument (by decide) hserver.not_blank,
    isWord_argument (by decide) (by decide : IsPlain "/init").not_blank, List.forall_mem_nil _⟩

theorem lookup_bootArguments (data : JobData) (mac : Mac) (more : List Str) :
    lookup "jobid" (bootArguments data mac ++ more) = some data.request.hostname.val ∧
    lookup "serverip" (bootArguments data mac ++ more) = some (rawIp data) ∧
    lookup "BOOTIF" (bootArguments data mac ++ more) = some (bootifMac mac) ∧
    lookup "ip" (bootArguments data mac ++ more) = some (ipArgument data) := by
  have hskip : ∀ {var name : Str}, '=' ∉ var ∧ '=' ∉ name ∧ var ≠ name →
    ∀ (value : Str) (args : List Str),
      lookup var (argument name value :: args) = lookup var args :=
    fun h value args => lookup_cons_ne h.1 h.2.1 h.2.2 value args
  unfold bootArguments
  simp only [List.cons_append]
  refine ⟨?_, ?_, ?_, ?_⟩
  · rw [hskip (by decide), hskip (by decide), lookup_cons_self (by decide)]
  · rw [hskip (by decide), hskip (by decide), hskip (by decide), lookup_cons_self (by decide)]
  · rw [hskip (by decide), lookup_cons_self (by decide)]
  · rw [lookup_cons_self (by decide)]

theorem ipArgument_eq (h : IsIpAddress (firstServer data)) :
    ipArgument data = data.request.ipv4.address.val ++ "::".toList ++
      data.request.ipv4.gateway.val ++
      ":".toList ++ data.request.ipv4.netmask.val ++ ":::off:".toList ++ firstServer data := by
  have hstrip : stripBlanks (firstServer data) = firstServer data :=
    stripBlanks_of_no_blank fun c hc => isPythonSpace_of_isAddressChar (h.isAddressChar hc)
  have hcolons : "::".toList = [':', ':'] := by decide
  have hcolon : ":".toList = [':'] := by decide
  have hoff : ":::off:".toList = ':' :: ':' :: ':' :: ("off".toList ++ [':']) := by decide
  unfold ipArgument
  rw [hstrip, hcolons, hcolon, hoff]
  simp only [List.append_assoc, List.cons_append, List.nil_append]

/-- What `init` reads back from the command line of a boot script, whatever is appended to it. -/
theorem getCmdlineVar_boot (hplain : HasPlainContext data)
    (hname : IsHostName data.request.hostname.val) (mac : Mac) (appended : Str) :
    let cmdline := join " " (bootArguments data mac) ++ ' ' :: appended
    getCmdlineVar "jobid" cmdline = some data.request.hostname.val ∧
      getCmdlineVar "serverip" cmdline = some (printed (rawIp data)) ∧
      getCmdlineVar "BOOTIF" cmdline = some (bootifMac mac) ∧
      getCmdlineVar "ip" cmdline = some (ipArgument data) := by
  intro cmdline
  have hwords : words cmdline = _ := words_join (isWord_bootArguments mac hplain) appended
  obtain ⟨hjob, hip, hbootif, hnet⟩ := lookup_bootArguments data mac (words appended)
  have hbootifText : printed (bootifMac mac) = bootifMac mac :=
    printed_of_head (by decide : some '0' ≠ some '-')
  have hipText : printed (ipArgument data) = ipArgument data := printed_ipv4_append _ _
  simp only [getCmdlineVar, cmdlineArgument, hwords, hjob, hip, hbootif, hnet, Option.map_some,
    printed_hostName hname, hbootifText, hipText, and_self]

theorem rawIp_host (hsite : ServesRepository site host) (haccept : accept site host body = .ok data)
    (hhost : IsHostHeader host) : rawIp data = host := by
  unfold rawIp
  rw [(plain_urls hsite hhost haccept).1, rawIp_eq hhost.not_slash]

theorem kernelCommandLine_boot (hsite : ServesRepository site host)
    (haccept : accept site host body = .ok data) (hhost : IsHostHeader host)
    (hplain : HasPlainContext data) (mac : Mac) (appended : Str) :
    kernelCommandLine (bootScript site data) (bootifMac mac) appended =
      some (join " " (bootArguments data mac) ++ ' ' :: appended) := by
  obtain ⟨-, ⟨-, hkernel⟩, -, -⟩ := plain_urls hsite hhost haccept
  have hargs : kernelArguments (bootScript site data) (bootifMac mac) =
      some (bootArguments data mac) := by
    unfold kernelArguments
    rw [bootScript_eq_render hsite.template2, kernelLine_template2 data hplain]
    exact congrArg some (congrArg (List.drop 2) (expandedWords_joinedLine mac hplain hkernel))
  rw [kernelCommandLine, hargs, Option.map_some]

/-- The job id, the boot interface and the network settings come back from the command line,
whatever is appended to it; the server does so exactly when its name is no option of `echo`. -/
theorem boot_parameters_survive_iff (hsite : ServesRepository site host)
    (haccept : accept site host body = .ok data) (hname : IsHostName data.request.hostname.val)
    (hdns : ∀ address ∈ split ',' data.request.dnsServers, IsIpAddress address)
    (hhost : IsHostHeader host) (mac : Mac) (appended : Str) :
    ∃ cmdline, kernelCommandLine (bootScript site data) (bootifMac mac) appended = some cmdline ∧
      getCmdlineVar "jobid" cmdline = some data.request.hostname.val ∧
      getCmdlineVar "BOOTIF" cmdline = some ("01-".toList ++ hexhyp mac) ∧
      getCmdlineVar "ip" cmdline = some (data.request.ipv4.address.val ++ "::".toList ++
        data.request.ipv4.gateway.val ++ ":".toList ++ data.request.ipv4.netmask.val ++
          ":::off:".toList ++
        (split ',' data.request.dnsServers).headD []) ∧
      (getCmdlineVar "serverip" cmdline = some host ↔ isEchoOption host = false) := by
  have hplain := hasPlainContext hsite hhost haccept hname hdns
  obtain ⟨hjob, hserver, hbootif, hnet⟩ := getCmdlineVar_boot hplain hname mac appended
  rw [ipArgument_eq (hdns _ (firstServer_mem data))] at hnet
  refine ⟨_, kernelCommandLine_boot hsite haccept hhost hplain mac appended, hjob,
    hbootif, hnet, ?_⟩
  rw [hserver, rawIp_host hsite haccept hhost, Option.some.injEq, printed_eq_self_iff]

end Result

def twoServers : Str := "9.9.9.9,2620:fe::fe"

def twoServersJob : JobData := namedJob "node-1.example" "ubuntu" twoServers (by decide)

theorem accept_twoServers :
    accept exampleSite "10.0.0.1" (some (namedBody "node-1.example" "ubuntu" twoServers)) =
      .ok twoServersJob := rfl

theorem servesRepository_exampleSite : ServesRepository exampleSite "10.0.0.1" :=
  ⟨rfl, rfl, by decide⟩

/-- Two name servers of both kinds, and a boot loader that appends an argument of the same
name. -/
theorem boot_parameters_survive_twoServers :
    ∃ cmdline, kernelCommandLine (bootScript exampleSite twoServersJob)
      (bootifMac fun _ => 255) "jobid=other" =
        some cmdline ∧
      getCmdlineVar "jobid" cmdline = some twoServersJob.request.hostname.val ∧
      getCmdlineVar "BOOTIF" cmdline = some ("01-".toList ++ hexhyp fun _ => 255) ∧
      getCmdlineVar "ip" cmdline = some (twoServersJob.request.ipv4.address.val ++ "::".toList ++
        twoServersJob.request.ipv4.gateway.val ++ ":".toList ++
          twoServersJob.request.ipv4.netmask.val ++
        ":::off:".toList ++ (split ',' twoServersJob.request.dnsServers).headD []) ∧
      getCmdlineVar "serverip" cmdline = some "10.0.0.1".toList := by
  obtain ⟨cmdline, hcmdline, hjob, hbootif, hip, hserver⟩ :=
    boot_parameters_survive_iff servesRepository_exampleSite accept_twoServers (by decide)
      (by decide) (by decide) (fun _ => 255) "jobid=other"
  exact ⟨cmdline, hcmdline, hjob, hbootif, hip, hserver.mpr rfl⟩

/-- A server that is called like the option of `echo` that leaves out the line feed. -/
def optionHost : Str := "-n"

def optionSite : Site := site optionHost

def optionJob : JobData := { twoServersJob with customOsUrl := ("http://" : Str) ++ optionHost }

theorem servesRepository_optionSite : ServesRepository optionSite optionHost :=
  ⟨rfl, rfl, by decide⟩

theorem accept_option :
    accept optionSite optionHost (some (namedBody "node-1.example" "ubuntu" twoServers)) =
      .ok optionJob := rfl

/-- The header has only letters and hyphens, and `init` finds no server. -/
theorem option_host_not_printed :
    IsHostHeader optionHost ∧
    accept optionSite optionHost (some (namedBody "node-1.example" "ubuntu" twoServers)) =
      .ok optionJob ∧
    ∃ cmdline, kernelCommandLine (bootScript optionSite optionJob) (bootifMac fun _ => 255) [] =
      some cmdline ∧
      getCmdlineVar "serverip" cmdline = some [] := by
  have hhost : IsHostHeader optionHost := by decide
  have hname : IsHostName optionJob.request.hostname.val := by decide
  have hplain := hasPlainContext servesRepository_optionSite hhost accept_option hname (by decide)
  refine ⟨hhost, accept_option, _,
    kernelCommandLine_boot servesRepository_optionSite accept_option hhost hplain _ _, ?_⟩
  obtain ⟨-, hserver, -, -⟩ := getCmdlineVar_boot hplain hname (fun _ => 255) []
  rw [rawIp_host servesRepository_optionSite accept_option hhost] at hserver
  exact hserver

end Astro.KernelCommandLine
