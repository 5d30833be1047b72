import Astro.RepositoryTemplates

/-!
# Rendering as simultaneous substitution

`render_template` and `compose_ipxe` replace one placeholder after the other in a text that
already contains the values put in before. For the templates of the repository this is the
simultaneous substitution, in every order of the map, exactly when no value that is put in
contains another placeholder.
-/

namespace Astro.SimultaneousRendering

open PythonText TemplateChunks JobPaths RequestModels IpxePipeline ServerHandlers CustomIsoHandler
  SeedRendering RepositorySite RepositoryTemplates

def isLaunchChar (c : Char) : Bool := c.isUpper || c.isDigit || c = '_'

def isSeedChar (c : Char) : Bool := isLaunchChar c || c = '\x7b' || c = '\x7d'

def substitutionKeys : List Str :=
  ["\x7b\x7bJOB_ID\x7d\x7d".toList, "\x7b\x7bAPI_HOST\x7d\x7d".toList,
    "\x7b\x7bHOSTNAME\x7d\x7d".toList, "\x7b\x7bUSERNAME\x7d\x7d".toList,
    "\x7b\x7bUSER_PASSWORD\x7d\x7d".toList, "\x7b\x7bIPV4_ADDRESS\x7d\x7d".toList,
    "\x7b\x7bIPV4_CIDR\x7d\x7d".toList, "\x7b\x7bIPV4_GATEWAY\x7d\x7d".toList,
    "\x7b\x7bIPV6_FULL\x7d\x7d".toList, "\x7b\x7bIPV6_GATEWAY\x7d\x7d".toList,
    "\x7b\x7bNAME_SERVERS\x7d\x7d".toList, "\x7b\x7bINTERFACE\x7d\x7d".toList,
    "\x7b\x7bDISK_SERIAL_0\x7d\x7d".toList, "\x7b\x7bDISK_DEV_0\x7d\x7d".toList,
    "\x7b\x7bDISK_SERIAL_1\x7d\x7d".toList, "\x7b\x7bDISK_DEV_1\x7d\x7d".toList,
    "\x7b\x7bADD_USERS\x7d\x7d".toList, "\x7b\x7bRM_USER\x7d\x7d".toList,
    "\x7b\x7bSSH_USER_LINE\x7d\x7d".toList, "\x7b\x7bAPT_DISABLE_SUITES\x7d\x7d".toList]

def launchKeys : List Str :=
  ["__DNS_PRIMARY__".toList, "__KERNEL_URL__".toList, "__INITRD_URL__".toList, "__ISO_URL__".toList,
    "__SEED_URL__".toList, "__IPV4_ADDRESS__".toList, "__IPV4_GATEWAY__".toList,
    "__IPV4_NETMASK__".toList, "__HOSTNAME__".toList, "__INTERFACE__".toList,
      "__BOOTIF_RAW__".toList]

def ipxeKeys : List Str :=
  ["__JOB_ID__".toList, "__OS_VER__".toList, "__ARCH__".toList, "__IPV4__".toList,
    "__MASK__".toList, "__GW__".toList, "__CUSTOM_OS_URL__".toList, "__KERNEL_URL__".toList,
    "__INITRD_URL__".toList,
    "__DNS_PRIMARY__".toList, "__DNS_LIST__".toList, "__BASE__".toList, "__HOSTNAME__".toList,
    "__SERVER_IP__".toList]

theorem areKeys_seed : AreKeys ['\x7b', '\x7b'] isSeedChar substitutionKeys := by
  apply of_characters
  · unfold substitutionKeys
    repeat apply toList_cons
    rfl
  · decide

theorem areKeys_launch : AreKeys ['_', '_'] isLaunchChar launchKeys := by
  apply of_characters
  · unfold launchKeys
    repeat apply toList_cons
    rfl
  · decide

theorem areKeys_ipxe : AreKeys ['_', '_'] isLaunchChar ipxeKeys := by
  apply of_characters
  · unfold ipxeKeys
    repeat apply toList_cons
    rfl
  · decide

def seedPlaceholders : Placeholders := .ofKeys (by decide) areKeys_seed

def launchPlaceholders : Placeholders := .ofKeys (by decide) areKeys_launch

def ipxePlaceholders : Placeholders := .ofKeys (by decide) areKeys_ipxe

/-- The value has no placeholder of `user-data`. -/
def IsFree (value : Str) : Prop := ∀ key ∈ seedPlaceholders.keys, ¬ key <:+: value

theorem isFree_of_no_brace {value : Str} (h : '\x7b' ∉ value) : IsFree value :=
  Placeholders.absent_of_unmarked (Placeholders.unmarked_of_not_mem List.mem_cons_self h)

/-- No placeholder reaches over a character that none of them has. -/
theorem IsFree.append_cons {front back : Str} (hfront : IsFree front)
    (hback : IsFree back) {c : Char} (hc : seedPlaceholders.isKeyChar c = false) :
    IsFree (front ++ c :: back) := by
  intro key hkey hpart
  obtain ⟨chunk, hchunk, hwithin⟩ := exists_chunk (seedPlaceholders.isKeyChar_of_mem key hkey) hpart
  rw [chunksOf_append_cons hc, List.mem_append] at hchunk
  rcases hchunk with hchunk | hchunk
  · exact hfront key hkey (hwithin.trans (infix_of_mem_chunksOf hchunk))
  · exact hback key hkey (hwithin.trans (infix_of_mem_chunksOf hchunk))

/-- The lines of both templates of `user-data`, and those of one of them. -/
def sharedLines : List String :=
  headLines ++ sshLines ++ reportingLines ++ lateLines ++ settingLines ++ ipv6Lines ++
    lastSettingLines ++
    applierLines ++ applierEndLines ++ sshdLines ++ tailLines

def ownLines : TemplateName → List String
  | .userData => storageLines ++ earlyLines ++ ["    ", "      ",
      "    - curtin in-target -- /bin/bash /root/apply-serialization.sh",
        "        set -euo pipefail"]
  | .userDataRaid => raidStorageLines ++ raidEarlyLines ++ ["",
      "    - curtin in-target -- /bin/bash -x /root/apply-serialization.sh || true",
        "        set -uo pipefail"]

theorem templateLines_subset (name : TemplateName) : templateLines name ⊆ sharedLines ++
    ownLines name := by
  intro line hline
  cases name with
  | userData =>
    simp only [templateLines, userDataBefore, userDataAfter, sharedLines, ownLines, List.mem_append,
      List.mem_cons] at hline ⊢
    tauto
  | userDataRaid =>
    simp only [templateLines, userDataRaidBefore, userDataRaidAfter, sharedLines, ownLines,
      List.mem_append, List.mem_cons] at hline ⊢
    tauto

theorem tailLines_isTemplate :
    ∀ line ∈ tailLines.map String.toList, seedPlaceholders.IsTemplate line := by
  apply forall_of_characters
  · unfold tailLines
    repeat first
      | with_reducible apply map_toList_cons
      | with_reducible apply map_toList_append
    exact List.map_nil
  · decide +kernel

theorem sharedLines_isTemplate :
    ∀ line ∈ sharedLines.map String.toList, seedPlaceholders.IsTemplate line := by
  rw [sharedLines, List.map_append, List.forall_mem_append]
  refine ⟨?_, tailLines_isTemplate⟩
  apply forall_of_characters
  · unfold headLines sshLines reportingLines lateLines settingLines ipv6Lines lastSettingLines
      applierLines applierEndLines sshdLines
    repeat apply map_toList_cons
    exact List.map_nil
  · decide +kernel

theorem ownLines_isTemplate (name : TemplateName) :
    ∀ line ∈ (ownLines name).map String.toList, seedPlaceholders.IsTemplate line := by
  cases name with
  | userData =>
    apply forall_of_characters
    · unfold ownLines storageLines earlyLines
      repeat apply map_toList_cons
      exact List.map_nil
    · decide +kernel
  | userDataRaid =>
    apply forall_of_characters
    · unfold ownLines raidStorageLines raidEarlyLines
      repeat apply map_toList_cons
      exact List.map_nil
    · decide +kernel

theorem launchLines_isTemplate :
    ∀ line ∈ (launchLines ++ [lastLaunchLine]).map String.toList,
      launchPlaceholders.IsTemplate line := by
  apply forall_of_characters
  · unfold launchLines lastLaunchLine
    repeat apply map_toList_cons
    exact List.map_nil
  · decide

theorem template2Lines_isTemplate :
    ∀ line ∈ template2Lines.map String.toList, ipxePlaceholders.IsTemplate line := by
  apply forall_of_characters
  · unfold template2Lines
    repeat apply map_toList_cons
    exact List.map_nil
  · decide +kernel

theorem isTemplate_templateLines (name : TemplateName) :
    seedPlaceholders.IsTemplate (textOf (templateLines name)) := by
  have hlines : ∀ line ∈ (templateLines name).map String.toList,
      seedPlaceholders.IsTemplate line := by
    intro line hline
    have hmem := List.map_subset String.toList (templateLines_subset name) hline
    rw [List.map_append, List.mem_append] at hmem
    rcases hmem with hmem | hmem
    · exact sharedLines_isTemplate line hmem
    · exact ownLines_isTemplate name line hmem
  rw [textOf_eq, ← List.append_nil (textOfLines _)]
  exact Placeholders.isTemplate_textOfLines rfl hlines (by decide)

theorem isTemplate_launchTemplate : launchPlaceholders.IsTemplate launchTemplate := by
  have hlines := launchLines_isTemplate
  rw [List.map_append, List.forall_mem_append] at hlines
  rw [launchTemplate, textOf_eq]
  exact Placeholders.isTemplate_textOfLines rfl hlines.1 (hlines.2 _ List.mem_cons_self)

theorem isTemplate_template2 : ipxePlaceholders.IsTemplate template2 := by
  rw [template2, textOf_eq, ← List.append_nil (textOfLines _)]
  exact Placeholders.isTemplate_textOfLines rfl template2Lines_isTemplate (by decide)

section Maps
variable (dep : Deployment) (hostIp : Str) (request : PhoneHomeRequest) (jobData : Fields)

/-- The map and the template that `user-data` is rendered from. -/
def userDataMap : Option (List (Str × Str) × Str) := do
  let disks ← chosenDisks request jobData
  let hashedPw ← hashedPassword dep jobData
  let _ ← release? dep.toSite hostIp jobData
  let _ ← dnsFirst jobData
  let template ← template dep disks.templateName
  return (substitutions dep.py hostIp request.jobId.val hashedPw disks jobData, template.text)

/-- The map and the template that `installer-launch.sh` is rendered from. -/
def launchMap : Option (List (Str × Str) × Str) := do
  let (osVer, release) ← release? dep.toSite hostIp jobData
  let dns ← dnsFirst jobData
  let pairs ← launchSubstitutions dep.py hostIp request osVer release dns jobData
  let template ← dep.installerLaunchTemplate
  return (pairs, template)

theorem userData_eq_map : userData dep hostIp request jobData =
    (userDataMap dep hostIp request jobData).map fun m => replaceAll m.1 m.2 := by
  simp only [userData, userDataMap, Option.bind_eq_bind, Option.map_bind, Option.pure_def,
    Function.comp_def, Option.map_some]

theorem installerLaunch_eq_map : installerLaunch dep hostIp request jobData =
    (launchMap dep hostIp request jobData).map fun m => replaceAll m.1 m.2 := by
  simp only [installerLaunch, launchMap, Option.bind_eq_bind, Option.map_bind, Option.pure_def,
    Function.comp_def, Option.map_some]

end Maps

/-- The map that `template2.ipxe` is hydrated with. -/
def ipxeMap (data : JobData) : List (Str × Str) :=
  (buildIpxeContext data).map fun pair => (placeholder pair.1, pair.2)

/-- `compose_ipxe` for any map. -/
def hydrateWith (template : Str) (pairs : List (Str × Str)) : Str :=
  let content := replaceAll pairs template
  if ("#!ipxe" : Str) <+: content then content else ("#!ipxe\n" : Str) ++ content

theorem bootScript_eq (site : Site) (data : JobData) :
    bootScript site data = hydrateWith site.template2 (ipxeMap data) := rfl

/-- A file is the simultaneous substitution, and the renderer gives it in every order. -/
def Simultaneous (render : List (Str × Str) → Str) (pairs : List (Str × Str))
    (template file : Str) : Prop :=
  file = substitute pairs template ∧ ∀ pairs', pairs'.Perm pairs → render pairs' = file

structure RendersSimultaneously (dep : Deployment) (hostIp : Str) (request : PhoneHomeRequest)
    (data : JobData) : Prop where
  userData : ∀ m ∈ userDataMap dep hostIp request (jobFields data),
    ∀ file ∈ userData dep hostIp request (jobFields data),
      Simultaneous (fun pairs => replaceAll pairs m.2) m.1 m.2 file
  installerLaunch : ∀ m ∈ launchMap dep hostIp request (jobFields data),
    ∀ file ∈ installerLaunch dep hostIp request (jobFields data),
      Simultaneous (fun pairs => replaceAll pairs m.2) m.1 m.2 file
  bootScript : Simultaneous (hydrateWith dep.template2) (ipxeMap data) dep.template2
    (bootScript dep.toSite data)

theorem simultaneous_iff {P : Placeholders} {pairs : List (Str × Str)} (hpairs : P.Assigns pairs)
    {template : Str} (htemplate : P.IsTemplate template) {render : List (Str × Str) → Str}
    (hrender : ∀ pairs', pairs'.Perm pairs → render pairs' = replaceAll pairs' template) :
    Simultaneous render pairs template (render pairs) ↔ Inert pairs template := by
  rw [← hpairs.simultaneous_iff htemplate]
  constructor
  · rintro ⟨hfile, horder⟩ pairs' hperm
    rw [← hrender pairs' hperm, horder pairs' hperm, hfile]
  · intro h
    have hfile : render pairs = substitute pairs template :=
      (hrender pairs (List.Perm.refl _)).trans (h pairs (List.Perm.refl _))
    refine ⟨hfile, fun pairs' hperm => ?_⟩
    rw [hrender pairs' hperm, h pairs' hperm, hfile]

theorem assigns_substitutions (py : PythonStr) (hostIp jobId hashedPw : Str) (disks : DiskChoice)
    (jobData : Fields) :
    seedPlaceholders.Assigns (substitutions py hostIp jobId hashedPw disks jobData) :=
  List.Perm.refl _

theorem assigns_ipxeMap (data : JobData) : ipxePlaceholders.Assigns (ipxeMap data) := by
  have hkeys : (ipxeMap data).map Prod.fst = ipxeKeys := by
    change ["JOB_ID".toList, "OS_VER".toList, "ARCH".toList, "IPV4".toList, "MASK".toList,
      "GW".toList, "CUSTOM_OS_URL".toList, "KERNEL_URL".toList, "INITRD_URL".toList,
      "DNS_PRIMARY".toList,
      "DNS_LIST".toList, "BASE".toList, "HOSTNAME".toList, "SERVER_IP".toList].map
        placeholder = ipxeKeys
    rfl
  exact List.Perm.of_eq hkeys

theorem userData_line {pairs : List (Str × Str)} (hpairs : seedPlaceholders.Assigns pairs)
    {lines : List String} {line : String} (hline : line ∈ lines) :
    replaceAll pairs line.toList ++ ['\n'] <:+: replaceAll pairs (textOf lines) := by
  rw [textOf_eq, ← List.append_nil (textOfLines _)]
  exact hpairs.rendered_line rfl (List.mem_map_of_mem hline) []

theorem launch_line {pairs : List (Str × Str)} (hpairs : launchPlaceholders.Assigns pairs)
    {line : String} (hline : line ∈ launchLines) :
    replaceAll pairs line.toList ++ ['\n'] <:+: replaceAll pairs launchTemplate := by
  rw [launchTemplate, textOf_eq]
  exact hpairs.rendered_line rfl (List.mem_map_of_mem hline) _

section UserData
variable {site : Site} {opensslPasswd : Str → Option Str} {hostIp : Str}
  {request : PhoneHomeRequest}
  {jobData : Fields} {m : List (Str × Str) × Str}

theorem userDataMap_spec (h :
    userDataMap (deployment site opensslPasswd) hostIp request jobData = some m) :
    ∃ disks hashedPw, chosenDisks request jobData = some disks ∧
      hashedPassword (deployment site opensslPasswd) jobData = some hashedPw ∧
      m.1 = substitutions site.py hostIp request.jobId.val hashedPw disks jobData ∧
      m.2 = textOf (templateLines disks.templateName) := by
  simp only [userDataMap, Option.bind_eq_bind, Option.bind_eq_some_iff, Option.pure_def,
    Option.some.injEq] at h
  obtain ⟨disks, hdisks, hashedPw, hhash, -, -, -, -, t, ht, rfl⟩ := h
  exact ⟨disks, hashedPw, hdisks, hhash, rfl, text_template ht⟩

theorem userDataMap_cases (h :
    userDataMap (deployment site opensslPasswd) hostIp request jobData = some m) :
    seedPlaceholders.Assigns m.1 ∧ seedPlaceholders.IsTemplate m.2 := by
  obtain ⟨disks, hashedPw, -, -, hpairs, htemplate⟩ := userDataMap_spec h
  rw [hpairs, htemplate]
  exact ⟨assigns_substitutions _ _ _ _ _ _, isTemplate_templateLines _⟩

/-- A line that both templates have. -/
theorem userData_common_line
    (h : userDataMap (deployment site opensslPasswd) hostIp request jobData = some m)
    {line : String} (hline : line ∈ headLines ∨ line ∈ settingLines ∨ line ∈ ipv6Lines ∨
      line ∈ lastSettingLines) :
    replaceAll m.1 line.toList ++ ['\n'] <:+: replaceAll m.1 m.2 := by
  obtain ⟨disks, hashedPw, -, -, -, htemplate⟩ := userDataMap_spec h
  rw [htemplate]
  exact userData_line (userDataMap_cases h).1 (common_line hline _)

end UserData

section Launch
variable {dep : Deployment} {hostIp : Str} {request : PhoneHomeRequest} {jobData : Fields}
  {m : List (Str × Str) × Str}

/-- What is known of the map: its keys, and the values that come from the job and the request. -/
structure IsLaunchMap (dep : Deployment) (hostIp : Str) (request : PhoneHomeRequest)
    (jobData : Fields) (m : List (Str × Str) × Str) : Prop where
  assigns : launchPlaceholders.Assigns m.1
  template : dep.installerLaunchTemplate = some m.2
  dns : ∀ dns, dnsFirst jobData = some dns → ("__DNS_PRIMARY__".toList, dns) ∈ m.1
  seed : ("__SEED_URL__".toList,
    ("http://" : Str) ++ hostIp ++ ("/automation/" : Str) ++ request.jobId.val) ∈ m.1
  address : ∀ value, jobData.get? "ipv4_address" = some value →
    ("__IPV4_ADDRESS__".toList, dep.py.str value) ∈ m.1
  gateway : ∀ value, jobData.get? "ipv4_gateway" = some value →
    ("__IPV4_GATEWAY__".toList, dep.py.str value) ∈ m.1
  netmask : ∀ value, jobData.get? "ipv4_netmask" = some value →
    ("__IPV4_NETMASK__".toList, dep.py.str value) ∈ m.1
  hostname : ("__HOSTNAME__".toList,
    dep.py.str (jobData.getD "hostname" (.str "ubuntu-installer".toList))) ∈ m.1
  interface : ("__INTERFACE__".toList,
    dep.py.str ((jobData.getD "ifn" .null).orElse (.str []))) ∈ m.1

theorem launchMap_spec (h : launchMap dep hostIp request jobData = some m) :
    IsLaunchMap dep hostIp request jobData m := by
  simp only [launchMap, launchSubstitutions, Option.bind_eq_bind, Option.bind_eq_some_iff,
    Option.pure_def, Option.some.injEq] at h
  obtain ⟨-, -, dns, hdns, pairs,
    ⟨kernel, -, initrd, -, address, haddress, gateway, hgateway, netmask, hnetmask, rfl⟩, t,
    ht, rfl⟩ := h
  refine ⟨List.Perm.refl _, ht, ?_, List.mem_of_getElem? (i := 4) rfl, ?_, ?_, ?_,
    List.mem_of_getElem? (i := 8) rfl, List.mem_of_getElem? (i := 9) rfl⟩
  · intro value hvalue
    rw [hdns] at hvalue
    cases hvalue
    exact List.mem_cons_self
  · intro value hvalue
    rw [haddress] at hvalue
    cases hvalue
    exact List.mem_of_getElem? (i := 5) rfl
  · intro value hvalue
    rw [hgateway] at hvalue
    cases hvalue
    exact List.mem_of_getElem? (i := 6) rfl
  · intro value hvalue
    rw [hnetmask] at hvalue
    cases hvalue
    exact List.mem_of_getElem? (i := 7) rfl

theorem launchMap_cases {site : Site} {opensslPasswd : Str → Option Str}
    (h : launchMap (deployment site opensslPasswd) hostIp request jobData = some m) :
    launchPlaceholders.Assigns m.1 ∧ launchPlaceholders.IsTemplate m.2 := by
  have hspec := launchMap_spec h
  have htemplate : launchTemplate = m.2 := Option.some.inj hspec.template
  exact ⟨hspec.assigns, htemplate ▸ isTemplate_launchTemplate⟩

end Launch

/-- The first line of `template2.ipxe` has no placeholder, so that nothing is put before it. -/
theorem hydrateWith_template2 {pairs : List (Str × Str)} (h : ipxePlaceholders.Assigns pairs) :
    hydrateWith template2 pairs = replaceAll pairs template2 := by
  have hfirst : template2 = ("#!ipxe" : Str) ++ '\n' :: textOf template2Lines.tail := by
    rw [template2, textOf_eq, textOf_eq]
    exact textOfLines_cons _ _
  have habsent : replaceAll pairs ("#!ipxe" : Str) = ("#!ipxe" : Str) :=
    Placeholders.replaceAll_of_unmarked (fun _ => h.mem) (by decide)
  have hprefix : ("#!ipxe" : Str) <+: replaceAll pairs template2 := by
    rw [hfirst, replaceAll_append_cons (h.separates rfl), habsent]
    exact List.prefix_append _ _
  exact if_pos hprefix

theorem bootScript_eq_render {site : Site} (h : site.template2 = template2) (data : JobData) :
    bootScript site data = replaceAll (ipxeMap data) template2 := by
  rw [bootScript_eq, h, hydrateWith_template2 (assigns_ipxeMap data)]

theorem rendered_iff {P : Placeholders} {map : Option (List (Str × Str) × Str)}
    {rendered : Option Str} (hrendered : rendered = map.map fun m => replaceAll m.1 m.2)
    (hmap : ∀ m, map = some m → P.Assigns m.1 ∧ P.IsTemplate m.2) :
    (∀ m ∈ map, ∀ file ∈ rendered, Simultaneous (fun pairs => replaceAll pairs m.2) m.1 m.2 file) ↔
      ∀ m ∈ map, Inert m.1 m.2 := by
  refine forall₂_congr fun m hm => ?_
  obtain ⟨hassigns, htemplate⟩ := hmap m hm
  have hfile : rendered = some (replaceAll m.1 m.2) := by
    rw [hrendered, hm]
    rfl
  have hiff := simultaneous_iff hassigns htemplate fun pairs' _ => (rfl : replaceAll pairs' m.2 = _)
  rw [← hiff]
  constructor
  · exact fun h => h _ hfile
  · intro h file hfile'
    obtain rfl := Option.some.inj (hfile.symm.trans hfile')
    exact h

/-- For every job and every phone-home, the files are the simultaneous substitution exactly
when no value that a template takes contains another of its placeholders. -/
theorem rendering_simultaneous_iff (site : Site) (opensslPasswd : Str → Option Str) (hostIp : Str)
    (request : PhoneHomeRequest) (data : JobData) :
    let dep := deployment site opensslPasswd
    RendersSimultaneously dep hostIp request data ↔
      (∀ m ∈ userDataMap dep hostIp request (jobFields data), Inert m.1 m.2) ∧
      (∀ m ∈ launchMap dep hostIp request (jobFields data), Inert m.1 m.2) ∧
      Inert (ipxeMap data) template2 := by
  intro dep
  have huser := rendered_iff (userData_eq_map dep hostIp request (jobFields data))
    fun _ => userDataMap_cases
  have hlaunch := rendered_iff (installerLaunch_eq_map dep hostIp request (jobFields data))
    fun _ => launchMap_cases
  have hboot : Simultaneous (hydrateWith template2) (ipxeMap data) template2
      (hydrateWith template2 (ipxeMap data)) ↔ Inert (ipxeMap data) template2 :=
    simultaneous_iff (assigns_ipxeMap data) isTemplate_template2 fun pairs' hperm =>
      hydrateWith_template2 ((assigns_ipxeMap data).perm hperm)
  rw [← huser, ← hlaunch, ← hboot]
  exact ⟨fun h => ⟨h.userData, h.installerLaunch, h.bootScript⟩, fun h => ⟨h.1, h.2.1, h.2.2⟩⟩

def exampleDep : Deployment :=
  deployment exampleSite fun password => some (("$6$" : Str) ++ password)

def phoneHomeOf (jobId : Str) : Option Json :=
  some (.obj [("job_id".toList, .str jobId), ("machine_serial".toList, .str "SN-22".toList),
    ("bootif".toList, .str "01-52-54-00-22-22-22".toList),
    ("uuids".toList, .arr [.obj [("dev".toList, .str "sdd".toList),
      ("id".toList, .str "S3Z9".toList), ("size_mb".toList, .int 476940)]])])

def requestOf (jobId : Str) (h : jobId ≠ []) : PhoneHomeRequest :=
  ⟨⟨jobId, h⟩, ⟨"SN-22".toList, by decide⟩, ⟨"01-52-54-00-22-22-22".toList, by decide⟩,
    [⟨⟨"sdd".toList, by decide⟩, ⟨"S3Z9".toList, by decide⟩, ⟨476940, by decide⟩⟩]⟩

def nestedName : Str := "\x7b\x7bDISK_DEV_0\x7d\x7d"

def nestedJob : JobData := namedJob "node-n" nestedName "8.8.8.8" (by decide)

def nestedRequest : PhoneHomeRequest :=
  requestOf nestedJob.request.hostname.val nestedJob.request.hostname.property

def nestedPairs : List (Str × Str) :=
  substitutions exampleDep.py "10.0.0.1" "node-n" "$6$ubuntu"
    ⟨.userData, "S3Z9".toList, "sdd".toList, "S3Z9".toList, "sdd".toList⟩ (jobFields nestedJob)

theorem userDataMap_nested : userDataMap exampleDep "10.0.0.1" nestedRequest (jobFields nestedJob) =
    some (nestedPairs, userDataTemplate.text) := rfl

theorem username_line : "    username: \"\x7b\x7bUSERNAME\x7d\x7d\"" ∈ headLines := by decide

/-- The user name of an accepted job becomes the device name of the disk. -/
theorem nested_name_rewritten :
    accept exampleSite "10.0.0.1" (some (namedBody "node-n" nestedName "8.8.8.8")) = .ok nestedJob ∧
    phoneHomeRequest exampleDep.toSite (phoneHomeOf "node-n") = some nestedRequest ∧
    ∃ file, userData exampleDep "10.0.0.1" nestedRequest (jobFields nestedJob) = some file ∧
      "    username: \"sdd\"\n".toList <:+: file ∧
      file ≠ substitute nestedPairs userDataTemplate.text := by
  obtain ⟨hassigns, htemplate⟩ := userDataMap_cases userDataMap_nested
  have htext : userDataTemplate.text = textOf (templateLines .userData) := text_ofLines _ _
  have hfile : userData exampleDep "10.0.0.1" nestedRequest (jobFields nestedJob) =
      some (replaceAll nestedPairs userDataTemplate.text) := by
    rw [userData_eq_map, userDataMap_nested]
    rfl
  have hline := userData_common_line userDataMap_nested (Or.inl username_line)
  refine ⟨rfl, rfl, _, hfile, ?_, ?_⟩
  · have hrendered : replaceAll nestedPairs "    username: \"\x7b\x7bUSERNAME\x7d\x7d\"".toList ++
      ['\n'] =
        "    username: \"sdd\"\n".toList := rfl
    rw [← hrendered]
    exact hline
  · intro heq
    have hsurvives := (hassigns.replaceAll_eq_substitute_iff htemplate).mp heq
    have hoccurs : "\x7b\x7bUSERNAME\x7d\x7d".toList <:+: userDataTemplate.text := by
      rw [htext]
      refine List.IsInfix.trans ?_ (mem_textOf (common_line (Or.inl username_line) _))
      decide
    have hrewritten : replaceAll (laterPairs nestedPairs "\x7b\x7bUSERNAME\x7d\x7d".toList)
        (valueOf nestedPairs "\x7b\x7bUSERNAME\x7d\x7d".toList) ≠
        valueOf nestedPairs "\x7b\x7bUSERNAME\x7d\x7d".toList := by decide
    exact hrewritten (hsurvives _ (by decide) hoccurs)

end Astro.SimultaneousRendering
