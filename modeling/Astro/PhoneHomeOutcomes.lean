import Astro.HttpMethods

/-!
# How a phone-home ends

The handler stores its tracker entry as soon as the job file is read and then writes the
four seed files one after the other, while statement after statement can raise. This module
says when a request with everything in place succeeds, and what a failed one leaves behind.
-/

namespace Astro.PhoneHomeOutcomes

open PythonText JobPaths RequestModels IpxePipeline CustomIsoHandler ServerHandlers SeedRendering
  FileServing HttpMethods MethodBodies Statement

section Writes
variable {job : Str} {write : SeedFile → SeedWrite} {texts : List (SeedFile × Option Str)}

/-- Only files of the list are written, in its order. -/
theorem writeInOrder_files (write : SeedFile → SeedWrite) (texts : List (SeedFile × Option Str)) :
    (writeInOrder write texts).written.map Prod.fst <+: texts.map Prod.fst := by
  induction texts with
  | nil => exact List.prefix_rfl
  | cons entry texts ih =>
    obtain ⟨file, text⟩ := entry
    cases text with
    | none => exact List.nil_prefix
    | some text =>
      unfold writeInOrder
      cases write file with
      | written => exact List.cons_prefix_cons.mpr ⟨rfl, ih⟩
      | notOpened => exact List.nil_prefix
      | interrupted length => exact List.cons_prefix_cons.mpr ⟨rfl, List.nil_prefix⟩

theorem writeSeeds_mem {written : List (SeedFile × Str)} (hnodup : (written.map Prod.fst).Nodup)
    {seed : SeedFile × Str} (hseed : seed ∈ written) (files : Files) :
    writeSeeds job written files (jobFile job seed.1.name) = some (.text seed.2) := by
  induction written generalizing files with
  | nil => cases hseed
  | cons first written ih =>
    rw [List.map_cons, List.nodup_cons] at hnodup
    rcases List.mem_cons.mp hseed with rfl | hseed
    · refine writeSeeds_head fun other hother hsame => hnodup.1 ?_
      rw [← hsame]
      exact List.mem_map_of_mem hother
    · exact ih hnodup.2 hseed _

/-- Writing what is there already changes nothing. -/
theorem writeSeeds_of_present {written : List (SeedFile × Str)} {files : Files}
    (h : ∀ seed ∈ written, files (jobFile job seed.1.name) = some (.text seed.2)) :
    writeSeeds job written files = files := by
  induction written with
  | nil => rfl
  | cons seed written ih =>
    have hhead : Function.update files (jobFile job seed.1.name) (some (.text seed.2)) = files := by
      rw [← h seed List.mem_cons_self, Function.update_eq_self]
    change writeSeeds job written (Function.update files _ _) = files
    rw [hhead]
    exact ih fun seed hseed => h seed (List.mem_cons_of_mem _ hseed)

/-- The sequence comes to its end exactly when every text can be computed and is written. -/
theorem writeInOrder_completed_iff :
    (writeInOrder write texts).completed = true ↔
      ∀ entry ∈ texts, entry.2.isSome = true ∧ write entry.1 = .written := by
  induction texts with
  | nil => simp [writeInOrder]
  | cons entry texts ih =>
    obtain ⟨file, text⟩ := entry
    rw [List.forall_mem_cons, ← ih]
    cases text with
    | none => simp [writeInOrder]
    | some text =>
      rw [writeInOrder]
      cases write file with
      | written => simp
      | notOpened => simp
      | interrupted length => simp

/-- The write leaves the file as it was: it is not opened, or what reaches it is there. -/
def KeepsText (write : SeedFile → SeedWrite) (files : Files) (job : Str) (file : SeedFile)
    (text : Str) : Prop :=
  match write file with
  | .written => files (jobFile job file.name) = some (.text text)
  | .notOpened => True
  | .interrupted length => files (jobFile job file.name) = some (.text (text.take length))

def Present (files : Files) (job : Str) (written : List (SeedFile × Str)) : Prop :=
  ∀ seed ∈ written, files (jobFile job seed.1.name) = some (.text seed.2)

theorem present_none {files : Files} {file : SeedFile} :
    Present files job (writeInOrder write ((file, none) :: texts)).written ↔ True :=
  iff_of_true (fun seed hseed => by cases hseed) trivial

/-- After a file the next one is written only if it was written to its end. -/
theorem present_some {files : Files} {file : SeedFile} {text : Str} :
    Present files job (writeInOrder write ((file, some text) :: texts)).written ↔
      KeepsText write files job file text ∧
        (write file = .written → Present files job (writeInOrder write texts).written) := by
  rw [writeInOrder]
  unfold KeepsText Present
  cases write file with
  | written => simp
  | notOpened => simp
  | interrupted length => simp

end Writes

section Seeds
variable (dep : Deployment) (hostIp : Str) (request : PhoneHomeRequest) (jobData : Fields)
  (write : SeedFile → SeedWrite)

theorem seedTexts_files : (seedTexts dep hostIp request jobData).map Prod.fst =
    [.userData, .metaData, .vendorData, .installerLaunch] := rfl

theorem written_nodup :
    ((writeInOrder write (seedTexts dep hostIp request jobData)).written.map Prod.fst).Nodup := by
  have hprefix := writeInOrder_files write (seedTexts dep hostIp request jobData)
  rw [seedTexts_files] at hprefix
  exact hprefix.sublist.nodup (by decide)

end Seeds

/-- The job's version is in the release map that is loaded for the host. -/
def Known (site : Site) (hostIp : Str) (jobData : Fields) (release : Release) : Prop :=
  ∃ version releaseMap, jobData.getD "os_version" (.str "24.04.4".toList) = .str version ∧
    site.loadReleaseMap hostIp = some releaseMap ∧
    (releaseMap.find? (fun r => r.1 = version)).map Prod.snd = some release

/-- The disks that the filter keeps. -/
def keptDisks (request : PhoneHomeRequest) : List DiskInfo :=
  request.uuids.filter fun d => (Disk.ofInfo d).isValid

/-- `user-data` can be rendered: the filter keeps a disk, the password can be hashed, the
version is known, the name servers are a text and the template for the disks is there. -/
structure CanRender (dep : Deployment) (hostIp : Str) (request : PhoneHomeRequest)
    (jobData : Fields) : Prop where
  disk : keptDisks request ≠ []
  password : ∃ password hash, jobData.getD "password" (.str "ubuntu".toList) = .str password ∧
    dep.opensslPasswd password = some hash
  version : ∃ release, Known dep.toSite hostIp jobData release
  dns : ∃ servers, jobData.getD "dns_servers" (.str "8.8.8.8".toList) = .str servers
  template : if (jobData.getD "raid" (.bool false)).truthy ∧ 2 ≤ (keptDisks request).length
    then dep.userDataRaidTemplate.isSome = true else dep.userDataTemplate.isSome = true

/-- `installer-launch.sh` can be rendered. -/
structure CanLaunch (dep : Deployment) (hostIp : Str) (jobData : Fields) : Prop where
  version : ∃ release kernel initrd, Known dep.toSite hostIp jobData release ∧
    release.kernel = some kernel ∧ release.initrd = some initrd
  dns : ∃ servers, jobData.getD "dns_servers" (.str "8.8.8.8".toList) = .str servers
  address : ∃ value, jobData.get? "ipv4_address" = some value
  gateway : ∃ value, jobData.get? "ipv4_gateway" = some value
  netmask : ∃ value, jobData.get? "ipv4_netmask" = some value
  template : dep.installerLaunchTemplate.isSome = true

theorem text?_eq_some_iff {value : Json} {text : Str} : text? value = some text ↔
    value = .str text := by
  cases value with
  | str s =>
    rw [Json.str.injEq, text?, Option.some.injEq]
  | _ => exact iff_of_false nofun nofun

theorem chooseDisks_eq_none_iff {isRaid : Bool} {disks : List DiskInfo} :
    chooseDisks isRaid disks = none ↔ disks.filter (fun d => (Disk.ofInfo d).isValid) = [] := by
  have hnil : sortedDisks disks = [] ↔ disks.filter (fun d => (Disk.ofInfo d).isValid) = [] := by
    rw [sortedDisks, ← List.length_eq_zero_iff, List.length_insertionSort, List.length_eq_zero_iff,
      List.filter_map, List.map_eq_nil_iff]
    rfl
  rw [← hnil]
  unfold chooseDisks
  cases sortedDisks disks with
  | nil => simp
  | cons d rest =>
    cases rest with
    | nil => simp
    | cons d' rest => cases isRaid <;> simp

theorem length_sortedDisks (disks : List DiskInfo) :
    (sortedDisks disks).length = (disks.filter fun d => (Disk.ofInfo d).isValid).length := by
  rw [sortedDisks, List.length_insertionSort, List.filter_map, List.length_map]
  rfl

theorem chooseDisks_templateName {isRaid : Bool} {disks : List DiskInfo} {choice : DiskChoice}
    (h : chooseDisks isRaid disks = some choice) :
    choice.templateName = .userDataRaid ↔
      isRaid = true ∧ 2 ≤ (disks.filter fun d => (Disk.ofInfo d).isValid).length := by
  rw [← length_sortedDisks]
  unfold chooseDisks at h
  split at h
  · cases h
  · rename_i hsorted
    cases h
    simp [hsorted]
  · rename_i hsorted
    cases isRaid with
    | true =>
      cases h
      simp [hsorted]
    | false =>
      cases h
      simp

section Texts
variable {dep : Deployment} {hostIp : Str} {request : PhoneHomeRequest} {jobData : Fields}

theorem release?_eq_some_iff {site : Site} {release : Release} :
    (∃ version, release? site hostIp jobData = some (version, release)) ↔
      Known site hostIp jobData release := by
  simp only [release?, Known, Option.bind_eq_bind, Option.bind_eq_some_iff, Option.pure_def,
    Option.some.injEq, Prod.mk.injEq, text?_eq_some_iff]
  constructor
  · rintro ⟨version, version', hversion, releaseMap, hmap, release', hfind, rfl, rfl⟩
    exact ⟨version', releaseMap, hversion, hmap, hfind⟩
  · rintro ⟨version, releaseMap, hversion, hmap, hfind⟩
    exact ⟨version, version, hversion, releaseMap, hmap, release, hfind, rfl, rfl⟩

theorem dnsFirst_eq_some_iff : (∃ dns, dnsFirst jobData = some dns) ↔
    ∃ servers, jobData.getD "dns_servers" (.str "8.8.8.8".toList) = .str servers := by
  simp only [dnsFirst, Option.map_eq_some_iff, text?_eq_some_iff]
  constructor
  · rintro ⟨dns, servers, hservers, -⟩
    exact ⟨servers, hservers⟩
  · rintro ⟨servers, hservers⟩
    exact ⟨_, servers, hservers, rfl⟩

theorem hashedPassword_eq_some_iff : (∃ hash, hashedPassword dep jobData = some hash) ↔
    ∃ password hash, jobData.getD "password" (.str "ubuntu".toList) = .str password ∧
      dep.opensslPasswd password = some hash := by
  simp only [hashedPassword, Option.map_eq_some_iff, Option.bind_eq_some_iff, text?_eq_some_iff]
  constructor
  · rintro ⟨-, hash, ⟨password, hpassword, hhash⟩, -⟩
    exact ⟨password, hash, hpassword, hhash⟩
  · rintro ⟨password, hash, hpassword, hhash⟩
    exact ⟨_, hash, ⟨password, hpassword, hhash⟩, rfl⟩

theorem template_isSome_iff {disks : DiskChoice} (h : chosenDisks request jobData = some disks) :
    (template dep disks.templateName).isSome = true ↔
      if (jobData.getD "raid" (.bool false)).truthy ∧ 2 ≤ (keptDisks request).length
      then dep.userDataRaidTemplate.isSome = true else dep.userDataTemplate.isSome = true := by
  have hname : disks.templateName = .userDataRaid ↔ (jobData.getD "raid" (.bool false)).truthy ∧
      2 ≤ (keptDisks request).length := chooseDisks_templateName h
  cases hchoice : disks.templateName with
  | userData =>
    rw [if_neg fun hraid => by rw [hname.mpr hraid] at hchoice; cases hchoice]
    rfl
  | userDataRaid =>
    rw [if_pos (hname.mp hchoice)]
    rfl

theorem userData_isSome_iff :
    (userData dep hostIp request jobData).isSome = true ↔ CanRender dep hostIp request jobData := by
  have hdisks : (∃ disks, chosenDisks request jobData = some disks) ↔ keptDisks request ≠ [] := by
    rw [← Option.ne_none_iff_exists', keptDisks, ne_eq, ne_eq, chosenDisks, chooseDisks_eq_none_iff]
  rw [Option.isSome_iff_exists]
  simp only [userData, Option.bind_eq_bind, Option.bind_eq_some_iff, Option.pure_def,
    Option.some.injEq]
  constructor
  · rintro ⟨-, disks, hchosen, hash, hhash, ⟨version, release⟩, hrelease, dns, hdns, template,
      htemplate, -⟩
    exact {
      disk := hdisks.mp ⟨disks, hchosen⟩
      password := hashedPassword_eq_some_iff.mp ⟨hash, hhash⟩
      version := ⟨release, release?_eq_some_iff.mp ⟨version, hrelease⟩⟩
      dns := dnsFirst_eq_some_iff.mp ⟨dns, hdns⟩
      template := (template_isSome_iff hchosen).mp (Option.isSome_of_eq_some htemplate) }
  · rintro ⟨hdisk, hpassword, ⟨release, hrelease⟩, hdns, htemplate⟩
    obtain ⟨disks, hchosen⟩ := hdisks.mpr hdisk
    obtain ⟨hash, hhash⟩ := hashedPassword_eq_some_iff.mpr hpassword
    obtain ⟨version, hrelease⟩ := release?_eq_some_iff.mpr hrelease
    obtain ⟨dns, hdns⟩ := dnsFirst_eq_some_iff.mpr hdns
    obtain ⟨template, htemplate⟩ :=
      Option.isSome_iff_exists.mp ((template_isSome_iff hchosen).mpr htemplate)
    exact ⟨_, disks, hchosen, hash, hhash, _, hrelease, dns, hdns, template, htemplate, rfl⟩

theorem installerLaunch_isSome_iff :
    (installerLaunch dep hostIp request jobData).isSome = true ↔ CanLaunch dep hostIp jobData := by
  rw [Option.isSome_iff_exists]
  simp only [installerLaunch, launchSubstitutions, Option.bind_eq_bind, Option.bind_eq_some_iff,
    Option.pure_def, Option.some.injEq]
  constructor
  · rintro ⟨-, ⟨version, release⟩, hrelease, dns, hdns, -, ⟨kernel, hkernel, initrd, hinitrd,
      address, haddress, gateway, hgateway, netmask, hnetmask, -⟩, template, htemplate, -⟩
    exact {
      version :=
        ⟨release, kernel, initrd, release?_eq_some_iff.mp ⟨version, hrelease⟩, hkernel, hinitrd⟩
      dns := dnsFirst_eq_some_iff.mp ⟨dns, hdns⟩
      address := ⟨address, haddress⟩
      gateway := ⟨gateway, hgateway⟩
      netmask := ⟨netmask, hnetmask⟩
      template := Option.isSome_of_eq_some htemplate }
  · rintro ⟨⟨release, kernel, initrd, hrelease, hkernel, hinitrd⟩, hdns, ⟨address, haddress⟩,
      ⟨gateway, hgateway⟩, ⟨netmask, hnetmask⟩, htemplate⟩
    obtain ⟨version, hrelease⟩ := release?_eq_some_iff.mpr hrelease
    obtain ⟨dns, hdns⟩ := dnsFirst_eq_some_iff.mpr hdns
    obtain ⟨template, htemplate⟩ := Option.isSome_iff_exists.mp htemplate
    exact ⟨_, _, hrelease, dns, hdns, _,
      ⟨kernel, hkernel, initrd, hinitrd, address, haddress, gateway, hgateway, netmask, hnetmask,
        rfl⟩, template, htemplate, rfl⟩

end Texts

/-- The template files are there and passwords can be hashed. -/
structure Complete (dep : Deployment) : Prop where
  userData : ∃ t, dep.userDataTemplate = some t
  userDataRaid : ∃ t, dep.userDataRaidTemplate = some t
  installerLaunch : ∃ t, dep.installerLaunchTemplate = some t
  opensslPasswd : ∀ password, ∃ hash, dep.opensslPasswd password = some hash

/-- The version is in the release map that is loaded for the host, with kernel and initrd. -/
def Supports (site : Site) (hostIp version : Str) : Prop :=
  ∃ releaseMap release kernel initrd, site.loadReleaseMap hostIp = some releaseMap ∧
    (releaseMap.find? (fun r => r.1 = version)).map Prod.snd = some release ∧
    release.kernel = some kernel ∧ release.initrd = some initrd

section Saved
variable {dep : Deployment} {hostIp : Str} {request : PhoneHomeRequest} {data : JobData}
  (hdep : Complete dep) (hrelease : Supports dep.toSite hostIp data.request.osVersion)
include hdep hrelease

theorem canRender_saved : CanRender dep hostIp request (jobFields data) ↔
    ∃ d ∈ request.uuids, (Disk.ofInfo d).isValid = true := by
  have hkept : keptDisks request ≠ [] ↔ ∃ d ∈ request.uuids, (Disk.ofInfo d).isValid = true := by
    simp [keptDisks, List.filter_eq_nil_iff]
  rw [← hkept]
  refine ⟨fun h => h.disk, fun hdisk => ?_⟩
  obtain ⟨releaseMap, release, -, -, hmap, hfind, -⟩ := hrelease
  obtain ⟨hash, hhash⟩ := hdep.opensslPasswd data.request.password
  obtain ⟨t, ht⟩ := hdep.userData
  obtain ⟨t', ht'⟩ := hdep.userDataRaid
  exact {
    disk := hdisk
    password := ⟨data.request.password, hash, rfl, hhash⟩
    version := ⟨release, data.request.osVersion, releaseMap, rfl, hmap, hfind⟩
    dns := ⟨data.request.dnsServers, rfl⟩
    template := by rw [ht, ht']; exact ite_self _ ▸ rfl }

theorem canLaunch_saved : CanLaunch dep hostIp (jobFields data) := by
  obtain ⟨releaseMap, release, kernel, initrd, hmap, hfind, hkernel, hinitrd⟩ := hrelease
  obtain ⟨t, ht⟩ := hdep.installerLaunch
  exact {
    version := ⟨release, kernel, initrd, ⟨data.request.osVersion, releaseMap, rfl, hmap, hfind⟩,
      hkernel, hinitrd⟩
    dns := ⟨data.request.dnsServers, rfl⟩
    address := ⟨_, rfl⟩
    gateway := ⟨_, rfl⟩
    netmask := ⟨_, rfl⟩
    template := by rw [ht]; rfl }

theorem seedTexts_isSome :
    (∀ entry ∈ seedTexts dep hostIp request (jobFields data), entry.2.isSome = true) ↔
      ∃ d ∈ request.uuids, (Disk.ofInfo d).isValid = true := by
  rw [seedTexts, List.forall_mem_cons, List.forall_mem_cons, List.forall_mem_cons,
    List.forall_mem_cons]
  dsimp only
  rw [userData_isSome_iff, installerLaunch_isSome_iff, canRender_saved hdep hrelease]
  simp [canLaunch_saved hdep hrelease]

end Saved

/-- The request is answered with 200, and each of the four files has its text. -/
def Succeeds (dep : Deployment) (hostIp : Str) (phoneBody : Option Json) (s : Server)
    (request : PhoneHomeRequest) (data : JobData) : Prop :=
  (servePhoneHome dep hostIp (fun _ => .written) true phoneBody s).2 = 200 ∧
    ∀ file : SeedFile, ∃ text, (file, some text) ∈ seedTexts dep hostIp request (jobFields data) ∧
      (servePhoneHome dep hostIp (fun _ => .written) true phoneBody s).1.files
        (jobFile request.jobId.val file.name) = some (.text text)

/-- A well-formed phone-home of a job that was saved, with a supported version and with every
file operation and the hash succeeding, succeeds exactly when the report has a disk that the
filter keeps. Without one the device names are not assigned, and their use raises. -/
theorem phone_home_succeeds_iff {dep : Deployment} (hdep : Complete dep) {data : JobData}
    {s : Server} (hsaved : s.files (jobJson (jobId data)) = some (.jobJson data)) {hostIp : Str}
    (hrelease : Supports dep.toSite hostIp data.request.osVersion) {phoneBody : Option Json}
    {request : PhoneHomeRequest} (hrequest : phoneHomeRequest dep.toSite phoneBody = some request)
    (hjob : request.jobId.val = jobId data) :
    Succeeds dep hostIp phoneBody s request data ↔
      ∃ d ∈ request.uuids, (Disk.ofInfo d).isValid = true := by
  rw [← hjob] at hsaved
  have hserve :=
    @servePhoneHome_rendered dep hostIp (fun _ => .written) true phoneBody s request data
    hrequest hsaved
  have hcompleted : (writeInOrder (fun _ => .written)
      (seedTexts dep hostIp request (jobFields data))).completed = true ↔
        ∀ entry ∈ seedTexts dep hostIp request (jobFields data), entry.2.isSome = true := by
    rw [writeInOrder_completed_iff]
    simp only [and_true]
  rw [← seedTexts_isSome hdep hrelease, ← hcompleted, Succeeds, hserve]
  dsimp only
  constructor
  · rintro ⟨hstatus, -⟩
    by_contra hnot
    rw [Bool.not_eq_true] at hnot
    rw [hnot] at hstatus
    cases hstatus
  · intro hcompleted
    refine ⟨by rw [hcompleted]; rfl, fun file => ?_⟩
    have htexts := writeInOrder_completed hcompleted
    have hfile : file ∈ (seedTexts dep hostIp request (jobFields data)).map Prod.fst := by
      rw [seedTexts_files]
      cases file <;> decide
    rw [htexts, List.map_map] at hfile
    obtain ⟨seed, hseed, rfl⟩ := List.mem_map.mp hfile
    refine ⟨seed.2, ?_, writeSeeds_mem
      (written_nodup dep hostIp request (jobFields data) _) hseed _⟩
    rw [htexts]
    exact List.mem_map.mpr ⟨seed, hseed, rfl⟩

/-- Node A is known, and nothing else has happened. -/
def savedServer : Server :=
  Server.started (fun _ => [])
    (Function.update (fun _ => none) (jobJson "node-a") (some (.jobJson nodeA)))

def phoneA (disks : List Json) : Option Json :=
  some (.obj [("job_id".toList, .str "node-a".toList),
    ("machine_serial".toList, .str "SN-28".toList),
    ("bootif".toList, .str "01-52-54-00-28-28-28".toList), ("uuids".toList, .arr disks)])

def requestA (uuids : List DiskInfo) : PhoneHomeRequest :=
  ⟨nodeA.request.hostname, ⟨"SN-28".toList, by decide⟩,
    ⟨"01-52-54-00-28-28-28".toList, by decide⟩, uuids⟩

theorem complete_exampleDeployment : Complete exampleDeployment where
  userData := ⟨_, rfl⟩
  userDataRaid := ⟨_, rfl⟩
  installerLaunch := ⟨_, rfl⟩
  opensslPasswd _ := ⟨_, rfl⟩

theorem supports_exampleDeployment : Supports exampleDeployment.toSite "10.0.0.1" "24.04.4" :=
  ⟨_, _, _, _, rfl, rfl, rfl, rfl⟩

def diskA : DiskInfo :=
  ⟨⟨"vda".toList, by decide⟩, ⟨"disk 28".toList, by decide⟩, ⟨20028, by decide⟩⟩

def diskJsonA : Json :=
  .obj [("dev".toList, .str "vda".toList), ("id".toList, .str "disk 28".toList),
  ("size_mb".toList, .int 20028)]

theorem phone_home_succeeds_oneDisk :
    Succeeds exampleDeployment "10.0.0.1" (phoneA [diskJsonA]) savedServer
      (requestA [diskA]) nodeA :=
  (@phone_home_succeeds_iff exampleDeployment complete_exampleDeployment nodeA savedServer
    rfl "10.0.0.1"
    supports_exampleDeployment (phoneA [diskJsonA]) (requestA [diskA]) rfl rfl).mpr
    ⟨diskA, List.mem_singleton_self diskA, rfl⟩

/-- A node that reports no disk at all is accepted, and answered with 500. -/
theorem no_disk_raises :
    phoneHomeRequest exampleDeployment.toSite (phoneA []) = some (requestA []) ∧
    (servePhoneHome exampleDeployment "10.0.0.1" (fun _ => .written) true (phoneA [])
      savedServer).2 =
      500 ∧
    (servePhoneHome exampleDeployment "10.0.0.1" (fun _ => .written) true (phoneA [])
      savedServer).1.files
      (jobFile "node-a" "user-data") = none :=
  ⟨rfl, rfl, rfl⟩

/-- `PROGRESS_TRACKER` as the program holds it. -/
def trackerContents (progress : Dict Key Entry) : List (Key × Stage × Json) :=
  progress.view fun entry => (entry.stage, entry.detail)

theorem trackerContents_set_iff {progress : Dict Key Entry} {key : Key} {entry : Entry} :
    trackerContents (progress.set key entry) = trackerContents progress ↔
      ∃ old, progress.get? key = some old ∧ old.stage = entry.stage ∧
        old.detail = entry.detail := by
  unfold trackerContents
  rw [Dict.view_set_iff]
  simp only [Prod.mk.injEq]

/-- An answer 400 or 500 means that the tracker and all seed files are as before. -/
def AllOrNothing (world : World) (env : Environment) (r : Request) (m : Machine) : Prop :=
  (400 ∈ statusLines (serve world env r m).output ∨
    500 ∈ statusLines (serve world env r m).output) →
    trackerContents (serve world env r m).state.progress = trackerContents m.progress ∧
    ∀ job (file : SeedFile), (serve world env r m).state.files (jobFile job file.name) =
      m.files (jobFile job file.name)

/-- The entry that the handler is about to store is in the tracker already. -/
def AlreadyRecorded (s : Server) (request : PhoneHomeRequest) : Prop :=
  ∃ entry, s.progress.get? (.text request.jobId.val) = some entry ∧ entry.stage = .phonedHome ∧
    entry.detail = (phonedHomeEntry request).detail

/-- Every text that is written before the handler fails is in its file already. -/
structure Repeats (dep : Deployment) (hostIp : Str) (write : SeedFile → SeedWrite) (files : Files)
    (request : PhoneHomeRequest) (jobData : Fields) : Prop where
  userData : ∀ text, userData dep hostIp request jobData = some text →
    KeepsText write files request.jobId.val .userData text
  metaData : CanRender dep hostIp request jobData → write .userData = .written →
    KeepsText write files request.jobId.val .metaData (metaData dep request jobData)
  vendorData : CanRender dep hostIp request jobData → write .userData = .written →
    write .metaData = .written →
      KeepsText write files request.jobId.val .vendorData "#cloud-config\n"
  installerLaunch : CanRender dep hostIp request jobData → write .userData = .written →
    write .metaData = .written → write .vendorData = .written →
    ∀ text, installerLaunch dep hostIp request jobData = some text →
      KeepsText write files request.jobId.val .installerLaunch text

/-- Once the job file is read, there is nothing that can fail: it is a dictionary from which
both templates can be rendered, and all writes succeed. Or what is stored and written before
the failure was there before. -/
def LosesNothing (world : World) (env : Environment) (r : Request) (s : Server) : Prop :=
  ∀ request value, phoneHomeRequest world.toSite r.body = some request →
    loadJob s.files request.jobId.val = some value →
    (∃ jobData, value = .obj jobData ∧ CanRender world.toDeployment r.hostIp request jobData ∧
      CanLaunch world.toDeployment r.hostIp jobData ∧ (∀ file, env.seedWrite file = .written) ∧
      env.chmod = true) ∨
    (AlreadyRecorded s request ∧ ∀ jobData, value = .obj jobData →
      Repeats world.toDeployment r.hostIp env.seedWrite s.files request jobData)

section Outcome
variable {dep : Deployment} {hostIp : Str} {write : SeedFile → SeedWrite} {files : Files}
  {request : PhoneHomeRequest}

theorem seedOutcome_completed_iff {value : Json} :
    (seedOutcome dep hostIp write request value).completed = true ↔
      ∃ jobData, value = .obj jobData ∧ CanRender dep hostIp request jobData ∧
        CanLaunch dep hostIp jobData ∧ ∀ file, write file = .written := by
  cases value with
  | obj jobData =>
    have hfiles : (∀ file, write file = .written) ↔ write .userData = .written ∧
        write .metaData = .written ∧ write .vendorData = .written ∧
        write .installerLaunch = .written := by
      refine ⟨fun h => ⟨h _, h _, h _, h _⟩, ?_⟩
      rintro ⟨huser, hmeta, hvendor, hlaunch⟩ file
      cases file with
      | userData => exact huser
      | metaData => exact hmeta
      | vendorData => exact hvendor
      | installerLaunch => exact hlaunch
    simp only [seedOutcome, writeInOrder_completed_iff, seedTexts, List.forall_mem_cons,
      List.not_mem_nil, false_implies, implies_true, userData_isSome_iff,
        installerLaunch_isSome_iff,
      Option.isSome_some, true_and, Json.obj.injEq, exists_eq_left', hfiles]
    tauto
  | _ => exact iff_of_false nofun nofun

theorem present_seedTexts {jobData : Fields} :
    Present files request.jobId.val
      (writeInOrder write (seedTexts dep hostIp request jobData)).written ↔
      Repeats dep hostIp write files request jobData := by
  have hrender := @userData_isSome_iff dep hostIp request jobData
  have hfields : Repeats dep hostIp write files request jobData ↔ _ ∧ _ ∧ _ ∧ _ :=
    ⟨fun h => ⟨h.userData, h.metaData, h.vendorData, h.installerLaunch⟩,
      fun h => ⟨h.1, h.2.1, h.2.2.1, h.2.2.2⟩⟩
  rw [hfields, seedTexts]
  cases huser : userData dep hostIp request jobData with
  | none =>
    rw [huser] at hrender
    have hnot : ¬ CanRender dep hostIp request jobData := fun h => Bool.noConfusion (hrender.mpr h)
    rw [present_none]
    simp only [hnot, false_implies, reduceCtorEq, implies_true, and_self]
  | some text =>
    rw [huser] at hrender
    have hyes : CanRender dep hostIp request jobData := hrender.mp rfl
    rw [present_some, present_some, present_some]
    cases hlaunch : installerLaunch dep hostIp request jobData with
    | none =>
      rw [present_none]
      simp only [hyes, true_implies, reduceCtorEq, false_implies, implies_true, Option.some.injEq,
        forall_eq']
      tauto
    | some text' =>
      rw [present_some]
      simp only [hyes, true_implies, Option.some.injEq, forall_eq', Present, writeInOrder,
        List.not_mem_nil, false_implies, implies_true]
      tauto

theorem present_seedOutcome {value : Json} :
    Present files request.jobId.val (seedOutcome dep hostIp write request value).written ↔
      ∀ jobData, value = .obj jobData → Repeats dep hostIp write files request jobData := by
  cases value with
  | obj jobData =>
    simp only [Json.obj.injEq, forall_eq']
    exact present_seedTexts
  | _ => exact iff_of_true nofun nofun

theorem seedOutcome_nodup {value : Json} :
    ((seedOutcome dep hostIp write request value).written.map Prod.fst).Nodup := by
  cases value with
  | obj jobData => exact written_nodup dep hostIp request jobData write
  | _ => exact List.nodup_nil

end Outcome

section Serve
variable {world : World} {env : Environment} {r : Request} {m : Machine}

theorem serve_phoneHome (hmethod : r.method = .post) (hpath : r.path = Endpoint.phoneHome.path) :
    serve world env r m = ⟨phoneHomeResponse world r (served world env r m.toServer).2,
      m.put (served world env r m.toServer).1, .returned⟩ := by
  rw [serve_endpoint hmethod hpath, post, run_postPhoneHome]

theorem failed_iff {request : PhoneHomeRequest} {code : ℕ}
    (h : phoneHomeRequest world.toSite r.body = some request) :
    400 ∈ statusLines (phoneHomeResponse world r code) ∨
      500 ∈ statusLines (phoneHomeResponse world r code) ↔ code ≠ 200 := by
  rw [phoneHomeResponse, validatedResponse_ok (phoneHomeRequest_eq_some.mp h)]
  split_ifs with hcode
  · exact iff_of_false (by decide) (not_not.mpr hcode)
  · exact iff_of_true (by decide) hcode

theorem trackerContents_setProgress_iff {s : Server} {request : PhoneHomeRequest} :
    trackerContents (s.progress.set (.text request.jobId.val) (phonedHomeEntry request)) =
      trackerContents s.progress ↔ AlreadyRecorded s request :=
  trackerContents_set_iff

end Serve

/-- A phone-home is all or nothing exactly when, from a job file that was read, it goes on to
succeed or to repeat what was there. -/
theorem phone_home_all_or_nothing_iff (world : World) (env : Environment) (r : Request)
    (m : Machine) (hmethod : r.method = .post) (hpath : r.path = Endpoint.phoneHome.path) :
    AllOrNothing world env r m ↔ LosesNothing world env r m.toServer := by
  unfold AllOrNothing
  rw [serve_phoneHome hmethod hpath]
  dsimp only [Machine.put]
  cases hrequest : phoneHomeRequest world.toSite r.body with
  | none =>
    rw [served, servePhoneHome_rejected hrequest]
    refine iff_of_true (fun _ => ⟨rfl, fun _ _ => rfl⟩) ?_
    intro request data hsome
    rw [hrequest] at hsome
    cases hsome
  | some request =>
    cases hfile : loadJob m.files request.jobId.val with
    | none =>
      rw [served, servePhoneHome_unreadable hrequest hfile]
      refine iff_of_true (fun _ => ⟨rfl, fun _ _ => rfl⟩) ?_
      intro request' value hrequest' hvalue
      rw [hrequest, Option.some.injEq] at hrequest'
      subst hrequest'
      rw [hfile] at hvalue
      cases hvalue
    | some value =>
      have hcondition : LosesNothing world env r m.toServer ↔
          ((seedOutcome world.toDeployment r.hostIp env.seedWrite request value).completed &&
            env.chmod) = true ∨
          (AlreadyRecorded m.toServer request ∧ Present m.files request.jobId.val
            (seedOutcome world.toDeployment r.hostIp env.seedWrite request value).written) := by
        rw [Bool.and_eq_true, seedOutcome_completed_iff, present_seedOutcome]
        constructor
        · intro h
          refine (h request value hrequest hfile).imp_left ?_
          rintro ⟨jobData, hobj, hrender, hlaunch, hwrite, hchmod⟩
          exact ⟨⟨jobData, hobj, hrender, hlaunch, hwrite⟩, hchmod⟩
        · intro h request' value' hrequest' hvalue'
          rw [hrequest, Option.some.injEq] at hrequest'
          subst hrequest'
          rw [hfile, Option.some.injEq] at hvalue'
          subst hvalue'
          refine h.imp_left ?_
          rintro ⟨⟨jobData, hobj, hrender, hlaunch, hwrite⟩, hchmod⟩
          exact ⟨jobData, hobj, hrender, hlaunch, hwrite, hchmod⟩
      have hnodup := @seedOutcome_nodup world.toDeployment r.hostIp env.seedWrite request value
      rw [hcondition, failed_iff hrequest, served, servePhoneHome_loaded hrequest hfile]
      generalize seedOutcome world.toDeployment r.hostIp env.seedWrite request value = outcome
        at hnodup ⊢
      dsimp only [Server.setProgress_progress]
      rw [trackerContents_setProgress_iff]
      by_cases hcompleted : (outcome.completed && env.chmod) = true
      · rw [if_pos hcompleted]
        exact iff_of_true (fun h => absurd rfl h) (Or.inl hcompleted)
      · rw [if_neg hcompleted]
        constructor
        · intro h
          obtain ⟨hrecorded, hsame⟩ := h (by decide)
          refine Or.inr ⟨hrecorded, fun seed hseed => ?_⟩
          rw [← hsame request.jobId.val seed.1]
          exact writeSeeds_mem hnodup hseed _
        · rintro (hdone | ⟨hrecorded, hpresent⟩) -
          · exact absurd hdone hcompleted
          · rw [writeSeeds_of_present hpresent]
            exact ⟨hrecorded, fun _ _ => rfl⟩

def phoneRequestA (disks : List Json) : Request :=
  ⟨.post, Endpoint.phoneHome.path, some "10.0.0.1".toList, none, phoneA disks⟩

def savedMachine : Machine := emptyMachine.put savedServer

/-- A node without disks that phones home for the second time. -/
def phonedMachine : Machine :=
  (serve (worldWith fun _ => none) calm (phoneRequestA []) savedMachine).state

theorem phone_home_all_or_nothing_repeated :
    statusLines (serve (worldWith fun _ => none) calm (phoneRequestA []) phonedMachine).output =
      [500] ∧
    AllOrNothing (worldWith fun _ => none) calm (phoneRequestA []) phonedMachine := by
  refine ⟨by decide +kernel, (phone_home_all_or_nothing_iff (worldWith fun _ => none) calm
    (phoneRequestA []) phonedMachine rfl rfl).mpr ?_⟩
  intro request value hrequest hvalue
  have hknown : phoneHomeRequest exampleDeployment.toSite (phoneA []) = some (requestA []) := rfl
  obtain rfl : requestA [] = request := Option.some.inj (hknown.symm.trans hrequest)
  have hload : loadJob phonedMachine.files (requestA []).jobId.val =
      some (.obj (jobFields nodeA)) := rfl
  have hjob : (.obj (jobFields nodeA) : Json) = value := Option.some.inj (hload.symm.trans hvalue)
  have hnot : ¬ CanRender exampleDeployment "10.0.0.1" (requestA []) (jobFields nodeA) :=
    fun h => h.disk rfl
  refine Or.inr ⟨⟨phonedHomeEntry (requestA []), rfl, rfl, rfl⟩, fun jobData hdata => ?_⟩
  obtain rfl : jobFields nodeA = jobData := Json.obj.inj (hjob.trans hdata)
  exact ⟨fun text htext => absurd (userData_isSome_iff.mp (Option.isSome_of_eq_some htext)) hnot,
    fun h => absurd h hnot, fun h => absurd h hnot, fun h => absurd h hnot⟩

/-- The answer is 500, and the job has become `PHONED_HOME`. -/
theorem failed_request_phoned_home :
    statusLines (serve (worldWith fun _ => none) calm (phoneRequestA []) savedMachine).output =
      [500] ∧
    savedMachine.stage? (.text "node-a") = none ∧
    (serve (worldWith fun _ => none) calm (phoneRequestA []) savedMachine).state.stage?
      (.text "node-a") = some .phonedHome :=
  ⟨rfl, rfl, rfl⟩

end Astro.PhoneHomeOutcomes
