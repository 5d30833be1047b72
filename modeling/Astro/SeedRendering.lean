import Astro.ServerHandlers
import Astro.TextSubstitution
import Mathlib.Algebra.Group.Nat.Defs
import Mathlib.Data.List.Sort

/-!
# The seed files of a phone-home

What the phone-home handler does once it has read `job.json`: it picks the disks, fills in
`user-data` and `installer-launch.sh` from their templates and writes the four seed files
one after the other. Every lookup in the job file has the default that the handler gives
it; a missing key, a value of the wrong type or an unknown release raises.
-/

namespace Astro.SeedRendering

open PythonText JobPaths RequestModels IpxePipeline ServerHandlers

/-- A `user-data` template, as the texts around the two lines that assign the IPv6
settings. -/
structure UserDataTemplate where
  front : Str
  middle : Str
  back : Str

def UserDataTemplate.text (t : UserDataTemplate) : Str :=
  t.front ++ ("V6=\"\x7b\x7bIPV6_FULL\x7d\x7d\"" : Str) ++ t.middle ++
    ("GW6=\"\x7b\x7bIPV6_GATEWAY\x7d\x7d\"" : Str) ++ t.back

/-- The site with the template files, each of which can be missing, and the password hash. -/
structure Deployment extends Site where
  userDataTemplate : Option UserDataTemplate
  userDataRaidTemplate : Option UserDataTemplate
  installerLaunchTemplate : Option Str
  opensslPasswd : Str → Option Str

/-- A reported disk; blanks have been removed from its id. -/
structure Disk where
  dev : Str
  id : Str
  sizeMb : ℤ
  deriving DecidableEq

def Disk.ofInfo (d : DiskInfo) : Disk := ⟨d.dev.val, replace " " [] d.id.val, d.sizeMb.val⟩

/-- No CD drive, RAID array, mapped volume or NVMe controller, and larger than one GB. -/
def Disk.isValid (d : Disk) : Bool :=
  !(("sr" : Str) <:+: d.dev) && !(("md" : Str) <:+: d.dev) && !(("dm" : Str) <:+: d.dev) &&
    !(("c" : Str) <:+: d.dev) && 1024 < d.sizeMb

inductive TemplateName where
  | userData
  | userDataRaid
  deriving DecidableEq

structure DiskChoice where
  templateName : TemplateName
  serial₀ : Str
  dev₀ : Str
  serial₁ : Str
  dev₁ : Str
  deriving DecidableEq

/-- The smallest disks that are valid, in the order of the report among equals. -/
def sortedDisks (disks : List DiskInfo) : List Disk :=
  ((disks.map Disk.ofInfo).filter Disk.isValid).insertionSort (fun d d' => d.sizeMb ≤ d'.sizeMb)

/-- Without a valid disk the two device names are never assigned, and their use raises. -/
def chooseDisks (isRaid : Bool) (disks : List DiskInfo) : Option DiskChoice :=
  match sortedDisks disks with
  | [] => none
  | [d] => some ⟨.userData, d.id, d.dev, d.id, d.dev⟩
  | d :: d' :: _ =>
    if isRaid then some ⟨.userDataRaid, d.id, d.dev, d'.id, d'.dev⟩
    else some ⟨.userData, d.id, d.dev, d.id, d.dev⟩

def text? : Json → Option Str
  | .str s => some s
  | _ => none

def number (digits : Str) : ℕ := Nat.ofDigitChars 10 digits 0

/-- The prefix length of a mask of leading ones. -/
def maskLength (mask : ℕ) : Option ℕ :=
  (List.range 33).find? (fun p => mask = 2 ^ 32 - 2 ^ (32 - p))

/-- `ipaddress.IPv4Network("0.0.0.0/" + netmask).prefixlen`: a number, a mask or an inverted
mask. -/
def prefixLength (netmask : Str) : Option ℕ :=
  if netmask ≠ [] ∧ netmask.all Char.isDigit ∧ number netmask ≤ 32 then some (number netmask)
  else if isIpv4Address netmask then
    let mask := (split '.' netmask).foldl (fun n piece => 256 * n + number piece) 0
    (maskLength mask).orElse fun _ => maskLength (2 ^ 32 - 1 - mask)
  else none

/-- `V6` and `GW6` before the template is filled in. Without an address both are empty; a
`null` in the job file is not replaced by the default. -/
def ipv6Settings (py : PythonStr) (jobData : Fields) : Str × Str :=
  let address := jobData.getD "ipv6_address" (.str [])
  if address.truthy then
    let cidr := jobData.getD "ipv6_cidr" (.str "64".toList)
    let gateway := jobData.getD "ipv6_gateway" (.str [])
    (if cidr.truthy then py.str address ++ ("/" : Str) ++ py.str cidr else [], py.str gateway)
  else ([], [])

def substitutions (py : PythonStr) (hostIp jobId hashedPw : Str) (disks : DiskChoice)
    (jobData : Fields) : List (Str × Str) :=
  let get (name : Str) (default : Json) : Str := py.str (jobData.getD name default)
  let ipv4 := jobData.getD "ipv4_address" (.str [])
  let ipv4Cidr : Str := if ipv4.truthy then
    ((prefixLength (get "ipv4_netmask" (.str "255.255.255.0".toList))).map decimal).getD
      "24" else []
  [("\x7b\x7bJOB_ID\x7d\x7d".toList, jobId),
    ("\x7b\x7bAPI_HOST\x7d\x7d".toList, hostIp),
    ("\x7b\x7bHOSTNAME\x7d\x7d".toList, get "hostname" (.str jobId)),
    ("\x7b\x7bUSERNAME\x7d\x7d".toList, get "username" (.str "ubuntu".toList)),
    ("\x7b\x7bUSER_PASSWORD\x7d\x7d".toList, hashedPw),
    ("\x7b\x7bIPV4_ADDRESS\x7d\x7d".toList, py.str ipv4),
    ("\x7b\x7bIPV4_CIDR\x7d\x7d".toList, ipv4Cidr),
    ("\x7b\x7bIPV4_GATEWAY\x7d\x7d".toList, get "ipv4_gateway" .null),
    ("\x7b\x7bIPV6_FULL\x7d\x7d".toList, (ipv6Settings py jobData).1),
    ("\x7b\x7bIPV6_GATEWAY\x7d\x7d".toList, (ipv6Settings py jobData).2),
    ("\x7b\x7bNAME_SERVERS\x7d\x7d".toList, get "dns_servers" (.str "8.8.8.8".toList)),
    ("\x7b\x7bINTERFACE\x7d\x7d".toList, py.str ((jobData.getD "ifn" .null).orElse (.str []))),
    ("\x7b\x7bDISK_SERIAL_0\x7d\x7d".toList, disks.serial₀),
    ("\x7b\x7bDISK_DEV_0\x7d\x7d".toList, disks.dev₀),
    ("\x7b\x7bDISK_SERIAL_1\x7d\x7d".toList, disks.serial₁),
    ("\x7b\x7bDISK_DEV_1\x7d\x7d".toList, disks.dev₁),
    ("\x7b\x7bADD_USERS\x7d\x7d".toList, get "add_users" (.str [])),
    ("\x7b\x7bRM_USER\x7d\x7d".toList, get "rm_user" (.str [])),
    ("\x7b\x7bSSH_USER_LINE\x7d\x7d".toList, get "ssh_user_line" (.str [])),
    ("\x7b\x7bAPT_DISABLE_SUITES\x7d\x7d".toList,
      if (jobData.getD "disable_updates" (.bool true)).truthy then "[security]" else "[]")]

/-- The release of the job file, with its version. -/
def release? (site : Site) (hostIp : Str) (jobData : Fields) : Option (Str × Release) := do
  let osVer ← text? (jobData.getD "os_version" (.str "24.04.4".toList))
  let releaseMap ← site.loadReleaseMap hostIp
  let release ← (releaseMap.find? (fun r => r.1 = osVer)).map Prod.snd
  return (osVer, release)

def dnsFirst (jobData : Fields) : Option Str :=
  (text? (jobData.getD "dns_servers" (.str "8.8.8.8".toList))).map fun servers =>
    (split ',' servers).headD []

def isoUrl (osVer : Str) (release : Release) : Str :=
  release.iso.getD (("http://releases.ubuntu.com/" : Str) ++ join "." ((split '.' osVer).take 2) ++
    ("/ubuntu-" : Str) ++ osVer ++ ("-live-server-amd64.iso" : Str))

def launchSubstitutions (py : PythonStr) (hostIp : Str) (request : PhoneHomeRequest) (osVer : Str)
    (release : Release) (dns : Str) (jobData : Fields) : Option (List (Str × Str)) := do
  let kernel ← release.kernel
  let initrd ← release.initrd
  let address ← jobData.get? "ipv4_address"
  let gateway ← jobData.get? "ipv4_gateway"
  let netmask ← jobData.get? "ipv4_netmask"
  return [("__DNS_PRIMARY__".toList, dns),
    ("__KERNEL_URL__".toList, kernel),
    ("__INITRD_URL__".toList, initrd),
    ("__ISO_URL__".toList, isoUrl osVer release),
    ("__SEED_URL__".toList,
      ("http://" : Str) ++ hostIp ++ ("/automation/" : Str) ++ request.jobId.val),
    ("__IPV4_ADDRESS__".toList, py.str address),
    ("__IPV4_GATEWAY__".toList, py.str gateway),
    ("__IPV4_NETMASK__".toList, py.str netmask),
    ("__HOSTNAME__".toList, py.str (jobData.getD "hostname" (.str "ubuntu-installer".toList))),
    ("__INTERFACE__".toList, py.str ((jobData.getD "ifn" .null).orElse (.str []))),
    ("__BOOTIF_RAW__".toList, request.bootif.val)]

section Seeds
variable (dep : Deployment) (hostIp : Str) (request : PhoneHomeRequest) (jobData : Fields)

def template : TemplateName → Option UserDataTemplate
  | .userData => dep.userDataTemplate
  | .userDataRaid => dep.userDataRaidTemplate

def hashedPassword : Option Str :=
  ((text? (jobData.getD "password" (.str "ubuntu".toList))).bind dep.opensslPasswd).map stripBlanks

def chosenDisks : Option DiskChoice :=
  chooseDisks (jobData.getD "raid" (.bool false)).truthy request.uuids

/-- Everything that is computed before a file is opened. -/
def userData : Option Str := do
  let disks ← chosenDisks request jobData
  let hashedPw ← hashedPassword dep jobData
  let _ ← release? dep.toSite hostIp jobData
  let _ ← dnsFirst jobData
  let template ← template dep disks.templateName
  return replaceAll (substitutions dep.py hostIp request.jobId.val hashedPw disks jobData)
    template.text

def metaData : Str :=
  ("instance-id: " : Str) ++ request.jobId.val ++ ("\nlocal-hostname: " : Str) ++
    dep.py.str (jobData.getD "hostname" (.str request.jobId.val)) ++ ("\n" : Str)

def installerLaunch : Option Str := do
  let (osVer, release) ← release? dep.toSite hostIp jobData
  let dns ← dnsFirst jobData
  let pairs ← launchSubstitutions dep.py hostIp request osVer release dns jobData
  let template ← dep.installerLaunchTemplate
  return replaceAll pairs template

/-- The texts in the order in which they are written; `none` raises instead. -/
def seedTexts : List (SeedFile × Option Str) :=
  [(.userData, userData dep hostIp request jobData),
    (.metaData, some (metaData dep request jobData)),
    (.vendorData, some "#cloud-config\n".toList),
    (.installerLaunch, installerLaunch dep hostIp request jobData)]

end Seeds

/-- How a file is written. -/
inductive SeedWrite where
  | written
  | notOpened
  | interrupted (length : ℕ)

/-- The texts up to the first exception. -/
def writeInOrder (write : SeedFile → SeedWrite) : List (SeedFile × Option Str) → SeedOutcome
  | [] => ⟨[], true⟩
  | (_, none) :: _ => ⟨[], false⟩
  | (file, some text) :: rest => match write file with
    | .written =>
      let outcome := writeInOrder write rest
      ⟨(file, text) :: outcome.written, outcome.completed⟩
    | .notOpened => ⟨[], false⟩
    | .interrupted length => ⟨[(file, text.take length)], false⟩

/-- What the handler writes for a job file that `json.load` has returned; only a dictionary
can be asked for its keys. -/
def seedOutcome (dep : Deployment) (hostIp : Str) (write : SeedFile → SeedWrite)
    (request : PhoneHomeRequest) : Json → SeedOutcome
  | .obj jobData => writeInOrder write (seedTexts dep hostIp request jobData)
  | _ => ⟨[], false⟩

/-- The outcome of the rendering for the job file on the disk; `chmod` can still fail after
everything is written. -/
def phoneHomeSeeds (dep : Deployment) (hostIp : Str) (write : SeedFile → SeedWrite) (chmod : Bool)
    (body : Option Json) (s : Server) : SeedOutcome :=
  match phoneHomeRequest dep.toSite body with
  | none => ⟨[], false⟩
  | some request => match loadJob s.files request.jobId.val with
    | some value =>
      let outcome := seedOutcome dep hostIp write request value
      ⟨outcome.written, outcome.completed && chmod⟩
    | none => ⟨[], false⟩

/-- `POST /api/v1/servers/phone-home` with its rendering. -/
def servePhoneHome (dep : Deployment) (hostIp : Str) (write : SeedFile → SeedWrite) (chmod : Bool)
    (body : Option Json) (s : Server) : Server × ℕ :=
  phoneHome dep.toSite body (phoneHomeSeeds dep hostIp write chmod body s) s

theorem seedFile_name_plain (file : SeedFile) :
    '/' ∉ file.name ∧ file.name ≠ [] ∧ file.name ≠ "." ∧ file.name ≠ ".." := by
  cases file <;> decide

theorem seedPath_getLast (job : Str) (file : SeedFile) :
    (jobFile job file.name).getLast? = some file.name :=
  jobFile_getLast job (seedFile_name_plain file).1 (seedFile_name_plain file).2

theorem seedPath_injective {job : Str} {file file' : SeedFile}
    (h : jobFile job file.name = jobFile job file'.name) : file = file' := by
  have hname := congrArg List.getLast? h
  rw [seedPath_getLast, seedPath_getLast, Option.some.injEq] at hname
  cases file <;> cases file' <;> first | rfl | exact absurd hname (by decide)

theorem writeSeeds_of_ne (job : Str) {path : Path} (written : List (SeedFile × Str)) (files : Files)
    (h : ∀ seed ∈ written, path ≠ jobFile job seed.1.name) :
    writeSeeds job written files path = files path := by
  induction written generalizing files with
  | nil => rfl
  | cons seed written ih =>
    have htail := ih (Function.update files (jobFile job seed.1.name) (some (.text seed.2)))
      fun seed hseed => h seed (List.mem_cons_of_mem _ hseed)
    exact htail.trans (Function.update_of_ne (h seed List.mem_cons_self) _ _)

/-- A file that is written once has the text that was written. -/
theorem writeSeeds_head {job : Str} {file : SeedFile} {text : Str} {written : List (SeedFile × Str)}
    {files : Files} (h : ∀ seed ∈ written, seed.1 ≠ file) :
    writeSeeds job ((file, text) :: written) files (jobFile job file.name) = some (.text text) := by
  have hne : ∀ seed ∈ written, jobFile job file.name ≠ jobFile job seed.1.name :=
    fun seed hseed hpath => h seed hseed (seedPath_injective hpath).symm
  have htail := writeSeeds_of_ne job written
    (Function.update files (jobFile job file.name) (some (.text text))) hne
  exact htail.trans (Function.update_self ..)

theorem writeInOrder_completed {write : SeedFile → SeedWrite} {texts : List (SeedFile × Option Str)}
    (h : (writeInOrder write texts).completed = true) :
    texts = (writeInOrder write texts).written.map fun seed => (seed.1, some seed.2) := by
  induction texts with
  | nil => rfl
  | cons entry texts ih =>
    obtain ⟨file, text⟩ := entry
    cases text with
    | none => cases h
    | some text =>
      unfold writeInOrder at h ⊢
      cases hwrite : write file with
      | written =>
        rw [hwrite] at h
        exact congrArg (List.cons (file, some text)) (ih h)
      | notOpened =>
        rw [hwrite] at h
        cases h
      | interrupted length =>
        rw [hwrite] at h
        cases h

section Serve
variable {dep : Deployment} {hostIp : Str} {write : SeedFile → SeedWrite} {chmod : Bool}
  {body : Option Json} {s : Server} {request : PhoneHomeRequest} {data : JobData}

theorem servePhoneHome_rejected (hrequest : phoneHomeRequest dep.toSite body = none) :
    servePhoneHome dep hostIp write chmod body s = (s, 400) := by
  rw [servePhoneHome, phoneHome, hrequest]

theorem servePhoneHome_unreadable (hrequest : phoneHomeRequest dep.toSite body = some request)
    (hfile : loadJob s.files request.jobId.val = none) :
    servePhoneHome dep hostIp write chmod body s = (s, 500) := by
  have hwrite : phoneHomeWrite dep.toSite body s = none := by
    rw [phoneHomeWrite, hrequest, Option.bind_some, hfile]
    rfl
  rw [servePhoneHome, phoneHome, hrequest, hwrite]

theorem servePhoneHome_loaded (hrequest : phoneHomeRequest dep.toSite body = some request)
    {value : Json} (hfile : loadJob s.files request.jobId.val = some value) :
    servePhoneHome dep hostIp write chmod body s =
      let outcome := seedOutcome dep hostIp write request value
      ({ s.setProgress (.text request.jobId.val) (phonedHomeEntry request) with
          files := writeSeeds request.jobId.val outcome.written s.files },
        if outcome.completed && chmod then 200 else 500) := by
  have hwrite : phoneHomeWrite dep.toSite body s =
      some (.text request.jobId.val, phonedHomeEntry request) := by
    rw [phoneHomeWrite, hrequest, Option.bind_some, hfile]
    rfl
  have hseeds : phoneHomeSeeds dep hostIp write chmod body s =
      ⟨(seedOutcome dep hostIp write request value).written,
        (seedOutcome dep hostIp write request value).completed && chmod⟩ := by
    rw [phoneHomeSeeds, hrequest]
    dsimp only
    rw [hfile]
  rw [servePhoneHome, hseeds, phoneHome, hrequest, hwrite]

/-- From a job file that custom-iso has saved. -/
theorem servePhoneHome_rendered (hrequest : phoneHomeRequest dep.toSite body = some request)
    (hfile : s.files (jobJson request.jobId.val) = some (.jobJson data)) :
    servePhoneHome dep hostIp write chmod body s =
      let outcome := writeInOrder write (seedTexts dep hostIp request (jobFields data))
      ({ s.setProgress (.text request.jobId.val) (phonedHomeEntry request) with
          files := writeSeeds request.jobId.val outcome.written s.files },
        if outcome.completed && chmod then 200 else 500) :=
  servePhoneHome_loaded hrequest (loadJob_saved hfile)

/-- A phone-home that is answered with 200 was accepted, found a job file with a dictionary
and wrote `user-data`. -/
theorem servePhoneHome_eq_200 (h : (servePhoneHome dep hostIp write chmod body s).2 = 200) :
    ∃ request jobData text, phoneHomeRequest dep.toSite body = some request ∧
      loadJob s.files request.jobId.val = some (.obj jobData) ∧
      userData dep hostIp request jobData = some text ∧
      (servePhoneHome dep hostIp write chmod body s).1.files
        (jobFile request.jobId.val SeedFile.userData.name) = some (.text text) := by
  cases hrequest : phoneHomeRequest dep.toSite body with
  | none =>
    rw [servePhoneHome_rejected hrequest] at h
    cases h
  | some request =>
    cases hfile : loadJob s.files request.jobId.val with
    | none =>
      rw [servePhoneHome_unreadable hrequest hfile] at h
      cases h
    | some value =>
      rw [servePhoneHome_loaded hrequest hfile] at h ⊢
      dsimp only at h ⊢
      have hcompleted : (seedOutcome dep hostIp write request value).completed = true := by
        by_contra hne
        rw [Bool.not_eq_true] at hne
        rw [hne] at h
        cases h
      cases value with
      | obj jobData =>
        have htexts := writeInOrder_completed hcompleted
        change ∃ request' jobData' text, _ ∧ _ ∧ _ ∧
          writeSeeds request.jobId.val (writeInOrder write
            (seedTexts dep hostIp request jobData)).written s.files _ = _
        generalize (writeInOrder write (seedTexts dep hostIp request jobData)).written =
          written at htexts ⊢
        cases written with
        | nil => cases htexts
        | cons seed rest =>
          obtain ⟨file, text⟩ := seed
          rw [List.map_cons, seedTexts, List.cons.injEq, Prod.mk.injEq] at htexts
          obtain ⟨⟨rfl, htext⟩, hrest⟩ := htexts
          refine ⟨request, jobData, text, rfl, hfile, htext, writeSeeds_head ?_⟩
          intro other hother
          have hfiles := congrArg (List.map Prod.fst) hrest
          rw [List.map_map] at hfiles
          have hmem : other.1 ∈ rest.map (Prod.fst ∘ fun seed : SeedFile × Str =>
              (seed.1, some seed.2)) :=
            List.mem_map_of_mem hother
          rw [← hfiles] at hmem
          intro hsame
          rw [hsame] at hmem
          change SeedFile.userData ∈ [SeedFile.metaData, .vendorData, .installerLaunch] at hmem
          exact absurd hmem (by decide)
      | _ => cases hcompleted

end Serve

/-- The lines of `user-data.template` that assign the network settings. -/
def networkTemplate : UserDataTemplate where
  front :=
    ("      V4=\"\x7b\x7bIPV4_ADDRESS\x7d\x7d/\x7b\x7bIPV4_CIDR\x7d\x7d\"\n" : Str) ++
      ("      GW4=\"\x7b\x7bIPV4_GATEWAY\x7d\x7d\"\n      " : Str)
  middle := "\n      "
  back := "\n      NSRV=\"\x7b\x7bNAME_SERVERS\x7d\x7d\"\n"

/-- The site of the repository with that part of the templates, and a hash that marks the
password. -/
def exampleDeployment : Deployment where
  toSite := { CustomIsoHandler.exampleSite with
    py := { repr := fun _ => "None", upper := List.map Char.toUpper } }
  userDataTemplate := some networkTemplate
  userDataRaidTemplate := some networkTemplate
  installerLaunchTemplate := some "wget -O /linux \"__KERNEL_URL__\"\n".toList
  opensslPasswd password := some (("$6$" : Str) ++ password)

end Astro.SeedRendering
