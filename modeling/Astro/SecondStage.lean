import Astro.LaunchRuns
import Astro.NodeInventory
import Astro.PhoneHomeOutcomes

/-!
# From the ramdisk to the installer

When networking is up, `init` identifies the machine, phones home with its disks and the
interface that it was booted over, downloads the launch script of its job and runs it.
-/

namespace Astro.SecondStage

open PythonText JsonText JobPaths RequestModels IpxePipeline ServerHandlers CustomIsoHandler
  SeedRendering
  RepositorySite RepositoryTemplates SimultaneousRendering HostNames ShellText KernelCommandLine
    StageNetworks
  InstallerLaunch LaunchRuns NodeInventory PhoneHomeOutcomes

/-- The files with serial numbers, without final line feeds; `none` for one that cannot be read. -/
structure Identity where
  productSerial : Option Str
  boardSerial : Option Str
  machineId : Option Str

/-- A file is read as long as there is no serial number. -/
def orRead (serial : Str) (file : Option Str) : Str := if serial = [] then file.getD [] else serial

def machineSerial (identity : Identity) : Str :=
  orUnknown (orRead (orRead (orRead [] identity.productSerial) identity.boardSerial)
    identity.machineId)

/-- `get_cmdline_var` prints nothing for an argument that is not there. -/
def cmdlineVar (var cmdline : Str) : Str := (getCmdlineVar var cmdline).getD []

def jobId (cmdline : Str) : Str := orUnknown (cmdlineVar "jobid" cmdline)

/-- The body of the request. -/
def phoneHomePayload (node : Node) (identity : Identity) (cmdline : Str) : Option Str :=
  payload node (jobId cmdline) (machineSerial identity) (cmdlineVar "BOOTIF" cmdline)

/-- `[ ! -s /etc/resolv.conf ] && echo "nameserver 8.8.8.8" > /etc/resolv.conf`. -/
def ensureDns (st : State) : State :=
  match st.files "/etc/resolv.conf" with
  | none | some (.text []) =>
    { st with
      files := Function.update st.files "/etc/resolv.conf" (some (.text "nameserver 8.8.8.8\n")) }
  | _ => st

def launcherUrl (cmdline : Str) : Str :=
  ("http://" : Str) ++ cmdlineVar "serverip" cmdline ++ ("/automation/" : Str) ++ jobId cmdline ++
    ("/installer-launch.sh" : Str)

/-- After the request: the script is downloaded and run, or there is a shell. -/
def runLauncher (env : Surroundings) (fetch : Str → Option Str) (cmdline : Str) (st : State) :
    Except Ending State :=
  match fetch (launcherUrl cmdline) with
  | some script => launch env (ensureDns st) script
  | none => .error .shell

theorem request_of_report {site : Site} {node : Node} {job serial bootif : Str}
    {request : PhoneHomeRequest}
    (h : phoneHomeRequest site (some (report node job serial bootif)) = some request) :
    request.jobId.val = job ∧ request.bootif.val = bootif := by
  simp only [phoneHomeRequest, Option.bind_some, PhoneHomeRequest.ofJson, construct, report,
    phoneHomeBody, PhoneHomeRequest.ofFields] at h
  rw [required_of_get? rfl, required_of_get? rfl, required_of_get? rfl, required_of_get? rfl] at h
  by_cases hjob : job = []
  · subst hjob
    cases h
  by_cases hserial : serial = []
  · subst hserial
    rw [isNonempty_str hjob] at h
    cases h
  by_cases hbootif : bootif = []
  · subst hbootif
    rw [isNonempty_str hjob, isNonempty_str hserial] at h
    cases h
  rw [isNonempty_str hjob, isNonempty_str hserial, isNonempty_str hbootif] at h
  cases hdisks : isDiskList site.coercions (.arr ((reported node).map (trueEntry node))) with
  | error e =>
    rw [hdisks] at h
    cases h
  | ok disks =>
    rw [hdisks] at h
    cases h
    exact ⟨rfl, rfl⟩

/-- A phone-home request with the answer 200 has left the launch script of its job. -/
theorem launcher_written {dep : Deployment} {hostIp : Str} {write : SeedFile → SeedWrite}
    {chmod : Bool} {body : Option Json} {s : Server} {request : PhoneHomeRequest} {data : JobData}
    (hrequest : phoneHomeRequest dep.toSite body = some request)
    (hfile : s.files (jobJson request.jobId.val) = some (.jobJson data))
    (hanswer : (servePhoneHome dep hostIp write chmod body s).2 = 200) :
    ∃ script, installerLaunch dep hostIp request (jobFields data) = some script ∧
      (servePhoneHome dep hostIp write chmod body s).1.files
        (jobFile request.jobId.val SeedFile.installerLaunch.name) = some (.text script) := by
  rw [servePhoneHome_rendered hrequest hfile] at hanswer ⊢
  dsimp only at hanswer ⊢
  have hcompleted : (writeInOrder write (seedTexts dep hostIp request (jobFields data))).completed =
      true := by
    by_contra hfailed
    rw [if_neg (by simp [hfailed])] at hanswer
    cases hanswer
  have hmem : (SeedFile.installerLaunch, installerLaunch dep hostIp request (jobFields data)) ∈
      seedTexts dep hostIp request (jobFields data) := List.mem_of_getElem? (i := 3) rfl
  rw [writeInOrder_completed hcompleted] at hmem
  obtain ⟨seed, hseed, heq⟩ := List.mem_map.mp hmem
  obtain ⟨hname, hscript⟩ := Prod.mk.inj heq
  refine ⟨seed.2, hscript.symm, ?_⟩
  rw [← hname]
  exact writeSeeds_mem (written_nodup dep hostIp request (jobFields data) write) hseed s.files

theorem isPlain_bootifMac (mac : Mac) : IsPlain (bootifMac mac) := by
  have hbyte : ∀ b : UInt8, IsPlain (hexByte b) := by
    intro b
    have hdigit : ∀ n < 16, isArgChar (Nat.digitChar n) = true := by decide
    have hb := b.toNat_lt
    unfold hexByte IsPlain
    simp only [List.forall_mem_cons]
    exact ⟨hdigit _ (by omega), hdigit _ (Nat.mod_lt _ (by decide)), List.forall_mem_nil _⟩
  refine IsPlain.append (by decide) fun c hc => ?_
  rcases mem_join hc with hhyphen | ⟨text, htext, hc⟩
  · rw [List.mem_singleton.mp (hhyphen : c ∈ ['-'])]
    rfl
  · obtain ⟨b, -, rfl⟩ := List.mem_map.mp htext
    exact hbyte b c hc

theorem specials_of_plain {text : Str} (h : IsPlain text) : specials text = 0 := by
  have hcontrol : ∀ n < 32, isArgChar (Char.ofNat n) = false := by decide
  rw [specials, List.countP_eq_zero]
  intro c hc hspecial
  simp only [special, Bool.or_eq_true, decide_eq_true_eq] at hspecial
  rcases hspecial with (rfl | rfl) | hlt
  · exact h.not_mem rfl hc
  · exact h.not_mem rfl hc
  · have hchar := hcontrol c.toNat hlt
    rw [Char.ofNat_toNat] at hchar
    exact h.not_mem hchar hc

section Result
variable {site : Site} {opensslPasswd : Str → Option Str} {host : Str} {body : Option Json}
  {data : JobData}

/-- What `init` finds on the command line that the boot script of the job has put together. -/
theorem cmdlineVar_boot (hsite : ServesRepository site host)
    (haccept : accept site host body = .ok data) (hname : IsHostName data.request.hostname.val)
    (hdns : ∀ address ∈ split ',' data.request.dnsServers, IsIpAddress address)
    (hhost : IsHostHeader host) (hoption : isEchoOption host = false) (mac : Mac) (appended : Str) :
    jobId (join " " (bootArguments data mac) ++ ' ' :: appended) = data.request.hostname.val ∧
    cmdlineVar "BOOTIF" (join " " (bootArguments data mac) ++ ' ' :: appended) = bootifMac mac ∧
    cmdlineVar "serverip" (join " " (bootArguments data mac) ++ ' ' :: appended) = host := by
  have hplain := hasPlainContext hsite hhost haccept hname hdns
  obtain ⟨hjob, hserver, hbootif, -⟩ := getCmdlineVar_boot hplain hname mac appended
  rw [rawIp_host hsite haccept hhost, printed_eq_self_iff.mpr hoption] at hserver
  simp only [jobId, cmdlineVar, hjob, hserver, hbootif]
  exact ⟨if_neg data.request.hostname.property, rfl, rfl⟩

/-- A node that was booted by the boot script of a job, phones home to a server that has the
file of the job, is answered with 200 and gets the script that is then on the server's disk: it
starts the installer of the release with the settings of the job, over the interface that it was
booted over and with the seed of the job, or ends in a rescue shell because a download, the
loading of the image or its execution has failed. -/
theorem ramdisk_starts_installer (hsite : ServesRepository site host)
    (haccept : accept site host body = .ok data) (hname : IsHostName data.request.hostname.val)
    (hdns : ∀ address ∈ split ',' data.request.dnsServers, IsIpAddress address)
    (hhost : IsHostHeader host) (hoption : isEchoOption host = false) (mac : Mac) (appended : Str)
    {node : Node} {identity : Identity} (hnode : ReportsPlainly node)
    (hserial : specials (machineSerial identity) = 0) {float : Str → FloatValue}
    {write : SeedFile → SeedWrite} {chmod : Bool} {s s' : Server}
    (hfile : s.files (jobJson data.request.hostname.val) = some (.jobJson data))
    (hphone : servePhoneHome (deployment site opensslPasswd) host write chmod
      ((phoneHomePayload node identity (join " " (bootArguments data mac) ++ ' ' :: appended)).bind
        (loads float)) s =
        (s', 200)) {fetch : Str → Option Str}
    (hfetch : ∀ script, s'.files (jobFile data.request.hostname.val SeedFile.installerLaunch.name) =
      some (.text script) → fetch (("http://" : Str) ++ host ++ ("/automation/" : Str) ++
        data.request.hostname.val ++ ("/installer-launch.sh" : Str)) = some script) :
    ∃ release kernel initrd append,
      (data.request.osVersion, release) ∈ releaseMap (if host ≠ [] then host else site.serverIp) ∧
      release.kernel = some kernel ∧ release.initrd = some initrd ∧
      IsInstaller data host (bootifMac mac) (isoUrl data.request.osVersion release) append ∧
      ∀ env st, runLauncher env fetch (join " " (bootArguments data mac) ++ ' ' :: appended) st =
        .error (launchEnd env kernel initrd append) := by
  obtain ⟨hjob, hbootif, hserver⟩ :=
    cmdlineVar_boot hsite haccept hname hdns hhost hoption mac appended
  rw [phoneHomePayload, hjob, hbootif,
    hnode.decodes (specials_of_plain (isPlain_hostName hname)) hserial
    (specials_of_plain (isPlain_bootifMac mac))] at hphone
  -- the request that the server reads is the report of this node
  obtain ⟨request, hrequest⟩ : ∃ request, phoneHomeRequest (deployment site opensslPasswd).toSite
      (some (report node data.request.hostname.val (machineSerial identity) (bootifMac mac))) =
          some request := by
    cases hrequest : phoneHomeRequest (deployment site opensslPasswd).toSite
        (some (report node data.request.hostname.val (machineSerial identity) (bootifMac mac))) with
    | none =>
      rw [servePhoneHome_rejected hrequest] at hphone
      cases hphone
    | some request => exact ⟨request, rfl⟩
  obtain ⟨hid, hboot⟩ := request_of_report hrequest
  have hanswer : (servePhoneHome (deployment site opensslPasswd) host write chmod
      (some (report node data.request.hostname.val (machineSerial identity) (bootifMac mac))) s).2 =
          200 := by
    rw [hphone]
  rw [← hid] at hfile
  obtain ⟨script, hscript, hwritten⟩ := launcher_written hrequest hfile hanswer
  rw [hphone, hid] at hwritten
  rw [installerLaunch_eq_map] at hscript
  obtain ⟨m, hm, rfl⟩ := Option.map_eq_some_iff.mp hscript
  have hvalues := isPlain_launchMap hsite hhost hname (hdns _ (firstServer_mem data))
    (hboot ▸ isPlain_bootifMac mac) hid hm
  obtain ⟨releases, release, kernel, initrd, append, hreleases, hmem, hkernel, hinitrd,
      happend, hrun⟩ :=
    launch_map hid hm hvalues
  obtain rfl := Option.some.inj (hsite.releases.symm.trans hreleases)
  refine ⟨release, kernel, initrd, append, hmem, hkernel, hinitrd, hboot ▸ happend, ?_⟩
  have hurl : fetch (launcherUrl (join " " (bootArguments data mac) ++ ' ' :: appended)) =
      some (replaceAll m.1 m.2) := by
    change fetch (("http://" : Str) ++ cmdlineVar "serverip" _ ++
      ("/automation/" : Str) ++ jobId _ ++
      ("/installer-launch.sh" : Str)) = _
    rw [hserver, hjob]
    exact hfetch _ hwritten
  intro env st
  rw [runLauncher, hurl]
  exact hrun env (ensureDns st)

end Result

def diskNode : Node where
  devices := [⟨"sda", 976773168, none, "Samsung", "S3Z9"⟩]
  byId := []
  byId_nil _ := rfl

theorem reportsPlainly_diskNode : ReportsPlainly diskNode :=
  ⟨List.cons_ne_nil _ _, by decide, by decide⟩

def diskIdentity : Identity := ⟨none, some [], some "SN-22".toList⟩

def twoServersSaved : Server :=
  Server.started (fun _ => [])
    (Function.update (fun _ => none) (jobJson twoServersJob.request.hostname.val)
    (some (.jobJson twoServersJob)))

/-- The launch script of a job as it is on the server's disk. -/
def launcherOf (s : Server) (job : Str) : Option Str :=
  match s.files (jobFile job SeedFile.installerLaunch.name) with
  | some (.text script) => some script
  | _ => none

theorem launcherOf_eq {s : Server} {job script : Str}
    (h : s.files (jobFile job SeedFile.installerLaunch.name) = some (.text script)) :
    launcherOf s job = some script := by
  rw [launcherOf, h]

/-- The command line that the boot script of the example starts the kernel with. -/
def twoServersCmdline : Str :=
  join " " (bootArguments twoServersJob fun _ => 255) ++ ' ' :: "jobid=other".toList

theorem twoServersSaved_files : twoServersSaved.files (jobJson twoServersJob.request.hostname.val) =
    some (.jobJson twoServersJob) := by
  rw [twoServersSaved, Server.started]
  dsimp only
  rw [Function.update_self]

theorem phoneHome_twoServers : ∃ s', servePhoneHome exampleDep "10.0.0.1" (fun _ => .written) true
    ((phoneHomePayload diskNode diskIdentity twoServersCmdline).bind (loads fun _ => .nan))
      twoServersSaved =
      (s', 200) := by
  obtain ⟨hjob, hbootif, -⟩ :=
    cmdlineVar_boot servesRepository_exampleSite accept_twoServers (by decide) (by decide)
    (by decide) rfl (fun _ => 255) "jobid=other"
  have hbody : (phoneHomePayload diskNode diskIdentity twoServersCmdline).bind
    (loads fun _ => .nan) =
      some (report diskNode twoServersJob.request.hostname.val (machineSerial diskIdentity)
        (bootifMac fun _ => 255)) := by
    rw [phoneHomePayload, twoServersCmdline, hjob, hbootif]
    exact reportsPlainly_diskNode.decodes (by decide) (by decide) (by decide) _
  have hrequest : ∃ request, phoneHomeRequest exampleDep.toSite (some (report diskNode
      twoServersJob.request.hostname.val (machineSerial diskIdentity) (bootifMac fun _ => 255))) =
        some request ∧
      (userDataMap exampleDep "10.0.0.1" request (jobFields twoServersJob)).isSome = true ∧
      (launchMap exampleDep "10.0.0.1" request (jobFields twoServersJob)).isSome = true :=
    ⟨_, rfl, rfl, rfl⟩
  obtain ⟨request, hrequest, huserData, hlaunch⟩ := hrequest
  have hfile : twoServersSaved.files (jobJson request.jobId.val) =
      some (.jobJson twoServersJob) := by
    rw [(request_of_report hrequest).1]
    exact twoServersSaved_files
  have hcompleted : (writeInOrder (fun _ => .written)
      (seedTexts exampleDep "10.0.0.1" request (jobFields twoServersJob))).completed = true := by
    rw [writeInOrder_completed_iff, seedTexts, userData_eq_map, installerLaunch_eq_map]
    simp only [List.forall_mem_cons, Option.isSome_map]
    exact ⟨⟨huserData, trivial⟩, ⟨rfl, trivial⟩, ⟨rfl, trivial⟩, ⟨hlaunch, trivial⟩,
      List.forall_mem_nil _⟩
  rw [hbody, servePhoneHome_rendered hrequest hfile]
  dsimp only
  rw [hcompleted]
  exact ⟨_, rfl⟩

/-- A node without a product serial number and with one disk; an argument that the boot loader
appends does not change the job. -/
theorem ramdisk_starts_installer_twoServers :
    ∃ s', servePhoneHome exampleDep "10.0.0.1" (fun _ => .written) true
        ((phoneHomePayload diskNode diskIdentity twoServersCmdline).bind (loads fun _ => .nan))
          twoServersSaved =
          (s', 200) ∧
      ∃ release kernel initrd append,
        (twoServersJob.request.osVersion, release) ∈ releaseMap "10.0.0.1" ∧
        release.kernel = some kernel ∧ release.initrd = some initrd ∧
        IsInstaller twoServersJob "10.0.0.1" (bootifMac fun _ => 255)
          (isoUrl twoServersJob.request.osVersion release) append ∧
        ∀ env st, runLauncher env (fun _ => launcherOf s' twoServersJob.request.hostname.val)
          twoServersCmdline st =
          .error (launchEnd env kernel initrd append) := by
  obtain ⟨s', hphone⟩ := phoneHome_twoServers
  refine ⟨s', hphone, ?_⟩
  exact ramdisk_starts_installer servesRepository_exampleSite accept_twoServers (by decide)
    (by decide) (by decide)
    rfl (fun _ => 255) "jobid=other" reportsPlainly_diskNode (by decide)
    twoServersSaved_files hphone fun script h => launcherOf_eq h

end Astro.SecondStage
