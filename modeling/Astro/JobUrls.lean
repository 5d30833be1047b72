import Astro.HostNames
import Astro.HttpMethods
import Astro.SimultaneousRendering
import Mathlib.Data.List.TakeWhile

/-!
# The URLs of a job

The file URLs of a custom-iso response and the seed URL of the launch script are built from
the host and the job id. Their paths are taken apart by `do_GET` and `do_HEAD`, by the launcher
test and by the status query. For a job id that is a host name they all come back to the job.
-/

namespace Astro.JobUrls

open PythonText TemplateChunks JobPaths RequestModels IpxePipeline CustomIsoHandler ServerHandlers
  SeedRendering RepositoryTemplates SimultaneousRendering FileServing HttpMethods HostNames
  MethodBodies Statement

/-- A text without the characters that end the authority of a URL. -/
def IsAuthority (host : Str) : Prop := ∀ c ∈ host, c ≠ '/' ∧ c ≠ '?' ∧ c ≠ '#'

/-- The path of an `http` URL, from the end of the authority to the query or the fragment. -/
def urlPath (url : Str) : Str :=
  ((url.drop ("http://" : Str).length).dropWhile fun c => c ≠ '/' && c ≠ '?' && c ≠ '#').takeWhile
    fun c => c ≠ '?' && c ≠ '#'

/-- `/automation/job/name`. -/
def automationPath (job name : Str) : Str :=
  '/' :: ("automation".toList ++ '/' :: (job ++ '/' :: name))

/-- `JOBS_DIR/job/name`. -/
def location (job name : Str) : Str := jobsDir ++ '/' :: job ++ '/' :: name

/-- For a path, both methods look at one place of the disk only. -/
structure Reads (path filename place : Str) : Prop where
  get : ∀ (disk : Storage) (env : Environment) (r : Request) (m : Machine), r.path = path →
    (doGet disk env r).run m = match disk place with
      | some object => ((attempt (sendFile env.readLimit r.range filename object)).run
          (afterGet path m)).andThen fun _ => notFound
      | none => ⟨[.status 404, .endHeaders], afterGet path m, .value ()⟩
  head : ∀ (disk : Storage) (now : Str) (m : Machine),
    (doHead disk now path).run m = match disk place with
      | some object => ⟨[.status 200, .header "Server" "Python/3.x ThreadedHTTPServer",
          .header "Date" now, .header "Content-Type" (contentType filename),
          .header "Content-Length" (decimal object.size), .header "Accept-Ranges" "bytes",
          .header "Connection" "keep-alive", .endHeaders], m, .returned⟩
      | none => ⟨[.status 404, .endHeaders], m, .value ()⟩

/-- A URL with the given host leads to a file of the job. -/
structure LeadsTo (host url job name : Str) (file : Path) : Prop where
  url_eq : url = ("http://" : Str) ++ host ++ automationPath job name
  path_eq : IsAuthority host → urlPath url = automationPath job name
  reads : Reads (automationPath job name) name (location job name)
  resolves : resolve (location job name) = file

theorem automation_eq : ("/automation/" : Str) = '/' :: ("automation".toList ++ ['/']) := by decide

theorem automationPath_eq (job name : Str) :
    automationPath job name = ("/automation/" : Str) ++ (job ++ '/' :: name) := by
  rw [automation_eq, automationPath, List.cons_append, List.append_assoc, List.singleton_append]

theorem prefix_automationPath (job name : Str) : ("/automation/" : Str) <+:
    automationPath job name := by
  rw [automationPath_eq]
  exact List.prefix_append _ _

section File
variable {job name : Str} (hjob : IsHostName job) (hname : '/' ∉ name)
include hjob

theorem isComponent : IsComponent job := ⟨hjob.ne.1, hjob.not_mem rfl⟩

include hname

theorem split_automationPath :
    split '/' (automationPath job name) = [[], "automation".toList, job, name] := by
  have hword : '/' ∉ "automation".toList := by decide
  rw [automationPath, ← List.nil_append ('/' :: _), split, List.splitOn_append_cons_self,
    List.splitOn_append_cons_self, List.splitOn_append_cons_self, List.splitOn_eq_singleton hname,
    List.splitOn_eq_singleton (hjob.not_mem rfl), List.splitOn_eq_singleton hword,
    List.splitOn_eq_singleton List.not_mem_nil]
  rfl

theorem automationParts_automationPath : automationParts (automationPath job name) =
    some (job, name) := by
  rw [automationParts, split_automationPath hjob hname]

theorem automationFile_eq : automationFile job name = location job name :=
  osPathJoin_jobDir (isComponent hjob) hname

theorem resolve_location : resolve (location job name) = jobFile job name := by
  rw [jobFile, osPathJoin_jobDir (isComponent hjob) hname, location]

/-- The path has fewer slashes than the status endpoint. -/
theorem not_isStatusPath : ¬ IsStatusPath (automationPath job name) := by
  have hslashes : (automationPath job name).count '/' = 3 := by
    have hnone : job.count '/' = 0 := List.count_eq_zero.mpr (hjob.not_mem rfl)
    have hword : ("/automation/" : Str).count '/' = 2 := by decide
    rw [automationPath_eq, List.count_append, List.count_append, List.count_cons_self, hnone, hword,
      List.count_eq_zero.mpr hname]
  rintro (hpart | hstart)
  · have hle := hpart.sublist.count_le '/'
    have hfour : ("/api/v1/jobs/status" : Str).count '/' = 4 := by decide
    omega
  · exact not_prefix_of_prefix (prefix_automationPath job name) (by decide) (by decide) hstart

theorem reads_automationPath : Reads (automationPath job name) name (location job name) := by
  have hfront := prefix_automationPath job name
  have hparts := automationParts_automationPath hjob hname
  have hfile := automationFile_eq hjob hname
  have hmissing : ∀ {disk : Storage}, disk (location job name) = none →
      ¬ ∃ filename object, Finds disk (automationPath job name) filename object := by
    rintro disk hdisk ⟨filename, object, job', hparts', hobject⟩
    rw [hparts] at hparts'
    cases hparts'
    rw [hfile, hdisk] at hobject
    cases hobject
  constructor
  · intro disk env r m hpath
    rw [run_doGet_other (hpath ▸ not_isStatusPath hjob hname), hpath]
    cases hdisk : disk (location job name) with
    | none => exact automation_missing hfront (hmissing hdisk)
    | some object => exact automation_found hfront ⟨job, hparts, hfile ▸ hdisk⟩
  · intro disk now m
    have hshort : ("/automation" : Str) <+: automationPath job name :=
      List.IsPrefix.trans (by decide) hfront
    cases hdisk : disk (location job name) with
    | none => exact doHead_missing hshort (hmissing hdisk)
    | some object => exact doHead_found hshort ⟨job, hparts, hfile ▸ hdisk⟩

omit hname in
/-- The host ends where the path starts. -/
theorem urlPath_eq {host : Str} (hhost : IsAuthority host) (hquery : '?' ∉ name)
    (hfragment : '#' ∉ name) :
    urlPath (("http://" : Str) ++ host ++ automationPath job name) = automationPath job name := by
  have hhost' : ∀ c ∈ host, (c ≠ '/' && c ≠ '?' && c ≠ '#') = true := by
    intro c hc
    obtain ⟨h1, h2, h3⟩ := hhost c hc
    simp [h1, h2, h3]
  have hpath : ∀ c ∈ automationPath job name, (c ≠ '?' && c ≠ '#') = true := by
    intro c hc
    have hne : c ≠ '?' ∧ c ≠ '#' := by
      rw [automationPath_eq, List.mem_append, List.mem_append, List.mem_cons] at hc
      rcases hc with hc | hc | rfl | hc
      · exact ⟨ne_of_mem_of_not_mem hc (by decide), ne_of_mem_of_not_mem hc (by decide)⟩
      · exact ⟨ne_of_mem_of_not_mem hc (hjob.not_mem rfl),
          ne_of_mem_of_not_mem hc (hjob.not_mem rfl)⟩
      · decide
      · exact ⟨ne_of_mem_of_not_mem hc hquery, ne_of_mem_of_not_mem hc hfragment⟩
    simp [hne.1, hne.2]
  rw [urlPath, List.append_assoc, List.drop_left, List.dropWhile_append_of_pos hhost',
    automationPath, List.dropWhile_cons_of_neg (by decide), ← automationPath]
  exact List.takeWhile_eq_self_iff.mpr hpath

theorem leadsTo (host : Str) (hquery : '?' ∉ name) (hfragment : '#' ∉ name) :
    LeadsTo host (("http://" : Str) ++ host ++ automationPath job name) job name
      (jobFile job name) where
  url_eq := rfl
  path_eq hhost := urlPath_eq hjob hhost hquery hfragment
  reads := reads_automationPath hjob hname
  resolves := resolve_location hjob hname

end File

example : urlPath "http://10.0.0.1:80/automation/n/user-data?x" =
    "/automation/n/user-data".toList := by
  decide

def bodyField (response : Json) (name : Str) : Option Json :=
  match response with
  | .obj fields => match Fields.get? fields "body" with
    | some (.obj body) => Fields.get? body name
    | _ => none
  | _ => none

def isoName (job : Str) : Str := ("custom-" : Str) ++ job ++ (".iso" : Str)

theorem isoPath_eq {job : Str} : isoPath job = resolve (location job (isoName job)) := by
  have hword : ("/custom-" : Str) = '/' :: ("custom-" : Str) := rfl
  have hslash : ("/" : Str) = ['/'] := rfl
  unfold isoPath location isoName
  rw [hword, hslash]
  simp only [List.append_assoc, List.cons_append, List.nil_append]

theorem isoName_plain {job : Str} (hjob : IsHostName job) {c : Char} (hc : isHostChar c = false) :
    c ∉ isoName job := by
  have hwords : ∀ d ∈ ("custom-" : Str) ++ (".iso" : Str), isHostChar d = true :=
    List.all_eq_true.mp rfl
  have hword : ∀ d ∈ ("custom-" : Str) ++ (".iso" : Str), d ≠ c := by
    rintro d hd rfl
    rw [hwords d hd] at hc
    cases hc
  intro hmem
  unfold isoName at hmem
  rw [List.mem_append, List.mem_append] at hmem
  rcases hmem with (hmem | hmem) | hmem
  · exact hword c (List.mem_append_left _ hmem) rfl
  · exact hjob.not_mem hc hmem
  · exact hword c (List.mem_append_right _ hmem) rfl

theorem leadsTo_iso {job : Str} (hjob : IsHostName job) (host : Str) :
    LeadsTo host (("http://" : Str) ++ host ++ automationPath job (isoName job)) job (isoName job)
      (isoPath job) := by
  have h :=
    leadsTo hjob (isoName_plain hjob rfl) host (isoName_plain hjob rfl) (isoName_plain hjob rfl)
  rwa [← resolve_location hjob (isoName_plain hjob rfl), ← isoPath_eq] at h

theorem seedFile_plain (file : SeedFile) : '?' ∉ file.name ∧ '#' ∉ file.name := by
  cases file <;> decide

theorem leadsTo_seed {job : Str} (hjob : IsHostName job) (host : Str) (file : SeedFile) :
    LeadsTo host (("http://" : Str) ++ host ++ automationPath job file.name) job file.name
      (jobFile job file.name) :=
  leadsTo hjob (seedFile_name_plain file).1 host (seedFile_plain file).1 (seedFile_plain file).2

theorem url_automationPath (host job name : Str) :
    ("http://" : Str) ++ host ++ ("/automation/" : Str) ++ job ++ '/' :: name =
      ("http://" : Str) ++ host ++ automationPath job name := by
  rw [automationPath_eq, List.append_assoc, List.append_assoc (("http://" : Str) ++ host)]

theorem slash_isoName (job : Str) :
    ("/custom-" : Str) ++ job ++ (".iso" : Str) = '/' :: isoName job := by
  have hword : ("/custom-" : Str) = '/' :: ("custom-" : Str) := rfl
  rw [hword]
  rfl

/-- The file URLs of a response for the job. -/
theorem isoResponse_urls (host job : Str) :
    bodyField (isoResponse host job) "iso_url" =
      some (.str (("http://" : Str) ++ host ++ automationPath job (isoName job))) ∧
    bodyField (isoResponse host job) "user_data_url" =
      some (.str (("http://" : Str) ++ host ++ automationPath job SeedFile.userData.name)) ∧
    bodyField (isoResponse host job) "meta_data_url" =
      some (.str (("http://" : Str) ++ host ++ automationPath job SeedFile.metaData.name)) := by
  have huser : ("/user-data" : Str) = '/' :: SeedFile.userData.name := rfl
  have hmeta : ("/meta-data" : Str) = '/' :: SeedFile.metaData.name := rfl
  rw [← url_automationPath, ← url_automationPath, ← url_automationPath, ← slash_isoName,
    ← huser, ← hmeta, ← List.append_assoc,
    ← List.append_assoc (("http://" : Str) ++ host ++ ("/automation/" : Str) ++ job)]
  exact ⟨rfl, rfl, rfl⟩

theorem launcherJob_eq {job : Str} (hjob : IsHostName job) :
    launcherJob (automationPath job SeedFile.installerLaunch.name) = some job := by
  have hslash : ("/installer-launch.sh" : Str) = '/' :: SeedFile.installerLaunch.name := rfl
  have hpart : ("/installer-launch.sh" : Str) <:+: automationPath job
      SeedFile.installerLaunch.name := by
    rw [hslash, automationPath_eq, ← List.append_assoc]
    exact (List.suffix_append _ _).isInfix
  unfold launcherJob
  rw [if_pos hpart, split_automationPath hjob (seedFile_name_plain .installerLaunch).1]
  have hword : ("automation".toList : Str) ≠ [] := by decide
  simp only [List.filter_cons, ne_eq, not_true_eq_false, decide_false, Bool.false_eq_true,
    if_false, hword, not_false_eq_true, decide_true, if_true, hjob.ne.1]
  rfl

theorem strip_of_not_mem {c : Char} {text : Str} (h : c ∉ text) : strip c text = text := by
  have hkeep : ∀ text : Str, c ∉ text → text.dropWhile (fun d => decide (d = c)) = text := by
    intro text h
    cases text with
    | nil => rfl
    | cons d text =>
      have hd : d ≠ c := fun hd => h (hd ▸ List.mem_cons_self)
      exact List.dropWhile_cons_of_neg (by simpa using hd)
  rw [strip, hkeep text h, hkeep text.reverse (mt List.mem_reverse.mp h), List.reverse_reverse]

theorem lastPiece_append_cons {sep : Char} {front back : Str} (h : sep ∉ back) :
    lastPiece sep (front ++ sep :: back) = back := by
  rw [lastPiece, split, List.splitOn_append_cons_self, List.splitOn_eq_singleton h]
  simp

theorem statusJob_eq {job : Str} (hjob : IsHostName job) (endpoint : Str) :
    statusJob (endpoint ++ '?' :: ("job_id".toList ++ '=' :: job)) = job := by
  have hquery : '?' ∉ "job_id".toList ++ '=' :: job := by
    rw [List.mem_append, List.mem_cons, not_or, not_or]
    exact ⟨by decide, by decide, hjob.not_mem rfl⟩
  rw [statusJob, lastPiece_append_cons hquery, lastPiece_append_cons (hjob.not_mem rfl),
    strip_of_not_mem (hjob.not_mem rfl)]

/-- The paths of the two status queries for a job. -/
def statusPaths (job : Str) : List Str :=
  [("/status?job_id=" : Str) ++ job, ("/api/v1/jobs/status?job_id=" : Str) ++ job]

theorem statusPaths_cases {job path : Str} (h : path ∈ statusPaths job) :
    IsStatusPath path ∧ ∃ endpoint, path = endpoint ++ '?' :: ("job_id".toList ++ '=' :: job) := by
  have hshort : ("/status?job_id=" : Str) = ("/status" : Str) ++ '?' ::
      ("job_id".toList ++ ['=']) := rfl
  have hlong : ("/api/v1/jobs/status?job_id=" : Str) =
      ("/api/v1/jobs/status" : Str) ++ '?' :: ("job_id".toList ++ ['=']) := rfl
  rcases List.mem_cons.mp h with rfl | h
  · rw [hshort, List.append_assoc, List.cons_append, List.append_assoc, List.singleton_append]
    exact ⟨Or.inr (List.prefix_append _ _), _, rfl⟩
  · obtain rfl := List.mem_singleton.mp h
    rw [hlong, List.append_assoc, List.cons_append, List.append_assoc, List.singleton_append]
    exact ⟨Or.inl (List.prefix_append _ _).isInfix, _, rfl⟩

/-- A status query reports the entry that it leaves in the tracker. -/
theorem statusReport_spec {path : Str} {m : Machine} (h : IsStatusPath path) :
    (statusReport m.runners path m.toServer).jobId = statusJob path ∧
    ((statusReport m.runners path m.toServer).lifecycleStage,
        (statusReport m.runners path m.toServer).stageDescription) =
      match (afterGet path m).progress.get? (.text (statusJob path)) with
      | some entry => (entry.stage.text, entry.detail)
      | none => ("UNKNOWN".toList, .str "No active tasks recorded.".toList) := by
  have hprogress : (afterGet path m).progress =
      applyWrite m.progress (statusWrite m.runners path m.toServer) := by
    unfold afterGet getWrite
    rw [if_pos h]
    rfl
  rw [hprogress]
  unfold statusReport
  dsimp only
  cases (applyWrite m.progress (statusWrite m.runners path m.toServer)).get?
      (.text (statusJob path)) with
  | none => exact ⟨rfl, rfl⟩
  | some entry => exact ⟨rfl, rfl⟩

/-- The answer to an accepted custom-iso request that is answered with 200. -/
theorem customIsoResponse_ok {world : World} {env : Environment} {r : Request} {m : Machine}
    {data : JobData} (hmethod : r.method = .post) (hpath : r.path = Endpoint.customIso.path)
    (haccept : accept world.toSite r.hostIp r.body = .ok data)
    (hstatus : statusLines (serve world env r m).output = [200]) :
    (serve world env r m).output =
      [.status 200, .header "Content-Type" "application/json", .endHeaders,
      .body (.json (isoResponse r.hostIp (jobId data)))] := by
  obtain ⟨request, hvalid, hdata⟩ := accept_eq_ok haccept
  have hrun : (serve world env r m).output =
      customIsoResponse world r (customIso world.toSite m.toServer (isoRequest env r)).2 := by
    rw [serve_endpoint hmethod hpath, post, run_postCustomIso]
  rw [customIsoResponse, validatedResponse_ok hvalid] at hrun
  rw [hrun] at hstatus ⊢
  split_ifs at hstatus ⊢ with hcode
  · rw [jobId_of_jobData hdata]
  · exact absurd hstatus (by decide)

section Seed
variable {dep : Deployment} {hostIp : Str} {request : PhoneHomeRequest} {jobData : Fields}
  {script : Str}

def seedKey : Str := "__SEED_URL__"

theorem installerLaunch_cases (htemplate : dep.installerLaunchTemplate = some launchTemplate)
    (h : installerLaunch dep hostIp request jobData = some script) :
    ∃ pairs, launchPlaceholders.Assigns pairs ∧ script = replaceAll pairs launchTemplate ∧
      (seedKey, ("http://" : Str) ++ hostIp ++ ("/automation/" : Str) ++ request.jobId.val) ∈
        pairs := by
  rw [installerLaunch_eq_map] at h
  obtain ⟨m, hm, rfl⟩ := Option.map_eq_some_iff.mp h
  have hspec := launchMap_spec hm
  have hlaunch : launchTemplate = m.2 := Option.some.inj (htemplate.symm.trans hspec.template)
  exact ⟨m.1, hspec.assigns, by rw [hlaunch], hspec.seed⟩

/-- The host as the later substitutions leave it. -/
def seedHost (pairs : List (Str × Str)) (hostIp : Str) : Str :=
  replaceAll (laterPairs pairs seedKey) hostIp

variable {pairs : List (Str × Str)} {job : Str}

theorem seedHost_eq (hpairs : launchPlaceholders.Assigns pairs) (hhost : ¬ ['_', '_'] <:+: hostIp) :
    seedHost pairs hostIp = hostIp :=
  Placeholders.replaceAll_of_unmarked
    (fun pair hpair => hpairs.mem
      (hpairs.later (by decide : seedKey ∈ launchPlaceholders.keys) pair hpair).1) hhost

theorem replaceAll_seedKey (hpairs : launchPlaceholders.Assigns pairs) (hjob : IsHostName job)
    (hseed : (seedKey, ("http://" : Str) ++ hostIp ++ ("/automation/" : Str) ++ job) ∈ pairs) :
    replaceAll pairs seedKey = ("http://" : Str) ++ seedHost pairs hostIp ++
      ("/automation/" : Str) ++ job := by
  have hkey : seedKey ∈ launchPlaceholders.keys := by decide
  have hlater : ∀ pair ∈ laterPairs pairs seedKey, pair.1 ∈ launchPlaceholders.keys :=
    fun pair hpair => hpairs.mem (hpairs.later hkey pair hpair).1
  have hslash : Separates '/' (laterPairs pairs seedKey) :=
    Placeholders.separates_of_keys hlater rfl
  have hscheme : ("http://" : Str) = "http:/".toList ++ ['/'] := rfl
  have hjobmark : ¬ launchPlaceholders.mark <:+: job :=
    Placeholders.unmarked_of_not_mem List.mem_cons_self (hjob.not_mem rfl)
  have hhttp : ¬ launchPlaceholders.mark <:+: "http:/".toList := by decide
  have hword : ¬ launchPlaceholders.mark <:+: "automation".toList := by decide
  -- the value between the slashes
  have hvalue : ("http://" : Str) ++ hostIp ++ ("/automation/" : Str) ++ job =
      "http:/".toList ++ '/' :: (hostIp ++ '/' :: ("automation".toList ++ '/' :: job)) := by
    rw [hscheme, automation_eq]
    simp only [List.append_assoc, List.cons_append, List.nil_append]
  rw [hpairs.replaceAll_chunk fun _ => hkey, Placeholders.fill_of_mem hkey,
    valueOf_of_mem hpairs.nodup hseed, hvalue, replaceAll_append_cons hslash,
      replaceAll_append_cons hslash,
    replaceAll_append_cons hslash, Placeholders.replaceAll_of_unmarked hlater hjobmark,
    Placeholders.replaceAll_of_unmarked hlater hhttp,
      Placeholders.replaceAll_of_unmarked hlater hword,
    hscheme, automation_eq]
  simp only [seedHost, List.append_assoc, List.cons_append, List.nil_append]

theorem seed_line (hpairs : launchPlaceholders.Assigns pairs) :
    "autoinstall ds=nocloud;s=".toList ++ replaceAll pairs seedKey ++ "/ \\\n".toList <:+:
      replaceAll pairs launchTemplate := by
  have hline := launch_line hpairs
    (by decide : "autoinstall ds=nocloud;s=__SEED_URL__/ \\" ∈ launchLines)
  have hsplit : "autoinstall ds=nocloud;s=__SEED_URL__/ \\".toList =
      "autoinstall ds=nocloud;s".toList ++ '=' :: (seedKey ++ '/' :: " \\".toList) := rfl
  have hequals : "autoinstall ds=nocloud;s=".toList = "autoinstall ds=nocloud;s".toList ++ ['='] :=
    rfl
  have hend : "/ \\\n".toList = '/' :: (" \\".toList ++ ['\n']) := rfl
  have hfront : ¬ launchPlaceholders.mark <:+: "autoinstall ds=nocloud;s".toList := by decide
  have hback : ¬ launchPlaceholders.mark <:+: " \\".toList := by decide
  rw [hsplit, replaceAll_append_cons (hpairs.separates rfl),
    replaceAll_append_cons (hpairs.separates rfl),
    Placeholders.replaceAll_of_unmarked (fun _ => hpairs.mem) hfront,
    Placeholders.replaceAll_of_unmarked (fun _ => hpairs.mem) hback] at hline
  rw [hequals, hend]
  simpa only [List.append_assoc, List.cons_append, List.nil_append] using hline

end Seed

/-- Every URL of the job leads back to the job. The ISO is the file that `pipeline.sh` writes
last, and the seed files are those that a phone-home writes. -/
structure LeadBack (world : World) (job : Str) : Prop where
  response : ∀ (env : Environment) (r : Request) (m : Machine) (data : JobData), r.method = .post →
    r.path = Endpoint.customIso.path → accept world.toSite r.hostIp r.body = .ok data →
    jobId data = job → statusLines (serve world env r m).output = [200] →
    ∃ response iso userData metaData,
      (serve world env r m).output = [.status 200, .header "Content-Type" "application/json",
        .endHeaders, .body (.json response)] ∧
      bodyField response "iso_url" = some (.str iso) ∧
      bodyField response "user_data_url" = some (.str userData) ∧
      bodyField response "meta_data_url" = some (.str metaData) ∧
      LeadsTo r.hostIp iso job (isoName job) (isoPath job) ∧
      LeadsTo r.hostIp userData job "user-data" (jobFile job SeedFile.userData.name) ∧
      LeadsTo r.hostIp metaData job "meta-data" (jobFile job SeedFile.metaData.name)
  seed : ∀ (hostIp : Str) (request : PhoneHomeRequest) (data : JobData) (script : Str),
    request.jobId.val = job →
    installerLaunch world.toDeployment hostIp request (jobFields data) = some script →
    ∃ host seedUrl, (¬ ['_', '_'] <:+: hostIp → host = hostIp) ∧
      "autoinstall ds=nocloud;s=".toList ++ seedUrl ++ "/ \\\n".toList <:+: script ∧
      ∀ file : SeedFile, LeadsTo host (seedUrl ++ '/' :: file.name) job file.name
        (jobFile job file.name)
  launcher : ∀ (env : Environment) (r : Request) (m : Machine), r.method = .get →
    r.path = automationPath job SeedFile.installerLaunch.name →
    (serve world env r m).state.progress.get? (.text job) = some launcherEntry ∧
    ∀ key, key ≠ .text job → (serve world env r m).state.progress.get? key = m.progress.get? key
  status : ∀ (env : Environment) (r : Request) (m : Machine), r.method = .get →
    r.path ∈ statusPaths job → ∃ report,
      (serve world env r m).output = [.status 200, .header "Content-Type" "application/json",
        .endHeaders, .body (.report report)] ∧ report.jobId = job ∧
      (report.lifecycleStage, report.stageDescription) =
        match (serve world env r m).state.progress.get? (.text job) with
        | some entry => (entry.stage.text, entry.detail)
        | none => ("UNKNOWN".toList, .str "No active tasks recorded.".toList)

/-- For every host name as job id. The `Host` header is arbitrary; a URL has the path of its file
when the header does not end the authority itself, and in the launch script when it has no
placeholder in it. -/
theorem urls_lead_back {job : Str} (hjob : IsHostName job) (world : World)
    (htemplate : world.installerLaunchTemplate = some launchTemplate) : LeadBack world job where
  response env r m data hmethod hpath haccept hid hstatus := by
    have hurls := isoResponse_urls r.hostIp job
    refine ⟨isoResponse r.hostIp job, _, _, _, ?_, hurls.1, hurls.2.1, hurls.2.2,
      leadsTo_iso hjob _, leadsTo_seed hjob _ .userData, leadsTo_seed hjob _ .metaData⟩
    rw [customIsoResponse_ok hmethod hpath haccept hstatus, hid]
  seed hostIp request data script hid hscript := by
    obtain ⟨pairs, hpairs, rfl, hseed⟩ := installerLaunch_cases htemplate hscript
    rw [hid] at hseed
    refine ⟨seedHost pairs hostIp, replaceAll pairs seedKey, seedHost_eq hpairs, seed_line hpairs,
      fun file => ?_⟩
    rw [replaceAll_seedKey hpairs hjob hseed, url_automationPath]
    exact leadsTo_seed hjob _ file
  launcher env r m hmethod hpath := by
    have hplain := (seedFile_name_plain .installerLaunch).1
    have hwrite : getWrite m.runners r.path m.toServer = some (.text job, launcherEntry) := by
      rw [hpath, getWrite, if_neg (not_isStatusPath hjob hplain), launcherJob_eq hjob]
      rfl
    rw [serve_get_state hmethod, afterGet, hwrite]
    exact ⟨Dict.get?_set_self _ _ _, fun key hkey => Dict.get?_set_ne _ hkey _⟩
  status env r m hmethod hpath := by
    obtain ⟨hstatus, endpoint, hendpoint⟩ := statusPaths_cases hpath
    have hrun : serve world env r m = ⟨statusResponse r.path m, afterGet r.path m, .returned⟩ := by
      rw [serve_get hmethod]
      exact run_doGet_status hstatus
    have hreported : statusJob r.path = job := by
      rw [hendpoint]
      exact statusJob_eq hjob endpoint
    have hreport := @statusReport_spec r.path m hstatus
    rw [hreported] at hreport
    rw [hrun]
    exact ⟨_, rfl, hreport⟩

/-- A name with a word that the handlers look for in paths. -/
theorem urls_lead_back_routingWord :
    IsHostName "installer-launch.sh" ∧
      LeadBack { exampleDep with disk := fun _ _ _ => none } "installer-launch.sh" :=
  ⟨by decide, urls_lead_back (by decide) { exampleDep with disk := fun _ _ _ => none } rfl⟩

/-- A request for node A whose `Host` header has a slash in it. -/
def slashRequest : Request :=
  ⟨.post, Endpoint.customIso.path, some "10.0.0.1/x".toList, none, bodyA⟩

def emptyDisk : World := { exampleDep with disk := fun _ _ _ => none }

/-- The response hands out a URL whose path is in no area of the server: a `GET` of it is answered
404 whatever is on the disk. -/
theorem slash_in_host_misleads :
    IsHostName "node-a" ∧
    ∃ response, (serve emptyDisk calm slashRequest emptyMachine).output =
        [.status 200, .header "Content-Type" "application/json", .endHeaders,
          .body (.json response)] ∧
      bodyField response "iso_url" =
        some (.str "http://10.0.0.1/x/automation/node-a/custom-node-a.iso".toList) ∧
      urlPath "http://10.0.0.1/x/automation/node-a/custom-node-a.iso" =
        "/x/automation/node-a/custom-node-a.iso".toList ∧
      ∀ (world : World) (env : Environment) (m : Machine),
        statusLines (serve world env
          (bare .get "/x/automation/node-a/custom-node-a.iso") m).output =
          [404] := by
  have houtput : (serve emptyDisk calm slashRequest emptyMachine).output =
      [.status 200, .header "Content-Type" "application/json", .endHeaders,
        .body (.json (isoResponse "10.0.0.1/x" "node-a"))] := rfl
  refine ⟨by decide, isoResponse "10.0.0.1/x" "node-a", houtput, rfl, by decide,
    fun world env m => ?_⟩
  have hstatus : ¬ IsStatusPath "/x/automation/node-a/custom-node-a.iso".toList := by decide
  rw [serve_get rfl, run_doGet_other hstatus]
  dsimp only [bare]
  rw [serveFiles_other (by decide) (by decide) (by decide)]
  rfl

end Astro.JobUrls
