import Astro.JobDirectories
import Astro.SequentialRuns

/-!
# The seed files of a job depend on its own requests

A job directory changes by the custom-iso and phone-home requests that are addressed to the
job, and by nothing else. What these requests do is written down on the directory alone;
the seed files after a run are those of that smaller machine.
-/

namespace Astro.SeedIsolation

open PythonText JobPaths RequestModels IpxePipeline TelemetryHandler CustomIsoHandler ServerHandlers
  SeedRendering HttpMethods LabelledRuns ObservedRuns SequentialRuns JobDirectories

/-- A request that reads or writes a job directory: its host and its body. -/
inductive Order where
  | customIso (hostIp : Str) (body : Option Json)
  | phoneHome (hostIp : Str) (body : Option Json)

def isoHostname (site : Site) (body : Option Json) : Option Str :=
  (body.bind fun value => (ProvisionCustomISORequest.ofJson site.coercions value).toOption).map
    fun request => request.hostname.val

/-- The order that a request makes, with the job it is addressed to. -/
def order : Action → Option (Str × Order)
  | .request world _ r =>
    if r.method = .post ∧ r.path = Endpoint.customIso.path then
      (isoHostname world.toSite r.body).map fun job => (job, .customIso r.hostIp r.body)
    else if r.method = .post ∧ r.path = Endpoint.phoneHome.path then
      (phoneHomeRequest world.toSite r.body).map fun request =>
        (request.jobId.val, .phoneHome r.hostIp r.body)
    else none
  | .runner _ _ => none

def addressed (job : Str) (a : Action) : Option Order :=
  (order a).bind fun order => if order.1 = job then some order.2 else none

/-- File writes succeed, the deployment stays as it is, and the job ids are single
components. -/
def Ordinary (dep : Deployment) (a : Action) : Prop :=
  match a with
  | .request world env _ => world.toDeployment = dep ∧ env.save = .saved ∧
      (∀ file, env.seedWrite file = .written) ∧ ∀ job o, order a = some (job, o) → IsComponent job
  | .runner _ _ => True

@[ext]
structure Directory where
  jobJson : Option File
  seed : SeedFile → Option File

def directory (job : Str) (files : Files) : Directory where
  jobJson := files (ServerFile.jobJson.path job)
  seed file := files ((ServerFile.seed file).path job)

def render (written : List (SeedFile × Str)) (seed : SeedFile → Option File) : SeedFile →
    Option File :=
  written.foldl (fun seed text => Function.update seed text.1 (some (.text text.2))) seed

def fulfil (dep : Deployment) (d : Directory) : Order → Directory
  | .customIso hostIp body => match accept dep.toSite hostIp body with
    | .ok data => { d with jobJson := some (.jobJson data) }
    | .error _ => d
  | .phoneHome hostIp body => match phoneHomeRequest dep.toSite body, d.jobJson.bind File.load? with
    | some request, some value =>
      { d with
        seed := render (seedOutcome dep hostIp (fun _ => .written) request value).written d.seed }
    | _, _ => d

section Writes
variable {job job' : Str} {files : Files}

theorem directory_congr {files' : Files}
    (h : ∀ file : ServerFile, files (file.path job) = files' (file.path job)) :
    directory job files = directory job files' :=
  Directory.ext (h _) (funext fun _ => h _)

theorem directory_update_ne (hjob : IsComponent job) (hjob' : IsComponent job') (hne : job' ≠ job)
    (file : ServerFile) (content : Option File) :
    directory job (Function.update files (file.path job') content) = directory job files := by
  refine directory_congr fun file' => Function.update_of_ne ?_ _ _
  intro hpath
  exact hne (ServerFile.path_injective hjob' hjob hpath.symm)

theorem directory_update_jobJson (content : Option File) :
    directory job (Function.update files (ServerFile.jobJson.path job) content) =
      { directory job files with jobJson := content } := by
  refine Directory.ext (Function.update_self ..) (funext fun file => Function.update_of_ne ?_ _ _)
  intro hpath
  cases ServerFile.eq_of_path_eq hpath

theorem directory_update_seed (file : SeedFile) (content : Option File) :
    directory job (Function.update files ((ServerFile.seed file).path job) content) =
      { directory job files with
        seed := Function.update (directory job files).seed file content } := by
  refine Directory.ext (Function.update_of_ne ?_ _ _) (funext fun file' => ?_)
  · intro hpath
    cases ServerFile.eq_of_path_eq hpath
  · change Function.update files ((ServerFile.seed file).path job) content
      ((ServerFile.seed file').path job) =
        Function.update (directory job files).seed file content file'
    by_cases hfile : file' = file
    · rw [hfile, Function.update_self, Function.update_self]
    · rw [Function.update_of_ne hfile]
      refine Function.update_of_ne ?_ _ _
      intro hpath
      cases ServerFile.eq_of_path_eq hpath
      exact hfile rfl

theorem directory_writeSeeds (written : List (SeedFile × Str)) (files : Files) :
    directory job (writeSeeds job written files) =
      { directory job files with seed := render written (directory job files).seed } := by
  induction written generalizing files with
  | nil => rfl
  | cons seed written ih =>
    have htail :=
      ih (Function.update files ((ServerFile.seed seed.1).path job) (some (.text seed.2)))
    rw [directory_update_seed] at htail
    exact htail

theorem directory_writeSeeds_ne (hjob : IsComponent job) (hjob' : IsComponent job')
    (hne : job' ≠ job) (written : List (SeedFile × Str)) (files : Files) :
    directory job (writeSeeds job' written files) = directory job files := by
  induction written generalizing files with
  | nil => rfl
  | cons seed written ih =>
    have htail :=
      ih (Function.update files ((ServerFile.seed seed.1).path job') (some (.text seed.2)))
    rw [directory_update_ne hjob hjob' hne] at htail
    exact htail

end Writes

section Requests
variable {dep : Deployment} {job : Str} {env : Environment} {world : World} {r : Request}
  {m : Machine}

theorem isoHostname_of_accept {site : Site} {host : Str} {body : Option Json} {data : JobData}
    (h : accept site host body = .ok data) : isoHostname site body = some (jobId data) := by
  obtain ⟨request, hrequest, hdata⟩ := accept_eq_ok h
  obtain ⟨value, rfl, hvalid⟩ := Option.map_eq_some_iff.mp hrequest
  rw [isoHostname, Option.bind_some, hvalid, jobId_of_jobData hdata]
  rfl

theorem isoRequest_accept {site : Site} :
    accept site (isoRequest env r).host (isoRequest env r).body = accept site r.hostIp r.body := rfl

theorem posted_customIso_files : (posted world env r m .customIso).files =
    (isoFiles world.toSite (isoRequest env r) m.files).1 := by
  rw [posted, customIso_eq]
  rfl

/-- A custom-iso request replaces the job file of its job, however its build ends. -/
theorem directory_customIso (hsave : env.save = .saved) (hjob : IsComponent job)
    (hids : ∀ job', isoHostname world.toSite r.body = some job' → IsComponent job') :
    directory job (posted world env r m .customIso).files =
      if isoHostname world.toSite r.body = some job then
        fulfil world.toDeployment (directory job m.files) (.customIso r.hostIp r.body)
      else directory job m.files := by
  rw [posted_customIso_files]
  cases haccept : accept world.toSite r.hostIp r.body with
  | error status =>
    rw [isoFiles_error (isoRequest_accept.trans haccept), fulfil, haccept, ite_self]
  | ok data =>
    have hhostname := isoHostname_of_accept haccept
    have hsaved : directory job (isoFiles world.toSite (isoRequest env r) m.files).1 =
        directory job (Function.update m.files (ServerFile.jobJson.path (jobId data))
          (some (.jobJson data))) := by
      refine directory_congr fun file => ?_
      rw [isoFiles_path (isoRequest_accept.trans haccept), isoRequest, hsave]
      rfl
    rw [hsaved, hhostname, fulfil, haccept]
    split_ifs with hown
    · rw [Option.some.injEq] at hown
      rw [hown, directory_update_jobJson]
    · refine directory_update_ne hjob (hids _ hhostname) ?_ _ _
      exact fun heq => hown (congrArg some heq)

/-- A phone-home for another job changes nothing; one for this job renders its seeds. -/
theorem directory_phoneHome (hwritten : ∀ file, env.seedWrite file = .written)
    (hjob : IsComponent job) {request : PhoneHomeRequest}
    (hrequest : phoneHomeRequest world.toSite r.body = some request)
    (hid : IsComponent request.jobId.val) :
    directory job (posted world env r m .phoneHome).files =
      if request.jobId.val = job then
        fulfil world.toDeployment (directory job m.files) (.phoneHome r.hostIp r.body)
      else directory job m.files := by
  have hall : env.seedWrite = fun _ => .written := funext hwritten
  rw [posted, served]
  have hread : (directory request.jobId.val m.files).jobJson.bind File.load? =
      loadJob m.files request.jobId.val := rfl
  cases hfile : loadJob m.files request.jobId.val with
  | some value =>
    rw [servePhoneHome_loaded hrequest hfile, hall]
    change directory job (writeSeeds request.jobId.val _ m.files) = _
    split_ifs with hown
    · subst hown
      rw [directory_writeSeeds, fulfil, hrequest, hread, hfile]
    · exact directory_writeSeeds_ne hjob hid hown _ _
  | none =>
    rw [servePhoneHome_unreadable hrequest hfile]
    change directory job m.files = _
    split_ifs with hown
    · subst hown
      rw [fulfil, hrequest, hread, hfile]
    · rfl

theorem posted_phoneHome_rejected (h : phoneHomeRequest world.toSite r.body = none) :
    (posted world env r m .phoneHome).files = m.files := by
  rw [posted, served, servePhoneHome_rejected h]
  rfl

end Requests

theorem order_of_not_post {world : World} {env : Environment} {r : Request} (h : r.method ≠ .post) :
    order (.request world env r) = none := by
  rw [order, if_neg fun hpost => h hpost.1, if_neg fun hpost => h hpost.1]

theorem order_of_path_ne {world : World} {env : Environment} {r : Request}
    (hiso : r.path ≠ Endpoint.customIso.path) (hphone : r.path ≠ Endpoint.phoneHome.path) :
    order (.request world env r) = none := by
  rw [order, if_neg fun hpost => hiso hpost.2, if_neg fun hpost => hphone hpost.2]

theorem order_customIso {world : World} {env : Environment} {r : Request}
    (hmethod : r.method = .post) (hpath : r.path = Endpoint.customIso.path) :
    order (.request world env r) =
      (isoHostname world.toSite r.body).map fun job => (job, .customIso r.hostIp r.body) := by
  rw [order, if_pos ⟨hmethod, hpath⟩]

theorem order_phoneHome {world : World} {env : Environment} {r : Request}
    (hmethod : r.method = .post) (hpath : r.path = Endpoint.phoneHome.path) :
    order (.request world env r) =
      (phoneHomeRequest world.toSite r.body).map fun request =>
        (request.jobId.val, .phoneHome r.hostIp r.body) := by
  have hne : Endpoint.phoneHome.path ≠ Endpoint.customIso.path :=
    fun h => Endpoint.noConfusion (Endpoint.path_injective h)
  rw [order, if_neg (fun hpost => hne (hpath.symm.trans hpost.2)), if_pos ⟨hmethod, hpath⟩]

theorem directory_posted {job : Str} (hjob : IsComponent job) (m : Machine) {world : World}
    {env : Environment} {r : Request} (ha : Ordinary world.toDeployment (.request world env r))
    (hmethod : r.method = .post) {e : Endpoint} (hpath : r.path = e.path) :
    directory job (posted world env r m e).files =
      (addressed job (.request world env r)).elim (directory job m.files)
        (fulfil world.toDeployment (directory job m.files)) := by
  obtain ⟨-, hsave, hwritten, hids⟩ := ha
  by_cases hiso : e = .customIso
  · subst hiso
    have horder := @order_customIso world env r hmethod hpath
    rw [directory_customIso hsave hjob fun job' hjob' => hids job' _ (by rw [horder, hjob']; rfl),
      addressed, horder]
    cases isoHostname world.toSite r.body with
    | none => rfl
    | some job' =>
      dsimp only [Option.map_some, Option.bind_some]
      by_cases hown : job' = job
      · rw [if_pos hown, if_pos (congrArg some hown)]
        rfl
      · rw [if_neg hown, if_neg fun h => hown (Option.some.inj h)]
        rfl
  · by_cases hphone : e = .phoneHome
    · subst hphone
      have horder := @order_phoneHome world env r hmethod hpath
      rw [addressed, horder]
      cases hrequest : phoneHomeRequest world.toSite r.body with
      | none =>
        rw [posted_phoneHome_rejected hrequest]
        rfl
      | some request =>
        rw [hrequest] at horder
        rw [directory_phoneHome hwritten hjob hrequest (hids _ _ horder)]
        dsimp only [Option.map_some, Option.bind_some]
        split_ifs <;> rfl
    · have hnone := @order_of_path_ne world env r
        (fun h => hiso (Endpoint.path_injective (hpath.symm.trans h)))
        (fun h => hphone (Endpoint.path_injective (hpath.symm.trans h)))
      rw [posted_files world env r m hiso hphone, addressed, hnone]
      rfl

/-- A step changes a job directory by the order that is addressed to the job. -/
theorem directory_step {dep : Deployment} {job : Str} (hjob : IsComponent job) (m : Machine)
    (a : Action) (ha : Ordinary dep a) : directory job (step m a).files =
      (addressed job a).elim (directory job m.files) (fulfil dep (directory job m.files)) := by
  cases a with
  | runner n runner => rfl
  | request world env r =>
    obtain rfl := ha.1
    change directory job (serve world env r m).state.files = _
    cases kind_of r with
    | get hmethod =>
      rw [serve_get_state hmethod, addressed, order_of_not_post (by rw [hmethod]; decide)]
      rfl
    | head hmethod =>
      rw [serve_head_state hmethod, addressed, order_of_not_post (by rw [hmethod]; decide)]
      rfl
    | unknown hmethod hpath =>
      rw [serve_unknown hmethod hpath, addressed, order_of_path_ne (hpath _) (hpath _)]
      rfl
    | post hmethod e hpath =>
      rw [serve_post_state hmethod hpath]
      exact directory_posted hjob m ha hmethod hpath

/-- The directory of a job after a run is made by the orders addressed to the job. -/
theorem directory_run {dep : Deployment} {job : Str} (hjob : IsComponent job) (m : Machine)
    {actions : List Action} (hactions : ∀ a ∈ actions, Ordinary dep a) :
    directory job (run step m actions).files =
      run (fulfil dep) (directory job m.files) (actions.filterMap (addressed job)) :=
  @view_run _ _ _ _ step (fun m => directory job m.files) (addressed job) (fulfil dep)
    (Ordinary dep)
    (directory_step hjob) actions hactions m

/-- Two runs from the same directory of a job that make the same orders for the job leave
the same seed files, whatever else they serve. -/
theorem seeds_depend_on_own_requests (dep : Deployment) {job : Str} (hjob : IsComponent job)
    {m m' : Machine} (hstart : directory job m.files = directory job m'.files)
    {actions actions' : List Action} (hactions : ∀ a ∈ actions, Ordinary dep a)
    (hactions' : ∀ a ∈ actions', Ordinary dep a)
    (horders : actions.filterMap (addressed job) = actions'.filterMap (addressed job))
    (file : SeedFile) :
    (run step m actions).files (jobFile job file.name) =
      (run step m' actions').files (jobFile job file.name) := by
  have hsame : directory job (run step m actions).files =
      directory job (run step m' actions').files := by
    rw [directory_run hjob m hactions, directory_run hjob m' hactions', hstart, horders]
  exact congrFun (congrArg Directory.seed hsame) file

def postAction (e : Endpoint) (body : Json) : Action :=
  .request (worldWith fun _ => none) calm { bare .post e.path with body := some body }

def isoAction (hostname address : Str) : Action :=
  postAction .customIso (RepositorySite.isoBody hostname address)

def phoneAction (hostname : Str) : Action :=
  postAction .phoneHome (.obj [("job_id".toList, .str hostname),
    ("machine_serial".toList, .str "SN-7".toList),
    ("bootif".toList, .str "01-52-54-00-12-34-56".toList),
    ("uuids".toList, .arr [.obj [("dev".toList, .str "sda".toList),
      ("id".toList, .str "disk 1".toList), ("size_mb".toList, .int 20000)]])])

theorem ordinary_postAction {e : Endpoint} {body : Json} {job : Str} {o : Order}
    (horder : order (postAction e body) = some (job, o)) (hjob : IsComponent job) :
    Ordinary exampleDeployment (postAction e body) := by
  refine ⟨rfl, rfl, fun _ => rfl, ?_⟩
  intro job' o' horder'
  cases horder.symm.trans horder'
  exact hjob

theorem seeds_depend_on_own_requests_nodeA :
    (run step emptyMachine [isoAction "node-a" "10.0.0.2", phoneAction "node-a"]).files
        (jobFile "node-a" SeedFile.userData.name) =
      (run step emptyMachine [isoAction "node-a" "10.0.0.2", isoAction "node-b" "10.0.0.3",
        phoneAction "node-a"]).files (jobFile "node-a" SeedFile.userData.name) := by
  have hisoA :=
    @ordinary_postAction .customIso (RepositorySite.isoBody "node-a" "10.0.0.2") _ _ rfl (by decide)
  have hisoB :=
    @ordinary_postAction .customIso (RepositorySite.isoBody "node-b" "10.0.0.3") _ _ rfl (by decide)
  have hphone : Ordinary exampleDeployment (phoneAction "node-a") :=
    ordinary_postAction rfl (by decide)
  have hother : addressed "node-a" (isoAction "node-b" "10.0.0.3") = none := rfl
  have horders : List.filterMap (addressed "node-a")
    [isoAction "node-a" "10.0.0.2", phoneAction "node-a"] =
      List.filterMap (addressed "node-a")
        [isoAction "node-a" "10.0.0.2", isoAction "node-b" "10.0.0.3", phoneAction "node-a"] := by
    simp only [List.filterMap_cons, hother]
  refine seeds_depend_on_own_requests exampleDeployment (by decide) rfl ?_ ?_ horders .userData
  · simp only [List.mem_cons, List.not_mem_nil, or_false]
    rintro a (rfl | rfl)
    · exact hisoA
    · exact hphone
  · simp only [List.mem_cons, List.not_mem_nil, or_false]
    rintro a (rfl | rfl | rfl)
    · exact hisoA
    · exact hisoB
    · exact hphone

end Astro.SeedIsolation
