import Astro.FileServing
import Astro.SeedRendering

/-!
# The methods of the request handler

`do_GET`, `do_HEAD` and `do_POST` as they send their responses, one request at a time. A
`POST` runs through the endpoints in turn; the handlers of the endpoints return, except
for the provisioning one, and nothing answers a path that is no endpoint.
-/

namespace Astro.HttpMethods

open PythonText JobPaths RequestModels IpxePipeline TelemetryHandler CustomIsoHandler
  ServerHandlers SeedRendering FileServing MethodBodies Statement

/-- The server with its Ansible runners. A runner has the number of the provisioning
request that started it. -/
structure Machine extends Server where
  runners : ℕ → Option Runner
  provisions : ℕ

def Machine.started (logs : Path → Str) (files : Files) : Machine :=
  ⟨Server.started logs files, fun _ => none, 0⟩

def Machine.put (m : Machine) (s : Server) : Machine := { m with toServer := s }

inductive Method where
  | get
  | head
  | post
  deriving DecidableEq

/-- A request with the two headers that are looked at; `body` is what `json.loads` returns
for the body, if it does. -/
structure Request where
  method : Method
  path : Str
  host : Option Str
  range : Option Str
  body : Option Json

/-- `get_server_host()`. -/
def Request.hostIp (r : Request) : Str := r.host.getD "localhost"

/-- What the system does while a request is served: the time of day, the memory for a
chunk, and which file operations, commands and thread starts succeed. -/
structure Environment where
  now : Str
  readLimit : ℕ
  logWritten : Bool
  save : SaveOutcome
  outcomes : PipelineCommand → Outcome
  seedWrite : SeedFile → SeedWrite
  chmod : Bool
  started : Bool

/-- The deployment, with the contents of the served directories for the files and logs
that the server has written. -/
structure World extends Deployment where
  disk : Files → (Path → Str) → Storage

abbrev Handler := Statement Machine Sent Unit

def store (key : Key) (entry : Entry) : Handler :=
  modify fun m => { m with toServer := m.toServer.setProgress key entry }

def statusBlock (path : Str) : Handler :=
  onlyIf (IsStatusPath path) <| attempt do
    let m ← read
    modify fun m =>
      { m with progress := applyWrite m.progress (statusWrite m.runners path m.toServer) }
    sendResponse 200
    sendHeader "Content-Type" "application/json"
    endHeaders
    write (.report (statusReport m.runners path m.toServer))
    exit

def launcherBlock (path : Str) : Handler :=
  match launcherJob path with
  | some job => store (.text job) launcherEntry
  | none => pure ()

def doGet (disk : Storage) (env : Environment) (r : Request) : Handler := do
  statusBlock r.path
  launcherBlock r.path
  serveFiles disk env.readLimit r.range r.path

section Post
variable (world : World) (env : Environment) (r : Request)

def badRequest : Handler := do
  sendResponse 400
  endHeaders

def serverError : Handler := do
  sendResponse 500
  endHeaders

/-- Parse and validate the body. The errors of a validation are listed in the response. -/
def validated {α : Type} (ofJson : Json → Except Rejection α) : Statement Machine Sent α :=
  match r.body.map ofJson with
  | some (.ok a) => pure a
  | some (.error (.invalid errors)) => do
    sendResponse 400
    sendHeader "Content-Type" "application/json"
    endHeaders
    write (.errors errors)
    exit
  | _ => do
    badRequest
    exit

def postProgress : Handler := do
  attempt <| match hookWrite world.toSite r.body with
    | some (key, entry) => do
      store key entry
      sendResponse 200
      endHeaders
      write (.text "Progress state successfully processed.")
      exit
    | none => pure ()
  badRequest
  exit

def isoResponse (hostIp job : Str) : Json :=
  let baseUrl := ("http://" : Str) ++ hostIp ++ ("/automation/" : Str) ++ job
  .obj [("success".toList, .bool true), ("body".toList, .obj [
    ("custom_id".toList, .str (("custom-" : Str) ++ job)),
    ("iso_url".toList, .str (baseUrl ++ ("/custom-" : Str) ++ job ++ (".iso" : Str))),
    ("user_data_url".toList, .str (baseUrl ++ ("/user-data" : Str))),
    ("meta_data_url".toList, .str (baseUrl ++ ("/meta-data" : Str))),
    ("seed_directory_url".toList, .str (baseUrl ++ ("/" : Str)))])]

def saveJobFile (data : JobData) : Handler :=
  call fun m =>
    let (files, written) := saveJob data env.save m.files
    ({ m with files }, if written then some () else none)

/-- The script is run to its end; its exit status is looked at afterwards. -/
def runPipeline (data : JobData) : Statement Machine Sent Bool :=
  call fun m =>
    let (files, success) := runCommands world.toSite (jobId data) env.outcomes pipeline m.files
    ({ m with files }, some success)

def buildIso (request : ProvisionCustomISORequest) : Handler := do
  let data ← orRaise (jobData world.toSite r.hostIp request)
  store (.text (jobId data)) bootingEntry
  saveJobFile env data
  let success ← runPipeline world env data
  if success then do
    sendResponse 200
    sendHeader "Content-Type" "application/json"
    endHeaders
    write (.json (isoResponse r.hostIp (jobId data)))
  else serverError

def postCustomIso : Handler := do
  let request ← validated r (ProvisionCustomISORequest.ofJson world.coercions)
  except (buildIso world env r request) serverError
  exit

def readJob (job : Str) : Statement Machine Sent Json := call fun m => (m, loadJob m.files job)

def writeSeedFiles (request : PhoneHomeRequest) (jobData : Json) : Handler :=
  call fun m =>
    let outcome := seedOutcome world.toDeployment r.hostIp env.seedWrite request jobData
    ({ m with files := writeSeeds request.jobId.val outcome.written m.files },
      if outcome.completed && env.chmod then some () else none)

def renderSeeds (request : PhoneHomeRequest) : Handler := do
  let jobData ← readJob request.jobId.val
  store (.text request.jobId.val) (phonedHomeEntry request)
  writeSeedFiles world env r request jobData
  sendResponse 200
  endHeaders
  write (.text "Phone home successful.")

def postPhoneHome : Handler := do
  let request ← validated r (PhoneHomeRequest.ofJson world.coercions)
  except (renderSeeds world env r request) serverError
  exit

def withRunner (job : Str) (m : Machine) : Machine :=
  { m with
    jobTracker := m.jobTracker.set (.text job) m.provisions
    runners := Function.update m.runners m.provisions (some ⟨.unstarted, none⟩)
    provisions := m.provisions + 1 }

def withoutRunner (m : Machine) : Machine := { m with provisions := m.provisions + 1 }

/-- `ansible_runner.run_async` and the entry in `JOB_TRACKER`. -/
def launch (job : Str) : Handler :=
  call fun m => if env.started then (withRunner job m, some ()) else (withoutRunner m, none)

def postProvision : Handler := do
  let data ← validated r (AnsibleProvisionRequest.ofJson world.coercions)
  except (do
    store (.text data.hostname.val) stagingEntry
    launch env data.hostname.val
    sendResponse 202
    sendHeader "Content-Type" "application/json"
    endHeaders
    write (.json (.obj [("status".toList, .str "started".toList),
      ("job_id".toList, .str data.hostname.val),
      ("message".toList, .str "Ansible playbook initiated in the background.".toList)])))
        serverError

/-- The handler's exceptions are its answers other than 200. -/
def recordEvent : Handler :=
  call fun m =>
    let (s, code) := telemetry world.toSite r.body env.logWritten m.toServer
    ({ m with toServer := s }, if code = 200 then some () else none)

def postTelemetry : Handler :=
  except (do
    recordEvent world env r
    sendResponse 200
    endHeaders
    write (.text "Telemetry processed successfully.")
    exit) (do
    serverError
    write (.text "Telemetry processing failed.")
    exit)

inductive Endpoint where
  | progress
  | customIso
  | phoneHome
  | provision
  | telemetry
  deriving DecidableEq

def Endpoint.path : Endpoint → Str
  | progress => "/api/v1/jobs/progress"
  | customIso => "/api/v1/servers/provision/custom-iso"
  | phoneHome => "/api/v1/servers/phone-home"
  | provision => "/api/v1/provision"
  | telemetry => "/api/v1/jobs/telemetry"

def post : Endpoint → Handler
  | .progress => postProgress world r
  | .customIso => postCustomIso world env r
  | .phoneHome => postPhoneHome world env r
  | .provision => postProvision world env r
  | .telemetry => postTelemetry world env r

def doPost : Handler := do
  onlyIf (r.path = Endpoint.progress.path) (post world env r .progress)
  onlyIf (r.path = Endpoint.customIso.path) (post world env r .customIso)
  onlyIf (r.path = Endpoint.phoneHome.path) (post world env r .phoneHome)
  onlyIf (r.path = Endpoint.provision.path) (post world env r .provision)
  onlyIf (r.path = Endpoint.telemetry.path) (post world env r .telemetry)

end Post

/-- One request, from beginning to end. -/
def serve (world : World) (env : Environment) (r : Request) (m : Machine) :
    Effect Machine Sent Unit :=
  match r.method with
  | .get => (doGet (world.disk m.files m.logs) env r).run m
  | .head => (doHead (world.disk m.files m.logs) env.now r.path).run m
  | .post => (doPost world env r).run m

def afterGet (path : Str) (m : Machine) : Machine :=
  m.put { m.toServer with progress := applyWrite m.progress (getWrite m.runners path m.toServer) }

section Get
variable {disk : Storage} {env : Environment} {r : Request} {m : Machine}

def statusResponse (path : Str) (m : Machine) : List Sent :=
  [.status 200, .header "Content-Type" "application/json", .endHeaders,
    .body (.report (statusReport m.runners path m.toServer))]

theorem run_doGet_status (h : IsStatusPath r.path) : (doGet disk env r).run m =
    ⟨statusResponse r.path m, afterGet r.path m, .returned⟩ := by
  rw [doGet, statusBlock, onlyIf_pos h, afterGet, getWrite, if_pos h]
  rfl

theorem run_doGet_other (h : ¬ IsStatusPath r.path) : (doGet disk env r).run m =
    (serveFiles disk env.readLimit r.range r.path).run (afterGet r.path m) := by
  rw [doGet, statusBlock, onlyIf_neg h, value_bind, launcherBlock, afterGet, getWrite, if_neg h]
  cases launcherJob r.path with
  | none =>
    rw [value_bind]
    rfl
  | some job =>
    rw [run_bind]
    rfl

theorem run_doGet_state : ((doGet disk env r).run m).state = afterGet r.path m := by
  by_cases h : IsStatusPath r.path
  · rw [run_doGet_status h]
  · obtain ⟨out, ending, hrun⟩ := stateless_serveFiles disk env.readLimit r.range r.path
    rw [run_doGet_other h, hrun]

end Get

section Methods
variable {world : World} {env : Environment} {r : Request} {m : Machine}

theorem serve_get (h : r.method = .get) :
    serve world env r m = (doGet (world.disk m.files m.logs) env r).run m := by
  unfold serve
  rw [h]

theorem serve_get_state (h : r.method = .get) : (serve world env r m).state =
    afterGet r.path m := by
  rw [serve_get h, run_doGet_state]

theorem serve_head (h : r.method = .head) :
    serve world env r m = (doHead (world.disk m.files m.logs) env.now r.path).run m := by
  unfold serve
  rw [h]

theorem serve_head_state (h : r.method = .head) : (serve world env r m).state = m := by
  obtain ⟨out, ending, hrun⟩ := stateless_doHead (world.disk m.files m.logs) env.now r.path
  rw [serve_head h, hrun]

theorem serve_doPost (h : r.method = .post) : serve world env r m = (doPost world env r).run m := by
  unfold serve
  rw [h]

end Methods

section Endpoints
variable {world : World} {env : Environment} {r : Request} {m : Machine}

theorem Endpoint.path_injective {e e' : Endpoint} (h : e.path = e'.path) : e = e' := by
  cases e <;> cases e' <;> first | rfl | exact absurd h (by decide)

theorem run_store (key : Key) (entry : Entry) :
    (store key entry).run m = ⟨[], m.put (m.toServer.setProgress key entry), .value ()⟩ := rfl

theorem doPost_endpoint {e : Endpoint} (h : r.path = e.path) :
    doPost world env r = post world env r e := by
  have hskip : ∀ e', e' ≠ e → ∀ p : Handler, onlyIf (r.path = e'.path) p = pure () := by
    intro e' hne p
    refine onlyIf_neg (fun hpath => hne ?_) p
    exact Endpoint.path_injective (hpath.symm.trans h)
  cases e <;>
    simp only [doPost, onlyIf_pos h, hskip, value_bind, bind_unit, ne_eq, not_false_eq_true,
      reduceCtorEq]

theorem doPost_other (h : ∀ e : Endpoint, r.path ≠ e.path) : doPost world env r = pure () := by
  simp only [doPost, onlyIf_neg (h _), value_bind]

theorem serve_endpoint (h : r.method = .post) {e : Endpoint} (hpath : r.path = e.path) :
    serve world env r m = (post world env r e).run m := by
  rw [serve_doPost h, doPost_endpoint hpath]

/-- The response to a body that is not accepted. -/
def rejection {α : Type} (result : Option (Except Rejection α)) : List Sent :=
  match result with
  | some (.error (.invalid errors)) =>
    [.status 400, .header "Content-Type" "application/json", .endHeaders, .body (.errors errors)]
  | _ => [.status 400, .endHeaders]

section Validated
variable {α : Type} {ofJson : Json → Except Rejection α} {f : α → Handler}

theorem run_validated_ok {a : α} (h : r.body.map ofJson = some (.ok a)) :
    (validated r ofJson >>= f).run m = (f a).run m := by
  rw [validated, h, value_bind]

theorem run_validated_rejected (h : ∀ a, r.body.map ofJson ≠ some (.ok a)) :
    (validated r ofJson >>= f).run m = ⟨rejection (r.body.map ofJson), m, .returned⟩ := by
  unfold validated rejection
  cases hbody : r.body.map ofJson with
  | none => rfl
  | some result =>
    cases result with
    | ok a => exact absurd hbody (h a)
    | error e => cases e <;> rfl

/-- The response of a handler that validates the body first. -/
def validatedResponse (r : Request) (ofJson : Json → Except Rejection α) (answer : α → List Sent) :
    List Sent :=
  match r.body.map ofJson with
  | some (.ok a) => answer a
  | result => rejection result

theorem validatedResponse_ok {answer : α → List Sent} {a : α}
    (h : r.body.map ofJson = some (.ok a)) :
    validatedResponse r ofJson answer = answer a := by
  rw [validatedResponse, h]

theorem validatedResponse_rejected {answer : α → List Sent}
    (h : ∀ a, r.body.map ofJson ≠ some (.ok a)) :
    validatedResponse r ofJson answer = rejection (r.body.map ofJson) := by
  unfold validatedResponse
  split
  · rename_i a ha
    exact absurd ha (h a)
  · rfl

end Validated

def progressResponse (code : ℕ) : List Sent :=
  if code = 200 then [.status 200, .endHeaders,
    .body (.text "Progress state successfully processed.")]
  else [.status code, .endHeaders]

theorem run_postProgress : (postProgress world r).run m =
    ⟨progressResponse (progressHook world.toSite r.body m.toServer).2,
      m.put (progressHook world.toSite r.body m.toServer).1, .returned⟩ := by
  unfold postProgress progressHook
  cases hookWrite world.toSite r.body with
  | none => rfl
  | some write => rfl

def telemetryResponse (code : ℕ) : List Sent :=
  if code = 200 then [.status 200, .endHeaders, .body (.text "Telemetry processed successfully.")]
  else [.status 500, .endHeaders, .body (.text "Telemetry processing failed.")]

theorem run_postTelemetry : (postTelemetry world env r).run m =
    ⟨telemetryResponse (telemetry world.toSite r.body env.logWritten m.toServer).2,
      m.put (telemetry world.toSite r.body env.logWritten m.toServer).1, .returned⟩ := by
  unfold postTelemetry
  by_cases hcode : (telemetry world.toSite r.body env.logWritten m.toServer).2 = 200
  · have hcall : (recordEvent world env r).run m =
        ⟨[], m.put (telemetry world.toSite r.body env.logWritten m.toServer).1, .value ()⟩ :=
      run_call_some (by simp only [hcode, if_true, Machine.put])
    rw [telemetryResponse, if_pos hcode]
    rw [run_except, run_bind_value hcall]
    rfl
  · have hcall : (recordEvent world env r).run m =
        ⟨[], m.put (telemetry world.toSite r.body env.logWritten m.toServer).1, .raised⟩ :=
      run_call_none (by simp only [hcode, if_false, Machine.put])
    rw [telemetryResponse, if_neg hcode]
    rw [run_except, run_bind_raised hcall]
    rfl

def isoRequest (env : Environment) (r : Request) : IsoRequest :=
  ⟨r.hostIp, r.body, env.save, env.outcomes⟩

def customIsoResponse (world : World) (r : Request) (code : ℕ) : List Sent :=
  validatedResponse r (ProvisionCustomISORequest.ofJson world.coercions) fun request =>
    if code = 200 then [.status 200, .header "Content-Type" "application/json", .endHeaders,
      .body (.json (isoResponse r.hostIp request.hostname.val))]
    else [.status 500, .endHeaders]

theorem jobId_of_jobData {site : Site} {host : Str} {request : ProvisionCustomISORequest}
    {data : JobData} (h : jobData site host request = some data) :
    jobId data = request.hostname.val := by
  simp only [jobData, Option.bind_eq_bind, Option.bind_eq_some_iff, Option.pure_def,
    Option.some.injEq] at h
  obtain ⟨-, -, -, -, -, -, -, -, -, -, -, -, rfl⟩ := h
  rfl

/-- The `try` block of the handler, with the answer 500 for its exceptions. -/
theorem run_buildIso {request : ProvisionCustomISORequest} {value : Json}
    (hbody : r.body = some value)
    (hvalid : ProvisionCustomISORequest.ofJson world.coercions value = .ok request) :
    (except (buildIso world env r request) serverError).run m =
      ⟨customIsoResponse world r (customIso world.toSite m.toServer (isoRequest env r)).2,
        m.put (customIso world.toSite m.toServer (isoRequest env r)).1, .value ()⟩ := by
  rw [customIsoResponse, validatedResponse_ok (a := request)
    (by rw [hbody, Option.map_some, hvalid])]
  unfold buildIso customIso accept isoRequest
  simp only [hbody, hvalid]
  cases hdata : jobData world.toSite r.hostIp request with
  | none => rfl
  | some data =>
    rw [← jobId_of_jobData hdata]
    dsimp only [orRaise]
    rw [value_bind]
    rcases hsave : saveJob data env.save m.files with ⟨files, saved⟩
    cases saved with
    | false =>
      have hcall : (saveJobFile env data).run
          (m.put (m.toServer.setProgress (.text (jobId data)) bootingEntry)) =
          ⟨[], m.put { m.toServer.setProgress (.text (jobId data)) bootingEntry with files },
              .raised⟩ :=
        run_call_none (by simp [Machine.put, hsave])
      simp only [Server.setProgress_files, hsave]
      rw [run_except, run_bind_value (run_store _ _), Effect.after_nil, run_bind_raised hcall]
      rfl
    | true =>
      have hcall : (saveJobFile env data).run
          (m.put (m.toServer.setProgress (.text (jobId data)) bootingEntry)) =
          ⟨[], m.put { m.toServer.setProgress (.text (jobId data)) bootingEntry with files },
              .value ()⟩ :=
        run_call_some (by simp [Machine.put, hsave])
      simp only [Server.setProgress_files, hsave]
      rcases hrun : runCommands world.toSite (jobId data) env.outcomes pipeline files with
        ⟨built, success⟩
      have hcall' : (runPipeline world env data).run
          (m.put { m.toServer.setProgress (.text (jobId data)) bootingEntry with files }) =
          ⟨[], m.put { m.toServer.setProgress (.text (jobId data)) bootingEntry with
            files := built }, .value success⟩ :=
        run_call_some (by simp [Machine.put, hrun])
      rw [run_except, run_bind_value (run_store _ _), Effect.after_nil, run_bind_value hcall,
        Effect.after_nil, run_bind_value hcall']
      cases success <;> rfl

theorem customIso_rejected {s : Server}
    (h : ∀ a, r.body.map (ProvisionCustomISORequest.ofJson world.coercions) ≠ some (.ok a)) :
    customIso world.toSite s (isoRequest env r) = (s, 400) := by
  unfold customIso accept isoRequest
  dsimp only
  cases hbody : r.body with
  | none => rfl
  | some value =>
    cases hvalid : ProvisionCustomISORequest.ofJson world.coercions value with
    | error e => simp only [hvalid]
    | ok request => exact absurd (by rw [hbody, Option.map_some, hvalid]) (h request)

theorem run_postCustomIso : (postCustomIso world env r).run m =
    ⟨customIsoResponse world r (customIso world.toSite m.toServer (isoRequest env r)).2,
      m.put (customIso world.toSite m.toServer (isoRequest env r)).1, .returned⟩ := by
  unfold postCustomIso
  by_cases hvalid : ∃ request,
      r.body.map (ProvisionCustomISORequest.ofJson world.coercions) = some (.ok request)
  · obtain ⟨request, hrequest⟩ := hvalid
    obtain ⟨value, hbody, hvalid⟩ := Option.map_eq_some_iff.mp hrequest
    rw [run_validated_ok hrequest, run_bind_value (run_buildIso hbody hvalid), run_exit,
      Effect.after_mk, List.append_nil]
  · have hnot : ∀ a, r.body.map (ProvisionCustomISORequest.ofJson world.coercions) ≠ some (.ok a) :=
      fun a ha => hvalid ⟨a, ha⟩
    rw [run_validated_rejected hnot, customIso_rejected hnot, customIsoResponse,
      validatedResponse_rejected hnot]
    rfl

def phoneHomeResponse (world : World) (r : Request) (code : ℕ) : List Sent :=
  validatedResponse r (PhoneHomeRequest.ofJson world.coercions) fun _ =>
    if code = 200 then [.status 200, .endHeaders, .body (.text "Phone home successful.")]
    else [.status 500, .endHeaders]

theorem phoneHomeRequest_eq_some {request : PhoneHomeRequest} :
    phoneHomeRequest world.toSite r.body = some request ↔
      r.body.map (PhoneHomeRequest.ofJson world.coercions) = some (.ok request) := by
  unfold phoneHomeRequest
  cases r.body with
  | none => simp
  | some value =>
    cases hvalid : PhoneHomeRequest.ofJson world.coercions value with
    | error e => simp [hvalid, Except.toOption]
    | ok request' => simp [hvalid, Except.toOption]

def served (world : World) (env : Environment) (r : Request) (s : Server) : Server × ℕ :=
  servePhoneHome world.toDeployment r.hostIp env.seedWrite env.chmod r.body s

theorem run_renderSeeds {request : PhoneHomeRequest}
    (hrequest : phoneHomeRequest world.toSite r.body = some request) :
    (except (renderSeeds world env r request) serverError).run m =
      ⟨phoneHomeResponse world r (served world env r m.toServer).2,
        m.put (served world env r m.toServer).1, .value ()⟩ := by
  rw [phoneHomeResponse, validatedResponse_ok (phoneHomeRequest_eq_some.mp hrequest), served,
    renderSeeds, run_except]
  cases hfile : loadJob m.files request.jobId.val with
  | some value =>
    have hread : (readJob request.jobId.val).run m = ⟨[], m, .value value⟩ :=
      run_call_some (by rw [hfile])
    rw [servePhoneHome_loaded hrequest hfile, run_bind_value hread, Effect.after_nil,
      run_bind_value (run_store _ _), Effect.after_nil]
    dsimp only
    by_cases hcompleted : ((seedOutcome world.toDeployment r.hostIp env.seedWrite request
        value).completed && env.chmod) = true
    · have hwrite : (writeSeedFiles world env r request value).run
          (m.put (m.toServer.setProgress (.text request.jobId.val) (phonedHomeEntry request))) =
          ⟨[], _, .value ()⟩ := run_call_some (by simp only [hcompleted, if_true]; rfl)
      rw [run_bind_value hwrite]
      simp only [hcompleted, if_true]
      rfl
    · have hwrite : (writeSeedFiles world env r request value).run
          (m.put (m.toServer.setProgress (.text request.jobId.val) (phonedHomeEntry request))) =
          ⟨[], _, .raised⟩ := run_call_none (by simp only [hcompleted]; rfl)
      rw [run_bind_raised hwrite]
      simp only [hcompleted]
      rfl
  | none =>
    have hread : (readJob request.jobId.val).run m = ⟨[], m, .raised⟩ :=
      run_call_none (by rw [hfile])
    rw [servePhoneHome_unreadable hrequest hfile, run_bind_raised hread]
    rfl

theorem run_postPhoneHome : (postPhoneHome world env r).run m =
    ⟨phoneHomeResponse world r (served world env r m.toServer).2,
      m.put (served world env r m.toServer).1, .returned⟩ := by
  unfold postPhoneHome
  cases hrequest : phoneHomeRequest world.toSite r.body with
  | some request =>
    rw [run_validated_ok (phoneHomeRequest_eq_some.mp hrequest),
      run_bind_value (run_renderSeeds hrequest), run_exit, Effect.after_mk, List.append_nil]
  | none =>
    have hnot : ∀ a, r.body.map (PhoneHomeRequest.ofJson world.coercions) ≠ some (.ok a) := by
      intro a ha
      rw [phoneHomeRequest_eq_some.mpr ha] at hrequest
      cases hrequest
    rw [run_validated_rejected hnot, served, servePhoneHome_rejected hrequest, phoneHomeResponse,
      validatedResponse_rejected hnot]
    rfl

/-- The machine after a provisioning request for the job. -/
def provisioned (env : Environment) (job : Str) (m : Machine) : Machine :=
  let m := m.put (m.toServer.setProgress (.text job) stagingEntry)
  if env.started then withRunner job m else withoutRunner m

def provisionResponse (world : World) (env : Environment) (r : Request) : List Sent :=
  validatedResponse r (AnsibleProvisionRequest.ofJson world.coercions) fun data =>
    if env.started then [.status 202, .header "Content-Type" "application/json", .endHeaders,
      .body (.json (.obj [("status".toList, .str "started".toList),
        ("job_id".toList, .str data.hostname.val),
        ("message".toList, .str "Ansible playbook initiated in the background.".toList)]))]
    else [.status 500, .endHeaders]

theorem provisionJob_eq {data : AnsibleProvisionRequest}
    (h : r.body.map (AnsibleProvisionRequest.ofJson world.coercions) = some (.ok data)) :
    provisionJob world.toSite r.body = some data.hostname.val := by
  obtain ⟨value, hbody, hvalid⟩ := Option.map_eq_some_iff.mp h
  rw [provisionJob, hbody, Option.bind_some, hvalid]
  rfl

theorem provisionJob_eq_none
    (h : ∀ a, r.body.map (AnsibleProvisionRequest.ofJson world.coercions) ≠ some (.ok a)) :
    provisionJob world.toSite r.body = none := by
  unfold provisionJob
  cases hbody : r.body with
  | none => rfl
  | some value =>
    cases hvalid : AnsibleProvisionRequest.ofJson world.coercions value with
    | error e =>
      rw [Option.bind_some, hvalid]
      rfl
    | ok data => exact absurd (by rw [hbody, Option.map_some, hvalid]) (h data)

theorem run_postProvision : ∃ ending, (postProvision world env r).run m =
    ⟨provisionResponse world env r, match provisionJob world.toSite r.body with
      | some job => provisioned env job m
      | none => m, ending⟩ := by
  unfold postProvision provisionResponse
  by_cases hvalid : ∃ data,
      r.body.map (AnsibleProvisionRequest.ofJson world.coercions) = some (.ok data)
  · obtain ⟨data, hdata⟩ := hvalid
    rw [run_validated_ok hdata, validatedResponse_ok hdata, provisionJob_eq hdata, run_except,
      run_bind_value (run_store _ _), Effect.after_nil]
    refine ⟨.value (), ?_⟩
    dsimp only [provisioned]
    by_cases hstarted : env.started = true
    · have hlaunch : ∀ m, (launch env data.hostname.val).run m =
          ⟨[], withRunner data.hostname.val m, .value ()⟩ :=
            fun m => run_call_some (if_pos hstarted)
      rw [if_pos hstarted, if_pos hstarted, run_bind_value (hlaunch _)]
      rfl
    · have hlaunch : ∀ m, (launch env data.hostname.val).run m = ⟨[], withoutRunner m, .raised⟩ :=
        fun m => run_call_none (if_neg hstarted)
      rw [if_neg hstarted, if_neg hstarted, run_bind_raised (hlaunch _)]
      rfl
  · have hnot : ∀ a, r.body.map (AnsibleProvisionRequest.ofJson world.coercions) ≠ some (.ok a) :=
      fun a ha => hvalid ⟨a, ha⟩
    refine ⟨.returned, ?_⟩
    rw [run_validated_rejected hnot, validatedResponse_rejected hnot, provisionJob_eq_none hnot]

end Endpoints

/-- Nothing goes wrong. -/
def calm : Environment where
  now := "Thu, 01 Jan 2026 00:00:00 GMT"
  readLimit := 1048576
  logWritten := true
  save := .saved
  outcomes _ := .done
  seedWrite _ := .written
  chmod := true
  started := true

def worldWith (disk : Storage) : World := { exampleDeployment with disk := fun _ _ => disk }

/-- One file. -/
def single (path : Str) (object : FsObject) : Storage :=
  fun path' => if path' = path then some object else none

def bare (method : Method) (path : Str) : Request := ⟨method, path, none, none, none⟩

def emptyMachine : Machine := Machine.started (fun _ => []) (fun _ => none)

end Astro.HttpMethods
