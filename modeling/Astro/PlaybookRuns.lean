import Astro.AnsibleInventory
import Astro.JobUrls
import Astro.RedfishStaging

/-!
# A playbook from the custom-iso request to the restart

`playbookDell.yml` and `playbookSupermicro.yml` ask the config server for an ISO and hand the
URL from its answer to the tasks for the management controller. The server may do anything else
in the meantime.
-/

namespace Astro.PlaybookRuns

open PythonText JobPaths RequestModels IpxePipeline CustomIsoHandler FileServing HttpMethods
  HostNames JobUrls AnsibleInventory ServiceClients RedfishStaging

def customIsoRequest (apiBaseUrl : Str) (body : Json) : RedfishStaging.Request :=
  .uri .post (apiBaseUrl ++ ("/api/v1/servers/provision/custom-iso" : Str)) [] [] (some body)

/-- `isoResponse.json.body.iso_url`, which is a text. -/
def generatedIsoUrl (response : Option Json) : Option Str :=
  match response.bind (bodyField · "iso_url") with
  | some (.str url) => some url
  | _ => none

def getCustomISO (inventory : Inventory) : Tasks (Option Str) :=
  match inventory.lookup "api_base_url", customIsoBody inventory with
  | some (.str apiBaseUrl), some body =>
    (uri (customIsoRequest apiBaseUrl body) [200]).andThen fun response =>
      .done (generatedIsoUrl response)
  | _, _ => .done none

def lookupText (inventory : Inventory) (name : Str) : Option Str :=
  match inventory.lookup name with
  | some (.str text) => some text
  | _ => none

/-- The variables of the host; `ansible_host` stands for `os_ipv4_address`. -/
def target (inventory : Inventory) : Option Target := do
  let bmcAddress ← lookupText inventory "bmc_address"
  let bmcUser ← lookupText inventory "bmc_user"
  let bmcPassword ← lookupText inventory "bmc_password"
  let ansibleHost ← lookupText inventory "os_ipv4_address"
  let osUsername ← lookupText inventory "os_username"
  let osPassword ← lookupText inventory "os_password"
  return ⟨bmcAddress, bmcUser, bmcPassword, ansibleHost, osUsername, osPassword⟩

def playbookDell (inventory : Inventory) : Tasks (Option Unit) :=
  (getCustomISO inventory).andThen fun iso =>
    (target inventory).elim (.done none) fun t => provisionDellHW t iso

def playbookSupermicro (inventory : Inventory) : Tasks (Option Unit) :=
  (getCustomISO inventory).andThen fun iso =>
    (target inventory).elim (.done none) fun t => provisionWTRHW t iso

/-- The run that `/api/v1/provision` starts. -/
def provisionRun (hostIp : Str) (data : AnsibleProvisionRequest) : Tasks (Option Unit) :=
  if data.isWtr then playbookSupermicro (buildAnsibleInventory (dump data) hostIp data.isWtr)
  else playbookDell (buildAnsibleInventory (dump data) hostIp data.isWtr)

def vendor (data : AnsibleProvisionRequest) : Vendor := if data.isWtr then wtr else dell

def targetOf (data : AnsibleProvisionRequest) : Target :=
  ⟨data.bmcAddress.val, data.bmcUsername.val, data.bmcPassword.val, data.ipv4.address.val,
    data.username.val, data.password.val⟩

/-- What the module `uri` makes of a response. -/
def answered (sent : List Sent) : Answer where
  status := (sent.findSome? Sent.status?).elim (-1) (↑)
  json := sent.findSome? fun
    | .body (.json value) => some value
    | _ => none

/-- The custom-iso request as the server gets it. -/
def isoPost (host : Str) (body : Json) : HttpMethods.Request :=
  ⟨.post, Endpoint.customIso.path, some host, none, some body⟩

/-- The server and the controller. When the custom-iso request arrives, of which a run makes
one, the server is in the given state and the system does what the environment says. -/
inductive Serves (world : World) (env : Environment) (m : Machine)
    (bmc : Controller → RedfishStaging.Request → Answer → Controller → Prop) :
    Controller → RedfishStaging.Request → Answer → Controller → Prop
  | api (c : Controller) (host : Str) (body : Json) :
      Serves world env m bmc c (customIsoRequest (("https://" : Str) ++ host) body)
        (answered (serve world env (isoPost host body) m).output) c
  | bmc {c c' : Controller} {request : RedfishStaging.Request} {answer : Answer}
    (h : bmc c request answer c')
      (hapi : ∀ host body, request ≠ customIsoRequest (("https://" : Str) ++ host) body) :
      Serves world env m bmc c request answer c'

section Run
variable {world : World} {env : Environment} {m : Machine}
  {bmc : Controller → RedfishStaging.Request → Answer → Controller → Prop} {hostIp : Str}
  {data : AnsibleProvisionRequest}

/-- The tasks for the controller that the run ends with. -/
def staging (data : AnsibleProvisionRequest) (iso : Str) : Tasks (Option Unit) :=
  if data.isWtr then provisionWTRHW (targetOf data) iso else provisionDellHW (targetOf data) iso

theorem provisionRun_eq : provisionRun hostIp data =
    ((uri (customIsoRequest (("https://" : Str) ++ hostIp) (.obj (forwardedFields data)))
      [200]).andThen
      fun response => .done (generatedIsoUrl response)).andThen (staging data) := by
  have hbody : customIsoBody (buildAnsibleInventory (dump data) hostIp data.isWtr) =
      some (.obj (forwardedFields data)) :=
    forwarded_eq hostIp data
  have hbase : (buildAnsibleInventory (dump data) hostIp data.isWtr).lookup "api_base_url" =
      some (.str (("https://" : Str) ++ hostIp)) := rfl
  have htarget : target (buildAnsibleInventory (dump data) hostIp data.isWtr) =
      some (targetOf data) := rfl
  unfold provisionRun playbookSupermicro playbookDell getCustomISO staging
  rw [hbody, hbase, htarget]
  split <;> rfl

theorem staging_mem (data : AnsibleProvisionRequest) (iso : Str) :
    (vendor data, staging data iso) ∈ stagings (targetOf data) iso := by
  unfold vendor staging
  cases data.isWtr
  · exact List.mem_cons_self
  · exact List.mem_cons_of_mem _ List.mem_cons_self

theorem accept_error {site : Site} {host : Str} {body : Option Json} {code : ℕ}
    (h : accept site host body = .error code) :
    code ≠ 200 := by
  unfold accept at h
  split at h
  · cases h
    decide
  · split at h
    · cases h
      decide
    · split at h
      · cases h
        decide
      · cases h

/-- A custom-iso request that is answered with 200 was accepted, and the answer names its ISO. -/
theorem answered_isoPost {body : Json}
    (h : (answered (serve world env (isoPost hostIp body) m).output).status = 200) :
    ∃ jobData, accept world.toSite hostIp (some body) = .ok jobData ∧
      (customIso world.toSite m.toServer (isoRequest env (isoPost hostIp body))).2 = 200 ∧
      statusLines (serve world env (isoPost hostIp body) m).output = [200] ∧
      (answered (serve world env (isoPost hostIp body) m).output).json =
        some (isoResponse hostIp (jobId jobData)) := by
  have houtput : (serve world env (isoPost hostIp body) m).output =
    customIsoResponse world (isoPost hostIp body)
      (customIso world.toSite m.toServer (isoRequest env (isoPost hostIp body))).2 := by
    have hpath : (isoPost hostIp body).path = Endpoint.customIso.path := rfl
    rw [serve_endpoint rfl hpath, post, run_postCustomIso]
  rw [houtput] at h ⊢
  cases haccept : accept world.toSite hostIp (some body) with
  | error code =>
    have hcode : (customIso world.toSite m.toServer (isoRequest env (isoPost hostIp body))).2 =
        code := by
      have haccept' : accept world.toSite (isoRequest env (isoPost hostIp body)).host
          (isoRequest env (isoPost hostIp body)).body = .error code := haccept
      rw [customIso, haccept']
    rw [hcode, customIsoResponse, validatedResponse] at h
    split at h
    · rw [if_neg (accept_error haccept)] at h
      exact absurd h (by decide)
    · unfold rejection at h
      have hnot : ((400 : ℕ) : ℤ) ≠ 200 := by decide
      split at h <;> exact (hnot h).elim
  | ok jobData =>
    obtain ⟨request, hvalid, hdata⟩ := accept_eq_ok haccept
    have hjob := jobId_of_jobData hdata
    rw [customIsoResponse, validatedResponse_ok hvalid] at h ⊢
    split_ifs at h ⊢ with hcode
    · exact ⟨jobData, rfl, hcode, rfl, by rw [hjob]; rfl⟩
    · exact absurd h (by decide)

/-- The first tasks get the URL of the ISO from the server, or fail. -/
theorem run_getCustomISO {body : Json} {c c' : Controller} {iso : Option Str}
    (h : Run (Serves world env m bmc)
      ((uri (customIsoRequest (("https://" : Str) ++ hostIp) body) [200]).andThen
      fun response => .done (generatedIsoUrl response)) c iso c') :
    c' = c ∧ ∀ url ∈ iso, ∃ jobData, accept world.toSite hostIp (some body) = .ok jobData ∧
      (customIso world.toSite m.toServer (isoRequest env (isoPost hostIp body))).2 = 200 ∧
      statusLines (serve world env (isoPost hostIp body) m).output = [200] ∧
      url = ("http://" : Str) ++ hostIp ++ automationPath (jobId jobData)
        (isoName (jobId jobData)) := by
  obtain ⟨response, c₁, huri, hrest⟩ := run_bind_iff.mp h
  obtain ⟨answer, c₂, hserves, hdone⟩ := run_call_iff.mp huri
  obtain ⟨rfl, rfl⟩ := run_done_iff.mp hdone
  generalize hrequest : customIsoRequest (("https://" : Str) ++ hostIp) body = request at hserves
  cases hserves with
  | bmc _ hapi => exact absurd hrequest.symm (hapi _ _)
  | api host body' =>
    injection hrequest with _ hurl _ _ hbody
    obtain rfl := List.append_cancel_left (List.append_cancel_right hurl)
    obtain rfl := Option.some.inj hbody
    split_ifs at hrest with hstatus
    · obtain ⟨rfl, rfl⟩ := run_done_iff.mp hrest
      obtain ⟨jobData, haccept, hcode, hlines, hjson⟩ :=
        answered_isoPost (List.mem_singleton.mp hstatus)
      refine ⟨rfl, fun url hmem => ⟨jobData, haccept, hcode, hlines, ?_⟩⟩
      have hurl : generatedIsoUrl (some (isoResponse hostIp (jobId jobData))) =
          some (("http://" : Str) ++ hostIp ++ automationPath (jobId jobData)
              (isoName (jobId jobData))) := by
        rw [generatedIsoUrl, Option.bind_some, (isoResponse_urls hostIp (jobId jobData)).1]
      rw [hjson, hurl] at hmem
      exact (Option.some.inj hmem).symm
    · obtain ⟨rfl, rfl⟩ := run_done_iff.mp hrest
      exact ⟨rfl, fun url hmem => absurd hmem (Option.some_ne_none url).symm⟩

/-- The job of the request that was passed on is the one that was asked for. -/
theorem accept_forwarded (hbool : ∀ b, world.coercions.bool (.bool b) = some b) {jobData : JobData}
    (h : accept world.toSite hostIp (some (.obj (forwardedFields data))) = .ok jobData) :
    ∃ ipv6, jobData.request = arrived data ipv6 := by
  obtain ⟨request, hvalid, hdata⟩ := accept_eq_ok h
  obtain ⟨hrequest, -⟩ := jobData_spec hdata
  have hfields := Option.some.inj hvalid
  rw [ProvisionCustomISORequest.ofJson, construct, ofFields_forwarded hbool] at hfields
  cases hipv6 : Ipv6Fields.ofFields (forwardedFields data) with
  | error error =>
    rw [hipv6] at hfields
    cases hfields
  | ok ipv6 =>
    rw [hipv6] at hfields
    cases hfields
    exact ⟨ipv6, hrequest⟩

/-- The tasks for the controller do not talk to the server. -/
theorem run_staging {iso : Str} {c c' : Controller} {result : Option Unit}
    (h : Run (Serves world env m bmc) (staging data iso) c result c') :
    Run bmc (staging data iso) c result c' := by
  refine h.mono (asks_stagings (staging_mem data iso)) fun s request answer t huser hserves => ?_
  cases hserves with
  | bmc hbmc => exact hbmc
  | api => exact absurd huser.symm data.bmcUsername.property

end Run

/-- The run that an accepted provisioning request starts: if the server is booted at all, it is
booted from the URL of the ISO of this job, and the custom-iso request of the run was accepted
with the fields of the provisioning request and answered with 200; unless its composition of the
script raised an exception, the file behind the URL then was the ISO with the boot script of the
job. -/
theorem provisioning_boots_own_iso {world : World} {env : Environment} {m : Machine}
    {bmc : Controller → RedfishStaging.Request → Answer → Controller → Prop} {hostIp : Str}
    {data : AnsibleProvisionRequest} (hname : IsHostName data.hostname.val)
    (hbool : ∀ b, world.coercions.bool (.bool b) = some b)
    (hconforms : ∀ iso, Conforms (vendor data) (targetOf data) iso bmc)
    (hinserts : 202 ∈ (vendor data).insertCodes →
      ∀ iso, InsertsAtOnce (vendor data) (targetOf data) iso bmc)
    {c c' : Controller} {result : Option Unit}
    (hothers : ∀ slot ∉ (vendor data).ejected, c.media slot = none)
    (hrun : Run (Serves world env m bmc) (provisionRun hostIp data) c result c') :
    let served := serve world env (isoPost hostIp (.obj (forwardedFields data))) m
    (c'.boots = c.boots ∧ result = none) ∨
      ∃ (url : Str) (jobData : JobData), c'.boots = c.boots ++ [some url] ∧
        LeadsTo hostIp url data.hostname.val (isoName data.hostname.val)
          (isoPath data.hostname.val) ∧
        accept world.toSite hostIp (some (.obj (forwardedFields data))) = .ok jobData ∧
        (∃ ipv6, jobData.request = arrived data ipv6) ∧ statusLines served.output = [200] ∧
        ((∀ fault, env.outcomes .compose ≠ .raises fault) →
          served.state.files (isoPath data.hostname.val) =
            some (bootableIso (bootScript world.toSite jobData))) := by
  intro served
  rw [provisionRun_eq] at hrun
  obtain ⟨iso, c₁, hfirst, hrest⟩ := run_bind_iff.mp hrun
  obtain ⟨rfl, hurl⟩ := run_getCustomISO hfirst
  cases iso with
  | none =>
    obtain ⟨rfl, rfl⟩ := run_done_iff.mp hrest
    exact Or.inl ⟨rfl, rfl⟩
  | some url =>
    obtain ⟨jobData, haccept, hcode, hlines, heq⟩ := hurl url rfl
    obtain ⟨ipv6, hrequest⟩ := accept_forwarded hbool haccept
    have hjob : jobId jobData = data.hostname.val := by rw [jobId, hrequest]; rfl
    rw [hjob] at heq
    obtain ⟨afterwards, htasks, hafterwards⟩ := stagings_spec (staging_mem data url)
    have hstaging := run_staging hrest
    rw [htasks] at hstaging
    have hboots := ensures_boots (hconforms url) (fun hnot => absurd trivial hnot) hafterwards
      (fun hcodes => hinserts hcodes url) _ result c' ⟨rfl, hothers⟩ hstaging
    refine hboots.imp And.right fun hboots =>
      ⟨url, jobData, hboots, heq ▸ leadsTo_iso hname hostIp, haccept, ⟨ipv6, hrequest⟩, hlines, ?_⟩
    intro hcompose
    have hown :=
      (answeredWithOwnIso_iff world.toSite m.toServer (isoRequest env (isoPost hostIp _))).mpr
      (fun _ fault _ hfault => absurd hfault (hcompose fault)) jobData haccept hcode
    have hpath : (isoPost hostIp (.obj (forwardedFields data))).path = Endpoint.customIso.path :=
      rfl
    change (serve world env (isoPost hostIp (.obj (forwardedFields data))) m).state.files _ = _
    rw [serve_endpoint rfl hpath, post, run_postCustomIso, ← hjob]
    exact hown

theorem exists_serves {world : World} {env : Environment} {m : Machine} {v : Vendor} {t : Target}
    (c : Controller) (request : RedfishStaging.Request) : ∃ answer c',
      Serves world env m (Obeys v t) c request answer c' := by
  by_cases hapi : ∃ host body, request = customIsoRequest (("https://" : Str) ++ host) body
  · obtain ⟨host, body, rfl⟩ := hapi
    exact ⟨_, _, .api c host body⟩
  · obtain ⟨answer, c', h⟩ := exists_obeys (v := v) (t := t) c request
    exact ⟨answer, c', .bmc h fun host body heq => hapi ⟨host, body, heq⟩⟩

/-- The request of the run finds a server that has just been started. -/
theorem provisioning_boots_own_iso_nodeA :
    ∃ result c', Run (Serves (worldWith fun _ => none) calm emptyMachine
      (Obeys dell (targetOf (dataWith true noIpv6))))
        (provisionRun "10.0.0.1" (dataWith true noIpv6)) (exampleController "CD") result c' ∧
      ((c'.boots = [] ∧ result = none) ∨
        ∃ (url : Str) (jobData : JobData), c'.boots = [] ++ [some url] ∧
          LeadsTo "10.0.0.1" url "node-a" (isoName "node-a") (isoPath "node-a") ∧
          accept (worldWith fun _ => none).toSite "10.0.0.1"
            (some (.obj (forwardedFields (dataWith true noIpv6)))) =
            .ok jobData ∧
          (serve (worldWith fun _ => none) calm
              (isoPost "10.0.0.1" (.obj (forwardedFields (dataWith true noIpv6))))
                emptyMachine).state.files
              (isoPath "node-a") =
            some (bootableIso (bootScript (worldWith fun _ => none).toSite jobData))) := by
  obtain ⟨result, c', hrun⟩ :=
    exists_run exists_serves (provisionRun "10.0.0.1" (dataWith true noIpv6))
      (exampleController "CD")
  have hname : IsHostName (dataWith true noIpv6).hostname.val := by decide
  have hothers : ∀ slot ∉ dell.ejected, (exampleController "CD").media slot = none :=
    fun slot hslot => if_neg fun heq => hslot (List.mem_singleton.mpr heq)
  refine ⟨result, c', hrun, (provisioning_boots_own_iso hname (fun _ => rfl)
    (fun iso => conforms_obeys iso)
    (fun _ iso => insertsAtOnce_obeys iso) hothers hrun).imp_right ?_⟩
  rintro ⟨url, jobData, hboots, hleads, haccept, -, -, hiso⟩
  exact ⟨url, jobData, hboots, hleads, haccept, hiso fun _ hraises => by cases hraises⟩

end Astro.PlaybookRuns
