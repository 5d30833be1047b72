import Astro.HostNames
import Astro.SimultaneousRendering

/-!
# The IPv6 settings of a rendered `user-data`

The validators pair an IPv6 address with a gateway only when both fields are in the body. The
pair then goes through `job.json`, a second round of defaults and the renderer; what the
template assigns to `V6` and `GW6` in the end is computed here from the accepted body.
-/

namespace Astro.Ipv6Pairs

open PythonText TemplateChunks JobPaths RequestModels IpxePipeline ServerHandlers CustomIsoHandler
  SeedRendering RepositorySite RepositoryTemplates SimultaneousRendering HostNames

section Settings
variable (py : PythonStr) {data : JobData}

theorem ipv6Settings_of_not_given (h : ¬ Given data.request.ipv6.address.val) :
    ipv6Settings py (jobFields data) = ([], []) := by
  have hfalsy : (Fields.getD (jobFields data) "ipv6_address" (.str [])).truthy = false := by
    change (data.request.ipv6.address.val.elim Json.null Json.str).truthy = false
    cases haddress : data.request.ipv6.address.val with
    | none => rfl
    | some a =>
      have hnil : a = [] := by
        by_contra hne
        exact h ⟨a, haddress, hne⟩
      rw [hnil]
      rfl
  rw [ipv6Settings]
  dsimp only
  rw [hfalsy]
  rfl

theorem ipv6Settings_of_given {a : Str} (h : data.request.ipv6.address.val = some a)
    (hne : a ≠ []) :
    ipv6Settings py (jobFields data) =
      (if data.request.ipv6Cidr ≠ [] then a ++ '/' :: data.request.ipv6Cidr else [],
        data.request.ipv6.gateway.elim (py.repr .null) id) := by
  have haddress : Fields.getD (jobFields data) "ipv6_address" (.str []) = .str a := by
    change data.request.ipv6.address.val.elim Json.null Json.str = .str a
    rw [h]
    rfl
  have hcidr : Fields.getD (jobFields data) "ipv6_cidr" (.str "64".toList) =
      .str data.request.ipv6Cidr := rfl
  have hgateway : py.str (Fields.getD (jobFields data) "ipv6_gateway" (.str [])) =
      data.request.ipv6.gateway.elim (py.repr .null) id := by
    change py.str (data.request.ipv6.gateway.elim Json.null Json.str) = _
    cases data.request.ipv6.gateway <;> rfl
  have htruthy : ∀ t : Str, (Json.str t).truthy = decide (t ≠ []) := fun _ => rfl
  rw [ipv6Settings]
  dsimp only
  rw [haddress, hcidr, hgateway, htruthy, htruthy, decide_eq_true hne, if_pos rfl]
  simp only [decide_eq_true_eq, PythonStr.str_str]
  refine congrArg (Prod.mk · _) ?_
  split_ifs
  · exact List.append_assoc ..
  · rfl

end Settings

/-- What stands between the quotes after `V6=`: nothing without an address or without a length. -/
def renderedV6 (request : ProvisionCustomISORequest) : Str :=
  if Given request.ipv6.address.val ∧ request.ipv6Cidr ≠ [] then
    request.ipv6.address.val.getD [] ++ '/' :: request.ipv6Cidr
  else []

/-- What stands between the quotes after `GW6=`; beside an address, a missing gateway is the text of
a missing value. -/
def renderedGw6 (request : ProvisionCustomISORequest) : Str :=
  if Given request.ipv6.address.val then request.ipv6.gateway.getD "None" else []

theorem ipv6Settings_jobFields {py : PythonStr} (hnone : py.repr .null = "None") (data : JobData) :
    ipv6Settings py (jobFields data) = (renderedV6 data.request, renderedGw6 data.request) := by
  unfold renderedV6 renderedGw6
  by_cases hgiven : Given data.request.ipv6.address.val
  · obtain ⟨a, ha, hne⟩ := hgiven
    have hgiven : Given (some a) := ⟨a, rfl, hne⟩
    have hgateway : data.request.ipv6.gateway.elim ("None" : Str) id =
        data.request.ipv6.gateway.getD "None" := by
      cases data.request.ipv6.gateway <;> rfl
    rw [ipv6Settings_of_given py ha hne, hnone, hgateway, ha, Option.getD_some, if_pos hgiven]
    simp only [hgiven, true_and]
  · rw [ipv6Settings_of_not_given py hgiven, if_neg hgiven, if_neg fun h => hgiven h.1]

def v6Line (request : ProvisionCustomISORequest) : Str :=
  ("      V6=" : Str) ++ '"' :: (renderedV6 request ++ ['"'])

def gw6Line (request : ProvisionCustomISORequest) : Str :=
  ("      GW6=" : Str) ++ '"' :: (renderedGw6 request ++ ['"'])

/-- The three fields name no placeholder of the template. -/
structure AreFree (request : ProvisionCustomISORequest) : Prop where
  address : IsFree (request.ipv6.address.val.getD [])
  cidr : IsFree request.ipv6Cidr
  gateway : IsFree (request.ipv6.gateway.getD [])

theorem AreFree.rendered {request : ProvisionCustomISORequest} (h : AreFree request) :
    IsFree (renderedV6 request) ∧ IsFree (renderedGw6 request) := by
  have hnil : IsFree [] := isFree_of_no_brace List.not_mem_nil
  unfold renderedV6 renderedGw6
  refine ⟨?_, ?_⟩
  · split_ifs
    · exact h.address.append_cons h.cidr rfl
    · exact hnil
  · split_ifs
    · have hgateway := h.gateway
      cases hg : request.ipv6.gateway with
      | none => exact isFree_of_no_brace (by decide)
      | some g =>
        rw [hg] at hgateway
        exact hgateway
    · exact hnil

section Rendered
variable {site : Site} {opensslPasswd : Str → Option Str} {hostIp : Str}
  {request : PhoneHomeRequest}
  {data : JobData} {m : List (Str × Str) × Str} (hnone : site.py.repr .null = "None")
  (h : userDataMap (deployment site opensslPasswd) hostIp request (jobFields data) = some m)
include hnone h

theorem ipv6_values : ("\x7b\x7bIPV6_FULL\x7d\x7d".toList, renderedV6 data.request) ∈ m.1 ∧
    ("\x7b\x7bIPV6_GATEWAY\x7d\x7d".toList, renderedGw6 data.request) ∈ m.1 := by
  obtain ⟨disks, hashedPw, -, -, hpairs, -⟩ := userDataMap_spec h
  have hv6 : ("\x7b\x7bIPV6_FULL\x7d\x7d".toList, (ipv6Settings site.py (jobFields data)).1) ∈
      m.1 :=
    hpairs ▸ List.mem_of_getElem? (i := 8) rfl
  have hgw6 : ("\x7b\x7bIPV6_GATEWAY\x7d\x7d".toList, (ipv6Settings site.py (jobFields data)).2) ∈
      m.1 :=
    hpairs ▸ List.mem_of_getElem? (i := 9) rfl
  rw [ipv6Settings_jobFields hnone] at hv6 hgw6
  exact ⟨hv6, hgw6⟩

/-- The two assignments stand in the file that phone-home renders. -/
theorem ipv6Lines_in_userData (hfree : AreFree data.request) :
    v6Line data.request ++ ['\n'] <:+: replaceAll m.1 m.2 ∧
      gw6Line data.request ++ ['\n'] <:+: replaceAll m.1 m.2 := by
  obtain ⟨hv6, hgw6⟩ := ipv6_values hnone h
  have hassigns := (userDataMap_cases h).1
  have hfront : ¬ seedPlaceholders.mark <:+: "      V6=".toList ∧
      ¬ seedPlaceholders.mark <:+: "      GW6=".toList := by decide
  have hv6Line : replaceAll m.1 "      V6=\"\x7b\x7bIPV6_FULL\x7d\x7d\"".toList =
      v6Line data.request :=
    hassigns.render_quoted rfl hv6 hfree.rendered.1 hfront.1
  have hgw6Line : replaceAll m.1 "      GW6=\"\x7b\x7bIPV6_GATEWAY\x7d\x7d\"".toList =
      gw6Line data.request :=
    hassigns.render_quoted rfl hgw6 hfree.rendered.2 hfront.2
  rw [← hv6Line, ← hgw6Line]
  exact ⟨userData_common_line h (Or.inr (Or.inr (Or.inl List.mem_cons_self))),
    userData_common_line h (Or.inr (Or.inr (Or.inl (List.mem_cons_of_mem _ List.mem_cons_self))))⟩

end Rendered

/-- Both settings are empty, or `V6` is the requested address with a length from 0 to 128 and
`GW6` a valid address; `GW6` is never the text of a missing value. -/
def Paired (request : ProvisionCustomISORequest) (v6 gw6 : Str) : Prop :=
  ((v6 = [] ∧ gw6 = []) ∨
    (∃ n ≤ 128, v6 = request.ipv6.address.val.getD [] ++ '/' :: decimal n) ∧
      isIpv6Address gw6 = true) ∧
  gw6 ≠ "None"

/-- No address is asked for; or a gateway comes with it, and the length is a decimal number up to
128. -/
def AsksForPair (request : ProvisionCustomISORequest) : Prop :=
  ¬ Given request.ipv6.address.val ∨
    request.ipv6.gateway.isSome = true ∧ ∃ n ≤ 128, request.ipv6Cidr = decimal n

theorem paired_iff (request : ProvisionCustomISORequest) :
    Paired request (renderedV6 request) (renderedGw6 request) ↔ AsksForPair request := by
  unfold renderedV6 renderedGw6 AsksForPair
  by_cases hgiven : Given request.ipv6.address.val
  · rw [if_pos hgiven]
    cases hg : request.ipv6.gateway with
    | none =>
      refine iff_of_false (fun h => h.2 rfl) ?_
      rintro (hnot | ⟨hsome, -⟩)
      · exact hnot hgiven
      · cases hsome
    | some g =>
      have hvalid : isIpv6Address g = true := request.ipv6.gateway_valid g hg hgiven
      have hne : g ≠ "None" := by
        rintro rfl
        exact absurd hvalid (by decide)
      simp only [Paired, Option.getD_some, ipv6_ne_nil hvalid, hvalid, hne, hgiven,
        and_false, false_or, and_true, true_and, not_true_eq_false, ne_eq, not_false_eq_true,
        Option.isSome_some]
      refine exists_congr fun n => and_congr_right fun _ => ?_
      by_cases hcidr : request.ipv6Cidr = []
      · rw [if_neg (not_not.mpr hcidr), hcidr]
        refine iff_of_false ?_ fun h => Nat.toDigits_ne_nil h.symm
        exact fun h => List.append_ne_nil_of_right_ne_nil _ (List.cons_ne_nil _ _) h.symm
      · rw [if_pos hcidr, List.append_cancel_left_eq, List.cons_inj_right]
  · rw [if_neg hgiven, if_neg fun h => hgiven h.1]
    exact iff_of_true ⟨Or.inl ⟨rfl, rfl⟩, by decide⟩ (Or.inl hgiven)

/-- A phone-home that is answered 200 has rendered the job that was saved. -/
theorem servePhoneHome_saved {dep : Deployment} {data : JobData} {s : Server}
    (hsaved : s.files (jobJson (jobId data)) = some (.jobJson data)) {hostIp : Str}
    {write : SeedFile → SeedWrite} {chmod : Bool} {phoneBody : Option Json}
    {request : PhoneHomeRequest} (hrequest : phoneHomeRequest dep.toSite phoneBody = some request)
    (hjob : request.jobId.val = jobId data)
    (hok : (servePhoneHome dep hostIp write chmod phoneBody s).2 = 200) :
    ∃ m, userDataMap dep hostIp request (jobFields data) = some m ∧
      (servePhoneHome dep hostIp write chmod phoneBody s).1.files
        (jobFile (jobId data) "user-data") =
        some (.text (replaceAll m.1 m.2)) := by
  obtain ⟨request', jobData, text, hrequest', hload, htext, hfile⟩ := servePhoneHome_eq_200 hok
  obtain rfl := Option.some.inj (hrequest.symm.trans hrequest')
  rw [hjob] at hload hfile
  obtain rfl : jobFields data = jobData := by
    have heq := (loadJob_saved hsaved).symm.trans hload
    exact Json.obj.inj (Option.some.inj heq)
  rw [userData_eq_map] at htext
  obtain ⟨m, hm, rfl⟩ := Option.map_eq_some_iff.mp htext
  exact ⟨m, hm, hfile⟩

/-- For every phone-home that is answered 200, the file has these two assignments, and they are a
valid pair exactly when the accepted body asks for one. -/
theorem ipv6_pairs_iff {site : Site} {opensslPasswd : Str → Option Str}
    (hnone : site.py.repr .null = "None") {data : JobData} (hfree : AreFree data.request)
    {s : Server} (hsaved : s.files (jobJson (jobId data)) = some (.jobJson data)) {hostIp : Str}
    {write : SeedFile → SeedWrite} {chmod : Bool} {phoneBody : Option Json}
    {request : PhoneHomeRequest}
    (hrequest : phoneHomeRequest (deployment site opensslPasswd).toSite phoneBody = some request)
    (hjob : request.jobId.val = jobId data)
    (hok : (servePhoneHome (deployment site opensslPasswd) hostIp write chmod phoneBody s).2 =
      200) :
    ∃ text,
      (servePhoneHome (deployment site opensslPasswd) hostIp write chmod phoneBody s).1.files
        (jobFile (jobId data) "user-data") = some (.text text) ∧
      v6Line data.request ++ ['\n'] <:+: text ∧ gw6Line data.request ++ ['\n'] <:+: text ∧
      (Paired data.request (renderedV6 data.request) (renderedGw6 data.request) ↔
        AsksForPair data.request) := by
  obtain ⟨m, hm, hfile⟩ := servePhoneHome_saved hsaved hrequest hjob hok
  obtain ⟨hv6, hgw6⟩ := ipv6Lines_in_userData hnone hm hfree
  exact ⟨_, hfile, hv6, hgw6, paired_iff data.request⟩

/-- An accepted body with an IPv6 address and the given further fields. -/
def body6 (more : Fields) : Option Json :=
  some (.obj ([("hostname".toList, .str "node-a".toList),
    ("ipv4_address".toList, .str "10.0.0.2".toList),
      ("ipv4_gateway".toList, .str "10.0.0.254".toList),
    ("ipv4_netmask".toList, .str "255.255.255.0".toList),
    ("ipv6_address".toList, .str "2001:db8::5".toList)] ++ more))

def job6 (gateway : Option Str) (hgateway : ∀ g, gateway = some g → isIpv6Address g = true) :
    JobData :=
  { nodeA with request := { nodeA.request with
    ipv6 :=
      ⟨⟨some "2001:db8::5".toList, fun _ => by decide⟩, gateway, fun g hg _ => hgateway g hg⟩ } }

def serverWith (data : JobData) : Server :=
  Server.started (fun _ => [])
    (Function.update (fun _ => none) (jobJson (jobId data)) (some (.jobJson data)))

/-- A phone-home of that node with one disk. -/
def phoneBody : Option Json :=
  some (.obj [("job_id".toList, .str "node-a".toList),
    ("machine_serial".toList, .str "SN-7".toList),
    ("bootif".toList, .str "01-52-54-00-12-34-56".toList),
    ("uuids".toList, .arr [.obj [("dev".toList, .str "sda".toList),
      ("id".toList, .str "disk 1".toList), ("size_mb".toList, .int 20000)]])])

def node6 : JobData :=
  job6 (some "2001:db8::1".toList) (by intro g hg; cases hg; decide)

def node6NoGateway : JobData := job6 none (by intro g hg; cases hg)

def noneSite : Site :=
  { exampleSite with py := { repr := fun _ => "None", upper := List.map Char.toUpper } }

def noneDep : Deployment := deployment noneSite fun password => some (("$6$" : Str) ++ password)

def answer (data : JobData) : Server × ℕ :=
  servePhoneHome noneDep "10.0.0.1" (fun _ => .written) true phoneBody (serverWith data)

def phoneRequest : PhoneHomeRequest :=
  ⟨nodeA.request.hostname, ⟨"SN-7".toList, by decide⟩, ⟨"01-52-54-00-12-34-56".toList, by decide⟩,
    [⟨⟨"sda".toList, by decide⟩, ⟨"disk 1".toList, by decide⟩, ⟨20000, by decide⟩⟩]⟩

theorem serverWith_jobJson (data : JobData) :
    (serverWith data).files (jobJson (jobId data)) = some (.jobJson data) := by
  simp [serverWith, Server.started]

theorem areFree_node6 : AreFree node6.request :=
  ⟨isFree_of_no_brace (by decide), isFree_of_no_brace (by decide), isFree_of_no_brace (by decide)⟩

/-- An accepted body with an address, a gateway and no length: the default is 64. -/
theorem ipv6_pairs_node6 :
    accept noneDep.toSite "10.0.0.1" (body6 [("ipv6_gateway".toList, .str "2001:db8::1".toList)]) =
      .ok node6 ∧
    ∃ text, (answer node6).1.files (jobFile (jobId node6) "user-data") = some (.text text) ∧
      v6Line node6.request ++ ['\n'] <:+: text ∧ gw6Line node6.request ++ ['\n'] <:+: text ∧
      Paired node6.request (renderedV6 node6.request) (renderedGw6 node6.request) := by
  have hrequest : phoneHomeRequest noneDep.toSite phoneBody = some phoneRequest := rfl
  obtain ⟨text, hfile, hv6, hgw6, hiff⟩ :=
    ipv6_pairs_iff rfl areFree_node6 (serverWith_jobJson node6) hrequest rfl
      (by decide +kernel : (answer node6).2 = 200)
  exact ⟨rfl, text, hfile, hv6, hgw6, hiff.mpr (Or.inr ⟨rfl, 64, by decide, rfl⟩)⟩

theorem areFree_node6NoGateway : AreFree node6NoGateway.request :=
  ⟨isFree_of_no_brace (by decide), isFree_of_no_brace (by decide), isFree_of_no_brace (by decide)⟩

/-- The body is accepted, the phone-home succeeds, and `GW6` is the text of a missing value. -/
theorem missing_gateway_rendered_none :
    accept noneDep.toSite "10.0.0.1" (body6 []) = .ok node6NoGateway ∧
    (answer node6NoGateway).2 = 200 ∧
    ∃ text, (answer node6NoGateway).1.files (jobFile "node-a" "user-data") = some (.text text) ∧
      "      V6=\"2001:db8::5/64\"\n".toList <:+: text ∧
        "      GW6=\"None\"\n".toList <:+: text := by
  have hok : (answer node6NoGateway).2 = 200 := by decide +kernel
  have hrequest : phoneHomeRequest noneDep.toSite phoneBody = some phoneRequest := rfl
  obtain ⟨m, hm, hfile⟩ := servePhoneHome_saved (serverWith_jobJson node6NoGateway) hrequest rfl hok
  obtain ⟨hv6, hgw6⟩ := ipv6Lines_in_userData rfl hm areFree_node6NoGateway
  exact ⟨rfl, hok, _, hfile, hv6, hgw6⟩

end Astro.Ipv6Pairs
