import Astro.JsonValues
import Astro.ServiceClients

/-!
# Staging a server over Redfish

The tasks that put an ISO into the virtual drive of a management controller and restart the
server from it, for each vendor. Ansible runs them in their order and stops at the first one
that fails. The controller may answer anything; a task goes by the status code.
-/

namespace Astro.RedfishStaging

open ServiceClients Client

inductive Method where
  | get
  | post
  | patch
deriving DecidableEq, Repr

/-- What a task does: a request of the module `uri`, or something on the machine that runs
Ansible. -/
inductive Request where
  | uri (method : Method) (url user password : Str) (body : Option Json)
  | pause (seconds : ℕ)
  | command (text : Str)
  | waitFor (host : Str) (port timeout : ℕ)

/-- The status code, or -1 if there is no connection, with the decoded body; for a command its exit
status. -/
structure Answer where
  status : ℤ
  json : Option Json

abbrev Tasks := Client Request Answer

/-- The variables of the inventory. -/
structure Target where
  bmcAddress : Str
  bmcUser : Str
  bmcPassword : Str
  ansibleHost : Str
  osUsername : Str
  osPassword : Str

structure Vendor where
  manager : Str
  system : Str
  /-- The drives that are emptied first. -/
  ejected : List Str
  ejectCodes : List ℤ
  /-- The drive for the ISO. -/
  slot : Str
  slot_mem : slot ∈ ejected
  inserted : Fields
  insertCodes : List ℤ
  insertCodes_subset : insertCodes ⊆ [200, 202, 204]
  boot : Fields
  restart : Str

section Requests
variable (v : Vendor) (t : Target)

def bmcRequest (method : Method) (path : Str) (body : Option Json) : Request :=
  .uri method (("https://" : Str) ++ t.bmcAddress ++ path) t.bmcUser t.bmcPassword body

def ejectRequest (slot : Str) : Request :=
  bmcRequest t .post (v.manager ++ ("/VirtualMedia/" : Str) ++ slot ++
    ("/Actions/VirtualMedia.EjectMedia" : Str))
    (some (.obj []))

def insertRequest (iso : Str) : Request :=
  bmcRequest t .post (v.manager ++ ("/VirtualMedia/" : Str) ++ v.slot ++
    ("/Actions/VirtualMedia.InsertMedia" : Str))
    (some (.obj (("Image".toList, .str iso) :: v.inserted)))

def overrideRequest : Request :=
  bmcRequest t .patch v.system (some (.obj [("Boot".toList, .obj v.boot)]))

def stateRequest : Request := bmcRequest t .get v.system none

def resetRequest (type : Str) : Request :=
  bmcRequest t .post (v.system ++ ("/Actions/ComputerSystem.Reset" : Str))
    (some (.obj [("ResetType".toList, .str type)]))

/-- `system_state.json.PowerState`; an undefined value ends the task. -/
def powerState : Option Json → Option Json
  | some (.obj fields) => Fields.get? fields "PowerState"
  | _ => none

def resetType (state : Json) : Str := if state.isText "Off" then "On" else v.restart

end Requests

/-- A task succeeds with the codes that it lists. -/
def uri (request : Request) (statusCode : List ℤ) : Tasks (Option (Option Json)) :=
  .call request fun answer => .done (if answer.status ∈ statusCode then some answer.json else none)

def ejectTask (v : Vendor) (t : Target) (slot : Str) : Tasks (Option (Option Json)) :=
  uri (ejectRequest v t slot) v.ejectCodes

/-- The tasks up to the restart, and what follows them. -/
def provisionHW (v : Vendor) (t : Target) (iso : Str) (afterwards : Tasks (Option Unit)) :
    Tasks (Option Unit) :=
  (each (ejectTask v t) v.ejected).andThen fun _ =>
  (uri (insertRequest v t iso) v.insertCodes).andThen fun _ =>
  (uri (overrideRequest v t) [200, 204]).andThen fun _ =>
  (uri (stateRequest v t) [200]).andThen fun state =>
    match powerState state with
    | none => .done none
    | some power =>
      (uri (resetRequest v t (resetType v power)) [200, 204]).andThen fun _ => afterwards

def pause (seconds : ℕ) : Tasks (Option Unit) := .call (.pause seconds) fun _ => .done (some ())

/-- A command that must succeed. -/
def command (text : Str) : Tasks (Option Unit) :=
  .call (.command text) fun answer => .done (if answer.status = 0 then some () else none)

/-- `failed_when: false`. -/
def ignoring (task : Tasks (Option Unit)) : Tasks (Option Unit) :=
  task.bind fun _ => .done (some ())

def waitFor (host : Str) (port timeout : ℕ) : Tasks (Option Unit) :=
  .call (.waitFor host port timeout) fun answer =>
    .done (if answer.status = 0 then some () else none)

/-- The pause after the restart, and the old SSH keys. -/
def settle (t : Target) : Tasks (Option Unit) :=
  (pause 30).andThen fun _ =>
    ignoring (command (("ssh-keygen -f '~/.ssh/known_hosts' -R '" : Str) ++ t.ansibleHost ++
      ("'" : Str)))

def dell : Vendor where
  manager := "/redfish/v1/Managers/iDRAC.Embedded.1"
  system := "/redfish/v1/Systems/System.Embedded.1"
  ejected := ["CD".toList]
  ejectCodes := [200, 204, 400, 403, 500]
  slot := "CD"
  slot_mem := by decide
  inserted := [("Inserted".toList, .bool true), ("WriteProtected".toList, .bool true)]
  insertCodes := [200, 204]
  insertCodes_subset := by decide
  boot :=
    [("BootSourceOverrideEnabled".toList, .str "Once".toList),
      ("BootSourceOverrideTarget".toList, .str "Cd".toList)]
  restart := "ForceRestart"

def wtr : Vendor where
  manager := "/redfish/v1/Managers/1"
  system := "/redfish/v1/Systems/1"
  ejected := ["CD1".toList]
  ejectCodes := [200, 204, 400, 403, 500]
  slot := "CD1"
  slot_mem := by decide
  inserted := [("UserName".toList, .str []), ("Password".toList, .str [])]
  insertCodes := [200, 204, 202]
  insertCodes_subset := by decide
  boot :=
    [("BootSourceOverrideEnabled".toList, .str "Once".toList),
      ("BootSourceOverrideMode".toList, .str "UEFI".toList),
      ("BootSourceOverrideTarget".toList, .str "UsbCd".toList)]
  restart := "ForceRestart"

/-- The drives of the two systems with several of them. -/
def vmediaSlots : List Str :=
  ["VirtualMedia1".toList, "VirtualMedia2".toList, "VirtualMedia3".toList]

def b300 : Vendor where
  manager := "/redfish/v1/Managers/1"
  system := "/redfish/v1/Systems/1"
  ejected := vmediaSlots
  ejectCodes := [200, 204, 400, 404]
  slot := "VirtualMedia1"
  slot_mem := by decide
  inserted := [("Inserted".toList, .bool true)]
  insertCodes := [200, 202, 204]
  insertCodes_subset := by decide
  boot :=
    [("BootSourceOverrideEnabled".toList, .str "Once".toList),
      ("BootSourceOverrideMode".toList, .str "UEFI".toList),
      ("BootSourceOverrideTarget".toList, .str "UsbCd".toList)]
  restart := "PowerCycle"

def gh200 : Vendor where
  manager := "/redfish/v1/Managers/1"
  system := "/redfish/v1/Systems/1"
  ejected := vmediaSlots
  ejectCodes := [200, 204, 400, 404]
  slot := "VirtualMedia1"
  slot_mem := by decide
  inserted := []
  insertCodes := [200, 202, 204]
  insertCodes_subset := by decide
  boot :=
    [("BootSourceOverrideEnabled".toList, .str "Once".toList),
      ("BootSourceOverrideMode".toList, .str "UEFI".toList),
      ("BootSourceOverrideTarget".toList, .str "Cd".toList)]
  restart := "PowerCycle"

def provisionDellHW (t : Target) (iso : Str) : Tasks (Option Unit) :=
  provisionHW dell t iso ((settle t).andThen fun _ => waitFor t.ansibleHost 22 600)

def provisionWTRHW (t : Target) (iso : Str) : Tasks (Option Unit) :=
  provisionHW wtr t iso (settle t)

/-- Waits for the network and for a login, and empties the drives at the end. A task with `retries`
is run once more often. -/
def provisionB300HW (t : Target) (iso : Str) : Tasks (Option Unit) :=
  provisionHW b300 t iso <|
    (settle t).andThen fun _ =>
    ((command (("ping -c 1 -W 2 " : Str) ++ t.ansibleHost)).retry 101).andThen fun _ =>
    (ignoring ((command (("sshpass -p '" : Str) ++ t.osPassword ++
      ("'  ssh -o StrictHostKeyChecking=no  -o UserKnownHostsFile=/dev/null -o ConnectTimeout=5 " : Str) ++
      t.osUsername ++ ("@" : Str) ++ t.ansibleHost ++
      (" 'whoami'\n" : Str))).retry 121)).andThen fun _ =>
    (each (ejectTask b300 t) vmediaSlots).andThen fun _ => pause 30

def provisionGH200HW (t : Target) (iso : Str) : Tasks (Option Unit) :=
  provisionHW gh200 t iso (settle t)

/-- The four sequences, with the vendor of each. -/
def stagings (t : Target) (iso : Str) : List (Vendor × Tasks (Option Unit)) :=
  [(dell, provisionDellHW t iso), (wtr, provisionWTRHW t iso), (b300, provisionB300HW t iso),
    (gh200, provisionGH200HW t iso)]

/-- What may follow the restart: work on the machine that runs Ansible, and emptying drives. -/
def IsHarmless (v : Vendor) (t : Target) : Request → Prop
  | .uri method url user password body =>
      ∃ slot ∈ v.ejected, .uri method url user password body = ejectRequest v t slot
  | _ => True

theorem asks_ignoring {p : Request → Prop} {task : Tasks (Option Unit)} (h : task.Asks p) :
    (ignoring task).Asks p :=
  h.bind fun _ => trivial

theorem asks_settle (v : Vendor) (t : Target) : (settle t).Asks (IsHarmless v t) :=
  Asks.andThen ⟨trivial, fun _ => trivial⟩ fun _ => asks_ignoring ⟨trivial, fun _ => trivial⟩

/-- Every sequence is the common part, with something harmless after it. -/
theorem stagings_spec {t : Target} {iso : Str} {v : Vendor} {task : Tasks (Option Unit)}
    (h : (v, task) ∈ stagings t iso) :
    ∃ afterwards, task = provisionHW v t iso afterwards ∧ afterwards.Asks (IsHarmless v t) := by
  have hcommand : ∀ text, (command text).Asks (IsHarmless v t) :=
    fun text => ⟨trivial, fun _ => trivial⟩
  simp only [stagings, List.mem_cons, Prod.mk.injEq, List.not_mem_nil, or_false] at h
  rcases h with ⟨rfl, rfl⟩ | ⟨rfl, rfl⟩ | ⟨rfl, rfl⟩ | ⟨rfl, rfl⟩
  · exact ⟨_, rfl, (asks_settle dell t).andThen fun _ => ⟨trivial, fun _ => trivial⟩⟩
  · exact ⟨_, rfl, asks_settle wtr t⟩
  · refine ⟨_, rfl, (asks_settle b300 t).andThen fun _ => ((hcommand _).retry _).andThen fun _ =>
      (asks_ignoring ((hcommand _).retry _)).andThen fun _ =>
        Asks.andThen (Asks.each fun slot hslot => ?_)
        fun _ => ⟨trivial, fun _ => trivial⟩⟩
    exact ⟨⟨slot, hslot, rfl⟩, fun _ => trivial⟩
  · exact ⟨_, rfl, asks_settle gh200 t⟩

/-- Requests to the controller are sent with its user name. -/
def HasUser (t : Target) : Request → Prop
  | .uri _ _ user _ _ => user = t.bmcUser
  | _ => True

theorem hasUser_of_isHarmless {v : Vendor} {t : Target} {request : Request}
    (h : IsHarmless v t request) :
    HasUser t request := by
  cases request with
  | uri method url user password body =>
    obtain ⟨slot, -, heq⟩ := h
    injection heq
  | _ => trivial

theorem asks_stagings {t : Target} {iso : Str} {v : Vendor} {tasks : Tasks (Option Unit)}
    (h : (v, tasks) ∈ stagings t iso) :
    tasks.Asks (HasUser t) := by
  obtain ⟨afterwards, rfl, hafterwards⟩ := stagings_spec h
  have huri : ∀ (method : Method) (path : Str) (body : Option Json) (codes : List ℤ),
      (uri (bmcRequest t method path body) codes).Asks (HasUser t) :=
        fun _ _ _ _ => ⟨rfl, fun _ => trivial⟩
  refine Asks.andThen (Asks.each fun _ _ => huri _ _ _ _) fun _ => (huri _ _ _ _).andThen fun _ =>
    (huri _ _ _ _).andThen fun _ => (huri _ _ _ _).andThen fun state => ?_
  cases powerState state with
  | none => trivial
  | some power =>
    exact (huri _ _ _ _).andThen fun _ => hafterwards.mono fun _ => hasUser_of_isHarmless

section Rules
variable {σ : Type} {serves : σ → Request → Answer → σ → Prop} {P : σ → Prop}

/-- A task of `uri`, by its status code. -/
theorem ensures_uri {request : Request} {codes : List ℤ} {Q : Option (Option Json) → σ → Prop}
    (haccepted : ∀ s answer u, P s → serves s request answer u → answer.status ∈ codes →
      Q (some answer.json) u)
    (hrefused : ∀ s answer u, P s → serves s request answer u → answer.status ∉ codes → Q none u) :
    Ensures serves P (uri request codes) Q := by
  refine Ensures.call (fun answer =>
    Q (if answer.status ∈ codes then some answer.json else none)) ?_
    fun answer => Ensures.done fun _ => id
  intro s answer u hs hserves
  by_cases hstatus : answer.status ∈ codes
  · rw [if_pos hstatus]
    exact haccepted s answer u hs hserves hstatus
  · rw [if_neg hstatus]
    exact hrefused s answer u hs hserves hstatus

/-- The common part, stage by stage: `S₁` after the drives are emptied, then one condition after
each request that was accepted. -/
theorem ensures_provisionHW {v : Vendor} {t : Target} {iso : Str} {afterwards : Tasks (Option Unit)}
    {S₁ S₂ S₃ S₅ : σ → Prop} {S₄ : Json → σ → Prop} {Q : Option Unit → σ → Prop}
    (heject : Ensures serves P (each (ejectTask v t) v.ejected) fun result s =>
      if result.isSome then S₁ s else Q none s)
    (hinsert : ∀ s answer u, S₁ s → serves s (insertRequest v t iso) answer u →
      if answer.status ∈ v.insertCodes then S₂ u else Q none u)
    (hoverride : ∀ s answer u, S₂ s → serves s (overrideRequest v t) answer u →
      if answer.status ∈ [200, 204] then S₃ u else Q none u)
    (hstate : ∀ s answer u, S₃ s → serves s (stateRequest v t) answer u →
      if answer.status = 200 then ∀ power ∈ powerState answer.json, S₄ power u else Q none u)
    (hunknown : ∀ s answer u, S₃ s → serves s (stateRequest v t) answer u →
      powerState answer.json = none → Q none u)
    (hreset : ∀ power s answer u, S₄ power s →
      serves s (resetRequest v t (resetType v power)) answer u →
      if answer.status ∈ [200, 204] then S₅ u else Q none u)
    (hafterwards : Ensures serves S₅ afterwards Q) :
    Ensures serves P (provisionHW v t iso afterwards) Q := by
  have hsend : ∀ {P' : σ → Prop} {request : Request} {codes : List ℤ} {S : σ → Prop},
      (∀ s answer u, P' s → serves s request answer u →
        if answer.status ∈ codes then S u else Q none u) →
      Ensures serves P' (uri request codes) fun result s =>
          if result.isSome then S s else Q none s := by
    intro P' request codes S h
    refine ensures_uri ?_ ?_
    · intro s answer u hs hserves hstatus
      have hcase := h s answer u hs hserves
      rwa [if_pos hstatus] at hcase
    · intro s answer u hs hserves hstatus
      have hcase := h s answer u hs hserves
      rwa [if_neg hstatus] at hcase
  refine heject.andThen (fun _ => id) fun _ => ?_
  refine (hsend hinsert).andThen (fun _ => id) fun _ => ?_
  refine (hsend hoverride).andThen (fun _ => id) fun _ => ?_
  refine Ensures.andThen (@ensures_uri σ serves _ _ _ (fun result s => match result with
    | some json => (powerState json).elim (Q none s) (S₄ · s)
    | none => Q none s) ?_ ?_) (fun _ => id) fun state => ?_
  · intro s answer u hs hserves hstatus
    have hcase := hstate s answer u hs hserves
    rw [if_pos (List.mem_singleton.mp hstatus)] at hcase
    cases hpower : powerState answer.json with
    | none => simpa only [hpower, Option.elim_none] using hunknown s answer u hs hserves hpower
    | some power => simpa only [hpower, Option.elim_some] using hcase power hpower
  · intro s answer u hs hserves hstatus
    have hcase := hstate s answer u hs hserves
    rwa [if_neg fun heq => hstatus (List.mem_singleton.mpr heq)] at hcase
  · cases hpower : powerState state with
    | none =>
      refine Ensures.done fun s hs => ?_
      simpa only [hpower, Option.elim_none] using hs
    | some power =>
      refine ((hsend (hreset power)).andThen (fun _ => id) fun _ => hafterwards).imp (fun s hs =>
        ?_) fun _ _ => id
      simpa only [hpower, Option.elim_some] using hs

end Rules

/-- A controller that may answer anything: the state is what was sent and answered. -/
def recorded (history : List (Request × Answer)) (request : Request) (answer : Answer)
    (history' : List (Request × Answer)) : Prop :=
  history' = history ++ [(request, answer)]

def IsReset (v : Vendor) (t : Target) (request : Request) : Prop :=
  ∃ type, request = resetRequest v t type

section Trace
variable {v : Vendor} {t : Target} {iso : Str}

theorem not_isReset_of_isHarmless {request : Request} (h : IsHarmless v t request) :
    ¬ IsReset v t request := by
  rintro ⟨type, rfl⟩
  obtain ⟨slot, -, heq⟩ := h
  injection heq with _ _ _ _ hbody
  injection Option.some.inj hbody with hfields
  exact absurd hfields (List.cons_ne_nil _ _)

inductive Phase where
  | emptied
  | inserted
  | overridden
  | known (power : Json)

/-- The requests up to a phase: only drives are emptied at first, then the ISO is inserted, the
override set and the power state read, each with a code that the task accepts. -/
inductive Reached (v : Vendor) (t : Target) (iso : Str) : Phase → List (Request × Answer) → Prop
  | start : Reached v t iso .emptied []
  | emptied {history : List (Request × Answer)} {slot : Str} (h : Reached v t iso .emptied history)
      (hslot : slot ∈ v.ejected) (answer : Answer) :
        Reached v t iso .emptied (history ++ [(ejectRequest v t slot, answer)])
  | inserted {history : List (Request × Answer)} {answer : Answer}
    (h : Reached v t iso .emptied history)
      (hstatus : answer.status ∈ v.insertCodes) :
        Reached v t iso .inserted (history ++ [(insertRequest v t iso, answer)])
  | overridden {history : List (Request × Answer)} {answer : Answer}
    (h : Reached v t iso .inserted history)
      (hstatus : answer.status ∈ [200, 204]) :
        Reached v t iso .overridden (history ++ [(overrideRequest v t, answer)])
  | known {history : List (Request × Answer)} {answer : Answer} {power : Json}
    (h : Reached v t iso .overridden history)
      (hstatus : answer.status = 200) (hpower : powerState answer.json = some power) :
      Reached v t iso (.known power) (history ++ [(stateRequest v t, answer)])

theorem not_isReset_insert : ¬ IsReset v t (insertRequest v t iso) := by
  rintro ⟨type, heq⟩
  injection heq with _ _ _ _ hbody
  injection Option.some.inj hbody with hfields
  have hname : "Image".toList = "ResetType".toList := congrArg Prod.fst (List.cons.inj hfields).1
  exact absurd hname (by decide)

theorem not_isReset_override : ¬ IsReset v t (overrideRequest v t) := by
  rintro ⟨type, heq⟩
  injection heq with hmethod
  cases hmethod

theorem not_isReset_state : ¬ IsReset v t (stateRequest v t) := by
  rintro ⟨type, heq⟩
  injection heq with hmethod
  cases hmethod

theorem not_isReset_append {history : List (Request × Answer)} {request : Request} (answer : Answer)
    (h : ∀ entry ∈ history, ¬ IsReset v t entry.1) (hrequest : ¬ IsReset v t request) :
    ∀ entry ∈ history ++ [(request, answer)], ¬ IsReset v t entry.1 :=
  List.forall_mem_append.mpr ⟨h, List.forall_mem_singleton.mpr hrequest⟩

theorem Reached.not_isReset {phase : Phase} {history : List (Request × Answer)}
    (h : Reached v t iso phase history) :
    ∀ entry ∈ history, ¬ IsReset v t entry.1 := by
  induction h with
  | start => exact fun _ hentry => absurd hentry List.not_mem_nil
  | emptied _ hslot answer ih =>
    exact not_isReset_append answer ih (not_isReset_of_isHarmless ⟨_, hslot, rfl⟩)
  | inserted _ _ ih => exact not_isReset_append _ ih not_isReset_insert
  | overridden _ _ ih => exact not_isReset_append _ ih not_isReset_override
  | known _ _ _ ih => exact not_isReset_append _ ih not_isReset_state

/-- The server was restarted once, according to the power state that was read before. -/
def Restarted (v : Vendor) (t : Target) (iso : Str) (reset : Answer)
    (history : List (Request × Answer)) : Prop :=
  ∃ power before rest, Reached v t iso (.known power) before ∧
    history = before ++ (resetRequest v t (resetType v power), reset) :: rest ∧ ∀ entry ∈ rest,
      ¬ IsReset v t entry.1

theorem reached_each : Ensures recorded (Reached v t iso .emptied) (each (ejectTask v t) v.ejected)
    fun _ => Reached v t iso .emptied := by
  refine Ensures.each fun slot hslot => ensures_uri ?_ ?_
  all_goals
    rintro history answer _ hhistory rfl -
    exact hhistory.emptied hslot answer

/-- The server is not restarted, or only after the requests before it were accepted. -/
theorem ensures_restarted {afterwards : Tasks (Option Unit)}
    (hafterwards : afterwards.Asks (IsHarmless v t)) :
    Ensures recorded (Reached v t iso .emptied)
      (provisionHW v t iso afterwards) fun result history =>
      (result = none ∧ ∀ entry ∈ history, ¬ IsReset v t entry.1) ∨
        ∃ reset, Restarted v t iso reset history ∧ (result ≠ none → reset.status ∈ [200, 204]) := by
  refine @ensures_provisionHW _ recorded _ v t iso afterwards (Reached v t iso .emptied)
    (Reached v t iso .inserted)
    (Reached v t iso .overridden)
      (fun history => ∃ reset, Restarted v t iso reset history ∧ reset.status ∈ [200, 204])
    (fun power => Reached v t iso (.known power)) _ ?_ ?_ ?_ ?_ ?_ ?_ ?_
  · refine reached_each.imp (fun _ => id) fun result history hreached => ?_
    split_ifs
    · exact hreached
    · exact Or.inl ⟨rfl, hreached.not_isReset⟩
  · rintro history answer _ hreached rfl
    split_ifs with hstatus
    · exact hreached.inserted hstatus
    · exact Or.inl ⟨rfl, not_isReset_append answer hreached.not_isReset not_isReset_insert⟩
  · rintro history answer _ hreached rfl
    split_ifs with hstatus
    · exact hreached.overridden hstatus
    · exact Or.inl ⟨rfl, not_isReset_append answer hreached.not_isReset not_isReset_override⟩
  · rintro history answer _ hreached rfl
    split_ifs with hstatus
    · exact fun power hpower => hreached.known hstatus hpower
    · exact Or.inl ⟨rfl, not_isReset_append answer hreached.not_isReset not_isReset_state⟩
  · rintro history answer _ hreached rfl -
    exact Or.inl ⟨rfl, not_isReset_append answer hreached.not_isReset not_isReset_state⟩
  · rintro power history answer _ hreached rfl
    have hrestarted : Restarted v t iso answer
        (history ++ [(resetRequest v t (resetType v power), answer)]) :=
      ⟨power, history, [], hreached, rfl, fun _ hentry => absurd hentry List.not_mem_nil⟩
    split_ifs with hstatus
    · exact ⟨answer, hrestarted, hstatus⟩
    · exact Or.inr ⟨answer, hrestarted, fun hne => absurd rfl hne⟩
  · refine (Ensures.of_asks hafterwards ?_).imp (fun _ => id) fun result history
        ⟨reset, hrestarted, hstatus⟩ =>
      Or.inr ⟨reset, hrestarted, fun _ => hstatus⟩
    rintro _ request answer _ hharmless ⟨reset, ⟨power, before, rest, hreached, rfl, hrest⟩,
      hstatus⟩ rfl
    refine ⟨reset, ⟨power, before, rest ++ [(request, answer)], hreached, ?_, ?_⟩, hstatus⟩
    · rw [List.append_assoc, List.cons_append]
    · exact not_isReset_append answer hrest (not_isReset_of_isHarmless hharmless)

/-- Whatever the controller answers, no sequence restarts a server unless this ISO was inserted and
the override set with accepted codes and the power state was read; it restarts it at most once, and
it succeeds only if the restart was accepted. -/
theorem restart_needs_inserted_iso (t : Target) (iso : Str) :
    ∀ staging ∈ stagings t iso, ∀ result history, Run recorded staging.2 [] result history →
      (result = none ∧ ∀ entry ∈ history, ¬ IsReset staging.1 t entry.1) ∨
        ∃ reset, Restarted staging.1 t iso reset history ∧
          (result ≠ none → reset.status ∈ [200, 204]) := by
  rintro ⟨v, task⟩ hstaging result history hrun
  obtain ⟨afterwards, rfl, hafterwards⟩ := stagings_spec hstaging
  exact ensures_restarted hafterwards [] result history .start hrun

end Trace

def exampleTarget : Target := ⟨"10.0.1.2", "root", "calvin", "10.0.0.2", "ubuntu", "secret"⟩

def exampleIso : Str := "http://10.0.0.1/automation/node-a/custom-node-a.iso"

/-- What a controller answers for a server that is off. -/
def isOff : Json := .obj [("PowerState".toList, .str "Off".toList)]

/-- A server that is off: every request is accepted, and it is switched on. -/
theorem run_switchedOn : ∃ history, Run recorded (provisionWTRHW exampleTarget exampleIso) []
    (some ()) history := by
  have hsend : ∀ {request : Request} {next : Answer → Tasks (Option Unit)}
    {sent : List (Request × Answer)}
      (answer : Answer), (∃ history, Run recorded (next answer) (sent ++ [(request, answer)])
        (some ()) history) →
      ∃ history, Run recorded (.call request next) sent (some ()) history := by
    rintro request next sent answer ⟨history, hrun⟩
    exact ⟨history, .call rfl hrun⟩
  refine hsend ⟨204, none⟩ (hsend ⟨200, none⟩
    (hsend ⟨200, none⟩ (hsend ⟨200, some isOff⟩ (hsend ⟨204, none⟩
    (hsend ⟨0, none⟩ (hsend ⟨0, none⟩ ?_))))))
  exact ⟨_, .done _ _⟩

theorem restart_needs_inserted_iso_wtr :
    ∃ history reset, Run recorded (provisionWTRHW exampleTarget exampleIso) [] (some ()) history ∧
      Restarted wtr exampleTarget exampleIso reset history ∧ reset.status ∈ [200, 204] := by
  obtain ⟨history, hrun⟩ := run_switchedOn
  have hsequence : (wtr, provisionWTRHW exampleTarget exampleIso) ∈
      stagings exampleTarget exampleIso :=
    List.mem_cons_of_mem _ List.mem_cons_self
  rcases restart_needs_inserted_iso exampleTarget exampleIso _ hsequence _ _ hrun with
    ⟨hnone, -⟩ | ⟨reset, hrestarted, hstatus⟩
  · cases hnone
  · exact ⟨history, reset, hrun, hrestarted, hstatus (Option.some_ne_none _)⟩

structure Controller where
  media : Str → Option Str
  /-- The next boot is from a virtual drive. -/
  isOverridden : Bool
  isPowered : Bool
  /-- What the server was booted from, `none` being its disk. -/
  boots : List (Option Str)

/-- What a restart may boot: with the override an image from some drive, if there is one. -/
def Controller.BootsFrom (c : Controller) (source : Option Str) : Prop :=
  if c.isOverridden then (∃ slot, c.media slot = source ∧ source ≠ none) ∨
    (∀ slot, c.media slot = none) ∧ source = none
  else source = none

/-- What the tasks take for granted. A restart that is not answered may have happened. -/
structure Conforms (v : Vendor) (t : Target) (iso : Str)
    (serves : Controller → Request → Answer → Controller → Prop) :
    Prop where
  quiet : ∀ c request answer c', ¬ IsReset v t request → serves c request answer c' →
    c'.boots = c.boots
  ejects : ∀ c slot answer c', slot ∈ v.ejected → serves c (ejectRequest v t slot) answer c' →
    ∀ other, c.media other = none → c'.media other = none
  /-- A refusal that is ignored comes from an empty drive; for the drive of the ISO this is not
  needed. -/
  empty : ∀ c slot answer c', slot ∈ v.ejected → slot ≠ v.slot →
    serves c (ejectRequest v t slot) answer c' →
    answer.status ∈ v.ejectCodes → c'.media slot = none
  inserts : ∀ c answer c', serves c (insertRequest v t iso) answer c' → answer.status ∈ [200, 204] →
    c' = { c with media := Function.update c.media v.slot (some iso) }
  overrides : ∀ c answer c', serves c (overrideRequest v t) answer c' → answer.status ∈ [200, 204] →
    c' = { c with isOverridden := true }
  reads : ∀ c answer c', serves c (stateRequest v t) answer c' → answer.status = 200 →
    c' = c ∧ ∀ power ∈ powerState answer.json, (power.isText "Off" = true ↔ c.isPowered = false)
  resets : ∀ c answer c', serves c
    (resetRequest v t (if c.isPowered then v.restart else "On")) answer c' →
    (c' = c ∧ answer.status ∉ [200, 204]) ∨
      ∃ source, c.BootsFrom source ∧ c' = ⟨c.media, false, true, c.boots ++ [source]⟩

/-- No insertion is taken note of only, to be done later. -/
def InsertsAtOnce (v : Vendor) (t : Target) (iso : Str)
    (serves : Controller → Request → Answer → Controller → Prop) :
    Prop :=
  ∀ c answer c', serves c (insertRequest v t iso) answer c' → answer.status ≠ 202

/-- A controller without faults: it accepts whatever a task may ask of it. -/
structure Healthy (v : Vendor) (t : Target) (iso : Str)
    (serves : Controller → Request → Answer → Controller → Prop) :
    Prop where
  ejected : ∀ c slot answer c', slot ∈ v.ejected → serves c (ejectRequest v t slot) answer c' →
    answer.status ∈ v.ejectCodes
  inserted : ∀ c answer c', serves c (insertRequest v t iso) answer c' →
    answer.status ∈ v.insertCodes
  overridden : ∀ c answer c', serves c (overrideRequest v t) answer c' → answer.status ∈ [200, 204]
  known : ∀ c answer c', serves c (stateRequest v t) answer c' →
    answer.status = 200 ∧ powerState answer.json ≠ none
  reset : ∀ c answer c', c.isOverridden = true → c.media v.slot ≠ none →
    serves c (resetRequest v t (if c.isPowered then v.restart else "On")) answer c' →
      answer.status ∈ [200, 204]

section Boots
variable {v : Vendor} {t : Target} {iso : Str}
  {serves : Controller → Request → Answer → Controller → Prop}
  (hconforms : Conforms v t iso serves) {before : List (Option Str)}
include hconforms

omit hconforms in
theorem bootsFrom_iso {c : Controller} (hothers : ∀ slot ≠ v.slot, c.media slot = none)
    (hslot : c.media v.slot = some iso) (hoverride : c.isOverridden = true) {source : Option Str}
    (h : c.BootsFrom source) : source = some iso := by
  rw [Controller.BootsFrom, if_pos hoverride] at h
  rcases h with ⟨slot, hmedia, hsource⟩ | ⟨hempty, -⟩
  · by_cases hcase : slot = v.slot
    · rw [← hmedia, hcase, hslot]
    · exact absurd (hmedia.symm.trans (hothers slot hcase)) hsource
  · exact absurd (hslot.symm.trans (hempty v.slot)) (Option.some_ne_none iso)

omit hconforms in
/-- The restart fits the power state. -/
theorem resetType_eq {c : Controller} {power : Json}
    (h : power.isText "Off" = true ↔ c.isPowered = false) :
    resetType v power = if c.isPowered then v.restart else "On" := by
  rw [resetType]
  cases hcase : c.isPowered with
  | false => rw [if_pos (h.mpr hcase)]; rfl
  | true => rw [if_neg fun hoff => absurd (hcase.symm.trans (h.mp hoff)) Bool.noConfusion]; rfl

omit hconforms in
theorem ensures_ejected {mayFail : Prop} (hhealthy : ¬ mayFail → Healthy v t iso serves) :
    Ensures serves (fun _ => True) (each (ejectTask v t) v.ejected) fun result _ =>
      ¬ result.isSome = true → mayFail := by
  by_cases hmay : mayFail
  · exact fun _ _ _ _ _ _ => hmay
  · refine (Ensures.each_isSome fun slot hslot => ensures_uri ?_ ?_).imp (fun _ => id)
      fun result _ hs hnone => absurd hs.2 hnone
    · exact fun c answer c' _ _ _ => ⟨trivial, rfl⟩
    · exact fun c answer c' _ hserves hstatus =>
        absurd ((hhealthy hmay).ejected _ _ _ _ hslot hserves) hstatus

/-- After the first task only the drive of the ISO can hold anything. -/
theorem ensures_emptied : Ensures serves (fun c => c.boots = before ∧ ∀ slot ∉ v.ejected,
    c.media slot = none)
    (each (ejectTask v t) v.ejected) fun result c =>
      (c.boots = before ∧ ∀ slot ∉ v.ejected, c.media slot = none) ∧
        (result.isSome = true → ∀ slot ∈ v.ejected, slot ≠ v.slot → c.media slot = none) := by
  have hquiet : ∀ slot ∈ v.ejected, ¬ IsReset v t (ejectRequest v t slot) :=
    fun slot hslot => not_isReset_of_isHarmless ⟨slot, hslot, rfl⟩
  refine Ensures.each_forall (fun slot hslot => ensures_uri ?_ ?_) fun slot hslot other =>
    ensures_uri ?_ ?_
  · rintro c answer c' ⟨hboots, hothers⟩ hserves hstatus
    refine ⟨⟨(hconforms.quiet _ _ _ _ (hquiet slot hslot) hserves).trans hboots, fun other hother =>
      ?_⟩, fun _ hne => ?_⟩
    · exact hconforms.ejects _ _ _ _ hslot hserves other (hothers other hother)
    · exact hconforms.empty _ _ _ _ hslot hne hserves hstatus
  · rintro c answer c' ⟨hboots, hothers⟩ hserves -
    refine ⟨⟨(hconforms.quiet _ _ _ _ (hquiet slot hslot) hserves).trans hboots, fun other hother =>
      ?_⟩, fun hsome => ?_⟩
    · exact hconforms.ejects _ _ _ _ hslot hserves other (hothers other hother)
    · exact absurd hsome Bool.false_ne_true
  all_goals exact fun c answer c' hempty hserves _ hne =>
    hconforms.ejects _ _ _ _ hslot hserves other (hempty hne)

/-- A server that is booted at all is booted from the ISO, and a healthy controller boots it. -/
theorem ensures_boots {mayFail : Prop} (hhealthy : ¬ mayFail → Healthy v t iso serves)
    {afterwards : Tasks (Option Unit)} (hafterwards : afterwards.Asks (IsHarmless v t))
    (hinserts : 202 ∈ v.insertCodes → InsertsAtOnce v t iso serves) :
    Ensures serves (fun c => c.boots = before ∧ ∀ slot ∉ v.ejected, c.media slot = none)
      (provisionHW v t iso afterwards)
      fun result c => (mayFail ∧ c.boots = before ∧ result = none) ∨
        c.boots = before ++ [some iso] := by
  refine @ensures_provisionHW _ serves _ v t iso afterwards
    (fun c => c.boots = before ∧ ∀ slot ≠ v.slot, c.media slot = none)
    (fun c => c.boots = before ∧ (∀ slot ≠ v.slot, c.media slot = none) ∧ c.media v.slot = some iso)
    (fun c => c.boots = before ∧ (∀ slot ≠ v.slot, c.media slot = none) ∧
      c.media v.slot = some iso ∧ c.isOverridden = true)
    (fun c => c.boots = before ++ [some iso])
    (fun power c => (c.boots = before ∧ (∀ slot ≠ v.slot, c.media slot = none) ∧
      c.media v.slot = some iso ∧
      c.isOverridden = true) ∧ (power.isText "Off" = true ↔ c.isPowered = false)) _ ?_ ?_
        ?_ ?_ ?_ ?_ ?_
  · refine ((ensures_emptied hconforms).and (ensures_ejected hhealthy)).imp (fun _ hs =>
      ⟨hs, trivial⟩) ?_
    rintro result c ⟨⟨⟨hboots, hothers⟩, hejected⟩, hfailed⟩
    split_ifs with hsome
    · refine ⟨hboots, fun slot hne => ?_⟩
      by_cases hslot : slot ∈ v.ejected
      · exact hejected hsome slot hslot hne
      · exact hothers slot hslot
    · exact Or.inl ⟨hfailed hsome, hboots, rfl⟩
  · rintro c answer c' ⟨hboots, hothers⟩ hserves
    split_ifs with hstatus
    · have hdone : answer.status ∈ [200, 204] := by
        have hcode := v.insertCodes_subset hstatus
        have hne : answer.status ≠ 202 := fun heq => hinserts (heq ▸ hstatus) _ _ _ hserves heq
        simp only [List.mem_cons, List.not_mem_nil, or_false] at hcode ⊢
        tauto
      obtain rfl := hconforms.inserts _ _ _ hserves hdone
      exact ⟨hboots, fun slot hne => (Function.update_of_ne hne _ _).trans (hothers slot hne),
        Function.update_self _ _ _⟩
    · have hmay : mayFail := by_contra fun hnot => hstatus ((hhealthy hnot).inserted _ _ _ hserves)
      exact Or.inl ⟨hmay, (hconforms.quiet _ _ _ _ not_isReset_insert hserves).trans hboots, rfl⟩
  · rintro c answer c' ⟨hboots, hothers, hslot⟩ hserves
    split_ifs with hstatus
    · obtain rfl := hconforms.overrides _ _ _ hserves hstatus
      exact ⟨hboots, hothers, hslot, rfl⟩
    · have hmay : mayFail :=
        by_contra fun hnot => hstatus ((hhealthy hnot).overridden _ _ _ hserves)
      exact Or.inl ⟨hmay, (hconforms.quiet _ _ _ _ not_isReset_override hserves).trans hboots, rfl⟩
  · rintro c answer c' ⟨hboots, hrest⟩ hserves
    split_ifs with hstatus
    · obtain ⟨rfl, hpower⟩ := hconforms.reads _ _ _ hserves hstatus
      exact fun power hmem => ⟨⟨hboots, hrest⟩, hpower power hmem⟩
    · have hmay : mayFail := by_contra fun hnot => hstatus ((hhealthy hnot).known _ _ _ hserves).1
      exact Or.inl ⟨hmay, (hconforms.quiet _ _ _ _ not_isReset_state hserves).trans hboots, rfl⟩
  · rintro c answer c' ⟨hboots, -⟩ hserves hunknown
    have hmay : mayFail := by_contra fun hnot => ((hhealthy hnot).known _ _ _ hserves).2 hunknown
    exact Or.inl ⟨hmay, (hconforms.quiet _ _ _ _ not_isReset_state hserves).trans hboots, rfl⟩
  · rintro power c answer c' ⟨⟨hboots, hothers, hslot, hoverride⟩, hpower⟩ hserves
    rw [resetType_eq hpower] at hserves
    rcases hconforms.resets _ _ _ hserves with ⟨rfl, hstatus⟩ | ⟨source, hsource, rfl⟩
    · have hmay : mayFail := by_contra fun hnot => hstatus
        ((hhealthy hnot).reset _ _ _ hoverride (hslot.symm ▸ Option.some_ne_none iso) hserves)
      rw [if_neg hstatus]
      exact Or.inl ⟨hmay, hboots, rfl⟩
    · obtain rfl := bootsFrom_iso hothers hslot hoverride hsource
      have hafter : c.boots ++ [some iso] = before ++ [some iso] := by rw [hboots]
      split_ifs
      · exact hafter
      · exact Or.inr hafter
  · refine (Ensures.of_asks hafterwards ?_).imp (fun _ => id) fun _ _ => Or.inr
    exact fun c request answer c' hharmless hboots hserves =>
      (hconforms.quiet _ _ _ _ (not_isReset_of_isHarmless hharmless) hserves).trans hboots

end Boots

/-- Does at once what it is asked to do, with any of the images that a restart may boot. -/
inductive Obeys (v : Vendor) (t : Target) : Controller → Request → Answer → Controller → Prop
  | eject (c : Controller) (slot : Str) :
      Obeys v t c (ejectRequest v t slot) ⟨204, none⟩
        { c with media := Function.update c.media slot none }
  | insert (c : Controller) (iso : Str) :
      Obeys v t c (insertRequest v t iso) ⟨204, none⟩
        { c with media := Function.update c.media v.slot (some iso) }
  | override (c : Controller) : Obeys v t c (overrideRequest v t) ⟨204, none⟩
    { c with isOverridden := true }
  | state (c : Controller) : Obeys v t c (stateRequest v t)
      ⟨200, some (.obj [("PowerState".toList, .str (if c.isPowered then "On" else "Off").toList)])⟩
        c
  | reset {c : Controller} {source : Option Str} (type : Str) (hsource : c.BootsFrom source) :
      Obeys v t c (resetRequest v t type) ⟨204, none⟩ ⟨c.media, false, true, c.boots ++ [source]⟩
  | other (c : Controller) {request : Request} (hreset : ¬ IsReset v t request)
      (heject : ∀ slot, request ≠ ejectRequest v t slot)
        (hinsert : ∀ iso, request ≠ insertRequest v t iso)
      (hoverride : request ≠ overrideRequest v t) (hstate : request ≠ stateRequest v t) :
      Obeys v t c request ⟨0, none⟩ c

/-- What tells the requests apart: the method and the names in the body. -/
def Request.shape : Request → Option (Method × List Str)
  | .uri method _ _ _ (some (.obj fields)) => some (method, fields.map Prod.fst)
  | .uri method _ _ _ _ => some (method, [])
  | _ => none

section Obeys
variable {v : Vendor} {t : Target} {c c' : Controller} {answer : Answer}

theorem ejectRequest_injective {slot slot' : Str}
    (h : ejectRequest v t slot = ejectRequest v t slot') : slot = slot' := by
  injection h with _ hurl
  exact List.append_cancel_left (List.append_cancel_right (List.append_cancel_left hurl))

theorem Obeys.eject_inv {slot : Str} (h : Obeys v t c (ejectRequest v t slot) answer c') :
    answer.status = 204 ∧ c' = { c with media := Function.update c.media slot none } := by
  generalize hrequest : ejectRequest v t slot = request at h
  have hshape := congrArg Request.shape hrequest
  cases h with
  | eject slot' =>
    obtain rfl := ejectRequest_injective hrequest
    exact ⟨rfl, rfl⟩
  | other hreset heject => exact absurd hrequest.symm (heject slot)
  | _ =>
    simp [Request.shape, ejectRequest, insertRequest, overrideRequest, stateRequest, resetRequest,
      bmcRequest] at hshape

theorem Obeys.insert_inv {iso : Str} (h : Obeys v t c (insertRequest v t iso) answer c') :
    answer.status = 204 ∧ c' = { c with media := Function.update c.media v.slot (some iso) } := by
  generalize hrequest : insertRequest v t iso = request at h
  have hshape := congrArg Request.shape hrequest
  cases h with
  | insert iso' =>
    injection hrequest with _ _ _ _ hbody
    injection Option.some.inj hbody with hfields
    injection (Prod.mk.inj (List.cons.inj hfields).1).2 with hiso
    exact ⟨rfl, hiso ▸ rfl⟩
  | other _ _ hinsert => exact absurd hrequest.symm (hinsert iso)
  | _ =>
    simp [Request.shape, ejectRequest, insertRequest, overrideRequest, stateRequest, resetRequest,
      bmcRequest] at hshape

theorem Obeys.override_inv (h : Obeys v t c (overrideRequest v t) answer c') :
    answer.status = 204 ∧ c' = { c with isOverridden := true } := by
  generalize hrequest : overrideRequest v t = request at h
  have hshape := congrArg Request.shape hrequest
  cases h with
  | override => exact ⟨rfl, rfl⟩
  | other _ _ _ hoverride => exact absurd hrequest.symm hoverride
  | _ =>
    simp [Request.shape, ejectRequest, insertRequest, overrideRequest, stateRequest, resetRequest,
      bmcRequest] at hshape

theorem Obeys.state_inv (h : Obeys v t c (stateRequest v t) answer c') : c' = c ∧
    answer = ⟨200, some (.obj [("PowerState".toList,
      .str (if c.isPowered then "On" else "Off").toList)])⟩ := by
  generalize hrequest : stateRequest v t = request at h
  have hshape := congrArg Request.shape hrequest
  cases h with
  | state => exact ⟨rfl, rfl⟩
  | other _ _ _ _ hstate => exact absurd hrequest.symm hstate
  | _ =>
    simp [Request.shape, ejectRequest, insertRequest, overrideRequest, stateRequest, resetRequest,
      bmcRequest] at hshape

theorem Obeys.reset_inv {type : Str} (h : Obeys v t c (resetRequest v t type) answer c') :
    answer.status = 204 ∧ ∃ source, c.BootsFrom source ∧
      c' = ⟨c.media, false, true, c.boots ++ [source]⟩ := by
  generalize hrequest : resetRequest v t type = request at h
  have hshape := congrArg Request.shape hrequest
  cases h with
  | reset type' hsource => exact ⟨rfl, _, hsource, rfl⟩
  | other hreset => exact absurd ⟨type, hrequest.symm⟩ hreset
  | _ =>
    simp [Request.shape, ejectRequest, insertRequest, overrideRequest, stateRequest, resetRequest,
      bmcRequest] at hshape

theorem Obeys.boots_eq {request : Request} (h : Obeys v t c request answer c')
    (hreset : ¬ IsReset v t request) :
    c'.boots = c.boots := by
  cases h with
  | reset type => exact absurd ⟨type, rfl⟩ hreset
  | _ => rfl

theorem exists_bootsFrom (c : Controller) : ∃ source, c.BootsFrom source := by
  by_cases hoverride : c.isOverridden
  · by_cases hempty : ∀ slot, c.media slot = none
    · exact ⟨none, (if_pos hoverride).mpr (Or.inr ⟨hempty, rfl⟩)⟩
    · obtain ⟨slot, hslot⟩ := not_forall.mp hempty
      exact ⟨c.media slot, (if_pos hoverride).mpr (Or.inl ⟨slot, rfl, hslot⟩)⟩
  · exact ⟨none, (if_neg hoverride).mpr rfl⟩

theorem exists_obeys (c : Controller) (request : Request) : ∃ answer c',
    Obeys v t c request answer c' := by
  by_cases hreset : IsReset v t request
  · obtain ⟨type, rfl⟩ := hreset
    obtain ⟨source, hsource⟩ := exists_bootsFrom c
    exact ⟨_, _, .reset type hsource⟩
  by_cases heject : ∃ slot, request = ejectRequest v t slot
  · obtain ⟨slot, rfl⟩ := heject
    exact ⟨_, _, .eject c slot⟩
  by_cases hinsert : ∃ iso, request = insertRequest v t iso
  · obtain ⟨iso, rfl⟩ := hinsert
    exact ⟨_, _, .insert c iso⟩
  by_cases hoverride : request = overrideRequest v t
  · exact hoverride ▸ ⟨_, _, .override c⟩
  by_cases hstate : request = stateRequest v t
  · exact hstate ▸ ⟨_, _, .state c⟩
  · exact ⟨_, _, .other c hreset (not_exists.mp heject) (not_exists.mp hinsert) hoverride hstate⟩

theorem conforms_obeys (iso : Str) : Conforms v t iso (Obeys v t) where
  quiet := fun _ _ _ _ hreset h => h.boots_eq hreset
  ejects := by
    intro c slot answer c' _ h other hother
    rw [h.eject_inv.2]
    by_cases heq : other = slot
    · exact heq ▸ Function.update_self _ _ _
    · exact (Function.update_of_ne heq _ _).trans hother
  empty := by
    intro c slot answer c' _ _ h _
    rw [h.eject_inv.2]
    exact Function.update_self _ _ _
  inserts := fun _ _ _ h _ => h.insert_inv.2
  overrides := fun _ _ _ h _ => h.override_inv.2
  reads := by
    intro c answer c' h _
    obtain ⟨rfl, rfl⟩ := h.state_inv
    refine ⟨rfl, fun power hpower => ?_⟩
    obtain rfl := Option.some.inj hpower
    cases c'.isPowered <;> decide
  resets := fun _ _ _ h => Or.inr h.reset_inv.2

theorem healthy_obeys (iso : Str) (heject : 204 ∈ v.ejectCodes) (hinsert : 204 ∈ v.insertCodes) :
    Healthy v t iso (Obeys v t) where
  ejected := fun _ _ _ _ _ h => h.eject_inv.1 ▸ heject
  inserted := fun _ _ _ h => h.insert_inv.1 ▸ hinsert
  overridden := by
    intro c answer c' h
    rw [h.override_inv.1]
    decide
  known := by
    intro c answer c' h
    obtain ⟨-, rfl⟩ := h.state_inv
    exact ⟨rfl, Option.some_ne_none _⟩
  reset := by
    intro c answer c' _ _ h
    rw [h.reset_inv.1]
    decide

theorem insertsAtOnce_obeys (iso : Str) : InsertsAtOnce v t iso (Obeys v t) := by
  intro c answer c' h
  rw [h.insert_inv.1]
  decide

end Obeys

/-- With a controller that does what it says, and whose drives are empty if they are not ejected, a
server that is booted in the course of a sequence is booted from the ISO, and exactly once; a
sequence that succeeds has booted it. The Dell sequence does not accept an insertion that is still
to be done; the others need a controller without such answers. -/
theorem staging_boots_iso (t : Target) (iso : Str) :
    ∀ staging ∈ stagings t iso, ∀ serves, Conforms staging.1 t iso serves →
      (202 ∈ staging.1.insertCodes → InsertsAtOnce staging.1 t iso serves) → ∀ c result c',
      (∀ slot ∉ staging.1.ejected, c.media slot = none) → Run serves staging.2 c result c' →
      (c'.boots = c.boots ∧ result = none) ∨ c'.boots = c.boots ++ [some iso] := by
  rintro ⟨v, task⟩ hstaging serves hconforms hinserts c result c' hothers hrun
  obtain ⟨afterwards, rfl, hafterwards⟩ := stagings_spec hstaging
  refine (ensures_boots hconforms (fun hnot => absurd trivial hnot) hafterwards hinserts c result c'
    ⟨rfl, hothers⟩ hrun).imp_left ?_
  exact And.right

/-- A running server with an old image in its drive. -/
def exampleController (slot : Str) : Controller where
  media := fun other => if other = slot then some "http://10.0.0.1/isos/old.iso" else none
  isOverridden := false
  isPowered := true
  boots := []

theorem staging_boots_iso_dell :
    ∃ result c', Run (Obeys dell exampleTarget) (provisionDellHW exampleTarget exampleIso)
      (exampleController "CD") result c' ∧
      ((c'.boots = [] ∧ result = none) ∨ c'.boots = [] ++ [some exampleIso]) := by
  obtain ⟨result, c', hrun⟩ :=
    exists_run exists_obeys (provisionDellHW exampleTarget exampleIso) (exampleController "CD")
  refine ⟨result, c', hrun, staging_boots_iso exampleTarget exampleIso
    (dell, provisionDellHW exampleTarget exampleIso)
    List.mem_cons_self _ (conforms_obeys exampleIso)
      (fun _ => insertsAtOnce_obeys exampleIso) _ result c' ?_ hrun⟩
  exact fun slot hslot => if_neg fun heq => hslot (List.mem_singleton.mpr heq)

/-- Without faults of the controller the server is booted from the ISO, whatever the drives that are
ejected held before, and whether it was running or not. -/
theorem healthy_staging_boots_iso (t : Target) (iso : Str) :
    ∀ staging ∈ stagings t iso, ∀ serves, Conforms staging.1 t iso serves →
      Healthy staging.1 t iso serves →
      (202 ∈ staging.1.insertCodes → InsertsAtOnce staging.1 t iso serves) →
      (∀ c request, ∃ answer c', serves c request answer c') →
        ∀ c, (∀ slot ∉ staging.1.ejected, c.media slot = none) →
      (∃ result c', Run serves staging.2 c result c') ∧
        ∀ result c', Run serves staging.2 c result c' → c'.boots = c.boots ++ [some iso] := by
  rintro ⟨v, task⟩ hstaging serves hconforms hhealthy hinserts htotal c hothers
  obtain ⟨afterwards, rfl, hafterwards⟩ := stagings_spec hstaging
  refine ⟨exists_run htotal _ c, fun result c' hrun => ?_⟩
  exact (ensures_boots hconforms (fun _ => hhealthy) hafterwards hinserts c result c' ⟨rfl, hothers⟩
    hrun).resolve_left
    fun hfailed => hfailed.1

theorem healthy_staging_boots_iso_gh200 :
    (∃ result c', Run (Obeys gh200 exampleTarget) (provisionGH200HW exampleTarget exampleIso)
        (exampleController "VirtualMedia2") result c') ∧
      ∀ result c', Run (Obeys gh200 exampleTarget) (provisionGH200HW exampleTarget exampleIso)
        (exampleController "VirtualMedia2") result c' → c'.boots = [] ++ [some exampleIso] := by
  refine healthy_staging_boots_iso exampleTarget exampleIso
    (gh200, provisionGH200HW exampleTarget exampleIso)
    (by simp [stagings]) _ (conforms_obeys exampleIso)
      (healthy_obeys exampleIso (by decide) (by decide))
    (fun _ => insertsAtOnce_obeys exampleIso) exists_obeys (exampleController "VirtualMedia2") ?_
  intro slot hslot
  refine if_neg fun heq => hslot ?_
  rw [heq]
  decide

end Astro.RedfishStaging
