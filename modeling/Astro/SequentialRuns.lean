import Astro.HttpMethods
import Astro.ObservedRuns
import Astro.ServerSteps

/-!
# Requests served one at a time

A run of the server whose requests do not overlap, with the runners reporting in between.
The served directories, the templates and the release map may be different for every
request. Each such run is also a run of the threading server, so that what holds of all its
states holds here as well.
-/

namespace Astro.SequentialRuns

open PythonText JobPaths IpxePipeline TelemetryHandler CustomIsoHandler ServerHandlers SeedRendering
  FileServing HttpMethods LabelledRuns ServerSteps

inductive Action where
  | request (world : World) (env : Environment) (r : Request)
  | runner (n : ℕ) (runner : Runner)

/-- A runner reports; one that has failed stays failed. -/
def reported (old new : Runner) : Runner :=
  if old.status = .failed then { new with status := .failed } else new

def step (m : Machine) : Action → Machine
  | .request world env r => (serve world env r m).state
  | .runner n runner =>
    { m with runners := Function.update m.runners n ((m.runners n).map (reported · runner)) }

def response (m : Machine) : Action → List Sent
  | .request world env r => (serve world env r m).output
  | .runner _ _ => []

section Served
variable (world : World) (env : Environment) (r : Request) (m : Machine)

/-- The machine after a `POST` to an endpoint. -/
def posted : Endpoint → Machine
  | .progress => m.put (progressHook world.toSite r.body m.toServer).1
  | .customIso => m.put (customIso world.toSite m.toServer (isoRequest env r)).1
  | .phoneHome => m.put (served world env r m.toServer).1
  | .provision => match provisionJob world.toSite r.body with
    | some job => provisioned env job m
    | none => m
  | .telemetry => m.put (telemetry world.toSite r.body env.logWritten m.toServer).1

def postResponse : Endpoint → List Sent
  | .progress => progressResponse (progressHook world.toSite r.body m.toServer).2
  | .customIso => customIsoResponse world r (customIso world.toSite m.toServer (isoRequest env r)).2
  | .phoneHome => phoneHomeResponse world r (served world env r m.toServer).2
  | .provision => provisionResponse world env r
  | .telemetry => telemetryResponse (telemetry world.toSite r.body env.logWritten m.toServer).2

theorem run_post (e : Endpoint) : ∃ ending, (post world env r e).run m =
    ⟨postResponse world env r m e, posted world env r m e, ending⟩ := by
  cases e with
  | progress => exact ⟨_, run_postProgress⟩
  | customIso => exact ⟨_, run_postCustomIso⟩
  | phoneHome => exact ⟨_, run_postPhoneHome⟩
  | provision => exact run_postProvision
  | telemetry => exact ⟨_, run_postTelemetry⟩

/-- The entry that a `POST` to an endpoint stores. -/
def postWrite : Endpoint → Option (Key × Entry)
  | .progress => hookWrite world.toSite r.body
  | .customIso => isoWrite world.toSite (isoRequest env r)
  | .phoneHome => phoneHomeWrite world.toSite r.body m.toServer
  | .provision => (provisionJob world.toSite r.body).map fun job => (.text job, stagingEntry)
  | .telemetry => telemetryWrite world.toSite r.body m.toServer

theorem posted_progress (e : Endpoint) :
    (posted world env r m e).progress = applyWrite m.progress (postWrite world env r m e) := by
  cases e with
  | progress =>
    simp only [posted, postWrite, progressHook]
    cases hookWrite world.toSite r.body <;> rfl
  | customIso =>
    simp only [posted, postWrite, customIso_eq]
    rfl
  | phoneHome => exact phoneHome_progress ..
  | provision =>
    simp only [posted, postWrite]
    cases provisionJob world.toSite r.body with
    | none => rfl
    | some job =>
      simp only [provisioned]
      split_ifs <;> rfl
  | telemetry => exact telemetry_progress ..

theorem posted_files {e : Endpoint} (hiso : e ≠ .customIso) (hphone : e ≠ .phoneHome) :
    (posted world env r m e).files = m.files := by
  cases e with
  | progress =>
    simp only [posted, progressHook]
    split <;> rfl
  | customIso => exact absurd rfl hiso
  | phoneHome => exact absurd rfl hphone
  | provision =>
    simp only [posted]
    split
    · simp only [provisioned]
      split_ifs <;> rfl
    · rfl
  | telemetry => exact telemetry_files ..

theorem posted_logs {e : Endpoint} (he : e ≠ .telemetry) :
    (posted world env r m e).logs = m.logs := by
  cases e with
  | progress =>
    simp only [posted, progressHook]
    split <;> rfl
  | customIso =>
    simp only [posted, customIso_eq]
    rfl
  | phoneHome => exact phoneHome_logs ..
  | provision =>
    simp only [posted]
    split
    · simp only [provisioned]
      split_ifs <;> rfl
    · rfl
  | telemetry => exact absurd rfl he

theorem posted_jobTracker {e : Endpoint} (he : e ≠ .provision) :
    (posted world env r m e).jobTracker = m.jobTracker := by
  cases e with
  | progress =>
    simp only [posted, progressHook]
    split <;> rfl
  | customIso =>
    simp only [posted, customIso_eq]
    rfl
  | phoneHome => exact phoneHome_jobTracker ..
  | provision => exact absurd rfl he
  | telemetry => exact telemetry_jobTracker ..

theorem posted_provisions {e : Endpoint} (he : e ≠ .provision) :
    (posted world env r m e).provisions = m.provisions := by
  cases e <;> first | rfl | exact absurd rfl he

end Served

/-- What a request can be. -/
inductive Kind (r : Request) : Prop
  | get (h : r.method = .get)
  | head (h : r.method = .head)
  | post (h : r.method = .post) (e : Endpoint) (hpath : r.path = e.path)
  | unknown (h : r.method = .post) (hpath : ∀ e : Endpoint, r.path ≠ e.path)

theorem kind_of (r : Request) : Kind r := by
  cases hmethod : r.method with
  | get => exact .get hmethod
  | head => exact .head hmethod
  | post =>
    by_cases hpath : ∃ e : Endpoint, r.path = e.path
    · obtain ⟨e, he⟩ := hpath
      exact .post hmethod e he
    · exact .unknown hmethod fun e he => hpath ⟨e, he⟩

section Kinds
variable {world : World} {env : Environment} {r : Request} {m : Machine}

theorem serve_post (h : r.method = .post) {e : Endpoint} (hpath : r.path = e.path) :
    ∃ ending, serve world env r m =
      ⟨postResponse world env r m e, posted world env r m e, ending⟩ := by
  rw [serve_endpoint h hpath]
  exact run_post world env r m e

theorem serve_post_state (h : r.method = .post) {e : Endpoint} (hpath : r.path = e.path) :
    (serve world env r m).state = posted world env r m e := by
  obtain ⟨ending, hrun⟩ := @serve_post world env r m h e hpath
  rw [hrun]

theorem serve_post_output (h : r.method = .post) {e : Endpoint} (hpath : r.path = e.path) :
    (serve world env r m).output = postResponse world env r m e := by
  obtain ⟨ending, hrun⟩ := @serve_post world env r m h e hpath
  rw [hrun]

theorem serve_unknown (h : r.method = .post) (hpath : ∀ e : Endpoint, r.path ≠ e.path) :
    serve world env r m = ⟨[], m, .value ()⟩ := by
  rw [serve_doPost h, doPost_other hpath]
  rfl

end Kinds

/-- The threading server with no request in flight, up to the return codes of the runners. -/
structure Simulates (c : Config) (m : Machine) : Prop where
  server : c.toServer = m.toServer
  runners : ∀ n, (c.runners n).map Runner.status = (m.runners n).map Runner.status
  provisions : ∀ n, m.provisions ≤ n → c.provisions n = none
  isos : ∃ k, ∀ n, k ≤ n → c.isos n = none

theorem simulates_started (logs : Path → Str) (files : Files) :
    Simulates (Config.started logs files) (Machine.started logs files) :=
  ⟨rfl, fun _ => rfl, fun _ _ => rfl, 0, fun _ _ => rfl⟩

theorem recordedRunner_status {runners runners' : ℕ → Option Runner}
    (h : ∀ n, (runners n).map Runner.status = (runners' n).map Runner.status) (s : Server)
    (job : Str) :
    (recordedRunner runners s job).map Runner.status =
      (recordedRunner runners' s job).map Runner.status := by
  unfold recordedRunner
  cases s.jobTracker.get? (.text job) with
  | none => rfl
  | some n => exact h n

/-- Of a runner, a status query stores what follows from its status. -/
theorem getWrite_congr {runners runners' : ℕ → Option Runner}
    (h : ∀ n, (runners n).map Runner.status = (runners' n).map Runner.status) (path : Str)
    (s : Server) :
    getWrite runners path s = getWrite runners' path s := by
  have hfailed : RunnerFailed runners s (statusJob path) ↔
      RunnerFailed runners' s (statusJob path) := by
    unfold RunnerFailed
    rw [recordedRunner_status h]
  unfold getWrite
  simp only [statusWrite_eq, hfailed]

def IsoLabel (n : ℕ) : Label → Prop
  | .isoBegin k _ _ | .isoSave k _ | .isoCommand k _ | .isoAnswer k => k = n
  | _ => False

/-- Everything but the request with this number. -/
structure OtherFlightsKept (n : ℕ) (c c' : Config) : Prop where
  runners : c'.runners = c.runners
  provisions : c'.provisions = c.provisions
  isos : ∀ k, k ≠ n → c'.isos k = c.isos k

theorem step_isoLabel {site : Site} {n : ℕ} {a : Label} (ha : IsoLabel n a) (c : Config) :
    OtherFlightsKept n c (ServerSteps.step site c a) := by
  have hrefl : OtherFlightsKept n c c := ⟨rfl, rfl, fun _ _ => rfl⟩
  have hupdate : ∀ flight, ∀ k, k ≠ n → Function.update c.isos n flight k = c.isos k :=
    fun flight k hk => Function.update_of_ne hk _ _
  cases a with
  | isoBegin k host body =>
    obtain rfl : k = n := ha
    simp only [ServerSteps.step, isoBegin]
    split
    · exact ⟨rfl, rfl, hupdate _⟩
    · exact hrefl
  | isoSave k outcome =>
    obtain rfl : k = n := ha
    simp only [ServerSteps.step, isoSave]
    split
    · exact ⟨rfl, rfl, hupdate _⟩
    · exact hrefl
  | isoCommand k outcome =>
    obtain rfl : k = n := ha
    simp only [ServerSteps.step, isoCommand]
    split
    · exact ⟨rfl, rfl, hupdate _⟩
    · exact hrefl
  | isoAnswer k =>
    obtain rfl : k = n := ha
    simp only [ServerSteps.step, isoAnswer]
    split
    · exact ⟨rfl, rfl, hupdate _⟩
    · exact hrefl
  | _ => exact ha.elim

theorem uninterrupted_isoLabel (n : ℕ) (r : IsoRequest) : ∀ a ∈ uninterrupted n r,
    IsoLabel n a := by
  intro a ha
  simp only [uninterrupted, beforeAnswer, List.mem_append, List.mem_cons, List.mem_map,
    List.not_mem_nil, or_false] at ha
  rcases ha with (rfl | rfl | ⟨cmd, -, rfl⟩) | rfl <;> rfl

theorem run_uninterrupted_kept (site : Site) (n : ℕ) (r : IsoRequest) (c : Config) :
    OtherFlightsKept n c (run (ServerSteps.step site) c (uninterrupted n r)) := by
  have hlabels : Guarded (ServerSteps.step site) (fun _ a => IsoLabel n a) c (uninterrupted n r) :=
    guarded_const.mpr (uninterrupted_isoLabel n r)
  refine hlabels.invariant ?_ ⟨rfl, rfl, fun _ _ => rfl⟩
  intro c' a hc' ha
  have hstep := @step_isoLabel site n a ha c'
  exact ⟨hstep.runners.trans hc'.runners, hstep.provisions.trans hc'.provisions,
    fun k hk => (hstep.isos k hk).trans (hc'.isos k hk)⟩

section Simulation
variable {site : Site} {c : Config} {m : Machine}

theorem Simulates.put (h : Simulates c m) {s : Server} {c' : Config} (hserver : c'.toServer = s)
    (hrunners : c'.runners = c.runners) (hprovisions : c'.provisions = c.provisions)
    (hisos : ∃ k, ∀ n, k ≤ n → c'.isos n = none) : Simulates c' (m.put s) := by
  refine ⟨hserver, ?_, ?_, hisos⟩
  · rw [hrunners]
    exact h.runners
  · rw [hprovisions]
    exact h.provisions

/-- A custom-iso request takes the number of no other. -/
theorem Simulates.customIso (h : Simulates c m) (r : IsoRequest) :
    ∃ labels, Simulates (run (ServerSteps.step site) c labels)
      (m.put (customIso site m.toServer r).1) := by
  cases haccept : accept site r.host r.body with
  | error status =>
    refine ⟨[], ?_⟩
    rw [CustomIsoHandler.customIso, haccept]
    exact h
  | ok data =>
    obtain ⟨k, hk⟩ := h.isos
    have hkept := run_uninterrupted_kept site k r c
    have hrun := (run_uninterrupted r (hk k le_rfl) haccept).1
    rw [h.server] at hrun
    refine ⟨uninterrupted k r, h.put hrun hkept.runners hkept.provisions ⟨k + 1, ?_⟩⟩
    intro n hn
    rw [hkept.isos n (by omega)]
    exact hk n (by omega)

/-- A provisioning request takes the next number. -/
theorem Simulates.provision (h : Simulates c m) {body : Option Json} {job : Str}
    (hjob : provisionJob site body = some job) (env : Environment) :
    Simulates (run (ServerSteps.step site) c
      [.provisionBegin m.provisions body, .provisionStart m.provisions env.started])
      (provisioned env job m) := by
  have hbegun : begunProvision site c m.provisions body = some job :=
    begunProvision_eq_some.mpr ⟨h.provisions _ le_rfl, hjob⟩
  have hlater : ∀ flight flight', ∀ n, m.provisions + 1 ≤ n →
      Function.update (Function.update c.provisions m.provisions flight) m.provisions flight' n =
        none := by
    intro flight flight' n hn
    have hne : n ≠ m.provisions := by omega
    rw [Function.update_of_ne hne, Function.update_of_ne hne]
    exact h.provisions n (by omega)
  simp only [run_cons, run_nil, ServerSteps.step, provisionBegin, hbegun, provisionStart,
    Function.update_self]
  unfold provisioned
  cases env.started with
  | true =>
    refine ⟨?_, ?_, hlater _ _, h.isos⟩
    · simp only [if_true, withRunner, Machine.put, h.server, Server.setProgress]
    · intro n
      simp only [if_true, withRunner, Machine.put]
      by_cases hn : n = m.provisions
      · rw [hn, Function.update_self, Function.update_self]
      · rw [Function.update_of_ne hn, Function.update_of_ne hn]
        exact h.runners n
  | false =>
    refine ⟨?_, h.runners, hlater _ _, h.isos⟩
    simp only [Machine.put, h.server, Server.setProgress, withoutRunner]
    rfl

theorem Simulates.runnerStatus (h : Simulates c m) (n : ℕ) (runner : Runner) :
    Simulates (ServerSteps.runnerStatus c n runner) (step m (.runner n runner)) := by
  refine ⟨?_, ?_, ?_, ?_⟩
  · rw [runnerStatus_toServer]
    exact h.server
  · intro k
    have hn := h.runners n
    by_cases hk : k = n
    · subst hk
      simp only [step, Function.update_self, ServerSteps.runnerStatus]
      cases hc : c.runners k with
      | none =>
        rw [hc, eq_comm, Option.map_none, Option.map_eq_none_iff] at hn
        rw [hn, hc]
        rfl
      | some old =>
        rw [hc, eq_comm, Option.map_some, Option.map_eq_some_iff] at hn
        obtain ⟨old', hm, hstatus⟩ := hn
        rw [hm, Option.map_some, reported, hstatus]
        dsimp only
        split_ifs with hfailed
        · rw [hc, Option.map_some, hfailed]
          rfl
        · exact congrArg (Option.map Runner.status) (Function.update_self ..)
    · simp only [step, Function.update_of_ne hk, ServerSteps.runnerStatus]
      rw [← h.runners k]
      split
      · split_ifs
        · rfl
        · exact congrArg (Option.map Runner.status) (Function.update_of_ne hk _ _)
      · rfl
  · unfold ServerSteps.runnerStatus
    split
    · split_ifs <;> exact h.provisions
    · exact h.provisions
  · unfold ServerSteps.runnerStatus
    split
    · split_ifs <;> exact h.isos
    · exact h.isos

/-- The action belongs to this site. -/
def Action.At (site : Site) : Action → Prop
  | .request world _ _ => world.toSite = site
  | .runner _ _ => True

theorem Simulates.posted (h : Simulates c m) (world : World) (hsite : world.toSite = site)
    (env : Environment) (r : Request) (e : Endpoint) :
    ∃ labels, Simulates (run (ServerSteps.step site) c labels) (posted world env r m e) := by
  subst hsite
  cases e with
  | progress =>
    refine ⟨[.progress r.body], h.put ?_ rfl rfl h.isos⟩
    rw [← h.server]
    rfl
  | telemetry =>
    refine ⟨[.telemetry r.body env.logWritten], h.put ?_ rfl rfl h.isos⟩
    rw [← h.server]
    rfl
  | phoneHome =>
    refine ⟨[.phoneHome r.body (phoneHomeSeeds world.toDeployment r.hostIp env.seedWrite env.chmod
      r.body m.toServer)], h.put ?_ rfl rfl h.isos⟩
    rw [served, servePhoneHome, ← h.server]
    rfl
  | customIso => exact h.customIso (isoRequest env r)
  | provision =>
    unfold SequentialRuns.posted
    dsimp only
    cases hjob : provisionJob world.toSite r.body with
    | none => exact ⟨[], h⟩
    | some job => exact ⟨_, h.provision hjob env⟩

/-- Each step of the sequential server is a run of the threading server. -/
theorem Simulates.step (h : Simulates c m) (e : Action) (he : e.At site) :
    ∃ labels, Simulates (run (ServerSteps.step site) c labels) (step m e) := by
  cases e with
  | runner n runner => exact ⟨[.runnerStatus n runner], h.runnerStatus n runner⟩
  | request world env r =>
    cases kind_of r with
    | get hmethod =>
      refine ⟨[.get r.path], ?_⟩
      rw [SequentialRuns.step, serve_get_state hmethod, afterGet]
      refine h.put ?_ rfl rfl h.isos
      simp only [run_cons, run_nil, ServerSteps.step, h.server, getWrite_congr h.runners]
    | head hmethod =>
      refine ⟨[], ?_⟩
      rw [SequentialRuns.step, serve_head_state hmethod]
      exact h
    | post hmethod e hpath =>
      rw [SequentialRuns.step, serve_post_state hmethod hpath]
      exact h.posted world he env r e
    | unknown hmethod hpath =>
      refine ⟨[], ?_⟩
      rw [SequentialRuns.step, serve_unknown hmethod hpath]
      exact h

/-- A run without overlapping requests leads to the trackers, logs and files of a reachable
state of the threading server. -/
theorem reachable_of_run (site : Site) (logs : Path → Str) (files : Files) {actions : List Action}
    (hactions : ∀ e ∈ actions, e.At site) :
    ∃ c, Reachable site c ∧ Simulates c (run step (Machine.started logs files) actions) := by
  have hreach : ∀ m, (∃ c, Reachable site c ∧ Simulates c m) → ∀ e : Action, e.At site →
      ∃ c, Reachable site c ∧ Simulates c (SequentialRuns.step m e) := by
    rintro m ⟨c, ⟨logs, files, labels, hc⟩, hm⟩ e he
    obtain ⟨labels', hstep⟩ := hm.step e he
    refine ⟨_, ⟨logs, files, labels ++ labels', ?_⟩, hstep⟩
    rw [hc, run_append]
  have hat : Guarded SequentialRuns.step (fun _ e => Action.At site e) (Machine.started logs files)
      actions := guarded_const.mpr hactions
  refine hat.invariant (fun m e hm he => hreach m hm e he) ?_
  exact ⟨_, ⟨logs, files, [], rfl⟩, simulates_started logs files⟩

end Simulation

end Astro.SequentialRuns
