import Astro.PhoneHomeOutcomes
import Astro.TelemetryFold

/-!
# Rejected hooks

A progress hook stores its entry in the last statement that can raise. The telemetry handler
joins the path of the log after it has stored the new stage, and a job id that is a number
fails there: the event is answered with 500 although the tracker has changed.
-/

namespace Astro.RejectedHooks

open PythonText TelemetryHandler ServerHandlers FileServing HttpMethods PhoneHomeOutcomes
  MethodBodies

section Hooks
variable {world : World} {env : Environment} {r : Request} {m : Machine}

theorem serve_progress (hmethod : r.method = .post) (hpath : r.path = Endpoint.progress.path) :
    serve world env r m = ⟨progressResponse (progressHook world.toSite r.body m.toServer).2,
      m.put (progressHook world.toSite r.body m.toServer).1, .returned⟩ := by
  rw [serve_endpoint hmethod hpath, post, run_postProgress]

theorem serve_telemetry (hmethod : r.method = .post) (hpath : r.path = Endpoint.telemetry.path) :
    serve world env r m =
      ⟨telemetryResponse (telemetry world.toSite r.body env.logWritten m.toServer).2,
        m.put (telemetry world.toSite r.body env.logWritten m.toServer).1, .returned⟩ := by
  rw [serve_endpoint hmethod hpath, post, run_postTelemetry]

end Hooks

/-- Both trackers and all logs are as before. -/
structure Unchanged (m m' : Machine) : Prop where
  progress : trackerContents m'.progress = trackerContents m.progress
  jobTracker : m'.jobTracker = m.jobTracker
  logs : m'.logs = m.logs

theorem Unchanged.refl (m : Machine) : Unchanged m m := ⟨rfl, rfl, rfl⟩

/-- A progress hook that is answered with 400 and an event that is answered with 500 change
nothing. -/
def RejectionHarmless (world : World) (env : Environment) (r : Request) (m : Machine) : Prop :=
  (r.path = Endpoint.progress.path → 400 ∈ statusLines (serve world env r m).output →
    Unchanged m (serve world env r m).state) ∧
  (r.path = Endpoint.telemetry.path → 500 ∈ statusLines (serve world env r m).output →
    Unchanged m (serve world env r m).state)

/-- If the event is attributed to a number, the handler raises before it stores anything, or what it
stores is there already: the stage is terminal or the one that the event decides for, and the detail
is the message of the event. -/
def NumbersKept (site : Site) (body : Option Json) (s : Server) : Prop :=
  ∀ fields x, body = some (.obj fields) →
    matchedJob s.progress (eventOf fields) = some (some (.number x)) →
    ∃ old, s.progress.get? (.number x) = some old ∧
      ((¬ old.stage.Terminal ∧ Raises (eventOf fields)) ∨
        ((old.stage.Terminal ∨ old.stage = (verdict (eventOf fields)).getD .installing) ∧
          old.detail = .str (("Ubuntu Installer: " : Str) ++ logMessage site.py (eventOf fields))))

theorem eq_nextStage_iff {current : Stage} {e : TelemetryHandler.Event} :
    current = nextStage current e ↔ current.Terminal ∨ current = (verdict e).getD .installing := by
  by_cases hterm : current.Terminal
  · exact iff_of_true (if_pos hterm).symm (Or.inl hterm)
  · rw [nextStage_not_terminal hterm, or_iff_right hterm]

/-- The condition, on what is stored. -/
theorem numbersKept_iff {site : Site} {body : Option Json} {s : Server} : NumbersKept site body s ↔
    ∀ x entry, telemetryWrite site body s = some (.number x, entry) →
      ∃ old, s.progress.get? (.number x) = some old ∧ old.stage = entry.stage ∧
        old.detail = entry.detail := by
  constructor
  · intro h x entry hwrite
    rcases telemetry_cases site body true s with
      ⟨-, hnone⟩ | ⟨fields, key, stage, hbody, hmatched, hstage, hwrite', -⟩
    · rw [hnone] at hwrite
      cases hwrite
    · rw [hwrite'] at hwrite
      cases hwrite
      obtain ⟨old, hold, hkept⟩ := h fields x hbody hmatched
      rw [Server.stage?, hold, Option.map_some, Option.getD_some] at hstage
      refine ⟨old, hold, ?_⟩
      rcases hkept with ⟨hterm, hraises⟩ | ⟨hsame, hdetail⟩
      · rw [calculatedStage_eq_none hterm hraises] at hstage
        cases hstage
      · by_cases hraises : ¬ old.stage.Terminal ∧ Raises (eventOf fields)
        · rw [calculatedStage_eq_none hraises.1 hraises.2] at hstage
          cases hstage
        · have hnext : old.stage.Terminal ∨ ¬ Raises (eventOf fields) := by tauto
          rw [calculatedStage_eq_nextStage hnext, ← eq_nextStage_iff.mpr hsame] at hstage
          exact ⟨Option.some.inj hstage, hdetail⟩
  · intro h fields x hbody hmatched
    obtain ⟨old, hold⟩ := Dict.mem_keys_iff.mp (matchedJob_spec hmatched).1
    refine ⟨old, hold, ?_⟩
    by_cases hraises : ¬ old.stage.Terminal ∧ Raises (eventOf fields)
    · exact Or.inl hraises
    · have hnext : old.stage.Terminal ∨ ¬ Raises (eventOf fields) := by tauto
      have hwrite : telemetryWrite site body s =
          some (.number x, eventEntry site (eventOf fields)
              (nextStage old.stage (eventOf fields))) := by
        rw [hbody]
        simp only [telemetryWrite, hmatched, Server.stage?, hold, Option.map_some, Option.getD_some,
          calculatedStage_eq_nextStage hnext]
      obtain ⟨old', hold', hstage, hdetail⟩ := h x _ hwrite
      obtain rfl := Option.some.inj (hold.symm.trans hold')
      exact Or.inr ⟨eq_nextStage_iff.mp hstage, hdetail⟩

theorem progressHook_rejected {site : Site} {body : Option Json} {s : Server}
    (h : (progressHook site body s).2 ≠ 200) : (progressHook site body s).1 = s := by
  unfold progressHook at h ⊢
  cases hwrite : hookWrite site body with
  | none => rfl
  | some write =>
    rw [hwrite] at h
    exact absurd rfl h

/-- An event without a write leaves the server alone; one with a write is answered according
to the kind of the job id. -/
theorem telemetry_write_cases (site : Site) (body : Option Json) (logWritten : Bool) (s : Server) :
    (telemetryWrite site body s = none ∧ (telemetry site body logWritten s).1 = s) ∨
    (∃ job entry, telemetryWrite site body s = some (.text job, entry) ∧
      (telemetry site body logWritten s).2 = 200) ∨
    ∃ x entry, telemetryWrite site body s = some (.number x, entry) ∧
      telemetry site body logWritten s = (s.setProgress (.number x) entry, 500) := by
  rcases telemetry_cases site body logWritten s with
    ⟨hs, hnone⟩ | ⟨fields, key, stage, -, -, -, hwrite, hs⟩
  · exact Or.inl ⟨hnone, hs⟩
  · cases key with
    | text job =>
      rw [hs]
      exact Or.inr (Or.inl ⟨job, _, hwrite, rfl⟩)
    | number x => exact Or.inr (Or.inr ⟨x, _, hwrite, hs⟩)

theorem telemetryResponse_failed {code : ℕ} : 500 ∈ statusLines (telemetryResponse code) ↔
    code ≠ 200 := by
  unfold telemetryResponse
  split_ifs with hcode
  · exact iff_of_false (by decide) (not_not.mpr hcode)
  · exact iff_of_true (by decide) hcode

theorem progressResponse_failed {code : ℕ} (h : 400 ∈ statusLines (progressResponse code)) :
    code ≠ 200 := by
  rintro rfl
  exact absurd h (by decide)

/-- A rejected hook changes nothing, with one exception: an event that is attributed to a job
whose id is a number, unless it repeats what is stored for that job. -/
theorem rejected_hooks_unchanged_iff (world : World) (env : Environment) (r : Request) (m : Machine)
    (hmethod : r.method = .post) :
    RejectionHarmless world env r m ↔
      (r.path = Endpoint.telemetry.path → NumbersKept world.toSite r.body m.toServer) := by
  have hprogress : r.path = Endpoint.progress.path →
      400 ∈ statusLines (serve world env r m).output →
      Unchanged m (serve world env r m).state := by
    intro hpath
    rw [serve_progress hmethod hpath]
    intro hcode
    dsimp only
    rw [progressHook_rejected (progressResponse_failed hcode)]
    exact Unchanged.refl m
  unfold RejectionHarmless
  rw [and_iff_right hprogress]
  refine imp_congr_right fun hpath => ?_
  rw [serve_telemetry hmethod hpath]
  dsimp only
  rw [telemetryResponse_failed, numbersKept_iff]
  rcases telemetry_write_cases world.toSite r.body env.logWritten m.toServer with
    ⟨hnone, hs⟩ | ⟨job, entry, hwrite, hcode⟩ | ⟨x, entry, hwrite, hs⟩
  · rw [hs]
    refine iff_of_true (fun _ => Unchanged.refl m) ?_
    intro x entry hsome
    rw [hnone] at hsome
    cases hsome
  · refine iff_of_true (fun hnot => absurd hcode hnot) ?_
    intro x entry' hsome
    rw [hwrite] at hsome
    cases hsome
  · rw [hs]
    constructor
    · intro h x' entry' hsome
      rw [hwrite] at hsome
      cases hsome
      have hcode : (500 : ℕ) ≠ 200 := by decide
      exact trackerContents_set_iff.mp (h hcode).progress
    · intro h _
      exact ⟨trackerContents_set_iff.mpr (h x entry hwrite), rfl, rfl⟩

/-- One request after the other, on a server without any files. -/
def servedInTurn (requests : List Request) : Machine :=
  requests.foldl (fun m r => (serve (worldWith fun _ => none) calm r m).state) emptyMachine

def hook (jobId : Json) : Request :=
  { bare .post Endpoint.progress.path with
    body := some (.obj [("job_id".toList, jobId), ("stage".toList, .str "STAGING".toList)]) }

def event (name : Json) : Request :=
  { bare .post Endpoint.telemetry.path with body := some (.obj [("name".toList, name)]) }

/-- An event without a name is answered with 500, and the job it might have been for is left
as it was. -/
theorem rejected_hooks_unchanged_null :
    statusLines (serve (worldWith fun _ => none) calm (event .null)
      (servedInTurn [hook (.str "node-a".toList)])).output = [500] ∧
    RejectionHarmless (worldWith fun _ => none) calm (event .null)
      (servedInTurn [hook (.str "node-a".toList)]) := by
  refine ⟨by decide, ?_⟩
  refine (rejected_hooks_unchanged_iff (worldWith fun _ => none) calm (event .null)
    (servedInTurn [hook (.str "node-a".toList)]) rfl).mpr ?_
  intro _
  rw [numbersKept_iff]
  intro x entry hwrite
  cases hwrite

/-- A hook has brought in the job 5. An event with the name `[5]` is answered with 500, and
the job is `INSTALLING` from then on. -/
theorem numbered_job_advanced :
    statusLines (serve (worldWith fun _ => none) calm (event (.arr [.int 5]))
      (servedInTurn [hook (.int 5)])).output = [500] ∧
    (servedInTurn [hook (.int 5)]).stage? (.number (.finite 5)) = some .staging ∧
    (servedInTurn [hook (.int 5), event (.arr [.int 5])]).stage? (.number (.finite 5)) =
      some .installing := by
  decide

end Astro.RejectedHooks
