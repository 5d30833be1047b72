import Astro.LabelledRuns
import Astro.RepositorySite
import Astro.TelemetryHandler

/-!
# A sequence of telemetry events is a fold of verdicts

Which job an event goes to depends on the stages of all jobs at that moment. For
one job only the events it was given matter: its last stage is decided by the first
of them that has a verdict, and its log grows by their messages in order.
-/

namespace Astro.TelemetryHandler

open PythonText JobPaths LabelledRuns

/-- What an event decides about the job it is attributed to, if anything. -/
def verdict (e : Event) : Option Stage :=
  if e.result.isText "FAIL" ∨ e.result.isText "ERROR" then some .installFailed
  else if e.name.isText "subiquity/Shutdown/shutdown" ∧ e.type.isText "finish" then some .completed
  else match e.description with
    | .str d => if ("reboot" : Str) <:+: lower d then some .completed else none
    | _ => none

/-- The stage after one event: a terminal stage stays, a verdict is taken, and any
other event means that the installation is running. -/
def nextStage (current : Stage) (e : Event) : Stage :=
  if current.Terminal then current else (verdict e).getD .installing

/-- The stage that a job in stage `initial` has after the events attributed to it. -/
def finalStage (initial : Stage) (events : List Event) : Stage :=
  if initial.Terminal ∨ events.isEmpty then initial
  else (events.findSome? verdict).getD .installing

def logLine (site : Site) (e : Event) : Str := logMessage site.py e ++ ['\n']

theorem verdict_terminal {e : Event} {stage : Stage} (h : verdict e = some stage) :
    stage.Terminal := by
  unfold verdict at h
  split_ifs at h
  · exact Or.inr (Option.some.inj h).symm
  · exact Or.inl (Option.some.inj h).symm
  · split at h
    · split_ifs at h
      exact Or.inl (Option.some.inj h).symm
    · cases h

/-- The handler looks for `reboot` in a description that is not a text. -/
def Raises (e : Event) : Prop := verdict e = none ∧ ∀ d, e.description ≠ .str d

/-- Where the computation of the stage does not raise, it is `nextStage`. -/
theorem calculatedStage_eq_nextStage {current : Stage} {e : Event}
    (h : current.Terminal ∨ ¬ Raises e) : calculatedStage current e =
      some (nextStage current e) := by
  by_cases hterm : current.Terminal
  · rw [calculatedStage, nextStage, if_pos hterm, if_pos hterm]
  · have hraises := h.resolve_left hterm
    rw [calculatedStage, nextStage, if_neg hterm, if_neg hterm]
    unfold Raises at hraises
    unfold verdict at hraises ⊢
    split_ifs at hraises ⊢
    · rfl
    · rfl
    · cases hd : e.description with
      | str d => dsimp only; split_ifs <;> rfl
      | _ => simp [hd] at hraises

theorem calculatedStage_eq_none {current : Stage} {e : Event} (hterm : ¬ current.Terminal)
    (h : Raises e) : calculatedStage current e = none := by
  obtain ⟨hverdict, hdescription⟩ := h
  unfold calculatedStage
  unfold verdict at hverdict
  split_ifs at hverdict ⊢
  cases hd : e.description with
  | str d => exact absurd hd (hdescription d)
  | _ => rfl

theorem calculatedStage_text {e : Event} {name type result description : Str}
    (h : e.IsText name type result description) (current : Stage) :
    calculatedStage current e = some (nextStage current e) :=
  calculatedStage_eq_nextStage (Or.inr fun hraises => hraises.2 _ h.description)

theorem nextStage_not_terminal {current : Stage} (h : ¬ current.Terminal) (e : Event) :
    nextStage current e = (verdict e).getD .installing := if_neg h

theorem finalStage_of_terminal {initial : Stage} (h : initial.Terminal) (events : List Event) :
    finalStage initial events = initial := if_pos (Or.inl h)

@[simp] theorem finalStage_nil (initial : Stage) : finalStage initial [] = initial :=
  if_pos (Or.inr rfl)

/-- Taking one event first and the others afterwards is taking them all. -/
theorem finalStage_cons (initial : Stage) (e : Event) (events : List Event) :
    finalStage (nextStage initial e) events = finalStage initial (e :: events) := by
  by_cases hterm : initial.Terminal
  · have hnext : nextStage initial e = initial := if_pos hterm
    rw [hnext, finalStage_of_terminal hterm, finalStage_of_terminal hterm]
  · have hall : finalStage initial (e :: events) =
        ((e :: events).findSome? verdict).getD .installing := by
      simp [finalStage, hterm]
    rw [nextStage_not_terminal hterm, hall]
    cases hv : verdict e with
    | some stage =>
      rw [Option.getD_some, finalStage_of_terminal (verdict_terminal hv)]
      simp [hv]
    | none =>
      rw [Option.getD_none, List.findSome?_cons, hv]
      cases events with
      | nil => simp
      | cons e' rest => simp [finalStage, Stage.Terminal]

def processed (site : Site) (s : Server) (events : List Fields) : Server :=
  run (fun s fields => (telemetry site (some (.obj fields)) true s).1) s events

/-- The events that the handler attributes to `key`, at the moment it handles them. -/
def attributed (site : Site) (key : Key) : Server → List Fields → List Event
  | _, [] => []
  | s, fields :: rest =>
    let later := attributed site key (telemetry site (some (.obj fields)) true s).1 rest
    if matchedJob s.progress (eventOf fields) = some (some key) then eventOf fields ::
      later else later

def ComponentKeys (s : Server) : Prop :=
  ∀ key ∈ s.progress.keys, ∃ job, key = .text job ∧ IsComponent job

section Step
variable {site : Site} {s : Server} {fields : Fields}

theorem telemetry_matched (site : Site) (htext : HasTextFields fields) {job : Str} {entry : Entry}
    (hentry : s.progress.get? (.text job) = some entry)
    (hmatch : matchedJob s.progress (eventOf fields) = some (some (.text job))) :
    (telemetry site (some (.obj fields)) true s).1.stage? (.text job) =
        some (nextStage entry.stage (eventOf fields)) ∧
      (telemetry site (some (.obj fields)) true s).1.logs (logPath job) =
        s.logs (logPath job) ++ logLine site (eventOf fields) := by
  obtain ⟨name, type, result, description, he⟩ := eventOf_isText htext
  have hstage : s.stage? (.text job) = some entry.stage := by simp [Server.stage?, hentry]
  have hrun : telemetry site (some (.obj fields)) true s =
      record site (eventOf fields) (.text job) (nextStage entry.stage (eventOf fields)) true s := by
    simp [telemetry, hmatch, hstage, calculatedStage_text he]
  rw [hrun]
  constructor
  · simp [Server.stage?, record_progress, eventEntry]
  · simp [record, appendLog, logLine]

theorem telemetry_not_matched (site : Site) (hkeys : ComponentKeys s) {job : Str}
    (hjob : .text job ∈ s.progress.keys)
    (hmatch : matchedJob s.progress (eventOf fields) ≠ some (some (.text job))) :
    (telemetry site (some (.obj fields)) true s).1.progress.get? (.text job) =
        s.progress.get? (.text job) ∧
      (telemetry site (some (.obj fields)) true s).1.logs (logPath job) = s.logs (logPath job) := by
  refine ⟨telemetry_get?_of_not_attributed site fields true s hmatch, ?_⟩
  apply telemetry_logs_of_not_attributed
  intro other hother hpath
  obtain ⟨_, ⟨rfl⟩, hcomp⟩ := hkeys _ hjob
  obtain ⟨_, ⟨rfl⟩, hcomp'⟩ := hkeys _ (matchedJob_spec hother).1
  rw [logPath_injective hcomp hcomp' hpath] at hmatch
  exact hmatch hother

end Step

/-- A run of telemetry events keeps the jobs and their order, gives every job the
stage its own events decide, and extends every log by their messages. -/
theorem processed_is_fold (site : Site) (s : Server) (events : List Fields)
    (hkeys : ComponentKeys s) (htext : ∀ fields ∈ events, HasTextFields fields) :
    (processed site s events).progress.keys = s.progress.keys ∧
    (∀ job entry, s.progress.get? (.text job) = some entry →
      (processed site s events).stage? (.text job) =
        some (finalStage entry.stage (attributed site (.text job) s events))) ∧
    (∀ job, .text job ∈ s.progress.keys →
      (processed site s events).logs (logPath job) = s.logs (logPath job) ++
        (attributed site (.text job) s events).flatMap (logLine site)) := by
  induction events generalizing s with
  | nil =>
    refine ⟨rfl, ?_, ?_⟩
    · intro job entry hentry
      simp [processed, attributed, Server.stage?, hentry]
    · intro job _
      simp [processed, attributed]
  | cons fields rest ih =>
    have hfields := htext fields List.mem_cons_self
    have hstep := telemetry_keys site (some (.obj fields)) true s
    have hkeys' : ComponentKeys (telemetry site (some (.obj fields)) true s).1 := by
      intro key hkey
      exact hkeys key (hstep ▸ hkey)
    obtain ⟨ihkeys, ihstage, ihlogs⟩ := ih (telemetry site (some (.obj fields)) true s).1 hkeys'
      (fun f hf => htext f (List.mem_cons_of_mem fields hf))
    refine ⟨ihkeys.trans hstep, ?_, ?_⟩
    · intro job entry hentry
      change (processed site (telemetry site (some (.obj fields)) true s).1 rest).stage? _ = _
      by_cases hmatch : matchedJob s.progress (eventOf fields) = some (some (.text job))
      · obtain ⟨hstage, -⟩ := telemetry_matched site hfields hentry hmatch
        obtain ⟨entry', hentry', hnext⟩ := Option.map_eq_some_iff.mp hstage
        rw [ihstage job entry' hentry', hnext, finalStage_cons, attributed, if_pos hmatch]
      · have hmem := Dict.mem_keys_iff.mpr ⟨entry, hentry⟩
        obtain ⟨hget, -⟩ := telemetry_not_matched site hkeys hmem hmatch
        rw [ihstage job entry (hget.trans hentry), attributed, if_neg hmatch]
    · intro job hjob
      change (processed site (telemetry site (some (.obj fields)) true s).1 rest).logs _ = _
      rw [ihlogs job (hstep.symm ▸ hjob)]
      by_cases hmatch : matchedJob s.progress (eventOf fields) = some (some (.text job))
      · obtain ⟨entry, hentry⟩ := Dict.mem_keys_iff.mp hjob
        obtain ⟨-, hlog⟩ := telemetry_matched site hfields hentry hmatch
        rw [hlog, attributed, if_pos hmatch, List.flatMap_cons, List.append_assoc]
      · obtain ⟨-, hlog⟩ := telemetry_not_matched site hkeys hjob hmatch
        rw [hlog, attributed, if_neg hmatch]

def twoJobs : Server :=
  ((Server.started (fun _ => []) (fun _ => none)).setProgress (.text "node-a".toList)
    ⟨.booting, .null, .customIso⟩).setProgress (.text "node-b".toList)
      ⟨.installing, .null, .launcher⟩

/-- An event that names `node-a`, a failure of `node-b`, and one that names no job:
it goes to `node-a`, which is the only `INSTALLING` job by then. -/
def threeEvents : List Fields :=
  [report "subiquity/Network" "start" [] "node-a", report "node-b" "finish" "FAIL" [],
    report "subiquity/Shutdown/shutdown" "finish" "SUCCESS" []]

theorem processed_is_fold_threeEvents :
    (processed (RepositorySite.site "10.0.0.1") twoJobs threeEvents).stage?
      (.text "node-a".toList) =
      some .completed := by
  have hkeys : ComponentKeys twoJobs := by
    intro key hkey
    have hmem : key = .text "node-a".toList ∨ key = .text "node-b".toList := by
      simpa only [List.mem_cons, List.not_mem_nil, or_false] using
        (show key ∈ [Key.text "node-a".toList, Key.text "node-b".toList] from hkey)
    rcases hmem with rfl | rfl
    · exact ⟨_, rfl, by decide⟩
    · exact ⟨_, rfl, by decide⟩
  have htext : ∀ fields ∈ threeEvents, HasTextFields fields := by
    simp only [threeEvents, List.forall_mem_cons, List.not_mem_nil, false_imp_iff, implies_true,
      and_true]
    exact ⟨report_hasTextFields .., report_hasTextFields .., report_hasTextFields ..⟩
  obtain ⟨-, hstage, -⟩ :=
    processed_is_fold (RepositorySite.site "10.0.0.1") twoJobs threeEvents hkeys htext
  rw [hstage "node-a".toList ⟨.booting, .null, .customIso⟩ rfl]
  decide

end Astro.TelemetryHandler
