import Astro.LabelledRuns
import Astro.ServerSteps
import Astro.TelemetryFold

/-!
# Which tracker the telemetry handler works on

The handler computes with every key that any other handler has stored. Those keys are
truthy in every run; they are texts exactly as long as no progress hook has brought in a
number. With that, an event without foreign job ids is attributed to its own job or to the
only one that is `INSTALLING`.
-/

namespace Astro.TelemetryAttribution

open PythonText JobPaths LabelledRuns TelemetryHandler CustomIsoHandler ServerHandlers ServerSteps

theorem key?_truthy {value : Json} {key : Key} (h : value.key? = some key)
    (hvalue : value.truthy = true) : key.truthy = true := by
  cases value with
  | null => cases h
  | arr items => cases h
  | obj fields => cases h
  | bool b =>
    cases h
    cases hvalue
    decide
  | int n =>
    cases h
    simpa [Key.truthy, Json.truthy] using hvalue
  | float x =>
    cases h
    exact hvalue
  | str s =>
    cases h
    exact hvalue

theorem launcherJob_ne_nil {path job : Str} (h : launcherJob path = some job) : job ≠ [] := by
  unfold launcherJob at h
  split_ifs at h
  simpa using (List.mem_filter.mp (List.mem_of_getElem? h)).2

theorem hookWrite_truthy {site : Site} {body : Option Json} {key : Key} {entry : Entry}
    (h : hookWrite site body = some (key, entry)) : key.truthy = true := by
  obtain ⟨hookData, -, htruthy, hkey⟩ := (hookWrite_key_iff site).mp ⟨entry, h⟩
  exact key?_truthy hkey htruthy

theorem provisionJob_ne_nil {site : Site} {body : Option Json} {job : Str}
    (h : provisionJob site body = some job) : job ≠ [] := by
  obtain ⟨data, -, hjob⟩ := Option.map_eq_some_iff.mp h
  exact hjob ▸ data.hostname.property

section Keys
variable {site : Site} {c : Config} {a : Label}

/-- A step stores under the key of a hook, under one that is tracked, or under a nonempty
text. -/
theorem written_key {key : Key} {entry : Entry} (h : written site c a = some (key, entry)) :
    (∃ body, a = .progress body) ∨ key ∈ c.progress.keys ∨ ∃ job, key = .text job ∧ job ≠ [] := by
  cases a with
  | progress body => exact Or.inl ⟨body, rfl⟩
  | telemetry body logWritten =>
    rcases telemetry_cases site body logWritten c.toServer with
      ⟨-, hw⟩ | ⟨fields, key', stage, -, hmatch, -, hw, -⟩
    · exact absurd (hw.symm.trans h) (Option.some_ne_none _).symm
    · cases hw.symm.trans h
      exact Or.inr (Or.inl (matchedJob_spec hmatch).1)
  | phoneHome body seeds =>
    obtain ⟨⟨data, -, rfl⟩, -⟩ := phoneHomeWrite_spec h
    exact Or.inr (Or.inr ⟨_, rfl, data.jobId.property⟩)
  | get path =>
    rcases getWrite_spec h with ⟨-, hstatus⟩ | ⟨-, job, hjob, rfl, -⟩
    · obtain ⟨rfl, hstage, -⟩ := statusWrite_spec hstatus
      obtain ⟨entry', hentry', -⟩ := Option.map_eq_some_iff.mp hstage
      exact Or.inr (Or.inl (Dict.mem_keys_iff.mpr ⟨entry', hentry'⟩))
    · exact Or.inr (Or.inr ⟨job, rfl, launcherJob_ne_nil hjob⟩)
  | isoBegin n host body =>
    obtain ⟨data, -, hwrite⟩ := Option.map_eq_some_iff.mp h
    cases hwrite
    exact Or.inr (Or.inr ⟨_, rfl, data.request.hostname.property⟩)
  | provisionBegin n body =>
    obtain ⟨job, hjob, hwrite⟩ := Option.map_eq_some_iff.mp h
    cases hwrite
    exact Or.inr (Or.inr ⟨job, rfl, provisionJob_ne_nil (begunProvision_eq_some.mp hjob).2⟩)
  | _ => cases h

theorem written_truthy {key : Key} {entry : Entry} (h : written site c a = some (key, entry))
    (hkeys : ∀ key ∈ c.progress.keys, key.truthy = true) : key.truthy = true := by
  rcases written_key h with ⟨body, rfl⟩ | hkey | ⟨job, rfl, hjob⟩
  · exact hookWrite_truthy h
  · exact hkeys key hkey
  · exact (Key.truthy_text job).mpr hjob

theorem mem_keys_step {key : Key} : key ∈ (step site c a).progress.keys ↔
    (∃ entry, written site c a = some (key, entry)) ∨ key ∈ c.progress.keys := by
  rw [step_progress]
  cases written site c a with
  | none => simp [applyWrite]
  | some write =>
    obtain ⟨key', entry⟩ := write
    simp [applyWrite, Dict.mem_keys_set, eq_comm]

/-- No key of a reachable tracker is falsy. -/
theorem run_keys_truthy (site : Site) (logs : Path → Str) (files : Files) (labels : List Label) :
    ∀ key ∈ (run (step site) (Config.started logs files) labels).progress.keys,
      key.truthy = true := by
  refine run_invariant (P := fun c : Config => ∀ key ∈ c.progress.keys, key.truthy = true)
    ?_ ?_ labels
  · intro c a hkeys key hkey
    rcases mem_keys_step.mp hkey with ⟨entry, hentry⟩ | hkey
    · exact written_truthy hentry hkeys
    · exact hkeys key hkey
  · intro key hkey
    exact absurd hkey List.not_mem_nil

end Keys

def OnlyTexts (s : Server) : Prop := ∀ key ∈ s.progress.keys, ∃ job, key = .text job

def AnswersTelemetry (site : Site) (s : Server) : Prop :=
  ∀ fields logWritten, HasTextFields fields →
    (telemetry site (some (.obj fields)) logWritten s).2 = 200

/-- A progress hook whose `job_id` is a number or a truth value, but neither 0 nor false. -/
def NumbersJob (a : Label) : Prop :=
  ∃ hookData, a = .progress (some (.obj hookData)) ∧
    (Fields.getD hookData "job_id" .null).truthy = true ∧
    ∃ x, (Fields.getD hookData "job_id" .null).key? = some (.number x)

theorem mentions_text {e : Event} {name type result description : Str}
    (he : e.IsText name type result description) (job : Str) :
    mentions e (.text job) = some (decide (job <:+: name ∨ job <:+: description)) := by
  simp only [mentions, he.name, he.description, Key.isIn_text_str]
  by_cases hname : job <:+: name
  · simp [hname]
  · simp [hname]

theorem matchJob_texts {e : Event} {name type result description : Str}
    (he : e.IsText name type result description) {keys : List Key}
    (hkeys : ∀ key ∈ keys, ∃ job, key = .text job) : matchJob e keys ≠ none := by
  induction keys with
  | nil => simp [matchJob]
  | cons key keys ih =>
    obtain ⟨job, rfl⟩ := hkeys key List.mem_cons_self
    have hrest := ih (fun k hk => hkeys k (List.mem_cons_of_mem _ hk))
    rw [matchJob, mentions_text he]
    cases decide (job <:+: name ∨ job <:+: description) with
    | true => simp
    | false => simp [hrest]

theorem matchJob_number {e : Event} (hname : e.name = .str [])
    (hdescription : e.description = .str []) {keys : List Key}
    (hkeys : ∀ key ∈ keys, key.truthy = true) {x : FloatValue} (hx : .number x ∈ keys) :
    matchJob e keys = none := by
  induction keys with
  | nil => exact absurd hx List.not_mem_nil
  | cons key keys ih =>
    cases key with
    | number y => simp [matchJob, mentions, hname]
    | text job =>
      have hjob : job ≠ [] := (Key.truthy_text job).mp (hkeys _ List.mem_cons_self)
      have hrest := ih (fun k hk => hkeys k (List.mem_cons_of_mem _ hk))
        ((List.mem_cons.mp hx).resolve_left Key.noConfusion)
      simpa [matchJob, mentions, hname, hdescription, hjob] using hrest

theorem answersTelemetry_iff {site : Site} {s : Server}
    (hkeys : ∀ key ∈ s.progress.keys, key.truthy = true) :
    AnswersTelemetry site s ↔ OnlyTexts s := by
  constructor
  · intro h key hkey
    cases key with
    | text job => exact ⟨job, rfl⟩
    | number x =>
      have hraise : matchJob (eventOf (report [] [] [] [])) s.progress.keys = none :=
        matchJob_number rfl rfl hkeys hkey
      have hanswer := h _ true (report_hasTextFields [] [] [] [])
      simp [telemetry, matchedJob, hraise] at hanswer
  · intro h fields logWritten hfields
    obtain ⟨name, type, result, description, he⟩ := eventOf_isText hfields
    cases hmatch : matchedJob s.progress (eventOf fields) with
    | none => exact absurd (Option.map_eq_none_iff.mp hmatch) (matchJob_texts he h)
    | some found =>
      cases found with
      | none => simp [telemetry, hmatch]
      | some key =>
        obtain ⟨job, rfl⟩ := h key (matchedJob_spec hmatch).1
        simp [telemetry, hmatch, calculatedStage_text he, record]

theorem onlyTexts_step_iff {site : Site} {c : Config} (hc : OnlyTexts c.toServer) (a : Label) :
    OnlyTexts (step site c a).toServer ↔ ¬ NumbersJob a := by
  constructor
  · rintro h ⟨hookData, rfl, htruthy, x, hkey⟩
    obtain ⟨entry, hwrite⟩ := (hookWrite_key_iff site).mpr ⟨hookData, rfl, htruthy, hkey⟩
    obtain ⟨job, hjob⟩ := h (.number x) (mem_keys_step.mpr (Or.inl ⟨entry, hwrite⟩))
    cases hjob
  · intro h key hkey
    rcases mem_keys_step.mp hkey with ⟨entry, hwrite⟩ | hkey
    · rcases written_key hwrite with ⟨body, rfl⟩ | hkey | ⟨job, rfl, -⟩
      · obtain ⟨hookData, rfl, htruthy, hkey⟩ := (hookWrite_key_iff site).mp ⟨entry, hwrite⟩
        cases key with
        | text job => exact ⟨job, rfl⟩
        | number x => exact absurd ⟨hookData, rfl, htruthy, x, hkey⟩ h
      · exact hc key hkey
      · exact ⟨job, rfl⟩
    · exact hc key hkey

/-- In a run of a new server, telemetry with text fields is always answered 200 exactly when
no hook of the run has a number for its `job_id`. -/
theorem telemetry_available_iff (site : Site) (logs : Path → Str) (files : Files)
    (labels : List Label) :
    (∀ p, p <+: labels →
      AnswersTelemetry site (run (step site) (Config.started logs files) p).toServer) ↔
    ∀ a ∈ labels, ¬ NumbersJob a := by
  have hkeys := run_keys_truthy site logs files
  have hstart : OnlyTexts (Config.started logs files).toServer := by
    intro key hkey
    exact absurd hkey List.not_mem_nil
  calc
    (∀ p, p <+: labels →
        AnswersTelemetry site (run (step site) (Config.started logs files) p).toServer) ↔
      Throughout (step site) (fun c => OnlyTexts c.toServer) (Config.started logs files) labels :=
        forall₂_congr fun p _ => answersTelemetry_iff (hkeys p)
    _ ↔ Guarded (step site) (fun _ a => ¬ NumbersJob a) (Config.started logs files) labels :=
        throughout_iff_guarded (J := fun _ => True) (fun _ _ _ => trivial)
          (fun c a _ hc => onlyTexts_step_iff hc a) trivial hstart
    _ ↔ ∀ a ∈ labels, ¬ NumbersJob a := guarded_const

def numberHook : Label :=
  .progress (some (.obj [("job_id".toList, .int 5), ("stage".toList, .str "INSTALLING".toList)]))

/-- After one such hook, a well-formed event is answered 500. -/
theorem numberHook_disables_telemetry :
    (telemetry exampleSite (some (.obj
      (report "subiquity/Shutdown/shutdown" "finish" "SUCCESS" [])))
      true (run (step exampleSite) Config.empty [numberHook]).toServer).2 = 500 := by
  decide

/-- The event names no tracked job in its name or description, and `key` is the only job
that is `INSTALLING`. -/
def FallsBackTo (s : Server) (name description : Str) (key : Key) : Prop :=
  (∀ job, .text job ∈ s.progress.keys → ¬ job <:+: name ∧ ¬ job <:+: description) ∧
    installingJobs s.progress = [key]

/-- Of an event with text fields, the handler picks a job named in it or falls back. -/
theorem matchedJob_named_or_fallback {s : Server} {e : Event}
    {name type result description : Str} (he : e.IsText name type result description)
    (hkeys : ∀ key ∈ s.progress.keys, key.truthy = true) {key : Key}
    (h : matchedJob s.progress e = some (some key)) :
    (∃ job, key = .text job ∧ .text job ∈ s.progress.keys ∧
      (job <:+: name ∨ job <:+: description)) ∨ FallsBackTo s name description key := by
  obtain ⟨matched, hmatch, hkey⟩ := Option.map_eq_some_iff.mp h
  obtain ⟨hor, -⟩ := Option.filter_eq_some_iff.mp hkey
  cases matched with
  | some found =>
    obtain ⟨hmem, hment⟩ := matchJob_mem hmatch
    have hfound : found = key := by
      simpa [Option.filter_some_eq_some.mpr (hkeys found hmem)] using hor
    subst hfound
    left
    cases found with
    | number x => simp [mentions, he.name] at hment
    | text job =>
      rw [mentions_text he] at hment
      exact ⟨job, rfl, hmem, of_decide_eq_true (Option.some.inj hment)⟩
  | none =>
    refine Or.inr ⟨?_, fallbackJob_eq_some.mp (by simpa using hor)⟩
    intro job hjob
    have hment := matchJob_none hmatch _ hjob
    rw [mentions_text he] at hment
    exact not_or.mp (of_decide_eq_false (Option.some.inj hment))

/-- In every reachable state, an event that contains no tracked id but that of job `a`
changes no entry but that of `a` and that of the job it falls back to, and no log but
theirs. -/
theorem telemetry_isolation (site : Site) (c : Config) (hc : Reachable site c) (fields : Fields)
    (logWritten : Bool) (a name type result description : Str)
    (he : (eventOf fields).IsText name type result description)
    (hothers : ∀ job, .text job ∈ c.progress.keys → job ≠ a →
      ¬ job <:+: name ∧ ¬ job <:+: description) :
    (∀ b, b ≠ .text a → ¬ FallsBackTo c.toServer name description b →
      (telemetry site (some (.obj fields)) logWritten c.toServer).1.progress.get? b =
        c.progress.get? b) ∧
    (∀ path, path ≠ logPath a →
      (∀ b, FallsBackTo c.toServer name description (.text b) → path ≠ logPath b) →
      (telemetry site (some (.obj fields)) logWritten c.toServer).1.logs path = c.logs path) := by
  have hkeys : ∀ key ∈ c.progress.keys, key.truthy = true := by
    obtain ⟨logs, files, labels, rfl⟩ := hc
    exact run_keys_truthy site logs files labels
  have hattributed : ∀ key, matchedJob c.progress (eventOf fields) = some (some key) →
      key = .text a ∨ FallsBackTo c.toServer name description key := by
    intro key hmatch
    rcases matchedJob_named_or_fallback he hkeys hmatch with ⟨job, rfl, hjob, hnamed⟩ | hfalls
    · by_contra hnot
      obtain ⟨hname, hdescription⟩ := hothers job hjob (fun h => hnot (Or.inl (by rw [h])))
      exact hnamed.elim hname hdescription
    · exact Or.inr hfalls
  constructor
  · intro b hb hfalls
    apply telemetry_get?_of_not_attributed
    intro hmatch
    exact (hattributed b hmatch).elim hb hfalls
  · intro path ha hfalls
    apply telemetry_logs_of_not_attributed
    intro job hmatch
    rcases hattributed _ hmatch with hjob | hjob
    · cases hjob
      exact ha
    · exact hfalls job hjob

/-- Two nodes have downloaded their launchers, and the first has finished. -/
def twoInstallations : List Label :=
  [.get "/automation/node-a/installer-launch.sh".toList,
    .get "/automation/node-b/installer-launch.sh".toList,
    .telemetry
      (some (.obj (report "subiquity/Shutdown/shutdown" "finish" "SUCCESS" "node-a"))) true]

def afterTwoInstallations : Config := run (step exampleSite) Config.empty twoInstallations

theorem afterTwoInstallations_keys : afterTwoInstallations.progress.keys =
    [.text "node-a".toList, .text "node-b".toList] := by decide

/-- An event that names `node-a` leaves the entry of `node-b`. -/
theorem telemetry_isolation_named :
    (telemetry exampleSite (some (.obj (report "subiquity/Late" "finish" "FAIL" "node-a"))) true
        afterTwoInstallations.toServer).1.progress.get? (.text "node-b".toList) =
      afterTwoInstallations.progress.get? (.text "node-b".toList) := by
  have hothers : ∀ job, .text job ∈ afterTwoInstallations.progress.keys →
      job ≠ "node-a".toList → ¬ job <:+: "subiquity/Late".toList ∧ ¬ job <:+: "node-a".toList := by
    intro job hjob hne
    rw [afterTwoInstallations_keys] at hjob
    simp only [List.mem_cons, Key.text.injEq, List.not_mem_nil, or_false] at hjob
    rw [hjob.resolve_left hne]
    decide
  refine (telemetry_isolation exampleSite afterTwoInstallations ⟨_, _, twoInstallations, rfl⟩ _ true
    "node-a" "subiquity/Late" "finish" "FAIL" "node-a" ⟨rfl, rfl, rfl, rfl⟩ hothers).1 _
    (by decide) ?_
  rintro ⟨hnone, -⟩
  exact (hnone "node-a" (by decide)).2 (by decide)

/-- The last event of `node-a`, sent without any job id, completes `node-b`. -/
theorem unnamed_event_completes_other :
    Reachable exampleSite afterTwoInstallations ∧
    (∀ key ∈ afterTwoInstallations.progress.keys, key ≠ .text "node-a".toList →
      ∀ s ∈ ["subiquity/Shutdown/shutdown".toList, "finish".toList, "SUCCESS".toList, []],
        key.isIn (.str s) = some false) ∧
    afterTwoInstallations.stage? (.text "node-b".toList) = some .installing ∧
    (telemetry exampleSite (some (.obj
      (report "subiquity/Shutdown/shutdown" "finish" "SUCCESS" [])))
      true afterTwoInstallations.toServer).1.stage? (.text "node-b".toList) = some .completed :=
  ⟨⟨_, _, twoInstallations, rfl⟩, by decide, by decide, by decide⟩

end Astro.TelemetryAttribution
