import Astro.ServerState

/-!
# The telemetry handler

An installer event carries no job id of its own. The handler attributes it to the
first tracked job whose id occurs in the event's name or description and, when none
does, to the only job that is `INSTALLING`; it then moves that job's stage and
appends one line to its log.
-/

namespace Astro.TelemetryHandler

open PythonText JobPaths

/-- The fields of a telemetry body with the handler's defaults, and the status that
opens the log message. -/
structure Event where
  name : Json
  type : Json
  result : Json
  description : Json
  status : Json

def eventOf (fields : Fields) : Event :=
  let result := fields.getD "result" (.str [])
  let type := fields.getD "event_type" (.str [])
  { name := fields.getD "name" (.str [])
    type
    result
    description := (fields.getD "description" (.str [])).orElse (.str [])
    status := result.orElse (type.orElse ((fields.getD "state" .null).orElse
      ((fields.getD "status" .null).orElse (.str "UNKNOWN")))) }

def logMessage (py : PythonStr) (e : Event) : Str :=
  ("[" : Str) ++ py.str e.status ++ ("] " : Str) ++ py.str e.name ++ (" (" : Str) ++
    py.str e.description ++ (")" : Str)

/-- `job_id in event_name or job_id in description`, with its type errors. -/
def mentions (e : Event) (key : Key) : Option Bool :=
  match key.isIn e.name with
  | none => none
  | some true => some true
  | some false => key.isIn e.description

/-- The first tracked job the event mentions; `none` when a test raises before. -/
def matchJob (e : Event) : List Key → Option (Option Key)
  | [] => some none
  | key :: keys => match mentions e key with
    | none => none
    | some true => some (some key)
    | some false => matchJob e keys

def installingJobs (progress : Dict Key Entry) : List Key :=
  (progress.entries.filter (fun e => e.2.stage = .installing)).map Prod.fst

def fallbackJob (progress : Dict Key Entry) : Option Key :=
  match installingJobs progress with
  | [key] => some key
  | _ => none

/-- `matched_job_id`, if it is truthy in the end. -/
def matchedJob (progress : Dict Key Entry) (e : Event) : Option (Option Key) :=
  (matchJob e progress.keys).map fun matched =>
    ((matched.filter Key.truthy).or (fallbackJob progress)).filter Key.truthy

/-- `calculated_stage`; `none` when `description.lower()` raises. -/
def calculatedStage (current : Stage) (e : Event) : Option Stage :=
  if current.Terminal then some current
  else if e.result.isText "FAIL" ∨ e.result.isText "ERROR" then some .installFailed
  else if e.name.isText "subiquity/Shutdown/shutdown" ∧ e.type.isText "finish" then some .completed
  else match e.description with
    | .str d => if ("reboot" : Str) <:+: lower d then some .completed else some .installing
    | _ => none

def appendLog (s : Server) (job line : Str) : Server :=
  { s with logs := Function.update s.logs (logPath job) (s.logs (logPath job) ++ line) }

def eventEntry (site : Site) (e : Event) (stage : Stage) : Entry :=
  ⟨stage, .str (("Ubuntu Installer: " : Str) ++ logMessage site.py e), .telemetry⟩

/-- Store the new stage, then log; a job id that is no text fails the path join. -/
def record (site : Site) (e : Event) (key : Key) (stage : Stage) (logWritten : Bool)
    (s : Server) : Server × ℕ :=
  let s := s.setProgress key (eventEntry site e stage)
  match key with
  | .text job => (if logWritten then appendLog s job (logMessage site.py e ++ ['\n']) else s, 200)
  | .number _ => (s, 500)

/-- The entry an event stores, if it is attributed and raises nothing before that. -/
def telemetryWrite (site : Site) (body : Option Json) (s : Server) : Option (Key × Entry) :=
  match body with
  | some (.obj fields) =>
    match matchedJob s.progress (eventOf fields) with
    | some (some key) =>
      (calculatedStage ((s.stage? key).getD .installing) (eventOf fields)).map fun stage =>
        (key, eventEntry site (eventOf fields) stage)
    | _ => none
  | _ => none

/-- `POST /api/v1/jobs/telemetry`. `body` is what `json.loads` returned, if it did;
`logWritten` says whether the guarded log write went through. -/
def telemetry (site : Site) (body : Option Json) (logWritten : Bool) (s : Server) : Server × ℕ :=
  match body with
  | some (.obj fields) =>
    match matchedJob s.progress (eventOf fields) with
    | none => (s, 500)
    | some none => (s, 200)
    | some (some key) =>
      match calculatedStage ((s.stage? key).getD .installing) (eventOf fields) with
      | none => (s, 500)
      | some stage => record site (eventOf fields) key stage logWritten s
  | _ => (s, 500)

def HasTextFields (fields : Fields) : Prop :=
  (∃ s, fields.get? "name" = some (.str s)) ∧ (∃ s, fields.get? "event_type" = some (.str s)) ∧
    (∃ s, fields.get? "result" = some (.str s)) ∧ (∃ s, fields.get? "description" = some (.str s))

def report (name type result description : Str) : Fields :=
  [("name".toList, .str name), ("event_type".toList, .str type), ("result".toList, .str result),
    ("description".toList, .str description)]

structure Event.IsText (e : Event) (name type result description : Str) : Prop where
  name : e.name = .str name
  type : e.type = .str type
  result : e.result = .str result
  description : e.description = .str description

private theorem orElse_str_nil (s : Str) : (Json.str s).orElse (.str []) = .str s := by
  cases s <;> rfl

theorem eventOf_isText {fields : Fields} (h : HasTextFields fields) :
    ∃ name type result description, (eventOf fields).IsText name type result description := by
  obtain ⟨⟨n, hn⟩, ⟨t, ht⟩, ⟨r, hr⟩, ⟨d, hd⟩⟩ := h
  refine ⟨n, t, r, d, ?_, ?_, ?_, ?_⟩
  · simp only [eventOf, Fields.getD, hn, Option.getD_some]
  · simp only [eventOf, Fields.getD, ht, Option.getD_some]
  · simp only [eventOf, Fields.getD, hr, Option.getD_some]
  · simp only [eventOf, Fields.getD, hd, Option.getD_some, orElse_str_nil]

theorem report_hasTextFields (name type result description : Str) :
    HasTextFields (report name type result description) :=
  ⟨⟨name, rfl⟩, ⟨type, rfl⟩, ⟨result, rfl⟩, ⟨description, rfl⟩⟩

theorem mem_installingJobs {progress : Dict Key Entry} {key : Key} :
    key ∈ installingJobs progress ↔
      ∃ entry, progress.get? key = some entry ∧ entry.stage = .installing := by
  simp [installingJobs, Dict.get?_eq_some_iff]

theorem fallbackJob_eq_some {progress : Dict Key Entry} {key : Key} :
    fallbackJob progress = some key ↔ installingJobs progress = [key] := by
  unfold fallbackJob
  split <;> simp_all

theorem matchJob_mem {e : Event} {keys : List Key} {key : Key}
    (h : matchJob e keys = some (some key)) : key ∈ keys ∧ mentions e key = some true := by
  induction keys with
  | nil => simp [matchJob] at h
  | cons k keys ih =>
    cases hm : mentions e k with
    | none => simp [matchJob, hm] at h
    | some hit =>
      cases hit with
      | true =>
        simp only [matchJob, hm, Option.some.injEq] at h
        subst h
        exact ⟨List.mem_cons_self, hm⟩
      | false =>
        obtain ⟨hk, ht⟩ := ih (by simpa [matchJob, hm] using h)
        exact ⟨List.mem_cons_of_mem k hk, ht⟩

theorem matchJob_none {e : Event} {keys : List Key} (h : matchJob e keys = some none) :
    ∀ key ∈ keys, mentions e key = some false := by
  induction keys with
  | nil => simp
  | cons k keys ih =>
    cases hm : mentions e k with
    | none => simp [matchJob, hm] at h
    | some hit =>
      cases hit with
      | true => simp [matchJob, hm] at h
      | false =>
        intro key hkey
        rcases List.mem_cons.mp hkey with rfl | hkey
        · exact hm
        · exact ih (by simpa [matchJob, hm] using h) key hkey

/-- An attributed job is tracked, and it was mentioned or is the fallback job. -/
theorem matchedJob_spec {progress : Dict Key Entry} {e : Event} {key : Key}
    (h : matchedJob progress e = some (some key)) :
    key ∈ progress.keys ∧ key.truthy = true ∧
      (mentions e key = some true ∨ fallbackJob progress = some key) := by
  obtain ⟨matched, hmatch, hkey⟩ := Option.map_eq_some_iff.mp h
  obtain ⟨hor, htruthy⟩ := Option.filter_eq_some_iff.mp hkey
  rcases Option.or_eq_some_iff.mp hor with hm | ⟨-, hf⟩
  · obtain ⟨hm, -⟩ := Option.filter_eq_some_iff.mp hm
    obtain ⟨hmem, hment⟩ := matchJob_mem (hmatch.trans (by rw [hm]))
    exact ⟨hmem, htruthy, Or.inl hment⟩
  · have hmem : key ∈ installingJobs progress := by
      rw [fallbackJob_eq_some.mp hf]
      exact List.mem_singleton_self key
    obtain ⟨entry, hentry, -⟩ := mem_installingJobs.mp hmem
    exact ⟨Dict.mem_keys_iff.mpr ⟨entry, hentry⟩, htruthy, Or.inr hf⟩

/-- A terminal stage stays; any other becomes `INSTALLING` or terminal. -/
theorem calculatedStage_spec {current next : Stage} {e : Event}
    (h : calculatedStage current e = some next) :
    (current.Terminal ∧ next = current) ∨
      (¬ current.Terminal ∧ (next = .installing ∨ next.Terminal)) := by
  unfold calculatedStage at h
  split_ifs at h with hterm
  · exact Or.inl ⟨hterm, (Option.some.inj h).symm⟩
  · exact Or.inr ⟨hterm, Or.inr (Or.inr (Option.some.inj h).symm)⟩
  · exact Or.inr ⟨hterm, Or.inr (Or.inl (Option.some.inj h).symm)⟩
  · split at h
    · split_ifs at h
      · exact Or.inr ⟨hterm, Or.inr (Or.inl (Option.some.inj h).symm)⟩
      · exact Or.inr ⟨hterm, Or.inl (Option.some.inj h).symm⟩
    · cases h

/-- Everything the handler can do: refuse, find no job, or record one stage. -/
theorem telemetry_cases (site : Site) (body : Option Json) (logWritten : Bool) (s : Server) :
    ((telemetry site body logWritten s).1 = s ∧ telemetryWrite site body s = none) ∨
    ∃ fields key stage, body = some (.obj fields) ∧
      matchedJob s.progress (eventOf fields) = some (some key) ∧
      calculatedStage ((s.stage? key).getD .installing) (eventOf fields) = some stage ∧
      telemetryWrite site body s = some (key, eventEntry site (eventOf fields) stage) ∧
      telemetry site body logWritten s = record site (eventOf fields) key stage logWritten s := by
  cases body with
  | none => exact Or.inl ⟨rfl, rfl⟩
  | some value =>
    cases value with
    | obj fields =>
      cases ha : matchedJob s.progress (eventOf fields) with
      | none => left; simp [telemetry, telemetryWrite, ha]
      | some found =>
        cases found with
        | none => left; simp [telemetry, telemetryWrite, ha]
        | some key =>
          cases hc : calculatedStage ((s.stage? key).getD .installing) (eventOf fields) with
          | none => left; simp [telemetry, telemetryWrite, ha, hc]
          | some stage =>
            exact Or.inr ⟨fields, key, stage, rfl, ha, hc, by simp [telemetryWrite, ha, hc],
              by simp [telemetry, ha, hc]⟩
    | _ => exact Or.inl ⟨rfl, rfl⟩

theorem record_progress (site : Site) (e : Event) (key : Key) (stage : Stage) (logWritten : Bool)
    (s : Server) : (record site e key stage logWritten s).1.progress =
      s.progress.set key (eventEntry site e stage) := by
  cases key with
  | text job => cases logWritten <;> rfl
  | number x => rfl

theorem record_logs_ne (site : Site) (e : Event) {key : Key} (stage : Stage) (logWritten : Bool)
    (s : Server) {path : Path} (h : ∀ job, key = .text job → path ≠ logPath job) :
    (record site e key stage logWritten s).1.logs path = s.logs path := by
  cases key with
  | text job =>
    cases logWritten with
    | false => rfl
    | true => exact Function.update_of_ne (h job rfl) _ _
  | number x => rfl

theorem telemetry_progress (site : Site) (body : Option Json) (logWritten : Bool) (s : Server) :
    (telemetry site body logWritten s).1.progress =
      applyWrite s.progress (telemetryWrite site body s) := by
  rcases telemetry_cases site body logWritten s with
    ⟨h, hw⟩ | ⟨fields, key, stage, -, -, -, hw, h⟩
  · rw [h, hw]
    rfl
  · rw [h, hw, record_progress]
    rfl

@[simp] theorem telemetry_files (site : Site) (body : Option Json) (logWritten : Bool)
    (s : Server) :
    (telemetry site body logWritten s).1.files = s.files := by
  rcases telemetry_cases site body logWritten s with ⟨h, -⟩ | ⟨fields, key, stage, -, -, -, -, h⟩
  · rw [h]
  · rw [h]
    cases key <;> cases logWritten <;> rfl

@[simp] theorem telemetry_jobTracker (site : Site) (body : Option Json) (logWritten : Bool)
    (s : Server) : (telemetry site body logWritten s).1.jobTracker = s.jobTracker := by
  rcases telemetry_cases site body logWritten s with ⟨h, -⟩ | ⟨fields, key, stage, -, -, -, -, h⟩
  · rw [h]
  · rw [h]
    cases key <;> cases logWritten <;> rfl

/-- No event adds, removes or reorders a tracked job. -/
@[simp] theorem telemetry_keys (site : Site) (body : Option Json) (logWritten : Bool) (s : Server) :
    (telemetry site body logWritten s).1.progress.keys = s.progress.keys := by
  rcases telemetry_cases site body logWritten s with ⟨h, -⟩ | ⟨fields, key, stage, -, ha, -, -, h⟩
  · rw [h]
  · rw [h, record_progress, Dict.keys_set_of_mem (matchedJob_spec ha).1]

theorem telemetry_get?_of_not_attributed (site : Site) (fields : Fields) (logWritten : Bool)
    (s : Server) {key : Key} (h : matchedJob s.progress (eventOf fields) ≠ some (some key)) :
    (telemetry site (some (.obj fields)) logWritten s).1.progress.get? key =
      s.progress.get? key := by
  rcases telemetry_cases site (some (.obj fields)) logWritten s with
    ⟨hs, -⟩ | ⟨fields', key', stage, hb, ha, -, -, hs⟩
  · rw [hs]
  · cases hb
    have hne : key ≠ key' := by
      rintro rfl
      exact h ha
    rw [hs, record_progress, Dict.get?_set_ne _ hne]

/-- A log changes only by an event that is attributed to a job with that log. -/
theorem telemetry_logs_of_not_attributed (site : Site) (fields : Fields) (logWritten : Bool)
    (s : Server) {path : Path}
    (h : ∀ job, matchedJob s.progress (eventOf fields) = some (some (.text job)) →
      path ≠ logPath job) :
    (telemetry site (some (.obj fields)) logWritten s).1.logs path = s.logs path := by
  rcases telemetry_cases site (some (.obj fields)) logWritten s with
    ⟨hs, -⟩ | ⟨fields', key, stage, hb, ha, -, -, hs⟩
  · rw [hs]
  · cases hb
    rw [hs]
    apply record_logs_ne
    rintro job rfl
    exact h job ha

end Astro.TelemetryHandler
