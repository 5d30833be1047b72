import Astro.SequentialRuns

/-!
# Polling the status is invisible

A status query can move a job from `STAGING` to `STAGING_FAILED`. What is observable of the
server is its state in which every such move has been made already: a query does not change
that view, and the responses of all requests and the next view follow from it.
-/

namespace Astro.InvisiblePolling

open PythonText JobPaths IpxePipeline TelemetryHandler CustomIsoHandler ServerHandlers SeedRendering
  FileServing HttpMethods LabelledRuns ObservedRuns SequentialRuns

def hasFailed (runners : ℕ → Option Runner) (s : Server) : Key → Bool
  | .text job => decide (RunnerFailed runners s job)
  | .number _ => false

/-- The entry of a job as the next query leaves it. -/
def shown (failed : Bool) (entry : Entry) : Entry :=
  if failed = true ∧ entry.stage = .staging then stagingFailedEntry else entry

def shownEntry (m : Machine) (key : Key) : Option Entry :=
  (m.progress.get? key).map (shown (hasFailed m.runners m.toServer key))

@[ext]
structure View where
  keys : List Key
  entry : Key → Option Entry
  jobTracker : Dict Key ℕ
  logs : Path → Str
  files : Files
  runners : ℕ → Option Runner
  provisions : ℕ

def view (m : Machine) : View where
  keys := m.progress.keys
  entry := shownEntry m
  jobTracker := m.jobTracker
  logs := m.logs
  files := m.files
  runners := m.runners
  provisions := m.provisions

/-- The recorded runners have been started before. -/
def RunnersKnown (m : Machine) : Prop := ∀ key n, m.jobTracker.get? key = some n → n < m.provisions

theorem shown_of_ne {entry : Entry} (h : entry.stage ≠ .staging) (failed : Bool) :
    shown failed entry = entry := if_neg fun hstaging => h hstaging.2

theorem shown_shown {failed failed' : Bool} (h : failed = true → failed' = true) (entry : Entry) :
    shown failed' (shown failed entry) = shown failed' entry := by
  by_cases hstaging : failed = true ∧ entry.stage = .staging
  · have hnow : shown failed entry = stagingFailedEntry := if_pos hstaging
    have hlater : shown failed' entry = stagingFailedEntry := if_pos ⟨h hstaging.1, hstaging.2⟩
    rw [hnow, hlater]
    exact shown_of_ne (by decide) failed'
  · rw [show shown failed entry = entry from if_neg hstaging]

theorem shown_stage_iff (failed : Bool) (entry : Entry) :
    (shown failed entry).stage = .installing ↔ entry.stage = .installing := by
  unfold shown
  split_ifs with hstaging
  · rw [hstaging.2]
    exact ⟨fun h => absurd h (by decide), fun h => absurd h (by decide)⟩
  · exact Iff.rfl

theorem calculatedStage_shown (failed : Bool) (entry : Entry) (e : TelemetryHandler.Event) :
    calculatedStage (shown failed entry).stage e = calculatedStage entry.stage e := by
  unfold shown
  split_ifs with hstaging
  · have hbefore : ¬ entry.stage.Terminal := by
      rw [hstaging.2]
      decide
    have hafter : ¬ stagingFailedEntry.stage.Terminal := by decide
    rw [calculatedStage, calculatedStage, if_neg hbefore, if_neg hafter]
  · rfl

theorem installingJobs_eq_filter (progress : Dict Key Entry) : installingJobs progress =
    progress.keys.filter fun key => (progress.get? key).map Entry.stage = some .installing := by
  have hentry : ∀ e ∈ progress.entries, (decide (e.2.stage = Stage.installing)) =
      decide ((progress.get? e.1).map Entry.stage = some .installing) := by
    intro e he
    have hget : progress.get? e.1 = some e.2 := Dict.get?_eq_some_iff.mpr he
    rw [hget, Option.map_some, decide_eq_decide, Option.some.injEq]
  rw [installingJobs, List.filter_congr hentry, Dict.keys, List.filter_map]
  rfl

theorem hasFailed_of_recordedRunner {runners runners' : ℕ → Option Runner}
    {s s' : Server} {key : Key} (h : ∀ job, key = .text job →
      recordedRunner runners s job = recordedRunner runners' s' job) :
    hasFailed runners s key = hasFailed runners' s' key := by
  cases key with
  | text job => rw [hasFailed, hasFailed, decide_eq_decide, RunnerFailed, RunnerFailed, h job rfl]
  | number x => rfl

section Congruence
variable {m m' : Machine} (h : view m = view m')

include h

theorem keys_congr : m.progress.keys = m'.progress.keys := congrArg View.keys h

theorem jobTracker_congr : m.jobTracker = m'.jobTracker := congrArg View.jobTracker h

theorem logs_congr : m.logs = m'.logs := congrArg View.logs h

theorem files_congr : m.files = m'.files := congrArg View.files h

theorem runners_congr : m.runners = m'.runners := congrArg View.runners h

theorem provisions_congr : m.provisions = m'.provisions := congrArg View.provisions h

theorem recordedRunner_congr (job : Str) :
    recordedRunner m.runners m.toServer job = recordedRunner m'.runners m'.toServer job := by
  rw [recordedRunner, recordedRunner, runners_congr h, jobTracker_congr h]

theorem hasFailed_congr (key : Key) :
    hasFailed m.runners m.toServer key = hasFailed m'.runners m'.toServer key :=
  hasFailed_of_recordedRunner fun job _ => recordedRunner_congr h job

theorem entry_congr (key : Key) : shownEntry m key = shownEntry m' key :=
  congrFun (congrArg View.entry h) key

/-- The entries agree up to what the runners of the first machine tell. -/
theorem shown_congr (key : Key) :
    (m.progress.get? key).map (shown (hasFailed m.runners m.toServer key)) =
      (m'.progress.get? key).map (shown (hasFailed m.runners m.toServer key)) := by
  have hentry := entry_congr h key
  rw [shownEntry, shownEntry, ← hasFailed_congr h] at hentry
  exact hentry

theorem installing_congr (key : Key) :
    (m.progress.get? key).map Entry.stage = some .installing ↔
      (m'.progress.get? key).map Entry.stage = some .installing := by
  have hshown : ∀ m : Machine, (m.progress.get? key).map Entry.stage = some .installing ↔
      (shownEntry m key).map Entry.stage = some .installing := by
    intro m
    unfold shownEntry
    cases m.progress.get? key with
    | none => exact Iff.rfl
    | some entry =>
      simp only [Option.map_some, Option.some.injEq]
      exact (shown_stage_iff _ entry).symm
  rw [hshown m, hshown m', entry_congr h]

theorem matchedJob_congr (e : TelemetryHandler.Event) :
    matchedJob m.progress e = matchedJob m'.progress e := by
  have hkeys := keys_congr h
  have hinstalling : installingJobs m.progress = installingJobs m'.progress := by
    simp only [installingJobs_eq_filter, hkeys, installing_congr h]
  simp only [matchedJob, fallbackJob, hkeys, hinstalling]

theorem calculatedStage_congr (key : Key) (e : TelemetryHandler.Event) :
    calculatedStage ((m.stage? key).getD .installing) e =
      calculatedStage ((m'.stage? key).getD .installing) e := by
  have hshown : ∀ m : Machine, calculatedStage ((m.stage? key).getD .installing) e =
      calculatedStage (((shownEntry m key).map Entry.stage).getD .installing) e := by
    intro m
    unfold Server.stage? shownEntry
    cases m.progress.get? key with
    | none => rfl
    | some entry => exact (calculatedStage_shown _ entry e).symm
  rw [hshown m, hshown m', entry_congr h]

end Congruence

theorem hasFailed_put (m : Machine) {s : Server} (hs : s.jobTracker = m.jobTracker) (key : Key) :
    hasFailed m.runners s key = hasFailed m.runners m.toServer key := by
  refine hasFailed_of_recordedRunner fun job _ => ?_
  rw [recordedRunner, recordedRunner, hs]

theorem keys_applyWrite_congr {progress progress' : Dict Key Entry}
    (h : progress.keys = progress'.keys) (write : Option (Key × Entry)) :
    (applyWrite progress write).keys = (applyWrite progress' write).keys := by
  cases write with
  | none => exact h
  | some stored =>
    obtain ⟨key, entry⟩ := stored
    by_cases hkey : key ∈ progress.keys
    · rw [applyWrite, applyWrite, Dict.keys_set_of_mem hkey, Dict.keys_set_of_mem (h ▸ hkey), h]
    · rw [applyWrite, applyWrite, Dict.keys_set_of_notMem hkey,
        Dict.keys_set_of_notMem (h ▸ hkey), h]

/-- What is shown of the dictionaries after the same write. -/
theorem shown_applyWrite_congr {progress progress' : Dict Key Entry} {failed : Key → Bool}
    (h : ∀ key, (progress.get? key).map (shown (failed key)) =
      (progress'.get? key).map (shown (failed key))) (write : Option (Key × Entry)) (key : Key) :
    ((applyWrite progress write).get? key).map (shown (failed key)) =
      ((applyWrite progress' write).get? key).map (shown (failed key)) := by
  cases write with
  | none => exact h key
  | some stored =>
    obtain ⟨stored, entry⟩ := stored
    rw [applyWrite, applyWrite, Dict.get?_set, Dict.get?_set]
    split_ifs
    · rfl
    · exact h key

/-- Handlers that store the same entry and leave the same files and logs keep the views
equal. -/
theorem view_put_congr {m m' : Machine} (h : view m = view m') {s s' : Server}
    (write : Option (Key × Entry)) (hprogress : s.progress = applyWrite m.progress write)
    (hprogress' : s'.progress = applyWrite m'.progress write)
    (htracker : s.jobTracker = m.jobTracker) (htracker' : s'.jobTracker = m'.jobTracker)
    (hlogs : s.logs = s'.logs) (hfiles : s.files = s'.files) :
    view (m.put s) = view (m'.put s') := by
  have hrunners := runners_congr h
  have hprovisions := provisions_congr h
  refine View.ext ?_ ?_ ?_ hlogs hfiles hrunners hprovisions
  · change s.progress.keys = s'.progress.keys
    rw [hprogress, hprogress']
    exact keys_applyWrite_congr (keys_congr h) write
  · funext key
    change (s.progress.get? key).map (shown (hasFailed m.runners s key)) =
      (s'.progress.get? key).map (shown (hasFailed m'.runners s' key))
    rw [hasFailed_put m htracker, hasFailed_put m' htracker', ← hasFailed_congr h,
      hprogress, hprogress']
    exact shown_applyWrite_congr (shown_congr h) write key
  · change s.jobTracker = s'.jobTracker
    rw [htracker, htracker']
    exact jobTracker_congr h

section Endpoints
variable {m m' : Machine} (h : view m = view m')

include h

theorem telemetry_congr (site : Site) (body : Option Json) (logWritten : Bool) :
    telemetryWrite site body m.toServer = telemetryWrite site body m'.toServer ∧
      (telemetry site body logWritten m.toServer).2 =
        (telemetry site body logWritten m'.toServer).2 ∧
      (telemetry site body logWritten m.toServer).1.logs =
        (telemetry site body logWritten m'.toServer).1.logs := by
  have hlogs := logs_congr h
  unfold telemetryWrite telemetry
  split
  · rename_i fields
    simp only [matchedJob_congr h, calculatedStage_congr h]
    split
    · exact ⟨trivial, rfl, hlogs⟩
    · exact ⟨trivial, rfl, hlogs⟩
    · rename_i key _
      split
      · exact ⟨trivial, rfl, hlogs⟩
      · refine ⟨trivial, ?_⟩
        cases key with
        | number x => exact ⟨rfl, hlogs⟩
        | text job =>
          cases logWritten with
          | false => exact ⟨rfl, hlogs⟩
          | true =>
            refine ⟨rfl, ?_⟩
            simp only [record, appendLog, Server.setProgress_logs, hlogs, if_true]
  · exact ⟨rfl, rfl, hlogs⟩

theorem posted_telemetry_congr (world : World) (env : Environment) (r : Request) :
    postResponse world env r m .telemetry = postResponse world env r m' .telemetry ∧
      view (posted world env r m .telemetry) = view (posted world env r m' .telemetry) := by
  obtain ⟨hwrite, hcode, hlogs⟩ := telemetry_congr h world.toSite r.body env.logWritten
  have hfiles := files_congr h
  refine ⟨congrArg telemetryResponse hcode, ?_⟩
  refine view_put_congr h (telemetryWrite world.toSite r.body m.toServer) (telemetry_progress ..) ?_
    (telemetry_jobTracker ..) (telemetry_jobTracker ..) hlogs ?_
  · rw [hwrite]
    exact telemetry_progress ..
  · rw [telemetry_files, telemetry_files]
    exact hfiles

theorem posted_progress_congr (world : World) (env : Environment) (r : Request) :
    postResponse world env r m .progress = postResponse world env r m' .progress ∧
      view (posted world env r m .progress) = view (posted world env r m' .progress) := by
  have hlogs := logs_congr h
  have hfiles := files_congr h
  simp only [postResponse, posted, progressHook]
  cases hwrite : hookWrite world.toSite r.body with
  | none => exact ⟨rfl, h⟩
  | some stored => exact ⟨rfl, view_put_congr h (some stored) rfl rfl rfl rfl hlogs hfiles⟩

theorem posted_customIso_congr (world : World) (env : Environment) (r : Request) :
    postResponse world env r m .customIso = postResponse world env r m' .customIso ∧
      view (posted world env r m .customIso) = view (posted world env r m' .customIso) := by
  have hlogs := logs_congr h
  have hfiles := files_congr h
  simp only [postResponse, posted, customIso_eq, hfiles]
  exact ⟨trivial, view_put_congr h _ rfl rfl rfl rfl hlogs rfl⟩

theorem posted_phoneHome_congr (world : World) (env : Environment) (r : Request) :
    postResponse world env r m .phoneHome = postResponse world env r m' .phoneHome ∧
      view (posted world env r m .phoneHome) = view (posted world env r m' .phoneHome) := by
  have hlogs := logs_congr h
  have hfiles := files_congr h
  simp only [postResponse, posted, served]
  cases hrequest : phoneHomeRequest world.toSite r.body with
  | none =>
    rw [servePhoneHome_rejected hrequest, servePhoneHome_rejected hrequest]
    exact ⟨rfl, h⟩
  | some request =>
    cases hfile : loadJob m.files request.jobId.val with
    | some value =>
      rw [servePhoneHome_loaded hrequest hfile, servePhoneHome_loaded hrequest (hfiles ▸ hfile)]
      refine ⟨rfl, view_put_congr h (some (.text request.jobId.val, phonedHomeEntry request))
        rfl rfl rfl rfl hlogs ?_⟩
      exact congrArg (writeSeeds _ _) hfiles
    | none =>
      rw [servePhoneHome_unreadable hrequest hfile,
        servePhoneHome_unreadable hrequest (hfiles ▸ hfile)]
      exact ⟨rfl, h⟩

end Endpoints

theorem hasFailed_withRunner {m : Machine} (hknown : RunnersKnown m) {job : Str} {key : Key}
    (hkey : key ≠ .text job) :
    hasFailed (withRunner job m).runners (withRunner job m).toServer key =
      hasFailed m.runners m.toServer key := by
  refine hasFailed_of_recordedRunner fun job' hjob' => ?_
  rw [hjob'] at hkey
  simp only [recordedRunner, withRunner, Dict.get?_set_ne _ hkey]
  cases hnumber : m.jobTracker.get? (.text job') with
  | none => rfl
  | some n =>
    have hlt := hknown _ n hnumber
    exact Function.update_of_ne (by omega) _ _

theorem hasFailed_withRunner_self (job : Str) (m : Machine) :
    hasFailed (withRunner job m).runners (withRunner job m).toServer (.text job) = false := by
  have hrecorded : recordedRunner (withRunner job m).runners (withRunner job m).toServer job =
      some ⟨.unstarted, none⟩ := by
    simp only [recordedRunner, withRunner, Dict.get?_set_self, Option.bind_some,
      Function.update_self]
  rw [hasFailed, decide_eq_false_iff_not, RunnerFailed, hrecorded, Option.map_some,
    Option.some.injEq]
  exact RunnerStatus.noConfusion

theorem view_withRunner_congr {m m' : Machine} (h : view m = view m') (hknown : RunnersKnown m)
    (hknown' : RunnersKnown m') {job : Str}
    (hjob : m.progress.get? (.text job) = m'.progress.get? (.text job)) :
    view (withRunner job m) = view (withRunner job m') := by
  have hkeys := keys_congr h
  have htracker := jobTracker_congr h
  have hlogs := logs_congr h
  have hfiles := files_congr h
  have hrunners := runners_congr h
  have hprovisions := provisions_congr h
  refine View.ext hkeys ?_ ?_ hlogs hfiles ?_ ?_
  · funext key
    change shownEntry (withRunner job m) key = shownEntry (withRunner job m') key
    rw [shownEntry, shownEntry]
    by_cases hkey : key = .text job
    · rw [hkey, hasFailed_withRunner_self, hasFailed_withRunner_self]
      exact congrArg (Option.map (shown false)) hjob
    · rw [hasFailed_withRunner hknown hkey, hasFailed_withRunner hknown' hkey]
      exact entry_congr h key
  · change m.jobTracker.set (.text job) m.provisions = m'.jobTracker.set (.text job) m'.provisions
    rw [htracker, hprovisions]
  · change Function.update m.runners m.provisions _ = Function.update m'.runners m'.provisions _
    rw [hrunners, hprovisions]
  · exact congrArg Nat.succ hprovisions

theorem view_withoutRunner_congr {m m' : Machine} (h : view m = view m') :
    view (withoutRunner m) = view (withoutRunner m') := by
  have hview : ∀ m, view (withoutRunner m) =
      { view m with provisions := (view m).provisions + 1 } :=
    fun _ => rfl
  rw [hview, hview, h]

theorem posted_provision_congr {m m' : Machine} (h : view m = view m') (hknown : RunnersKnown m)
    (hknown' : RunnersKnown m') (world : World) (env : Environment) (r : Request) :
    postResponse world env r m .provision = postResponse world env r m' .provision ∧
      view (posted world env r m .provision) = view (posted world env r m' .provision) := by
  refine ⟨rfl, ?_⟩
  simp only [posted]
  cases provisionJob world.toSite r.body with
  | none => exact h
  | some job =>
    have hlogs := logs_congr h
    have hfiles := files_congr h
    have hstored : view (m.put (m.toServer.setProgress (.text job) stagingEntry)) =
        view (m'.put (m'.toServer.setProgress (.text job) stagingEntry)) :=
      view_put_congr h (some (.text job, stagingEntry)) rfl rfl rfl rfl hlogs hfiles
    simp only [provisioned]
    split_ifs
    · refine view_withRunner_congr hstored hknown hknown' ?_
      exact (Dict.get?_set_self ..).trans (Dict.get?_set_self ..).symm
    · exact view_withoutRunner_congr hstored

def afterReport (m : Machine) (n : ℕ) (runner : Runner) : Machine := step m (.runner n runner)

/-- A runner that has failed is never seen otherwise again. -/
theorem hasFailed_afterReport {m : Machine} {n : ℕ} {runner : Runner} {key : Key}
    (h : hasFailed m.runners m.toServer key = true) :
    hasFailed (afterReport m n runner).runners (afterReport m n runner).toServer key = true := by
  cases key with
  | number x => cases h
  | text job =>
    rw [hasFailed, decide_eq_true_eq, RunnerFailed, Option.map_eq_some_iff] at h ⊢
    obtain ⟨old, hold, hstatus⟩ := h
    obtain ⟨k, hk, hrunner⟩ := Option.bind_eq_some_iff.mp hold
    by_cases hkn : k = n
    · refine ⟨reported old runner, ?_, by rw [reported, if_pos hstatus]⟩
      subst hkn
      simp only [recordedRunner, afterReport, step, hk, Option.bind_some,
        Function.update_self, hrunner, Option.map_some]
    · refine ⟨old, ?_, hstatus⟩
      simp only [recordedRunner, afterReport, step, hk, Option.bind_some, Function.update_of_ne hkn,
        hrunner]

theorem shownEntry_afterReport (m : Machine) (n : ℕ) (runner : Runner) (key : Key) :
    shownEntry (afterReport m n runner) key = (shownEntry m key).map
      (shown (hasFailed (afterReport m n runner).runners
        (afterReport m n runner).toServer key)) := by
  rw [shownEntry, shownEntry, Option.map_map]
  congr 1
  funext entry
  exact (shown_shown hasFailed_afterReport entry).symm

theorem view_afterReport_congr {m m' : Machine} (h : view m = view m') (n : ℕ) (runner : Runner) :
    view (afterReport m n runner) = view (afterReport m' n runner) := by
  have hkeys := keys_congr h
  have htracker := jobTracker_congr h
  have hlogs := logs_congr h
  have hfiles := files_congr h
  have hprovisions := provisions_congr h
  have hrunners : (afterReport m n runner).runners = (afterReport m' n runner).runners := by
    simp only [afterReport, step, runners_congr h]
  refine View.ext hkeys ?_ htracker hlogs hfiles hrunners hprovisions
  funext key
  change shownEntry (afterReport m n runner) key = shownEntry (afterReport m' n runner) key
  have hfailed : hasFailed (afterReport m n runner).runners (afterReport m n runner).toServer key =
      hasFailed (afterReport m' n runner).runners (afterReport m' n runner).toServer key := by
    refine hasFailed_of_recordedRunner fun job _ => ?_
    rw [recordedRunner, recordedRunner, hrunners]
    exact congrArg (fun tracker : Dict Key ℕ => (tracker.get? (.text job)).bind _) htracker
  rw [shownEntry_afterReport, shownEntry_afterReport, hfailed, entry_congr h]

/-- A query leaves a status query's entry where there was an entry before. -/
theorem afterGet_status {path : Str} (hpath : IsStatusPath path) (m : Machine) :
    (afterGet path m).progress.keys = m.progress.keys ∧
      ∀ key, shownEntry (afterGet path m) key = shownEntry m key := by
  have hprogress : (afterGet path m).progress =
      applyWrite m.progress (statusWrite m.runners path m.toServer) := by
    rw [afterGet, getWrite, if_pos hpath]
    rfl
  rw [statusWrite_eq] at hprogress
  split_ifs at hprogress with hstaging
  · obtain ⟨hfailed, hstage⟩ := hstaging
    obtain ⟨entry, hentry, hentryStage⟩ := Option.map_eq_some_iff.mp hstage
    rw [applyWrite] at hprogress
    refine ⟨?_, fun key => ?_⟩
    · rw [hprogress, Dict.keys_set_of_mem (Dict.mem_keys_iff.mpr ⟨entry, hentry⟩)]
    · have hsame := hasFailed_put m (show (afterGet path m).jobTracker = m.jobTracker from rfl) key
      rw [shownEntry, hprogress, Dict.get?_set, shownEntry]
      split_ifs with hkey
      · have hshown : shown (hasFailed m.runners m.toServer key) entry = stagingFailedEntry := by
          rw [hkey]
          exact if_pos ⟨decide_eq_true hfailed, hentryStage⟩
        rw [hkey, hentry, Option.map_some, Option.map_some, ← hkey, hshown,
          shown_of_ne (by decide)]
      · exact congrArg (fun failed => (m.progress.get? key).map (shown failed)) hsame
  · refine ⟨by rw [hprogress]; rfl, fun key => ?_⟩
    have hsame := hasFailed_put m (show (afterGet path m).jobTracker = m.jobTracker from rfl) key
    rw [shownEntry, hprogress]
    exact congrArg (fun failed => (m.progress.get? key).map (shown failed)) hsame

theorem view_afterGet_status {path : Str} (hpath : IsStatusPath path) (m : Machine) :
    view (afterGet path m) = view m := by
  obtain ⟨hkeys, hentry⟩ := afterGet_status hpath m
  exact View.ext hkeys (funext hentry) rfl rfl rfl rfl rfl

/-- The report is about the entry as it is shown. -/
theorem get?_statusWrite (path : Str) (m : Machine) :
    (applyWrite m.progress (statusWrite m.runners path m.toServer)).get? (.text (statusJob path)) =
      shownEntry m (.text (statusJob path)) := by
  rw [statusWrite_eq, shownEntry]
  split_ifs with hstaging
  · obtain ⟨hfailed, hstage⟩ := hstaging
    obtain ⟨entry, hentry, hentryStage⟩ := Option.map_eq_some_iff.mp hstage
    have hshown : shown (hasFailed m.runners m.toServer (.text (statusJob path))) entry =
        stagingFailedEntry := if_pos ⟨decide_eq_true hfailed, hentryStage⟩
    rw [applyWrite, Dict.get?_set_self, hentry, Option.map_some, hshown]
  · rw [applyWrite]
    cases hentry : m.progress.get? (.text (statusJob path)) with
    | none => rfl
    | some entry =>
      have hraw : ¬ (hasFailed m.runners m.toServer (.text (statusJob path)) = true ∧
          entry.stage = .staging) := by
        rintro ⟨hfailed, hstage⟩
        refine hstaging ⟨of_decide_eq_true hfailed, ?_⟩
        rw [Server.stage?, hentry, Option.map_some, hstage]
      rw [Option.map_some, shown, if_neg hraw]

theorem statusReport_congr {m m' : Machine} (h : view m = view m') (path : Str) :
    statusReport m.runners path m.toServer = statusReport m'.runners path m'.toServer := by
  simp only [statusReport, get?_statusWrite, recordedRunner_congr h, entry_congr h]

theorem get_congr {m m' : Machine} (h : view m = view m') (world : World) (env : Environment)
    {r : Request} (hmethod : r.method = .get) :
    (serve world env r m).output = (serve world env r m').output ∧
      view (serve world env r m).state = view (serve world env r m').state := by
  have hlogs := logs_congr h
  have hfiles := files_congr h
  rw [serve_get_state hmethod, serve_get_state hmethod, serve_get hmethod, serve_get hmethod]
  by_cases hpath : IsStatusPath r.path
  · rw [view_afterGet_status hpath, view_afterGet_status hpath, run_doGet_status hpath,
      run_doGet_status hpath]
    dsimp only
    rw [statusResponse, statusResponse, statusReport_congr h]
    exact ⟨rfl, h⟩
  · obtain ⟨out, ending, hrun⟩ := stateless_serveFiles (σ := Machine)
      (world.disk m.files m.logs) env.readLimit r.range r.path
    have hwrite : ∀ m : Machine, getWrite m.runners r.path m.toServer =
        (launcherJob r.path).map fun job => (.text job, launcherEntry) := fun m => if_neg hpath
    rw [run_doGet_other hpath, run_doGet_other hpath, ← hfiles, ← hlogs, hrun, hrun]
    refine ⟨rfl, view_put_congr h _ (by rw [hwrite]) (by rw [hwrite]) rfl rfl hlogs hfiles⟩

theorem serve_congr {m m' : Machine} (h : view m = view m') (hknown : RunnersKnown m)
    (hknown' : RunnersKnown m') (world : World) (env : Environment) (r : Request) :
    (serve world env r m).output = (serve world env r m').output ∧
      view (serve world env r m).state = view (serve world env r m').state := by
  cases kind_of r with
  | get hmethod => exact get_congr h world env hmethod
  | head hmethod =>
    have hlogs := logs_congr h
    have hfiles := files_congr h
    obtain ⟨out, ending, hrun⟩ :=
      stateless_doHead (σ := Machine) (world.disk m.files m.logs) env.now r.path
    rw [serve_head hmethod, serve_head hmethod, ← hfiles, ← hlogs, hrun, hrun]
    exact ⟨rfl, h⟩
  | post hmethod e hpath =>
    rw [serve_post_state hmethod hpath, serve_post_state hmethod hpath,
      serve_post_output hmethod hpath, serve_post_output hmethod hpath]
    cases e with
    | progress => exact posted_progress_congr h world env r
    | customIso => exact posted_customIso_congr h world env r
    | phoneHome => exact posted_phoneHome_congr h world env r
    | provision => exact posted_provision_congr h hknown hknown' world env r
    | telemetry => exact posted_telemetry_congr h world env r
  | unknown hmethod hpath =>
    rw [serve_unknown hmethod hpath, serve_unknown hmethod hpath]
    exact ⟨rfl, h⟩

theorem RunnersKnown.provisioned {m : Machine} (h : RunnersKnown m) (env : Environment)
    (job : Str) :
    RunnersKnown (provisioned env job m) := by
  unfold HttpMethods.provisioned
  dsimp only
  split_ifs
  · intro key n hn
    change (m.jobTracker.set (.text job) m.provisions).get? key = some n at hn
    change n < m.provisions + 1
    rw [Dict.get?_set] at hn
    split_ifs at hn with hkey
    · cases hn
      exact Nat.lt_succ_self _
    · exact Nat.lt_succ_of_lt (h key n hn)
  · intro key n hn
    exact Nat.lt_succ_of_lt (h key n hn)

theorem RunnersKnown.step {m : Machine} (h : RunnersKnown m) (e : Action) :
    RunnersKnown (step m e) := by
  cases e with
  | runner n runner => exact h
  | request world env r =>
    change RunnersKnown (serve world env r m).state
    cases kind_of r with
    | get hmethod =>
      rw [serve_get_state hmethod]
      exact h
    | head hmethod =>
      rw [serve_head_state hmethod]
      exact h
    | unknown hmethod hpath =>
      rw [serve_unknown hmethod hpath]
      exact h
    | post hmethod e hpath =>
      rw [serve_post_state hmethod hpath]
      by_cases he : e = .provision
      · subst he
        unfold posted
        dsimp only
        split
        · exact h.provisioned env _
        · exact h
      · unfold RunnersKnown
        rw [posted_jobTracker world env r m he, posted_provisions world env r m he]
        exact h

/-- All that the requests of a run can tell is in the view. -/
theorem observes_view : Observes step response RunnersKnown view where
  invariant m e hm := hm.step e
  output m m' e hm hm' h := by
    cases e with
    | runner n runner => rfl
    | request world env r => exact (serve_congr h hm hm' world env r).1
  step m m' e hm hm' h := by
    cases e with
    | runner n runner => exact view_afterReport_congr h n runner
    | request world env r => exact (serve_congr h hm hm' world env r).2

def IsPoll : Action → Prop
  | .request _ _ r => r.method = .get ∧ IsStatusPath r.path
  | .runner _ _ => False

theorem step_poll {e : Action} (he : IsPoll e) (m : Machine) : ∃ path, IsStatusPath path ∧
    step m e = afterGet path m := by
  cases e with
  | runner n runner => exact he.elim
  | request world env r => exact ⟨r.path, he.2, serve_get_state he.1⟩

/-- Status queries that are mixed into a run of a new server change no response to the other
requests, and no status query adds an entry to a tracker. -/
theorem polling_invisible (logs : Path → Str) (files : Files) {actions : List (Action × Bool)}
    (hpolls : ∀ e, (e, false) ∈ actions → IsPoll e) :
    markedOutputs step response (Machine.started logs files) actions =
        outputs step response (Machine.started logs files) (marked actions) ∧
      ∀ m e, IsPoll e → (step m e).progress.keys = m.progress.keys ∧
        (step m e).jobTracker = m.jobTracker := by
  have hstarted : RunnersKnown (Machine.started logs files) := by
    intro key n hn
    cases hn
  refine ⟨?_, ?_⟩
  · refine observes_view.markedOutputs_eq ?_ hpolls hstarted hstarted rfl
    intro m e _ he
    obtain ⟨path, hpath, hstep⟩ := step_poll he m
    rw [hstep]
    exact view_afterGet_status hpath m
  · intro m e he
    obtain ⟨path, hpath, hstep⟩ := step_poll he m
    rw [hstep]
    exact ⟨(afterGet_status hpath m).1, rfl⟩

/-- A provisioning request whose runner fails, and two status queries. -/
def failedProvisioning : List (Action × Bool) :=
  let world := worldWith fun _ => none
  let status : Action := .request world calm (bare .get "/api/v1/jobs/status?job_id=node-1")
  [(.request world calm { bare .post Endpoint.provision.path with
      body := some (RepositorySite.provisionBody "node-1" "10.0.0.2") }, true),
    (.runner 0 ⟨.failed, some 2⟩, true), (status, false), (status, true)]

/-- The first query does change the state, and the answer to the second is the same
without it. -/
theorem polling_invisible_failedProvisioning :
    (run step emptyMachine ((failedProvisioning.take 3).map Prod.fst)).stage?
      (.text "node-1".toList) =
        some .stagingFailed ∧
      (run step emptyMachine (marked (failedProvisioning.take 3))).stage? (.text "node-1".toList) =
        some .staging ∧
      markedOutputs step response emptyMachine failedProvisioning =
        outputs step response emptyMachine (marked failedProvisioning) := by
  refine ⟨rfl, rfl, ?_⟩
  have hpolls : ∀ e, (e, false) ∈ failedProvisioning → IsPoll e := by
    intro e he
    simp only [failedProvisioning, List.mem_cons, Prod.mk.injEq, Bool.false_eq_true,
      and_false, and_true, List.not_mem_nil, or_false, false_or] at he
    rw [he]
    exact ⟨rfl, by decide⟩
  exact (polling_invisible (fun _ => []) (fun _ => none) hpolls).1

end Astro.InvisiblePolling
