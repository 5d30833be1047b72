import Astro.DictIteration
import Astro.LabelledRuns
import Astro.TelemetryHandler

/-!
# Telemetry while other requests write the tracker

The search for the job of an event goes over `PROGRESS_TRACKER` twice, once for the names and
once for the stages, and other threads may store entries between any two looks at it. A new job
ends the iteration with an exception; a new stage is seen or not, depending on the moment.
-/

namespace Astro.TelemetryScans

open LabelledRuns DictIteration TelemetryHandler

/-- The search: over the names, between the two iterations, over the stages with the jobs found so
far, and its result, `none` being an exception. -/
inductive Phase where
  | scanning (cursor : Cursor)
  | unmatched
  | counting (cursor : Cursor) (found : List Key)
  | decided (job : Option (Option Key))
  deriving DecidableEq

structure Search where
  progress : Dict Key Entry
  phase : Phase

inductive Turn where
  | own
  | store (key : Key) (entry : Entry)

/-- The job of a list with one job, if its id is truthy. -/
def sole : List Key → Option Key
  | [key] => if key.truthy then some key else none
  | _ => none

/-- One look of the search at the tracker. -/
def look (e : Event) (progress : Dict Key Entry) : Phase → Phase
  | .scanning cursor => match next progress cursor with
    | .changed => .decided none
    | .exhausted => .unmatched
    | .item key _ cursor' => match mentions e key with
      | none => .decided none
      | some true => if key.truthy then .decided (some (some key)) else .unmatched
      | some false => .scanning cursor'
  | .unmatched => .counting (start progress) []
  | .counting cursor found => match next progress cursor with
    | .changed => .decided none
    | .exhausted => .decided (some (sole found))
    | .item key entry cursor' =>
        .counting cursor' (if entry.stage = .installing then found ++ [key] else found)
  | .decided job => .decided job

def step (e : Event) (s : Search) : Turn → Search
  | .own => { s with phase := look e s.progress s.phase }
  | .store key entry => { s with progress := s.progress.set key entry }

/-- A search that has just begun. -/
def begun (progress : Dict Key Entry) : Search := ⟨progress, .scanning (start progress)⟩

/-- What a search sees of an entry. -/
def installs (entry : Entry) : Bool := entry.stage = .installing

def names (view : List (Key × Bool)) : List Key := view.map Prod.fst

def installing (view : List (Key × Bool)) : List Key := names (view.filter Prod.snd)

/-- The result the search will have if nobody else changes what it sees. -/
def verdict (e : Event) (view : List (Key × Bool)) : Phase → Option (Option Key)
  | .scanning cursor => (matchJob e (names (view.drop cursor.index))).map fun matched =>
    (matched.filter Key.truthy).or (sole (installing view))
  | .unmatched => some (sole (installing view))
  | .counting cursor found => some (sole (found ++ installing (view.drop cursor.index)))
  | .decided job => job

/-- The iterator was made when there were `size` entries. -/
def Fits (size : ℕ) : Phase → Prop
  | .scanning cursor | .counting cursor _ => cursor.used = size ∧ cursor.index ≤ size
  | .unmatched | .decided _ => True

/-- How many looks a search that fits takes at most. -/
def remaining (size : ℕ) : Phase → ℕ
  | .scanning cursor => 2 * size + 3 - cursor.index
  | .unmatched => size + 2
  | .counting cursor _ => size + 1 - cursor.index
  | .decided _ => 0

section View
variable {d : Dict Key Entry}

theorem names_view (d : Dict Key Entry) : names (d.view installs) = d.keys := by
  rw [names, Dict.view, List.map_map]
  rfl

theorem installing_map (entries : List (Key × Entry)) :
    installing (entries.map fun e => (e.1, installs e.2)) =
      (entries.filter fun e => e.2.stage = .installing).map Prod.fst := by
  rw [installing, names, List.filter_map, List.map_map]
  rfl

theorem installing_view (d : Dict Key Entry) : installing (d.view installs) = installingJobs d :=
  installing_map d.entries

theorem length_view (d : Dict Key Entry) : (d.view installs).length = d.entries.length :=
  List.length_map _

theorem drop_view (d : Dict Key Entry) (i : ℕ) :
    (d.view installs).drop i = (d.entries.drop i).map fun e => (e.1, installs e.2) := by
  rw [Dict.view, List.map_drop]

theorem filter_fallbackJob (d : Dict Key Entry) : (fallbackJob d).filter Key.truthy =
    sole (installingJobs d) := by
  rw [fallbackJob]
  rcases installingJobs d with _ | ⟨key, _ | ⟨key', keys⟩⟩
  · rfl
  · rfl
  · rfl

/-- A search that has just begun will decide as an undisturbed request does. -/
theorem verdict_begun (e : Event) (d : Dict Key Entry) :
    verdict e (d.view installs) (begun d).phase = matchedJob d e := by
  rw [begun, verdict, start, List.drop_zero, names_view, installing_view, matchedJob]
  congr 1
  funext matched
  rw [← filter_fallbackJob]
  rcases matched with _ | key
  · rfl
  · by_cases h : key.truthy
    · simp [Option.filter, h]
    · simp [Option.filter, h]

theorem fits_begun (d : Dict Key Entry) : Fits d.entries.length (begun d).phase :=
  ⟨rfl, Nat.zero_le _⟩

end View

/-- What a look at an unchanged tracker gives: the same verdict, nearer. -/
structure Advances (e : Event) (d : Dict Key Entry) (phase phase' : Phase) : Prop where
  verdict : verdict e (d.view installs) phase' = verdict e (d.view installs) phase
  fits : Fits d.entries.length phase'
  remaining : remaining d.entries.length phase' ≤ remaining d.entries.length phase - 1

section Look
variable {e : Event} {d : Dict Key Entry} {cursor : Cursor}

theorem look_scanning (hfits : Fits d.entries.length (.scanning cursor)) :
    Advances e d (.scanning cursor) (look e d (.scanning cursor)) := by
  obtain ⟨hused, hindex⟩ := hfits
  cases hdrop : d.entries.drop cursor.index with
  | nil =>
    have hlook : look e d (.scanning cursor) = .unmatched := by
      rw [look, next_exhausted hused.symm hdrop]
    rw [hlook]
    refine ⟨?_, trivial, ?_⟩
    · rw [verdict, verdict, drop_view, hdrop]
      rfl
    · simp only [remaining]
      omega
  | cons entry rest =>
    obtain ⟨key, value⟩ := entry
    have hlt : cursor.index < d.entries.length := index_lt hdrop
    have hnames : names ((d.view installs).drop cursor.index) =
        key :: names ((d.view installs).drop (cursor.index + 1)) := by
      rw [drop_view, drop_view, hdrop, drop_succ hdrop]
      rfl
    cases hmentions : mentions e key with
    | none =>
      simp only [look, next_item hused.symm hdrop, hmentions]
      refine ⟨?_, trivial, Nat.zero_le _⟩
      simp only [verdict, hnames, matchJob, hmentions, Option.map_none]
    | some found =>
      cases found with
      | false =>
        simp only [look, next_item hused.symm hdrop, hmentions]
        refine ⟨?_, ⟨hused, hlt⟩, ?_⟩
        · simp only [verdict, hnames, matchJob, hmentions]
        · simp only [remaining]
          omega
      | true =>
        by_cases htruthy : key.truthy
        · simp only [look, next_item hused.symm hdrop, hmentions, htruthy, if_true]
          refine ⟨?_, trivial, Nat.zero_le _⟩
          simp [verdict, hnames, matchJob, hmentions, Option.filter, htruthy]
        · simp only [look, next_item hused.symm hdrop, hmentions, htruthy,
            Bool.false_eq_true, if_false]
          refine ⟨?_, trivial, ?_⟩
          · simp [verdict, hnames, matchJob, hmentions, Option.filter, htruthy]
          · simp only [remaining]
            omega

theorem look_counting {found : List Key} (hfits : Fits d.entries.length (.counting cursor found)) :
    Advances e d (.counting cursor found) (look e d (.counting cursor found)) := by
  obtain ⟨hused, hindex⟩ := hfits
  cases hdrop : d.entries.drop cursor.index with
  | nil =>
    rw [look, next_exhausted hused.symm hdrop]
    refine ⟨?_, trivial, Nat.zero_le _⟩
    simp only [verdict, drop_view, hdrop, List.map_nil]
    rw [show installing [] = [] from rfl, List.append_nil]
  | cons entry rest =>
    obtain ⟨key, value⟩ := entry
    have hlt : cursor.index < d.entries.length := index_lt hdrop
    rw [look, next_item hused.symm hdrop]
    refine ⟨?_, ⟨hused, hlt⟩, ?_⟩
    · simp only [verdict, drop_view, hdrop, drop_succ hdrop, installing_map]
      by_cases hstage : value.stage = .installing
      · simp [hstage]
      · simp [hstage]
    · simp only [remaining]
      omega

theorem look_advances {phase : Phase} (hfits : Fits d.entries.length phase) :
    Advances e d phase (look e d phase) := by
  cases phase with
  | scanning cursor => exact look_scanning hfits
  | unmatched =>
    refine ⟨?_, ⟨rfl, Nat.zero_le _⟩, ?_⟩
    · rfl
    · simp only [look, remaining, start]
      omega
  | counting cursor found => exact look_counting hfits
  | decided job => exact ⟨rfl, trivial, Nat.zero_le _⟩

theorem remaining_pos {size : ℕ} {phase : Phase} (hfits : Fits size phase)
    (h : remaining size phase = 0) :
    ∃ job, phase = .decided job := by
  cases phase with
  | scanning cursor =>
    simp only [remaining] at h
    obtain ⟨-, hindex⟩ := hfits
    omega
  | unmatched => simp [remaining] at h
  | counting cursor found =>
    simp only [remaining] at h
    obtain ⟨-, hindex⟩ := hfits
    omega
  | decided job => exact ⟨job, rfl⟩

end Look

def Turn.isOwn : Turn → Bool
  | .own => true
  | .store _ _ => false

/-- A store that adds no job and takes none into or out of `INSTALLING`. -/
def Unseen (s : Search) : Turn → Prop
  | .own => True
  | .store key entry => ∃ old, s.progress.get? key = some old ∧ installs old = installs entry

/-- Where the search of `s` stands in `s'`, after `looks` looks at the tracker. -/
structure Alone (e : Event) (s s' : Search) (looks : ℕ) : Prop where
  view : s'.progress.view installs = s.progress.view installs
  fits : Fits s.progress.entries.length s'.phase
  verdict : verdict e (s.progress.view installs) s'.phase =
    verdict e (s.progress.view installs) s.phase
  remaining : remaining s.progress.entries.length s'.phase ≤
    remaining s.progress.entries.length s.phase - looks

theorem length_eq_of_view {d d' : Dict Key Entry} (h : d'.view installs = d.view installs) :
    d'.entries.length = d.entries.length := by
  rw [← length_view, ← length_view, h]

theorem step_alone {e : Event} {s s' : Search} {looks : ℕ} {turn : Turn} (h : Alone e s s' looks)
    (hunseen : Unseen s' turn) : Alone e s (step e s' turn)
    (looks + if turn.isOwn then 1 else 0) := by
  have hlength := length_eq_of_view h.view
  cases turn with
  | own =>
    have hlook : Advances e s'.progress s'.phase (look e s'.progress s'.phase) :=
      look_advances (hlength ▸ h.fits)
    refine ⟨h.view, ?_, ?_, ?_⟩
    · exact hlength ▸ hlook.fits
    · rw [← h.verdict, ← h.view]
      exact hlook.verdict
    · have hnear := hlook.remaining
      have hsofar := h.remaining
      rw [hlength] at hnear
      simp only [step, Turn.isOwn, if_true]
      omega
  | store key entry =>
    exact ⟨(Dict.view_set_iff.mpr hunseen).trans h.view, h.fits, h.verdict, h.remaining⟩

theorem run_alone {e : Event} {s s' : Search} {looks : ℕ} {turns : List Turn}
    (h : Alone e s s' looks) (hunseen : Guarded (step e) Unseen s' turns) :
    Alone e s (run (step e) s' turns) (looks + turns.countP Turn.isOwn) := by
  induction turns generalizing s' looks with
  | nil => exact h
  | cons turn turns ih =>
    have htail := ih (step_alone h hunseen.1) hunseen.2
    rw [List.countP_cons, Nat.add_comm (List.countP _ _), ← Nat.add_assoc]
    exact htail

/-- While no job is added and none enters or leaves `INSTALLING`, a search decides after at most
`2 * n + 3` looks, and as if it had the tracker for itself. -/
theorem decides_as_alone (e : Event) (progress : Dict Key Entry) (turns : List Turn)
    (hunseen : Guarded (step e) Unseen (begun progress) turns)
    (hlooks : 2 * progress.entries.length + 3 ≤ turns.countP Turn.isOwn) :
    (run (step e) (begun progress) turns).phase = .decided (matchedJob progress e) := by
  have hstart : Alone e (begun progress) (begun progress) 0 :=
    ⟨rfl, fits_begun progress, rfl, le_refl _⟩
  have hrun := run_alone hstart hunseen
  have hzero : remaining progress.entries.length (run (step e) (begun progress) turns).phase =
      0 := by
    have hle : remaining progress.entries.length (run (step e) (begun progress) turns).phase ≤
        2 * progress.entries.length + 3 - (0 + turns.countP Turn.isOwn) := hrun.remaining
    omega
  obtain ⟨job, hjob⟩ := remaining_pos hrun.fits hzero
  have hverdict := hrun.verdict
  rw [hjob] at hverdict
  rw [hjob, ← verdict_begun]
  exact congrArg Phase.decided hverdict

def nodeA : Key := .text "node-a"

def nodeB : Key := .text "node-b"

def inStage (stage : Stage) : Entry := ⟨stage, .null, .telemetry⟩

def twoJobs (a b : Stage) : Dict Key Entry :=
  (Dict.empty.set nodeA (inStage a)).set nodeB (inStage b)

/-- An event with nothing but a name. -/
def called (name : Str) : Event := ⟨.str name, .str [], .str [], .str [], .str "UNKNOWN"⟩

theorem decides_as_alone_twoJobs :
    (run (step (called "subiquity/Network")) (begun (twoJobs .phonedHome .installing))
      [.own, .own, .store nodeB (inStage .installing), .own, .own,
        .store nodeA (inStage .completed), .own,
        .own, .own]).phase =
        .decided (matchedJob (twoJobs .phonedHome .installing) (called "subiquity/Network")) ∧
      matchedJob (twoJobs .phonedHome .installing) (called "subiquity/Network") =
        some (some nodeB) := by
  refine ⟨decides_as_alone _ _ _ ?_ (by decide), by decide⟩
  exact ⟨trivial, trivial, ⟨inStage .installing, rfl, rfl⟩, trivial, trivial,
    ⟨inStage .phonedHome, rfl, rfl⟩, trivial, trivial, trivial, trivial⟩

-- Seen otherwise: the two jobs are never `INSTALLING` at one time, and both are counted.
example :
    (run (step (called "subiquity/Network")) (begun (twoJobs .installing .phonedHome))
      [.own, .own, .own, .own, .own, .store nodeA (inStage .completed),
        .store nodeB (inStage .installing),
        .own, .own]).phase = .decided (some none) := by
  decide

/-- The event mentions `key` before any other job, and `key` is not the empty id. -/
def Names (e : Event) (progress : Dict Key Entry) (key : Key) : Prop :=
  matchJob e progress.keys = some (some key) ∧ key.truthy

/-- What is known of the search for names, whatever the others store. -/
def Faithful (e : Event) (progress : Dict Key Entry) (s : Search) : Prop :=
  match s.phase with
  | .scanning cursor => cursor.used = progress.entries.length ∧
    matchJob e (progress.keys.drop cursor.index) = matchJob e progress.keys
  | .unmatched | .counting _ _ => ∀ key, ¬ Names e progress key
  | .decided none =>
    ∀ key, Names e progress key → progress.entries.length < s.progress.entries.length
  | .decided (some job) => ∀ key, Names e progress key → job = some key

structure Disturbed (e : Event) (progress : Dict Key Entry) (s : Search) : Prop where
  keys : progress.keys <+: s.progress.keys
  faithful : Faithful e progress s

section Disturbed
variable {e : Event} {progress : Dict Key Entry}

theorem disturbed_begun : Disturbed e progress (begun progress) := ⟨List.prefix_rfl, rfl, rfl⟩

theorem length_le {d : Dict Key Entry} (hkeys : progress.keys <+: d.keys) :
    progress.entries.length ≤ d.entries.length := by
  rw [← length_keys, ← length_keys]
  exact hkeys.length_le

theorem faithful_scanning {d : Dict Key Entry} {cursor : Cursor} (hkeys : progress.keys <+: d.keys)
    (hscan : Faithful e progress ⟨d, .scanning cursor⟩) :
    Faithful e progress ⟨d, look e d (.scanning cursor)⟩ := by
  obtain ⟨hused, hmatch⟩ := hscan
  by_cases hlength : d.entries.length = cursor.used
  swap
  · rw [look, next_changed hlength]
    intro _ _
    exact lt_of_le_of_ne (length_le hkeys) fun h => hlength (h.symm.trans hused.symm)
  have hdkeys : d.keys = progress.keys := keys_eq hkeys (hlength.trans hused)
  have hdrop : progress.keys.drop cursor.index = (d.entries.drop cursor.index).map Prod.fst := by
    rw [← hdkeys, Dict.keys, List.map_drop]
  cases hentries : d.entries.drop cursor.index with
  | nil =>
    rw [look, next_exhausted hlength hentries]
    rintro key ⟨hkey, -⟩
    rw [← hmatch, hdrop, hentries] at hkey
    cases hkey
  | cons entry rest =>
    obtain ⟨key, value⟩ := entry
    rw [hdrop, hentries, List.map_cons, matchJob] at hmatch
    cases hmentions : mentions e key with
    | none =>
      simp only [hmentions] at hmatch
      simp only [look, next_item hlength hentries, hmentions]
      rintro key' ⟨hkey', -⟩
      rw [← hmatch] at hkey'
      cases hkey'
    | some found =>
      cases found with
      | false =>
        simp only [hmentions] at hmatch
        simp only [look, next_item hlength hentries, hmentions]
        refine ⟨hused, ?_⟩
        rw [← hmatch, ← hdkeys, Dict.keys, ← List.map_drop, drop_succ hentries]
      | true =>
        simp only [hmentions] at hmatch
        simp only [look, next_item hlength hentries, hmentions]
        by_cases htruthy : key.truthy
        · rw [if_pos htruthy]
          rintro key' ⟨hkey', -⟩
          rw [← hmatch] at hkey'
          exact Option.some.inj hkey'
        · rw [if_neg htruthy]
          rintro key' ⟨hkey', htruthy'⟩
          rw [← hmatch] at hkey'
          cases hkey'
          exact htruthy htruthy'

theorem faithful_counting {d : Dict Key Entry} {cursor : Cursor} {found : List Key}
    (hnone : ∀ key, ¬ Names e progress key) :
    Faithful e progress ⟨d, look e d (.counting cursor found)⟩ := by
  rw [look]
  cases next d cursor with
  | changed => exact fun key hkey => absurd hkey (hnone key)
  | exhausted => exact fun key hkey => absurd hkey (hnone key)
  | item key entry cursor' => exact hnone

theorem step_disturbed {s : Search} (h : Disturbed e progress s) (turn : Turn) :
    Disturbed e progress (step e s turn) := by
  obtain ⟨d, phase⟩ := s
  obtain ⟨hkeys, hfaithful⟩ := h
  cases turn with
  | own =>
    refine ⟨hkeys, ?_⟩
    cases phase with
    | scanning cursor => exact faithful_scanning hkeys hfaithful
    | unmatched => exact hfaithful
    | counting cursor found => exact faithful_counting hfaithful
    | decided job => exact hfaithful
  | store key entry =>
    refine ⟨hkeys.trans (keys_set d key entry), ?_⟩
    cases phase with
    | scanning cursor => exact hfaithful
    | unmatched => exact hfaithful
    | counting cursor found => exact hfaithful
    | decided job =>
      cases job with
      | none =>
        exact fun key' hkey' => (hfaithful key' hkey').trans_le (length_le (keys_set d key entry))
      | some job => exact hfaithful

theorem run_disturbed (turns : List Turn) :
    Disturbed e progress (run (step e) (begun progress) turns) := by
  have hstep : ∀ s turn, Disturbed e progress s → Disturbed e progress (step e s turn) :=
    fun _ turn h => step_disturbed h turn
  exact run_invariant hstep disturbed_begun turns

/-- A turn that stores under a new key. -/
def Turn.Adds (progress : Dict Key Entry) : Turn → Prop
  | .own => False
  | .store key _ => key ∉ progress.keys

theorem keys_run {turns : List Turn} (hold : ∀ turn ∈ turns, ¬ turn.Adds progress) :
    (run (step e) (begun progress) turns).progress.keys = progress.keys := by
  have hstep : ∀ (s : Search) (turn : Turn), s.progress.keys = progress.keys →
      ¬ turn.Adds progress →
      (step e s turn).progress.keys = progress.keys := by
    intro s turn hkeys hturn
    cases turn with
    | own => exact hkeys
    | store key entry =>
      have hmem : key ∈ s.progress.keys := hkeys ▸ not_not.mp hturn
      exact (Dict.keys_set_of_mem hmem entry).trans hkeys
  exact Guarded.invariant hstep (guarded_const.mpr hold) rfl

end Disturbed

/-- Whatever other requests store meanwhile, an event that names a job is attributed to that job, or
the request fails, and it fails only when another request has added a job. -/
theorem named_job_or_failure (e : Event) (progress : Dict Key Entry) (key : Key) (turns : List Turn)
    (job : Option (Option Key)) (hnames : Names e progress key)
    (hdecided : (run (step e) (begun progress) turns).phase = .decided job) :
    job = some (some key) ∨ job = none ∧ ∃ turn ∈ turns, turn.Adds progress := by
  have hfaithful : Faithful e progress (run (step e) (begun progress) turns) :=
    (run_disturbed turns).faithful
  rw [Faithful, hdecided] at hfaithful
  cases job with
  | some job => exact Or.inl (congrArg some (hfaithful key hnames))
  | none =>
    refine Or.inr ⟨rfl, ?_⟩
    by_contra hnew
    push Not at hnew
    have hkeys := keys_run (e := e) hnew
    have hlength := congrArg List.length hkeys
    rw [length_keys, length_keys] at hlength
    exact absurd hlength (hfaithful key hnames).ne'

theorem named_job_or_failure_addedJob :
    none = some (some nodeB) ∨ none = (none : Option (Option Key)) ∧
      ∃ turn ∈ [Turn.own, .store (.text "node-c") (inStage .booting), .own],
        turn.Adds (twoJobs .installing .installing) :=
  named_job_or_failure (called "node-b/reboot") (twoJobs .installing .installing) nodeB _ none
    ⟨by decide, by decide⟩ (by decide)

end Astro.TelemetryScans
