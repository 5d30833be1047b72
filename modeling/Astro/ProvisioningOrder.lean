import Astro.TelemetryAttribution

/-!
# Telemetry and the order of provisioning

The handler takes the first tracked id that occurs in an event, so that the order in which
the jobs were tracked decides between two ids of which one is part of the other. The order
has no effect exactly on events whose ids all lead to one job.
-/

namespace Astro.ProvisioningOrder

open PythonText TelemetryHandler TelemetryAttribution CustomIsoHandler ServerSteps LabelledRuns

section Search
variable {α β : Type} {p : α → Bool}

/-- A function that does not tell the hits apart does not see the order of a search. -/
theorem find?_of_perm {f : Option α → β} {l l' : List α} (h : l'.Perm l)
    (hf : ∀ a ∈ l, ∀ b ∈ l, p a = true → p b = true → f (some a) = f (some b)) :
    f (l'.find? p) = f (l.find? p) := by
  cases hfound : l.find? p with
  | none =>
    have hnone : l'.find? p = none := by
      rw [List.find?_eq_none] at hfound ⊢
      intro a ha
      exact hfound a (h.mem_iff.mp ha)
    rw [hnone]
  | some a =>
    have ha : a ∈ l := List.mem_of_find?_eq_some hfound
    have hpa : p a = true := List.find?_some hfound
    cases hfound' : l'.find? p with
    | none => exact absurd hpa (List.find?_eq_none.mp hfound' a (h.mem_iff.mpr ha))
    | some b =>
      have hb : b ∈ l := h.mem_iff.mp (List.mem_of_find?_eq_some hfound')
      exact hf b hb a ha (List.find?_some hfound') hpa

end Search

/-- The id occurs in the name or in the description. -/
def Occurs (name description : Str) : Key → Prop
  | .text job => job <:+: name ∨ job <:+: description
  | .number _ => False

instance (name description : Str) : DecidablePred (Occurs name description) := fun key =>
  match key with
  | .text _ => inferInstanceAs (Decidable (_ ∨ _))
  | .number _ => inferInstanceAs (Decidable False)

/-- `matched_job_id` in the end, from what the loop has found. -/
def settled (progress : Dict Key Entry) (found : Option Key) : Option Key :=
  ((found.filter Key.truthy).or (fallbackJob progress)).filter Key.truthy

/-- All tracked ids that occur in the event lead to one job. -/
def Undisputed (progress : Dict Key Entry) (name description : Str) : Prop :=
  ∀ key ∈ progress.keys, ∀ key' ∈ progress.keys, Occurs name description key →
    Occurs name description key' → settled progress (some key) = settled progress (some key')

theorem settled_of_truthy {progress : Dict Key Entry} {key : Key} (h : key.truthy = true) :
    settled progress (some key) = some key := by
  have hfilter : (some key).filter Key.truthy = some key := Option.filter_some_eq_some.mpr h
  rw [settled, hfilter, Option.some_or, hfilter]

/-- Without an empty id this is to say that at most one tracked id occurs. -/
theorem undisputed_iff {progress : Dict Key Entry} {name description : Str}
    (hkeys : ∀ key ∈ progress.keys, key.truthy = true) :
    Undisputed progress name description ↔ ∀ key ∈ progress.keys, ∀ key' ∈ progress.keys,
      Occurs name description key → Occurs name description key' → key = key' := by
  refine forall₂_congr fun key hkey => forall₂_congr fun key' hkey' => ?_
  rw [settled_of_truthy (hkeys key hkey), settled_of_truthy (hkeys key' hkey'), Option.some.injEq]

section Texts
variable {e : Event} {name type result description : Str}

theorem matchJob_eq_find? (he : e.IsText name type result description) {keys : List Key}
    (hkeys : ∀ key ∈ keys, ∃ job, key = .text job) :
    matchJob e keys = some (keys.find? fun key => Occurs name description key) := by
  induction keys with
  | nil => rfl
  | cons key keys ih =>
    obtain ⟨job, rfl⟩ := hkeys key List.mem_cons_self
    have hrest := ih fun k hk => hkeys k (List.mem_cons_of_mem _ hk)
    have hmentions : mentions e (.text job) = some (decide (Occurs name description (.text job))) :=
      mentions_text he job
    rw [matchJob, hmentions]
    by_cases hoccurs : Occurs name description (.text job)
    · simp [hoccurs]
    · simp [hoccurs, hrest]

theorem matchedJob_eq_settled (he : e.IsText name type result description)
    {progress : Dict Key Entry} (hkeys : ∀ key ∈ progress.keys, ∃ job, key = .text job) :
    matchedJob progress e =
      some (settled progress (progress.keys.find? fun key => Occurs name description key)) := by
  rw [matchedJob, matchJob_eq_find? he hkeys]
  rfl

end Texts

section Reordered
variable {progress progress' : Dict Key Entry} (h : progress'.entries.Perm progress.entries)
include h

theorem keys_perm : progress'.keys.Perm progress.keys := h.map Prod.fst

theorem fallbackJob_of_perm : fallbackJob progress' = fallbackJob progress := by
  have hinstalling : (installingJobs progress').Perm (installingJobs progress) :=
    (h.filter _).map Prod.fst
  apply Option.ext
  intro key
  rw [fallbackJob_eq_some, fallbackJob_eq_some]
  constructor
  · intro hkey
    rw [hkey] at hinstalling
    exact List.perm_singleton.mp hinstalling.symm
  · intro hkey
    rw [hkey] at hinstalling
    exact List.perm_singleton.mp hinstalling

theorem settled_of_perm (found : Option Key) : settled progress' found =
    settled progress found := by
  rw [settled, settled, fallbackJob_of_perm h]

end Reordered

/-- The event has one outcome on two servers: the same job is updated, if any, with the same
entry, and all entries and logs are the same afterwards. -/
structure SameOutcome (site : Site) (fields : Fields) (logWritten : Bool)
    (s t : Server) : Prop where
  write : telemetryWrite site (some (.obj fields)) s = telemetryWrite site (some (.obj fields)) t
  entry : ∀ key, (telemetry site (some (.obj fields)) logWritten s).1.progress.get? key =
    (telemetry site (some (.obj fields)) logWritten t).1.progress.get? key
  logs : (telemetry site (some (.obj fields)) logWritten s).1.logs =
    (telemetry site (some (.obj fields)) logWritten t).1.logs

section Outcome
variable {site : Site} {fields : Fields} {logWritten : Bool} {s : Server} {d : Dict Key Entry}

theorem stage?_of_perm (h : d.entries.Perm s.progress.entries) (key : Key) :
    ({ s with progress := d } : Server).stage? key = s.stage? key := by
  rw [Server.stage?, Server.stage?, Dict.get?_of_perm h]

theorem telemetryWrite_of_matched (h : d.entries.Perm s.progress.entries)
    (hmatch : matchedJob d (eventOf fields) = matchedJob s.progress (eventOf fields)) :
    telemetryWrite site (some (.obj fields)) { s with progress := d } =
      telemetryWrite site (some (.obj fields)) s := by
  simp only [telemetryWrite, hmatch, stage?_of_perm h]

theorem get?_applyWrite (h : d.entries.Perm s.progress.entries) (write : Option (Key × Entry))
    (key : Key) : (applyWrite d write).get? key = (applyWrite s.progress write).get? key := by
  cases write with
  | none => exact Dict.get?_of_perm h key
  | some write =>
    obtain ⟨key', entry⟩ := write
    rw [applyWrite, applyWrite, Dict.get?_set, Dict.get?_set, Dict.get?_of_perm h]

theorem telemetry_of_no_write (h : telemetryWrite site (some (.obj fields)) s = none) :
    (telemetry site (some (.obj fields)) logWritten s).1 = s := by
  rcases telemetry_cases site (some (.obj fields)) logWritten s with
    ⟨hs, -⟩ | ⟨fields', key, stage, -, -, -, hwrite, -⟩
  · exact hs
  · rw [h] at hwrite
    cases hwrite

/-- Two orders in which the same job is matched. -/
theorem sameOutcome_of_matched (h : d.entries.Perm s.progress.entries)
    (hmatch : matchedJob d (eventOf fields) = matchedJob s.progress (eventOf fields)) :
    SameOutcome site fields logWritten s { s with progress := d } where
  write := (telemetryWrite_of_matched h hmatch).symm
  entry key := by
    rw [telemetry_progress, telemetry_progress, telemetryWrite_of_matched h hmatch]
    exact (get?_applyWrite h _ key).symm
  logs := by
    rcases telemetry_cases site (some (.obj fields)) logWritten s with
      ⟨hs, hnone⟩ | ⟨fields', key, stage, hbody, hkey, hstage, -, hs⟩
    · rw [hs, telemetry_of_no_write ((telemetryWrite_of_matched h hmatch).trans hnone)]
    · cases hbody
      have hd : telemetry site (some (.obj fields)) logWritten { s with progress := d } =
          record site (eventOf fields) key stage logWritten { s with progress := d } := by
        simp only [telemetry, hmatch.trans hkey, stage?_of_perm h, hstage]
      rw [hs, hd]
      cases key with
      | text job => cases logWritten <;> rfl
      | number x => rfl

/-- An event with text fields updates the job it is matched to. -/
theorem telemetryWrite_job {name type result description : Str}
    (he : (eventOf fields).IsText name type result description) {job : Option Key}
    (hmatch : matchedJob s.progress (eventOf fields) = some job) :
    (telemetryWrite site (some (.obj fields)) s).map Prod.fst = job := by
  cases job with
  | none => simp [telemetryWrite, hmatch]
  | some key => simp [telemetryWrite, hmatch, calculatedStage_text he]

end Outcome

/-- On a tracker of texts, an event with text fields has the same outcome for every order of
the entries exactly when the ids in it lead to one job; without an empty id, when at most one
tracked id occurs in it. -/
theorem provisioning_order_free_iff (site : Site) (s : Server) (hkeys : OnlyTexts s)
    (fields : Fields) (logWritten : Bool) (name type result description : Str)
    (he : (eventOf fields).IsText name type result description) :
    ((∀ d : Dict Key Entry, d.entries.Perm s.progress.entries →
      SameOutcome site fields logWritten s { s with progress := d }) ↔
    Undisputed s.progress name description) ∧
    ((∀ key ∈ s.progress.keys, key.truthy = true) →
      (Undisputed s.progress name description ↔ ∀ key ∈ s.progress.keys, ∀ key' ∈ s.progress.keys,
        Occurs name description key → Occurs name description key' → key = key')) := by
  have hmatched : ∀ d : Dict Key Entry, d.entries.Perm s.progress.entries →
      matchedJob d (eventOf fields) =
        some (settled s.progress (d.keys.find? fun key => Occurs name description key)) := by
    intro d hd
    rw [matchedJob_eq_settled he fun key hkey => hkeys key ((keys_perm hd).mem_iff.mp hkey),
      settled_of_perm hd]
  refine ⟨⟨?_, ?_⟩, undisputed_iff⟩
  · intro h
    -- the order in which `key` comes first shows where `key` leads
    have hfirst : ∀ key ∈ s.progress.keys, Occurs name description key →
        (telemetryWrite site (some (.obj fields)) s).map Prod.fst =
            settled s.progress (some key) := by
      intro key hkey hoccurs
      obtain ⟨d, hd, rest, hrest⟩ := Dict.exists_perm_first hkey
      have hfind : d.keys.find? (fun key => Occurs name description key) = some key := by
        rw [hrest]
        exact List.find?_cons_of_pos (decide_eq_true hoccurs)
      rw [(h d hd).write]
      apply telemetryWrite_job he
      rw [hmatched d hd, hfind]
    intro key hkey key' hkey' hoccurs hoccurs'
    rw [← hfirst key hkey hoccurs, hfirst key' hkey' hoccurs']
  · intro h d hd
    apply sameOutcome_of_matched hd
    rw [hmatched d hd, hmatched s.progress (List.Perm.refl _)]
    apply congrArg some
    apply find?_of_perm (keys_perm hd)
    intro key hkey key' hkey' hoccurs hoccurs'
    exact h key hkey key' hkey' (of_decide_eq_true hoccurs) (of_decide_eq_true hoccurs')

/-- Two nodes have downloaded their launchers, in this order. -/
def launched (first second : Str) : Config :=
  run (step exampleSite) Config.empty
    [.get (("/automation/" : Str) ++ first ++ ("/installer-launch.sh" : Str)),
      .get (("/automation/" : Str) ++ second ++ ("/installer-launch.sh" : Str))]

def finished (job : Str) : Fields := report "subiquity/Shutdown/shutdown" "finish" "SUCCESS" job

/-- Ids that do not contain one another can be provisioned in any order. -/
theorem provisioning_order_free_letters :
    SameOutcome exampleSite (finished "node-a") true (launched "node-a" "node-b").toServer
      { (launched "node-a" "node-b").toServer with
        progress := (launched "node-b" "node-a").progress } := by
  have hkeys : (launched "node-a" "node-b").progress.keys =
      [.text "node-a".toList, .text "node-b".toList] := by decide
  have htexts : OnlyTexts (launched "node-a" "node-b").toServer := by
    intro key hkey
    rw [hkeys] at hkey
    rcases List.mem_pair.mp hkey with rfl | rfl
    · exact ⟨_, rfl⟩
    · exact ⟨_, rfl⟩
  obtain ⟨hfree, hundisputed⟩ :=
    provisioning_order_free_iff exampleSite (launched "node-a" "node-b").toServer
    htexts (finished "node-a") true "subiquity/Shutdown/shutdown" "finish" "SUCCESS" "node-a"
    ⟨rfl, rfl, rfl, rfl⟩
  refine hfree.mpr ((hundisputed ?_).mpr ?_) _ (List.Perm.swap _ _ _)
  · rw [hkeys]
    decide
  · rw [hkeys]
    decide

/-- The same two entries in the two orders: the last event of `node-10` completes `node-1` if
that was provisioned first, and `node-10` otherwise. -/
theorem first_provisioned_completed :
    (launched "node-1" "node-10").progress.entries.Perm
      (launched "node-10" "node-1").progress.entries ∧
    (telemetry exampleSite (some (.obj (finished "node-10"))) true
      (launched "node-1" "node-10").toServer).1.stage? (.text "node-1".toList) = some .completed ∧
    (telemetry exampleSite (some (.obj (finished "node-10"))) true
      (launched "node-1" "node-10").toServer).1.stage? (.text "node-10".toList) = some .installing ∧
    (telemetry exampleSite (some (.obj (finished "node-10"))) true
      (launched "node-10" "node-1").toServer).1.stage? (.text "node-1".toList) = some .installing ∧
    (telemetry exampleSite (some (.obj (finished "node-10"))) true
      (launched "node-10" "node-1").toServer).1.stage? (.text "node-10".toList) = some .completed :=
  ⟨List.Perm.swap _ _ _, by decide, by decide, by decide, by decide⟩

end Astro.ProvisioningOrder
