import Astro.LabelledRuns
import Astro.ServerSteps

/-!
# What a BOOTING entry of the custom-iso handler says

The entry says that the ISO has been compiled, but it is stored before the job file is
saved and before the script is started, and it is not taken back when the build fails.
-/

namespace Astro.BootingTruth

open JobPaths IpxePipeline LabelledRuns TelemetryHandler CustomIsoHandler ServerHandlers ServerSteps

/-- The script has exited with status 0. -/
def Succeeded (phase : IsoPhase) : Prop := phase = .building [] ∨ phase = .answered 200

/-- The script that was started for the latest job file has exited with status 0, and the ISO
of the job exists. -/
structure Built (c : Config) (job : Str) : Prop where
  finished : ∃ n flight, c.savedBy (jobJson job) = some n ∧ c.isos n = some flight ∧
    Succeeded flight.phase
  iso : (c.files (isoPath job)).isSome

def Announced (c : Config) (job : Str) : Prop :=
  ∃ entry, c.progress.get? (.text job) = some entry ∧ entry.stage = .booting ∧
    entry.writer = .customIso

def Truthful (c : Config) : Prop := ∀ job, Announced c job → Built c job

/-- A request is accepted only for a job that is built already, and a job file is rewritten
only while no job with that file is announced. -/
def AnnouncesBuilt (site : Site) (c : Config) : Label → Prop
  | .isoBegin n host body => ∀ data, begunIso site c n host body = some data → Built c (jobId data)
  | .isoSave n outcome => ∀ data, c.isos n = some ⟨data, .accepted⟩ → outcome ≠ .notOpened →
      ∀ job, Announced c job → jobJson job ≠ jobJson (jobId data)
  | _ => True

section Step
variable {site : Site} {c : Config}

theorem succeeded_step (site : Site) (a : Label) {n : ℕ} {flight : IsoFlight}
    (h : c.isos n = some flight) (hdone : Succeeded flight.phase) :
    ∃ flight', (step site c a).isos n = some flight' ∧ Succeeded flight'.phase := by
  have hstep := step_isos site c a
  -- a request that is still at work is another one
  have hother : ∀ {n' data phase}, c.isos n' = some ⟨data, phase⟩ → ¬ Succeeded phase → n ≠ n' := by
    rintro n' data phase hflight hphase rfl
    cases h.symm.trans hflight
    exact hphase hdone
  generalize step site c a = c' at hstep ⊢
  rcases hstep with hiso | hkept
  · cases hiso with
    | @begun n' host body data hbegun =>
      have hn : n ≠ n' := by
        rintro rfl
        exact absurd ((begunIso_eq_some.mp hbegun).1.symm.trans h) (Option.some_ne_none _).symm
      exact ⟨flight, (Function.update_of_ne hn _ _).trans h, hdone⟩
    | @saved n' outcome data hflight =>
      have hn := hother hflight (by rintro (hphase | hphase) <;> cases hphase)
      exact ⟨flight, (Function.update_of_ne hn _ _).trans h, hdone⟩
    | @performed n' outcome data cmd rest hflight =>
      have hn := hother hflight (by rintro (hphase | hphase) <;> cases hphase)
      exact ⟨flight, (Function.update_of_ne hn _ _).trans h, hdone⟩
    | @answered n' flight' status hflight hstatus =>
      by_cases hn : n = n'
      · subst hn
        cases h.symm.trans hflight
        refine ⟨_, Function.update_self .., ?_⟩
        rcases hdone with hdone | hdone <;> rw [hdone] at hstatus
        · exact Or.inr (congrArg IsoPhase.answered (Option.some.inj hstatus).symm)
        · cases hstatus
      · exact ⟨flight, (Function.update_of_ne hn _ _).trans h, hdone⟩
  · exact ⟨flight, (congrFun hkept.isos n).trans h, hdone⟩

theorem savedBy_step (site : Site) (c : Config) (a : Label) (path : Path) :
    (step site c a).savedBy path = c.savedBy path ∨
    ∃ n outcome data, a = .isoSave n outcome ∧ c.isos n = some ⟨data, .accepted⟩ ∧
      outcome ≠ .notOpened ∧ path = jobJson (jobId data) := by
  have hstep := step_isos site c a
  generalize step site c a = c' at hstep ⊢
  rcases hstep with hiso | hkept
  · cases hiso with
    | @saved n outcome data hflight =>
      by_cases hout : outcome = .notOpened
      · exact Or.inl (congrFun (if_pos hout) path)
      · rw [if_neg hout]
        by_cases hpath : path = jobJson (jobId data)
        · exact Or.inr ⟨n, outcome, data, rfl, hflight, hout, hpath⟩
        · exact Or.inl (Function.update_of_ne hpath _ _)
    | _ => exact Or.inl rfl
  · exact Or.inl (congrFun hkept.savedBy path)

theorem isoSave_writer (site : Site) {n : ℕ} {outcome : SaveOutcome} {data : JobData}
    (hflight : c.isos n = some ⟨data, .accepted⟩) (hout : outcome ≠ .notOpened) :
    (step site c (.isoSave n outcome)).savedBy (jobJson (jobId data)) = some n ∧
    ∃ flight, (step site c (.isoSave n outcome)).isos n = some flight ∧
      ¬ Succeeded flight.phase := by
  simp only [step, isoSave, hflight, if_neg hout, Function.update_self]
  refine ⟨trivial, _, rfl, ?_⟩
  cases outcome <;> rintro (h | h) <;> cases h

private theorem update_isSome {files : Files} {path : Path} (h : (files path).isSome) (path' : Path)
    (f : File) : (Function.update files path' (some f) path).isSome := by
  by_cases hpath : path = path'
  · rw [hpath, Function.update_self]
    rfl
  · rwa [Function.update_of_ne hpath]

private theorem writeSeeds_isSome {files : Files} {path : Path}
    (h : (files path).isSome) (job : Str) (seeds : List (SeedFile × Str)) :
    (writeSeeds job seeds files path).isSome := by
  induction seeds generalizing files with
  | nil => exact h
  | cons seed seeds ih => exact ih (update_isSome h _ _)

/-- No step deletes a file. -/
theorem files_step (a : Label) {path : Path} (h : (c.files path).isSome) :
    ((step site c a).files path).isSome := by
  have hstep := step_isos site c a
  generalize step site c a = c' at hstep ⊢
  rcases hstep with hiso | hkept
  · cases hiso with
    | @saved n outcome data hflight =>
      cases outcome with
      | notOpened => exact h
      | _ => exact update_isSome h _ _
    | @performed n outcome data cmd rest hflight =>
      rcases perform_cases site (jobId data) cmd outcome c.files
        with hsame | ⟨path', f, -, hupdate⟩
      · dsimp only
        rwa [hsame]
      · dsimp only
        rw [hupdate]
        exact update_isSome h _ _
    | _ => exact h
  · rcases hkept.files with hsame | ⟨job, seeds, hseeds⟩
    · rwa [hsame]
    · rw [hseeds]
      exact writeSeeds_isSome h job seeds

theorem built_step {job : Str} (h : Built c job) (a : Label)
    (hsave : (step site c a).savedBy (jobJson job) = c.savedBy (jobJson job)) :
    Built (step site c a) job := by
  obtain ⟨n, flight, hsaved, hflight, hdone⟩ := h.finished
  obtain ⟨flight', hflight', hdone'⟩ := succeeded_step site a hflight hdone
  exact ⟨⟨n, flight', hsave.trans hsaved, hflight', hdone'⟩, files_step a h.iso⟩

theorem hookWrite_writer {body : Option Json} {key : Key} {entry : Entry}
    (h : hookWrite site body = some (key, entry)) : entry.writer = .progressHook := by
  unfold hookWrite at h
  split at h
  · unfold hookEntry at h
    dsimp only at h
    split_ifs at h
    obtain ⟨key', -, hwrite⟩ := Option.map_eq_some_iff.mp h
    cases hwrite
    rfl
  · cases h

theorem written_customIso {a : Label} {key : Key} {entry : Entry}
    (h : written site c a = some (key, entry)) (hwriter : entry.writer = .customIso) :
    ∃ n host body data, a = .isoBegin n host body ∧ begunIso site c n host body = some data ∧
      key = .text (jobId data) := by
  cases a with
  | isoBegin n host body =>
    obtain ⟨data, hdata, hwrite⟩ := Option.map_eq_some_iff.mp h
    cases hwrite
    exact ⟨n, host, body, data, rfl, hdata, rfl⟩
  | progress body =>
    rw [hookWrite_writer h] at hwriter
    cases hwriter
  | telemetry body logWritten =>
    rcases telemetry_cases site body logWritten c.toServer with
      ⟨-, hw⟩ | ⟨fields, key', stage, -, -, -, hw, -⟩
    · exact absurd (hw.symm.trans h) (Option.some_ne_none _).symm
    · cases hw.symm.trans h
      cases hwriter
  | phoneHome body seeds =>
    rw [(phoneHomeWrite_spec h).2.2] at hwriter
    cases hwriter
  | get path =>
    rcases getWrite_spec h with ⟨-, hstatus⟩ | ⟨-, job, -, -, rfl⟩
    · rw [(statusWrite_spec hstatus).2.2.2.1] at hwriter
      cases hwriter
    · cases hwriter
  | provisionBegin n body =>
    obtain ⟨job, -, hwrite⟩ := Option.map_eq_some_iff.mp h
    cases hwrite
    cases hwriter
  | _ => cases h

theorem announced_step {a : Label} {job : Str} (h : Announced (step site c a) job) :
    Announced c job ∨ ∃ n host body data, a = .isoBegin n host body ∧
      begunIso site c n host body = some data ∧ jobId data = job := by
  obtain ⟨entry, hentry, hstage, hwriter⟩ := h
  rw [step_get?] at hentry
  cases hw : written site c a with
  | none =>
    rw [hw] at hentry
    exact Or.inl ⟨entry, hentry, hstage, hwriter⟩
  | some write =>
    obtain ⟨key, entry'⟩ := write
    rw [hw] at hentry
    dsimp only at hentry
    split_ifs at hentry with hkey
    · cases hentry
      obtain ⟨n, host, body, data, ha, hbegun, hkey'⟩ := written_customIso hw hwriter
      exact Or.inr ⟨n, host, body, data, ha, hbegun, (Key.text.inj (hkey.trans hkey')).symm⟩
    · exact Or.inl ⟨entry, hentry, hstage, hwriter⟩

theorem built_before_begin {n : ℕ} {host : Str} {body : Option Json} {data : JobData} {job : Str}
    (hbegun : begunIso site c n host body = some data)
    (h : Built (step site c (.isoBegin n host body)) job) : Built c job := by
  obtain ⟨⟨n', flight, hsaved, hflight, hdone⟩, hiso⟩ := h
  simp only [step, isoBegin, hbegun] at hsaved hflight hiso
  refine ⟨⟨n', flight, hsaved, ?_, hdone⟩, hiso⟩
  by_cases hn : n' = n
  · rw [hn, Function.update_self] at hflight
    cases hflight
    rcases hdone with hdone | hdone <;> cases hdone
  · rwa [Function.update_of_ne hn] at hflight

theorem truthful_step_iff (htruth : Truthful c) (a : Label) :
    Truthful (step site c a) ↔ AnnouncesBuilt site c a := by
  constructor
  · intro h
    cases a with
    | isoBegin n host body =>
      intro data hdata
      refine built_before_begin hdata (h (jobId data) ⟨bootingEntry, ?_, rfl, rfl⟩)
      simp [step_get?, written, hdata]
    | isoSave n outcome =>
      intro data hflight hout job hjob hpath
      have hjob' : Announced (step site c (.isoSave n outcome)) job := by
        simpa [Announced, step_get?, written] using hjob
      obtain ⟨n', flight', hsaved', hflight', hdone⟩ := (h job hjob').finished
      obtain ⟨hsaved, flight, hflight, hnot⟩ := isoSave_writer site hflight hout
      rw [hpath, hsaved] at hsaved'
      cases hsaved'
      cases hflight.symm.trans hflight'
      exact hnot hdone
    | _ => trivial
  · intro hguard job hjob
    rcases announced_step hjob with hold | ⟨n, host, body, data, rfl, hbegun, rfl⟩
    · refine built_step (htruth job hold) a ?_
      rcases savedBy_step site c a (jobJson job) with
        hsame | ⟨n, outcome, data, rfl, hflight, hout, hpath⟩
      · exact hsame
      · exact absurd hpath (hguard data hflight hout job hold)
    · refine built_step (hguard data hbegun) _ ?_
      simp [step, isoBegin, hbegun]

end Step

/-- From a truthful state on, such as that of a new server, every `BOOTING` entry of the
custom-iso handler tells the truth exactly as long as jobs are announced, and job files
rewritten, as `AnnouncesBuilt` demands. -/
theorem booting_truthful_iff (site : Site) (c : Config) (htruth : Truthful c)
    (labels : List Label) :
    Throughout (step site) Truthful c labels ↔ Guarded (step site) (AnnouncesBuilt site) c labels :=
  throughout_iff_guarded (J := fun _ => True) (fun _ _ _ => trivial)
    (fun _ a _ ht => truthful_step_iff ht a) trivial htruth

def nodeABuilt : Config :=
  run (step exampleSite) Config.empty
    (uninterrupted 0 ⟨"10.0.0.1", bodyA, .saved, fun _ => .done⟩)

theorem nodeABuilt_built : Built nodeABuilt (jobId nodeA) :=
  ⟨⟨0, ⟨nodeA, .answered 200⟩, by decide, rfl, Or.inr rfl⟩, by decide⟩

theorem nodeABuilt_truthful : Truthful nodeABuilt := by
  rintro job ⟨entry, hentry, -⟩
  have hmem : Key.text job ∈ nodeABuilt.progress.keys := Dict.mem_keys_iff.mpr ⟨entry, hentry⟩
  have hkeys : nodeABuilt.progress.keys = [.text (jobId nodeA)] := by decide
  rw [hkeys, List.mem_singleton] at hmem
  rw [Key.text.inj hmem]
  exact nodeABuilt_built

theorem announce_again_truthful :
    Throughout (step exampleSite) Truthful nodeABuilt [.isoBegin 1 "10.0.0.1".toList bodyA] := by
  refine (booting_truthful_iff exampleSite nodeABuilt nodeABuilt_truthful _).mpr ⟨?_, trivial⟩
  intro data hdata
  cases accept_bodyA.symm.trans (begunIso_eq_some.mp hdata).2
  exact nodeABuilt_built

/-- After the acceptance of the first request the entry says that the ISO is complete; no
job file has been saved, no script been started, and there is no ISO. -/
theorem announced_before_build :
    let c := step exampleSite Config.empty (.isoBegin 0 "10.0.0.1".toList bodyA)
    c.progress.get? (.text (jobId nodeA)) = some bootingEntry ∧
    c.savedBy (jobJson (jobId nodeA)) = none ∧ c.files (isoPath (jobId nodeA)) = none :=
  ⟨rfl, rfl, rfl⟩

end Astro.BootingTruth
