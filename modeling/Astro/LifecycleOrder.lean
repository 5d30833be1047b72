import Astro.LabelledRuns
import Astro.ServerSteps

/-!
# The order of the lifecycle stages

Telemetry looks at the stage before it writes; phone-homes and launcher downloads do
not. In runs without new provisioning of a job, its stage advances exactly as long as
these two handlers are not called for it too late.
-/

namespace Astro.LifecycleOrder

open LabelledRuns TelemetryHandler CustomIsoHandler ServerHandlers ServerSteps

def rank : Stage → Option ℕ
  | .staging | .stagingFailed | .booting => some 0
  | .phonedHome => some 1
  | .installing => some 2
  | .completed | .installFailed => some 3
  | .other _ => none

/-- The rank does not fall, and a terminal stage stays. -/
structure Advances (old new : Stage) : Prop where
  rank_le : ∀ r, rank old = some r → ∃ r', rank new = some r' ∧ r ≤ r'
  terminal : old.Terminal → new = old

theorem Advances.refl (stage : Stage) : Advances stage stage :=
  ⟨fun r h => ⟨r, h, le_rfl⟩, fun _ => rfl⟩

theorem Advances.trans {first second third : Stage} (h : Advances first second)
    (h' : Advances second third) : Advances first third := by
  constructor
  · intro r hr
    obtain ⟨r', hr', hle⟩ := h.rank_le r hr
    obtain ⟨r'', hr'', hle'⟩ := h'.rank_le r' hr'
    exact ⟨r'', hr'', hle.trans hle'⟩
  · intro hterm
    have hsecond := h.terminal hterm
    exact (h'.terminal (hsecond ▸ hterm)).trans hsecond

theorem advances_to_phonedHome {stage : Stage} :
    Advances stage .phonedHome ↔ stage ≠ .installing ∧ ¬ stage.Terminal := by
  constructor
  · intro h
    refine ⟨?_, fun hterm => ?_⟩
    · rintro rfl
      obtain ⟨r', hr', hle⟩ := h.rank_le 2 rfl
      cases hr'
      exact absurd hle (by decide)
    · rcases hterm with rfl | rfl <;> exact absurd (h.terminal (by decide)) (by decide)
  · rintro ⟨hinst, hterm⟩
    refine ⟨?_, fun h => absurd h hterm⟩
    intro r hr
    refine ⟨1, rfl, ?_⟩
    cases stage <;> simp_all [rank, Stage.Terminal] <;> omega

theorem advances_to_installing {stage : Stage} : Advances stage .installing ↔ ¬ stage.Terminal := by
  constructor
  · rintro h (rfl | rfl) <;> exact absurd (h.terminal (by decide)) (by decide)
  · intro hterm
    refine ⟨?_, fun h => absurd h hterm⟩
    intro r hr
    refine ⟨2, rfl, ?_⟩
    cases stage <;> simp_all [rank, Stage.Terminal] <;> omega

theorem advances_to_terminal {stage last : Stage} (hstage : ¬ stage.Terminal)
    (hlast : last.Terminal) :
    Advances stage last := by
  have htop : rank last = some 3 := by rcases hlast with rfl | rfl <;> rfl
  refine ⟨?_, fun h => absurd h hstage⟩
  intro r hr
  refine ⟨3, htop, ?_⟩
  cases stage <;> simp_all [rank] <;> omega

theorem calculatedStage_advances {current next : Stage} {e : Event}
    (h : calculatedStage current e = some next) : Advances current next := by
  rcases calculatedStage_spec h with ⟨-, rfl⟩ | ⟨hterm, rfl | hnext⟩
  · exact Advances.refl next
  · exact advances_to_installing.mpr hterm
  · exact advances_to_terminal hterm hnext

section Runs
variable (site : Site) (job : Str)

def Advanced (c c' : Config) : Prop :=
  ∀ stage, c.stage? (.text job) = some stage →
    ∃ stage', c'.stage? (.text job) = some stage' ∧ Advances stage stage'

/-- A label that is no hook, custom-iso request or provisioning request for the job. -/
def NotProvisioning : Label → Prop
  | .progress body => ∀ entry, hookWrite site body ≠ some (.text job, entry)
  | .isoBegin _ host body => ∀ data, accept site host body = .ok data → jobId data ≠ job
  | .provisionBegin _ body => provisionJob site body ≠ some job
  | _ => True

/-- Phone-homes of the job come before it is `INSTALLING`, and launcher downloads before it
has ended. -/
def InTime (c : Config) : Label → Prop
  | .phoneHome body _ => ∀ stage, c.stage? (.text job) = some stage →
      PhonesHome site body c.toServer job → stage ≠ .installing ∧ ¬ stage.Terminal
  | .get path => ∀ stage, c.stage? (.text job) = some stage →
      ¬ IsStatusPath path ∧ launcherJob path = some job → ¬ stage.Terminal
  | _ => True

variable {site job}

theorem Advanced.refl (c : Config) : Advanced job c c :=
  fun stage h => ⟨stage, h, Advances.refl stage⟩

theorem Advanced.trans {c c' c'' : Config} (h : Advanced job c c') (h' : Advanced job c' c'') :
    Advanced job c c'' := by
  intro stage hstage
  obtain ⟨stage', hstage', hadv⟩ := h stage hstage
  obtain ⟨stage'', hstage'', hadv'⟩ := h' stage' hstage'
  exact ⟨stage'', hstage'', hadv.trans hadv'⟩

/-- The job advances in a step exactly when the entry stored for it is an advance. -/
theorem advanced_step_iff (c : Config) (a : Label) :
    Advanced job c (step site c a) ↔ ∀ stage, c.stage? (.text job) = some stage →
      ∀ entry, written site c a = some (.text job, entry) → Advances stage entry.stage := by
  refine forall₂_congr fun stage hstage => ?_
  rw [step_stage?]
  cases written site c a with
  | none => simpa using ⟨stage, hstage, Advances.refl stage⟩
  | some write =>
    obtain ⟨key, entry⟩ := write
    by_cases hkey : Key.text job = key
    · subst hkey
      simp
    · simpa [hkey, Ne.symm hkey] using ⟨stage, hstage, Advances.refl stage⟩

/-- One step, label by label: only a late phone-home or download goes backwards. -/
theorem advanced_step_iff_inTime (c : Config) (a : Label) (ha : NotProvisioning site job a) :
    Advanced job c (step site c a) ↔ InTime site job c a := by
  rw [advanced_step_iff]
  cases a with
  | progress body =>
    exact iff_of_true (fun _ _ entry hentry => absurd hentry (ha entry)) trivial
  | telemetry body logWritten =>
    refine iff_of_true ?_ trivial
    intro stage hstage entry hentry
    rcases telemetry_cases site body logWritten c.toServer with
      ⟨-, hw⟩ | ⟨fields, key, stage', -, -, hcalc, hw, -⟩
    · exact absurd (hw.symm.trans hentry) (Option.some_ne_none _).symm
    · obtain ⟨rfl, rfl⟩ := Prod.mk.inj (Option.some.inj (hw.symm.trans hentry))
      rw [hstage] at hcalc
      exact calculatedStage_advances hcalc
  | phoneHome body seeds =>
    refine forall₂_congr fun stage _ => ?_
    rw [phonesHome_iff]
    constructor
    · rintro h ⟨entry, hentry⟩
      have hadv := h entry hentry
      rw [(phoneHomeWrite_spec hentry).2.1] at hadv
      exact advances_to_phonedHome.mp hadv
    · intro h entry hentry
      rw [(phoneHomeWrite_spec hentry).2.1]
      exact advances_to_phonedHome.mpr (h ⟨entry, hentry⟩)
  | get path =>
    refine forall₂_congr fun stage hstage => ?_
    constructor
    · rintro h ⟨hpath, hjob⟩
      have hwrite : getWrite c.runners path c.toServer = some (.text job, launcherEntry) := by
        simp [getWrite, hpath, hjob]
      exact advances_to_installing.mp (h launcherEntry hwrite)
    · intro h entry hentry
      rcases getWrite_spec hentry with ⟨-, hstatus⟩ | ⟨hpath, job', hjob, hkey, rfl⟩
      · obtain ⟨hkey, hstaging, hfailed, -⟩ := statusWrite_spec hstatus
        rw [← hkey, hstage] at hstaging
        cases hstaging
        rw [hfailed]
        exact ⟨fun r hr => ⟨r, hr, le_rfl⟩, fun hterm => absurd hterm (by decide)⟩
      · cases hkey
        exact advances_to_installing.mpr (h ⟨hpath, hjob⟩)
  | isoBegin n host body =>
    refine iff_of_true ?_ trivial
    intro _ _ entry hentry
    obtain ⟨data, hdata, hwrite⟩ := Option.map_eq_some_iff.mp hentry
    cases hwrite
    exact absurd rfl (ha data (begunIso_eq_some.mp hdata).2)
  | provisionBegin n body =>
    refine iff_of_true ?_ trivial
    intro _ _ entry hentry
    obtain ⟨job', hjob, hwrite⟩ := Option.map_eq_some_iff.mp hentry
    cases hwrite
    exact absurd (begunProvision_eq_some.mp hjob).2 ha
  | _ => exact iff_of_true (fun _ _ _ hentry => nomatch hentry) trivial

end Runs

/-- In a run without provisioning of the job, its stage never falls behind an earlier one and
never leaves a terminal one exactly when its phone-homes and launcher downloads come in time. -/
theorem lifecycle_advances_iff (site : Site) (job : Str) (c : Config) (labels : List Label)
    (hlabels : ∀ a ∈ labels, NotProvisioning site job a) :
    (∀ p q, p ++ q <+: labels →
      Advanced job (run (step site) c p) (run (step site) c (p ++ q))) ↔
    Guarded (step site) (InTime site job) c labels := by
  rw [← along_iff_later Advanced.refl (fun _ _ _ => Advanced.trans)]
  exact along_iff_guarded advanced_step_iff_inTime hlabels

def installation : List Label :=
  [.get "/automation/node-a/installer-launch.sh".toList,
    .telemetry
      (some (.obj (report "subiquity/Shutdown/shutdown" "finish" "SUCCESS" "node-a"))) true]

theorem installation_advances :
    Advanced "node-a" (run (step exampleSite) Config.empty (installation.take 1))
      (run (step exampleSite) Config.empty installation) := by
  have hlabels : ∀ a ∈ installation, NotProvisioning exampleSite "node-a" a := by
    simp [installation, NotProvisioning]
  have htime : Guarded (step exampleSite)
      (InTime exampleSite "node-a") Config.empty installation := by
    refine ⟨?_, trivial, trivial⟩
    intro stage hstage
    exact absurd hstage (Option.some_ne_none stage).symm
  exact (lifecycle_advances_iff exampleSite "node-a" Config.empty installation hlabels).mpr htime
    (installation.take 1) (installation.drop 1) (List.prefix_refl _)

/-- One more download of the launcher, for instance after a reboot from the wrong medium,
takes the completed job back to `INSTALLING`. -/
theorem download_after_completion :
    (∀ a ∈ installation ++ [.get "/automation/node-a/installer-launch.sh".toList],
      NotProvisioning exampleSite "node-a" a) ∧
    (run (step exampleSite) Config.empty installation).stage? (.text "node-a".toList) =
      some .completed ∧
    (run (step exampleSite) Config.empty
        (installation ++ [.get "/automation/node-a/installer-launch.sh".toList])).stage?
      (.text "node-a".toList) = some .installing := by
  refine ⟨?_, by decide, by decide⟩
  simp [installation, NotProvisioning]

end Astro.LifecycleOrder
