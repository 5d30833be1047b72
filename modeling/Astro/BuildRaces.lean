import Astro.ServerSteps

/-!
# Concurrent builds

All scripts write the same files below the build directory. A request gets an ISO with its
own boot script as long as nobody else replaces a file that its script has yet to read; the
server does nothing to ensure that.
-/

namespace Astro.BuildRaces

open JobPaths IpxePipeline StoreCommands LabelledRuns CustomIsoHandler ServerHandlers ServerSteps

def remaining (site : Site) (data : JobData) (rest : List PipelineCommand) :
    List (Command Path (Option File)) :=
  rest.map (command site (jobId data))

/-- The files a request still depends on: those its remaining commands read before they
write them, and in the end its ISO. -/
def liveFiles (site : Site) (data : JobData) (rest : List PipelineCommand) : Set Path :=
  live {isoPath (jobId data)} (remaining site data rest)

/-- On its live files the request sees what it would see if it had run alone since it saved
its job file. -/
def OnTrack (site : Site) (data : JobData) (rest : List PipelineCommand) (files : Files) : Prop :=
  ∃ past start, pipeline = past ++ rest ∧ start (jobJson (jobId data)) = some (.jobJson data) ∧
    AgreesWithSolo {isoPath (jobId data)} start (remaining site data past)
      (remaining site data rest) files

def NeededByOther (site : Site) (c : Config) (n : ℕ) (path : Path) : Prop :=
  ∃ m data rest, m ≠ n ∧ c.isos m = some ⟨data, .building rest⟩ ∧ path ∈ liveFiles site data rest

/-- A step of a custom-iso request replaces no file that another one needs, and `compose_ipxe`
raises nothing. -/
def KeepsOut (site : Site) (c : Config) : Label → Prop
  | .isoSave n outcome => ∀ data, c.isos n = some ⟨data, .accepted⟩ → outcome ≠ .notOpened →
      ¬ NeededByOther site c n (jobJson (jobId data))
  | .isoCommand n outcome => ∀ data cmd rest, c.isos n = some ⟨data, .building (cmd :: rest)⟩ →
      (cmd = .compose → ∀ fault, outcome ≠ .raises fault) ∧
      ∀ path, target (jobId data) cmd = some path → ¬ NeededByOther site c n path
  | _ => True

section OnTrack
variable {site : Site} {data : JobData} {rest : List PipelineCommand} {files files' : Files}

theorem onTrack_saved (h : files (jobJson (jobId data)) = some (.jobJson data)) :
    OnTrack site data pipeline files :=
  ⟨[], files, rfl, h, AgreesWithSolo.initial _ _ _⟩

theorem OnTrack.own {cmd : PipelineCommand} (h : OnTrack site data (cmd :: rest) files)
    (heffect : (command site (jobId data) cmd).effect files = some files') :
    OnTrack site data rest files' := by
  obtain ⟨past, start, hpast, hstart, hagree⟩ := h
  refine ⟨past ++ [cmd], start, by rw [hpast, List.append_assoc]; rfl, hstart, ?_⟩
  rw [remaining, List.map_append]
  exact hagree.own heffect

theorem OnTrack.update (h : OnTrack site data rest files) {path : Path} (f : Option File)
    (hpath : path ∉ liveFiles site data rest) :
    OnTrack site data rest (Function.update files path f) := by
  obtain ⟨past, start, hpast, hstart, hagree⟩ := h
  refine ⟨past, start, hpast, hstart, hagree.foreign (W := {path}) ?_ ?_⟩
  · intro l hl
    exact Function.update_of_ne hl f files
  · exact Set.subset_compl_singleton_iff.mpr hpath

theorem OnTrack.iso (h : OnTrack site data [] files) :
    files (isoPath (jobId data)) = some (bootableIso (bootScript site data)) := by
  obtain ⟨past, start, hpast, hstart, hagree⟩ := h
  rw [List.append_nil] at hpast
  subst hpast
  obtain ⟨t, ht, heq⟩ := hagree.finished
  obtain ⟨t', ht', hiso⟩ := execAll_pipeline site _ hstart
  cases ht.symm.trans ht'
  exact (heq rfl).trans hiso

private theorem reads_subset (cmd : PipelineCommand) : (command site (jobId data) cmd).reads ⊆
    {jobJson (jobId data), bootIpxe, ipxeEfi, bootX64, efibootImg, isoEfibootImg} := by
  cases cmd <;> simp [command, transform, combine, Command.assign, Command.skip,
    Set.insert_subset_iff]

theorem liveFiles_subset : liveFiles site data rest ⊆ insert (isoPath (jobId data))
    {jobJson (jobId data), bootIpxe, ipxeEfi, bootX64, efibootImg, isoEfibootImg} := by
  refine live_subset (Set.singleton_subset_iff.mpr (Set.mem_insert _ _)) ?_
  intro c hc
  obtain ⟨cmd, -, rfl⟩ := List.mem_map.mp hc
  exact (reads_subset cmd).trans (Set.subset_insert _ _)

theorem jobJson_getLast (job : Str) : (jobJson job).getLast? = some "job.json".toList :=
  jobFile_getLast job (by decide) (by decide)

/-- Apart from the ISO and the job file, a build needs files with six names only. -/
theorem eq_of_mem_liveFiles {path : Path} {name : Str} (hname : path.getLast? = some name)
    (hiso : ¬ (".iso" : Str) <:+ name)
    (hother : ∀ file ∈ [bootIpxe, ipxeEfi, bootX64, efibootImg, isoEfibootImg],
      file.getLast? ≠ some name)
    (h : path ∈ liveFiles site data rest) : path = jobJson (jobId data) := by
  have hne : ∀ file ∈ [bootIpxe, ipxeEfi, bootX64, efibootImg, isoEfibootImg], path ≠ file := by
    rintro file hfile rfl
    exact hother path hfile hname
  simp only [List.forall_mem_cons] at hne
  rcases liveFiles_subset h with hpath | hpath | hpath | hpath | hpath | hpath | hpath
  · obtain ⟨name', hname', hsuffix⟩ := isoPath_getLast (jobId data)
    rw [← hpath, hname, Option.some.injEq] at hname'
    exact absurd (hname' ▸ hsuffix) hiso
  · exact hpath
  · exact absurd hpath hne.1
  · exact absurd hpath hne.2.1
  · exact absurd hpath hne.2.2.1
  · exact absurd hpath hne.2.2.2.1
  · exact absurd hpath hne.2.2.2.2.1

private theorem seed_notMem_liveFiles (job : Str) (seed : SeedFile) :
    jobFile job seed.name ∉ liveFiles site data rest := by
  have hseed : (jobFile job seed.name).getLast? = some seed.name :=
    jobFile_getLast job (by cases seed <;> decide) (by cases seed <;> decide)
  intro hmem
  have heq := eq_of_mem_liveFiles hseed (by cases seed <;> decide) (by cases seed <;> decide) hmem
  rw [heq, jobJson_getLast] at hseed
  cases seed <;> exact absurd hseed (by decide)

/-- Before its composition a request needs nothing but its job file. -/
theorem liveFiles_pipeline : liveFiles site data pipeline ⊆ {jobJson (jobId data)} := by
  intro path h
  simp only [liveFiles, remaining, pipeline, build, List.map_cons, List.map_nil, live,
    command, transform, combine, Command.assign, Command.skip] at h
  simp only [Set.mem_union, Set.mem_sdiff, Set.mem_singleton_iff, Set.mem_insert_iff,
    Set.mem_empty_iff_false] at h ⊢
  -- which files these are does not matter: each is written before it is read
  generalize bootIpxe = boot, ipxeEfi = efi, bootX64 = x64, efibootImg = img,
    isoEfibootImg = isoImg at h
  grind

theorem OnTrack.writeSeeds (h : OnTrack site data rest files) (job : Str)
    (seeds : List (SeedFile × Str)) : OnTrack site data rest (writeSeeds job seeds files) := by
  induction seeds generalizing files with
  | nil => exact h
  | cons seed seeds ih => exact ih (h.update _ (seed_notMem_liveFiles job seed.1))

end OnTrack

def AllOnTrack (site : Site) (c : Config) : Prop :=
  ∀ n data rest, c.isos n = some ⟨data, .building rest⟩ → OnTrack site data rest c.files

section Step
variable {site : Site} {c : Config}

/-- A command that exits with status 0, and is no composition that raised, has had its effect. -/
theorem perform_succeeds {job : Str} {cmd : PipelineCommand} {outcome : Outcome} {files : Files}
    (hfault : cmd = .compose → ∀ fault, outcome ≠ .raises fault)
    (h : (perform site job cmd outcome files).2 = true) :
    (command site job cmd).effect files = some (perform site job cmd outcome files).1 := by
  unfold perform at h ⊢
  split at h
  · cases h
  · exact absurd rfl (hfault rfl _)
  · split at h
    · rename_i heffect
      simp only [heffect]
    · cases h

theorem AllOnTrack.others (h : AllOnTrack site c) {n m : ℕ} (hm : m ≠ n) {data : JobData}
    {rest : List PipelineCommand} (hflight : c.isos m = some ⟨data, .building rest⟩) {path : Path}
    (hpath : ¬ NeededByOther site c n path) (f : Option File) :
    OnTrack site data rest (Function.update c.files path f) := by
  refine (h m data rest hflight).update f ?_
  intro hlive
  exact hpath ⟨m, data, rest, hm, hflight, hlive⟩

theorem allOnTrack_step (h : AllOnTrack site c) {a : Label} (hguard : KeepsOut site c a) :
    AllOnTrack site (step site c a) := by
  have hstep := step_isos site c a
  generalize step site c a = c' at hstep ⊢
  rcases hstep with hiso | hkept
  · cases hiso with
    | @begun n host body data hbegun =>
      intro m data' rest hflight'
      rcases update_isos hflight' with ⟨-, hnew⟩ | ⟨-, hold⟩
      · cases hnew
      · exact h m data' rest hold
    | @saved n outcome data hflight =>
      intro m data' rest hflight'
      rcases update_isos hflight' with ⟨-, hnew⟩ | ⟨hm, hold⟩
      · cases outcome with
        | saved =>
          cases hnew
          exact onTrack_saved (Function.update_self ..)
        | _ => cases hnew
      · cases outcome with
        | notOpened => exact h m data' rest hold
        | _ => exact h.others hm hold (hguard data hflight (by decide)) _
    | @performed n outcome data cmd rest hflight =>
      obtain ⟨hfault, hneeded⟩ := hguard data cmd rest hflight
      intro m data' rest' hflight'
      rcases update_isos hflight' with ⟨-, hnew⟩ | ⟨hm, hold⟩
      · split_ifs at hnew with hok
        · cases hnew
          exact (h n data _ hflight).own (perform_succeeds hfault hok)
        · cases hnew
      · rcases perform_cases site (jobId data) cmd outcome c.files
          with hsame | ⟨path, f, htarget, hupdate⟩
        · dsimp only
          rw [hsame]
          exact h m data' rest' hold
        · dsimp only
          rw [hupdate]
          exact h.others hm hold (hneeded path htarget) _
    | @answered n flight status hflight hstatus =>
      intro m data' rest hflight'
      rcases update_isos hflight' with ⟨-, hnew⟩ | ⟨-, hold⟩
      · cases hnew
      · exact h m data' rest hold
  · intro m data rest hflight
    rw [hkept.isos] at hflight
    rcases hkept.files with hsame | ⟨job, seeds, hseeds⟩
    · rw [hsame]
      exact h m data rest hflight
    · rw [hseeds]
      exact (h m data rest hflight).writeSeeds job seeds

end Step

/-- A command of a script is run while every other request that has saved its job file still waits
for its own script, no request saves a job file that another one has, and `compose_ipxe` raises
nothing. -/
def InTurn (c : Config) : Label → Prop
  | .isoSave n _ => ∀ data, c.isos n = some ⟨data, .accepted⟩ →
      ∀ m ≠ n, ∀ data' rest, c.isos m = some ⟨data', .building rest⟩ →
        jobJson (jobId data) ≠ jobJson (jobId data')
  | .isoCommand n outcome => (∀ fault, outcome ≠ .raises fault) ∧
      ∀ m ≠ n, ∀ data rest, c.isos m = some ⟨data, .building rest⟩ → rest = pipeline
  | _ => True

section InTurn
variable {site : Site} {c : Config}

theorem target_ne_jobJson {job job' : Str} {cmd : PipelineCommand} {path : Path}
    (h : target job cmd = some path) :
    path ≠ jobJson job' := by
  intro heq
  have hlast := jobJson_getLast job'
  rw [← heq] at hlast
  cases cmd with
  | xorriso =>
    obtain rfl := Option.some.inj h
    obtain ⟨name, hname, hsuffix⟩ := isoPath_getLast job
    rw [hname, Option.some.injEq] at hlast
    exact absurd (hlast ▸ hsuffix) (by decide)
  | _ =>
    cases h <;> exact absurd hlast (by decide)

theorem InTurn.keepsOut {a : Label} (h : InTurn c a) : KeepsOut site c a := by
  cases a with
  | isoSave n outcome =>
    rintro data hflight - ⟨m, data', rest, hm, hflight', hlive⟩
    refine h data hflight m hm data' rest hflight' ?_
    exact eq_of_mem_liveFiles (jobJson_getLast _) (by decide) (by decide) hlive
  | isoCommand n outcome =>
    intro data cmd rest hflight
    refine ⟨fun _ => h.1, ?_⟩
    rintro path hpath ⟨m, data', rest', hm, hflight', hlive⟩
    obtain rfl := h.2 m hm data' rest' hflight'
    exact target_ne_jobJson hpath (liveFiles_pipeline hlive)
  | _ => trivial

/-- A lock around the script alone would keep the requests of different jobs out of each other's
files. -/
theorem inTurn_keepsOut {labels : List Label} (h : Guarded (step site) InTurn c labels) :
    Guarded (step site) (KeepsOut site) c labels :=
  @Guarded.imp _ _ _ _ _ (fun _ => True) (fun _ _ _ _ => trivial)
    (fun _ _ _ ha => ha.keepsOut) _ _ h trivial

theorem isos_isoCommand (n : ℕ) (outcome : Outcome) {m : ℕ} (hm : m ≠ n) :
    (step site c (.isoCommand n outcome)).isos m = c.isos m := by
  have hstep := step_isos site c (.isoCommand n outcome)
  generalize step site c (.isoCommand n outcome) = c' at hstep ⊢
  rcases hstep with hiso | hkept
  · cases hiso
    exact Function.update_of_ne hm _ _
  · rw [hkept.isos]

theorem isos_commands (n : ℕ) (outcomes : PipelineCommand → Outcome)
    (cmds : List PipelineCommand) {m : ℕ} (hm : m ≠ n) :
    (run (step site) c (cmds.map fun cmd => .isoCommand n (outcomes cmd))).isos m = c.isos m := by
  induction cmds generalizing c with
  | nil => rfl
  | cons cmd cmds ih => exact ih.trans (isos_isoCommand n _ hm)

theorem inTurn_commands {n : ℕ} {outcomes : PipelineCommand → Outcome}
    (h : ∀ cmd fault, outcomes cmd ≠ .raises fault) (cmds : List PipelineCommand)
    (hwait : ∀ m ≠ n, ∀ data rest, c.isos m = some ⟨data, .building rest⟩ → rest = pipeline) :
    Guarded (step site) InTurn c (cmds.map fun cmd => .isoCommand n (outcomes cmd)) := by
  induction cmds generalizing c with
  | nil => trivial
  | cons cmd cmds ih =>
    refine ⟨⟨h cmd, hwait⟩, ih fun m hm data rest hflight => ?_⟩
    rw [isos_isoCommand n _ hm] at hflight
    exact hwait m hm data rest hflight

end InTurn

/-- In a run in which no step of a custom-iso request replaces a file that another one needs,
and `compose_ipxe` raises nothing, every request that is answered 200 has an ISO that embeds
the boot script of its own job file. -/
theorem answered_iso_is_own (site : Site) (logs : Path → Str) (files : Files) (labels : List Label)
    (hguard : Guarded (step site) (KeepsOut site) (Config.started logs files) labels)
    (p : List Label) (n : ℕ) (hp : p ++ [.isoAnswer n] <+: labels) (flight : IsoFlight)
    (hflight : (run (step site) (Config.started logs files) p).isos n = some flight)
    (hanswer : flight.phase.status = some 200) :
    (run (step site) (Config.started logs files) p).files (isoPath (jobId flight.data)) =
      some (bootableIso (bootScript site flight.data)) := by
  obtain ⟨hbefore, -⟩ := hguard.cut hp
  have hstart : AllOnTrack site (Config.started logs files) := by
    intro m data rest h
    cases h
  have htrack := hbefore.invariant (fun c a hc ha => allOnTrack_step hc ha) hstart
  have hphase : flight.phase = .building [] := by
    generalize flight.phase = phase at hanswer
    unfold IsoPhase.status at hanswer
    split at hanswer
    · rfl
    · cases hanswer
    · cases hanswer
  obtain ⟨data, phase⟩ := flight
  cases hphase
  exact (htrack n data [] hflight).iso

/-- Both nodes are accepted, and node A is saved. -/
def savedA : List Label :=
  [.isoBegin 1 "10.0.0.1".toList bodyB, .isoBegin 0 "10.0.0.1".toList bodyA, .isoSave 0 .saved]

def commandsA (cmds : List PipelineCommand) : List Label := cmds.map fun _ => .isoCommand 0 .done

/-- Node B is saved between two commands of node A, and then waits. -/
def savedBetween : List Label :=
  savedA ++ (commandsA (pipeline.take 4) ++ .isoSave 1 .saved :: commandsA (pipeline.drop 4))

theorem isos_savedA : (run (step exampleSite) Config.empty savedA).isos =
    Function.update (Function.update (Function.update (fun _ => none) 1 (some ⟨nodeB, .accepted⟩)) 0
      (some ⟨nodeA, .accepted⟩)) 0 (some ⟨nodeA, .building pipeline⟩) := rfl

theorem inTurn_savedBetween :
    Guarded (step exampleSite) InTurn Config.empty (savedBetween ++ [.isoAnswer 0]) := by
  have hdone : ∀ (_ : PipelineCommand) fault, Outcome.done ≠ .raises fault :=
    fun _ _ => Outcome.noConfusion
  -- until node B is saved, no other request is building
  have hothers : ∀ m ≠ 0, ∀ data rest,
      (run (step exampleSite) Config.empty savedA).isos m ≠ some ⟨data, .building rest⟩ := by
    intro m hm data rest
    rw [isos_savedA, Function.update_of_ne hm, Function.update_of_ne hm]
    by_cases hone : m = 1
    · rw [hone, Function.update_self]
      exact fun h => by cases h
    · rw [Function.update_of_ne hone]
      exact Option.some_ne_none _ ∘ Eq.symm
  have hsaved : Guarded (step exampleSite) InTurn Config.empty savedA := by
    refine ⟨trivial, trivial, fun data _ m hm data' rest hflight => ?_, trivial⟩
    refine absurd ?_ (hothers m hm data' rest)
    exact (Function.update_of_ne hm _ _).trans hflight
  have hothers' : ∀ m ≠ 0, ∀ data rest,
      (run (step exampleSite) (run (step exampleSite) Config.empty savedA)
        (commandsA (pipeline.take 4))).isos m ≠
        some ⟨data, .building rest⟩ := by
    intro m hm data rest
    rw [commandsA, isos_commands 0 (fun _ => .done) _ hm]
    exact hothers m hm data rest
  rw [savedBetween, guarded_append, guarded_append, guarded_append, guarded_cons]
  refine ⟨⟨hsaved, ?_, ?_, ?_⟩, trivial, trivial⟩
  · exact inTurn_commands hdone _ fun m hm data rest hflight =>
      absurd hflight (hothers m hm data rest)
  · intro data hflight m hm data' rest hflight'
    by_cases hzero : m = 0
    · subst hzero
      obtain ⟨rfl, -⟩ := IsoFlight.mk.inj (Option.some.inj hflight)
      obtain ⟨rfl, -⟩ := IsoFlight.mk.inj (Option.some.inj hflight')
      decide
    · exact absurd hflight' (hothers' m hzero data' rest)
  · refine inTurn_commands hdone _ fun m hm data rest hflight => ?_
    by_cases hone : m = 1
    · subst hone
      obtain ⟨-, hphase⟩ := IsoFlight.mk.inj (Option.some.inj hflight)
      exact (IsoPhase.building.inj hphase).symm
    · exact absurd ((Function.update_of_ne hone _ _).symm.trans hflight) (hothers' m hm data rest)

theorem answered_iso_is_own_interleaved :
    (run (step exampleSite) Config.empty savedBetween).isos 1 = some ⟨nodeB, .building pipeline⟩ ∧
    (run (step exampleSite) Config.empty savedBetween).files (isoPath (jobId nodeA)) =
      some (bootableIso (bootScript exampleSite nodeA)) := by
  have hguard : Guarded (step exampleSite)
      (KeepsOut exampleSite) Config.empty (savedBetween ++ [.isoAnswer 0]) :=
    inTurn_keepsOut inTurn_savedBetween
  have hflight : (run (step exampleSite) Config.empty savedBetween).isos 0 =
      some ⟨nodeA, .building []⟩ := rfl
  exact ⟨rfl, answered_iso_is_own exampleSite (fun _ => []) (fun _ => none)
    (savedBetween ++ [Label.isoAnswer 0]) hguard savedBetween 0 (List.prefix_refl _)
      ⟨nodeA, .building []⟩ hflight rfl⟩

/-- Both nodes are accepted and saved, `node-a` composes its boot script, then `node-b` its
own, and `node-a` goes on to the end. -/
def overlappingBuilds : List Label :=
  [.isoBegin 0 "10.0.0.1".toList bodyA, .isoBegin 1 "10.0.0.1".toList bodyB, .isoSave 0 .saved,
    .isoSave 1 .saved, .isoCommand 0 .done, .isoCommand 1 .done] ++
    build.map (fun _ => .isoCommand 0 .done)

/-- `node-a` is about to be answered 200 with an ISO that embeds the script of `node-b`. -/
theorem overlapping_builds_swap :
    let c := run (step exampleSite) Config.empty overlappingBuilds
    c.isos 0 = some ⟨nodeA, .building []⟩ ∧ isoStatus c 0 = some 200 ∧
    c.files (isoPath (jobId nodeA)) = some (bootableIso (bootScript exampleSite nodeB)) ∧
    bootScript exampleSite nodeA ≠ bootScript exampleSite nodeB :=
  ⟨rfl, rfl, rfl, bootScript_nodes_ne⟩

end Astro.BuildRaces
