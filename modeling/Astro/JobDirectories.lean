import Astro.SeedRendering

/-!
# The files that the server writes into job directories

`job.json`, the four seed files and the log. A file keeps its name whatever the job id is;
ids of one component other than `.` and `..` have directories of their own, directly under
the directory of jobs. `pipeline.sh` writes none of these files.
-/

namespace Astro.JobDirectories

open PythonText JobPaths IpxePipeline CustomIsoHandler ServerHandlers SeedRendering

inductive ServerFile where
  | jobJson
  | seed (file : SeedFile)
  | installLog
  deriving DecidableEq

namespace ServerFile

def name : ServerFile → Str
  | jobJson => "job.json"
  | seed file => file.name
  | installLog => "install.log"

def path (file : ServerFile) (job : Str) : Path := jobFile job file.name

theorem name_plain (file : ServerFile) :
    '/' ∉ file.name ∧ file.name ≠ [] ∧ file.name ≠ "." ∧ file.name ≠ ".." := by
  cases file with
  | jobJson => decide
  | seed file => exact seedFile_name_plain file
  | installLog => decide

theorem name_injective {file file' : ServerFile} (h : file.name = file'.name) : file = file' := by
  rcases file with _ | (_ | _ | _ | _) | _ <;> rcases file' with _ | (_ | _ | _ | _) | _ <;>
    first | rfl | exact absurd h (by decide)

theorem path_getLast (file : ServerFile) (job : Str) : (file.path job).getLast? = some file.name :=
  jobFile_getLast job file.name_plain.1 file.name_plain.2

/-- Different files are different, whatever the jobs are. -/
theorem eq_of_path_eq {file file' : ServerFile} {job job' : Str}
    (h : file.path job = file'.path job') :
    file = file' := by
  have hlast := congrArg List.getLast? h
  rw [path_getLast, path_getLast, Option.some.injEq] at hlast
  exact name_injective hlast

theorem path_injective {file file' : ServerFile} {job job' : Str} (hjob : IsComponent job)
    (hjob' : IsComponent job') (h : file.path job = file'.path job') : job = job' := by
  obtain rfl := eq_of_path_eq h
  exact jobFile_injective hjob hjob' file.name_plain.1 file.name_plain.2 h

end ServerFile

def serverNames : List Str :=
  ["job.json".toList, "user-data".toList, "meta-data".toList, "vendor-data".toList,
    "installer-launch.sh".toList, "install.log".toList]

theorem ServerFile.name_mem (file : ServerFile) : file.name ∈ serverNames := by
  rcases file with _ | (_ | _ | _ | _) | _ <;> decide

theorem ServerFile.ne_path_of_getLast {path : Path} {name : Str} (hlast : path.getLast? = some name)
    (hname : name ∉ serverNames) (file : ServerFile) (job : Str) : path ≠ file.path job := by
  rintro rfl
  rw [file.path_getLast, Option.some.injEq] at hlast
  exact hname (hlast ▸ file.name_mem)

theorem target_ne_path {job : Str} {cmd : PipelineCommand} {path : Path}
    (h : target job cmd = some path) :
    ∀ (file : ServerFile) (job' : Str), path ≠ file.path job' := by
  cases cmd with
  | compose | make | copyEfi | dd | mkfs | mmdEfi | mmdBoot | mcopy | copyImage =>
    cases h
    exact ServerFile.ne_path_of_getLast rfl (by decide)
  | xorriso =>
    cases h
    obtain ⟨name, hlast, hsuffix⟩ := isoPath_getLast job
    have hno : ∀ name ∈ serverNames, ¬ (".iso" : Str) <:+ name := by decide
    exact ServerFile.ne_path_of_getLast hlast fun hname => hno name hname hsuffix
  | sedPing | sedTrust | mkdirBoot | mkdirJob => cases h

section Frame
variable {site : Site} {job : Str} {path : Path}

theorem perform_of_not_target (h : ∀ cmd, target job cmd ≠ some path) (cmd : PipelineCommand)
    (outcome : Outcome) (files : Files) : (perform site job cmd outcome files).1 path =
      files path := by
  rcases perform_cases site job cmd outcome files with hsame | ⟨path', content, htarget, hwritten⟩
  · rw [hsame]
  · rw [hwritten]
    refine Function.update_of_ne ?_ _ _
    rintro rfl
    exact h cmd htarget

/-- The script changes nothing but the targets of its commands. -/
theorem runCommands_of_not_target (h : ∀ cmd, target job cmd ≠ some path)
    (outcomes : PipelineCommand → Outcome) (cmds : List PipelineCommand) (files : Files) :
    (runCommands site job outcomes cmds files).1 path = files path := by
  induction cmds generalizing files with
  | nil => rfl
  | cons cmd cmds ih =>
    have hfirst := @perform_of_not_target site job path h cmd (outcomes cmd) files
    unfold runCommands
    split
    · rename_i files' hperform
      rw [hperform] at hfirst
      exact (ih files').trans hfirst
    · rename_i files' hperform
      rw [hperform] at hfirst
      exact hfirst

theorem isoFiles_error {r : IsoRequest} {status : ℕ} (h : accept site r.host r.body = .error status)
    (files : Files) : isoFiles site r files = (files, status) := by
  rw [isoFiles, h]

theorem isoFiles_of_not_target {r : IsoRequest} {data : JobData}
    (h : accept site r.host r.body = .ok data) (hpath : ∀ cmd, target (jobId data) cmd ≠ some path)
    (files : Files) : (isoFiles site r files).1 path = (saveJob data r.save files).1 path := by
  rw [isoFiles, h]
  dsimp only
  split
  · rename_i files' hsave
    rw [hsave]
  · rename_i files' hsave
    have hrun := @runCommands_of_not_target site _ path hpath r.outcomes pipeline files'
    rw [hsave]
    split
    · rename_i built hbuilt
      rw [hbuilt] at hrun
      exact hrun
    · rename_i built hbuilt
      rw [hbuilt] at hrun
      exact hrun

/-- Of a custom-iso request, the job directories see that the job file is saved. -/
theorem isoFiles_path {r : IsoRequest} {data : JobData} (h : accept site r.host r.body = .ok data)
    (files : Files) (file : ServerFile) (job' : Str) :
    (isoFiles site r files).1 (file.path job') = (saveJob data r.save files).1 (file.path job') :=
  isoFiles_of_not_target h (fun _ htarget => target_ne_path htarget file job' rfl) files

end Frame

/-- A job id that is one component and does not lead elsewhere. -/
def IsJobName (job : Str) : Prop := IsComponent job ∧ job ≠ "." ∧ job ≠ ".."

instance (job : Str) : Decidable (IsJobName job) := inferInstanceAs (Decidable (_ ∧ _))

theorem ServerFile.path_of_isJobName {job : Str} (h : IsJobName job) (file : ServerFile) :
    file.path job = jobsPath ++ [job, file.name] := by
  rw [ServerFile.path, jobFile_component h.1 file.name_plain.1 file.name_plain.2,
    descend_plain _ h.1.1 h.2.1 h.2.2, List.append_assoc]
  rfl

end Astro.JobDirectories
