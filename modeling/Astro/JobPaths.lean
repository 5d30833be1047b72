import Astro.PythonText

/-!
# Job directories and the files in them

Paths are built as texts, by `os.path.join` in the server and by concatenation in
the shell script, and name the file that lexical resolution of `.`, `..` and
doubled slashes leads to. Different job ids can therefore name one file.
-/

namespace Astro.JobPaths

open PythonText

/-- A file, as the components of its absolute path. -/
abbrev Path := List Str

def descend (base : Path) (piece : Str) : Path :=
  if piece = [] ∨ piece = "." then base
  else if piece = ".." then base.dropLast
  else base ++ [piece]

/-- The file an absolute path text names, when every directory on the way exists. -/
def resolve (path : Str) : Path := (split '/' path).foldl descend []

def osPathJoin (base name : Str) : Str :=
  if "/" <+: name then name
  else if base = [] ∨ "/" <:+ base then base ++ name
  else base ++ ("/" : Str) ++ name

def jobsDir : Str := "/work/configServer/http/jobs"

def buildDir : Str := "/work/ipxe-builder"

def jobDir (job : Str) : Str := osPathJoin jobsDir job

def jobFile (job name : Str) : Path := resolve (osPathJoin (jobDir job) name)

/-- `$JOB_DIR/custom-$JOB_ID.iso`, where `JOB_DIR` is a plain concatenation. -/
def isoPath (job : Str) : Path :=
  resolve (jobsDir ++ ("/" : Str) ++ job ++ ("/custom-" : Str) ++ job ++ (".iso" : Str))

def buildFile (name : Str) : Path := resolve (buildDir ++ ("/" : Str) ++ name)

/-- A job id that is one component of a path. -/
def IsComponent (job : Str) : Prop := job ≠ [] ∧ '/' ∉ job

instance (job : Str) : Decidable (IsComponent job) := inferInstanceAs (Decidable (_ ∧ _))

def jobsPath : Path := ["work".toList, "configServer".toList, "http".toList, "jobs".toList]

def logPath (job : Str) : Path := jobFile job "install.log"

theorem descend_plain (base : Path) {piece : Str} (hnil : piece ≠ []) (hdot : piece ≠ ".")
    (hdots : piece ≠ "..") : descend base piece = base ++ [piece] := by
  rw [descend, if_neg (not_or.mpr ⟨hnil, hdot⟩), if_neg hdots]

private theorem not_slash_start {job : Str} (h : '/' ∉ job) : ¬ ("/" : Str) <+: job := by
  intro hp
  exact h (hp.subset (by decide))

private theorem not_slash_suffix {job : Str} (h : IsComponent job) (base : Str) :
    ¬ ("/" : Str) <:+ base ++ job := by
  rintro ⟨front, hfront⟩
  have hlast := congrArg List.getLast? hfront
  rw [List.getLast?_append_of_ne_nil _ (by decide), List.getLast?_append_of_ne_nil _ h.1] at hlast
  exact h.2 (List.mem_of_getLast? hlast.symm)

private theorem osPathJoin_plain {base name : Str} (hbase : base ≠ [])
    (hslash : ¬ ("/" : Str) <:+ base) (hname : '/' ∉ name) :
    osPathJoin base name = base ++ '/' :: name := by
  rw [osPathJoin, if_neg (not_slash_start hname), if_neg (not_or.mpr ⟨hbase, hslash⟩)]
  exact List.append_assoc ..

theorem jobDir_component {job : Str} (h : IsComponent job) : jobDir job = jobsDir ++ '/' :: job :=
  osPathJoin_plain (by decide) (by decide) h.2

theorem osPathJoin_jobDir {job : Str} (h : IsComponent job) {name : Str} (hname : '/' ∉ name) :
    osPathJoin (jobDir job) name = jobsDir ++ '/' :: job ++ '/' :: name := by
  have hdir := jobDir_component h
  have hsplit : jobsDir ++ '/' :: job = (jobsDir ++ ['/']) ++ job := by simp
  refine (osPathJoin_plain ?_ ?_ hname).trans (by rw [hdir])
  · rw [hdir]
    exact List.append_ne_nil_of_right_ne_nil _ (List.cons_ne_nil _ _)
  · rw [hdir, hsplit]
    exact not_slash_suffix h _

theorem resolve_append_slash (front back : Str) :
    resolve (front ++ '/' :: back) = (split '/' back).foldl descend (resolve front) := by
  rw [resolve, split, List.splitOn_append_cons_self, List.foldl_append]
  rfl

theorem resolve_append_component (front : Str) {piece : Str} (h : '/' ∉ piece) :
    resolve (front ++ '/' :: piece) = descend (resolve front) piece := by
  rw [resolve_append_slash, split, List.splitOn_eq_singleton h]
  rfl

/-- A file of a one-component job lies directly in the directory the id leads to;
`.` and `..` lead to the directory of jobs and to its parent. -/
theorem jobFile_component {job : Str} (h : IsComponent job) {name : Str} (hname : '/' ∉ name)
    (hplain : name ≠ [] ∧ name ≠ "." ∧ name ≠ "..") :
    jobFile job name = descend jobsPath job ++ [name] := by
  have hjobs : resolve jobsDir = jobsPath := by decide
  rw [jobFile, osPathJoin_jobDir h hname, resolve_append_component _ hname,
    resolve_append_component _ h.2, hjobs]
  exact descend_plain _ hplain.1 hplain.2.1 hplain.2.2

theorem jobDir_ne_nil (job : Str) : jobDir job ≠ [] := by
  unfold jobDir osPathJoin
  split_ifs with hslash
  · rintro rfl
    exact absurd hslash (by decide)
  · exact List.append_ne_nil_of_left_ne_nil (by decide) job
  · exact List.append_ne_nil_of_left_ne_nil (by decide) job

/-- Whatever the job id, a file joined to its directory keeps its name. -/
theorem jobFile_getLast (job : Str) {name : Str} (hname : '/' ∉ name)
    (hplain : name ≠ [] ∧ name ≠ "." ∧ name ≠ "..") : (jobFile job name).getLast? = some name := by
  have hlast : ∀ front : Str, (resolve (front ++ '/' :: name)).getLast? = some name := by
    intro front
    rw [resolve_append_component _ hname, descend_plain _ hplain.1 hplain.2.1 hplain.2.2]
    exact List.getLast?_concat
  unfold jobFile osPathJoin
  rw [if_neg (not_slash_start hname)]
  split_ifs with h
  · obtain ⟨front, hfront⟩ := h.resolve_left (jobDir_ne_nil job)
    rw [← hfront, List.append_assoc]
    exact hlast front
  · rw [List.append_assoc]
    exact hlast (jobDir job)

theorem isoPath_getLast (job : Str) :
    ∃ name, (isoPath job).getLast? = some name ∧ (".iso" : Str) <:+ name := by
  obtain ⟨front, back, htext, hback, hsuffix⟩ : ∃ front back : Str,
      isoPath job = resolve (front ++ '/' :: back) ∧ '/' ∉ back ∧ (".iso" : Str) <:+ back := by
    by_cases hslash : '/' ∈ job
    · obtain ⟨tail, head, hsplit, hhead⟩ := List.eq_append_cons_of_mem (List.mem_reverse.mpr hslash)
      have hjob : job = head.reverse ++ '/' :: tail.reverse := by
        rw [← job.reverse_reverse, hsplit]
        simp
      refine ⟨jobsDir ++ ("/" : Str) ++ job ++ ("/custom-" : Str) ++ head.reverse,
        tail.reverse ++ (".iso" : Str), ?_, ?_, List.suffix_append _ _⟩
      · rw [isoPath]
        nth_rewrite 2 [hjob]
        simp only [List.append_assoc, List.cons_append]
      · rw [List.mem_append, not_or]
        exact ⟨by simpa using hhead, by decide⟩
    · refine ⟨jobsDir ++ ("/" : Str) ++ job, ("custom-" : Str) ++ job ++ (".iso" : Str), ?_, ?_,
        List.suffix_append _ _⟩
      · rw [isoPath]
        simp only [List.append_assoc]
        rfl
      · rw [List.mem_append, List.mem_append, not_or, not_or]
        exact ⟨⟨by decide, hslash⟩, by decide⟩
  refine ⟨back, ?_, hsuffix⟩
  have hplain : back ≠ [] ∧ back ≠ "." ∧ back ≠ ".." := by
    refine ⟨?_, ?_, ?_⟩ <;> rintro rfl <;> exact absurd hsuffix (by decide)
  rw [htext, resolve_append_component _ hback, descend_plain _ hplain.1 hplain.2.1 hplain.2.2]
  exact List.getLast?_concat

private theorem descend_jobsPath_injective {job job' : Str} (h : job ≠ []) (h' : job' ≠ [])
    (heq : descend jobsPath job = descend jobsPath job') : job = job' := by
  have hlength : ∀ piece : Str, piece ≠ [] →
      (piece = "." ∧ (descend jobsPath piece).length = 4) ∨
      (piece = ".." ∧ (descend jobsPath piece).length = 3) ∨
      descend jobsPath piece = jobsPath ++ [piece] := by
    intro piece hnil
    by_cases hdot : piece = "."
    · exact Or.inl ⟨hdot, by rw [hdot]; decide⟩
    · by_cases hdots : piece = ".."
      · exact Or.inr (Or.inl ⟨hdots, by rw [hdots]; decide⟩)
      · exact Or.inr (Or.inr (descend_plain _ hnil hdot hdots))
  have hlong : ∀ piece : Str, (jobsPath ++ [piece]).length = 5 := fun _ => rfl
  rcases hlength job h with ⟨hj, hl⟩ | ⟨hj, hl⟩ | hj <;>
    rcases hlength job' h' with ⟨hj', hl'⟩ | ⟨hj', hl'⟩ | hj'
  · rw [hj, hj']
  · rw [heq] at hl; omega
  · rw [heq, hj', hlong] at hl; omega
  · rw [heq] at hl; omega
  · rw [hj, hj']
  · rw [heq, hj', hlong] at hl; omega
  · rw [← heq, hj, hlong] at hl'; omega
  · rw [← heq, hj, hlong] at hl'; omega
  · rw [hj, hj'] at heq
    simpa using heq

/-- One-component jobs have no file in common. -/
theorem jobFile_injective {job job' : Str} (h : IsComponent job) (h' : IsComponent job')
    {name : Str} (hname : '/' ∉ name) (hplain : name ≠ [] ∧ name ≠ "." ∧ name ≠ "..")
    (heq : jobFile job name = jobFile job' name) : job = job' := by
  rw [jobFile_component h hname hplain, jobFile_component h' hname hplain] at heq
  exact descend_jobsPath_injective h.1 h'.1 (List.append_cancel_right heq)

theorem logPath_injective {job job' : Str} (h : IsComponent job) (h' : IsComponent job')
    (heq : logPath job = logPath job') : job = job' :=
  jobFile_injective h h' (by decide) (by decide) heq

/-- Two ids of one directory: the second is not a single component. -/
example : logPath "node-1" = logPath "./node-1" := by decide

end Astro.JobPaths
