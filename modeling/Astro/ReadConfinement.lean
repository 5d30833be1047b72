import Astro.HttpMethods
import Astro.RelativePaths

/-!
# Which files a request can read

A request discloses a file when the response changes with its contents or its size. The
area of the operating system is left with `..`, and so is the directory of a job when the
job id or the file name is one of the names that do not denote an entry of a directory.
-/

namespace Astro.ReadConfinement

open PythonText JobPaths ServerHandlers FileServing HttpMethods MethodBodies Statement

/-- The response to the request when the disk is this one. -/
def answer (world : World) (env : Environment) (r : Request) (m : Machine) (disk : Storage) :
    List Sent :=
  (serve { world with disk := fun _ _ => disk } env r m).output

/-- There is a file or directory under this path, and another one in its place would have
led to another response. -/
def Discloses (respond : Storage → List Sent) (disk : Storage) (file : Str) : Prop :=
  disk file ≠ none ∧ ∃ object, respond (Function.update disk file (some object)) ≠ respond disk

def customOsPath : Path :=
  ["work".toList, "configServer".toList, "http".toList, "customOS".toList]

/-- The file lies below the directory that the request path stands for. -/
def Confined (path file : Str) : Prop :=
  (("/customOS/" : Str) <+: path ∧ customOsPath <+: resolve file ∧ resolve file ≠ customOsPath) ∨
    (("/automation" : Str) <+: path ∧
      ∃ job, (split '/' path)[2]? = some job ∧ jobsPath ++ [job] <+: resolve file)

/-- The job id is the name of a directory, and the file name does not lead out of it. -/
def JobSafe (path : Str) : Prop :=
  ∀ job filename, automationParts path = some (job, filename) →
    job ≠ [] ∧ job ≠ "." ∧ job ≠ ".." ∧ filename ≠ ".."

def SafePath (method : Method) (path : Str) : Prop :=
  match method with
  | .post => True
  | .head => ("/automation" : Str) <+: path → JobSafe path
  | .get => IsStatusPath path ∨
      ((("/customOS/" : Str) <+: path → StaysUnder customOsPath (split '/' (path.drop 10))) ∧
        (("/automation/" : Str) <+: path → JobSafe path))

theorem resolve_customOsFile {path : Str} (h : ("/customOS/" : Str) <+: path) :
    resolve (customOsFile path) = (split '/' (path.drop 10)).foldl descend customOsPath := by
  obtain ⟨rest, rfl⟩ := h
  have hfile : customOsFile (("/customOS/" : Str) ++ rest) =
      ("/work/configServer/http/customOS" : Str) ++ '/' :: rest := rfl
  have hbase : resolve "/work/configServer/http/customOS" = customOsPath := by decide
  rw [hfile, resolve_append_slash, hbase]
  rfl

theorem automationParts_spec {path job filename : Str}
    (h : automationParts path = some (job, filename)) :
    (split '/' path)[2]? = some job ∧ '/' ∉ job ∧ '/' ∉ filename := by
  unfold automationParts at h
  split at h
  · rename_i first second job' filename' rest hsplit
    cases h
    have hpieces : ∀ piece ∈ [first, second, job, filename], '/' ∉ piece := by
      intro piece hpiece
      refine @not_mem_of_mem_split '/' path piece ?_
      rw [hsplit]
      exact List.mem_append_left rest hpiece
    exact ⟨by rw [hsplit]; rfl, hpieces job (by simp), hpieces filename (by simp)⟩
  · cases h

theorem resolve_automationFile {job filename : Str} (hjob : '/' ∉ job) (hname : '/' ∉ filename) :
    resolve (automationFile job filename) = descend (descend jobsPath job) filename := by
  have hjobs : resolve jobsDir = jobsPath := by decide
  by_cases hnil : job = []
  · subst hnil
    have hdir : jobDir [] = jobsDir ++ ("/" : Str) := by decide
    have hslash : ¬ ("/" : Str) <+: filename := fun h => hname (h.subset (by decide))
    have hsame : descend jobsPath [] = jobsPath := by decide
    rw [automationFile, hdir, osPathJoin, if_neg hslash, if_pos (Or.inr (List.suffix_append _ _)),
      List.append_assoc, hsame]
    exact (resolve_append_component jobsDir hname).trans (by rw [hjobs])
  · rw [automationFile, osPathJoin_jobDir ⟨hnil, hjob⟩ hname, resolve_append_component _ hname,
      resolve_append_component _ hjob, hjobs]

/-- The three kinds of names: those that stay, the one that climbs, and the others. -/
theorem descend_cases (base : Path) (piece : Str) :
    ((piece = [] ∨ piece = ".") ∧ descend base piece = base) ∨
      (piece = ".." ∧ descend base piece = base.dropLast) ∨
      ((piece ≠ [] ∧ piece ≠ "." ∧ piece ≠ "..") ∧ descend base piece = base ++ [piece]) := by
  by_cases hsame : piece = [] ∨ piece = "."
  · exact Or.inl ⟨hsame, by rw [descend, if_pos hsame]⟩
  · obtain ⟨hnil, hdot⟩ := not_or.mp hsame
    by_cases hdots : piece = ".."
    · exact Or.inr (Or.inl ⟨hdots, by rw [descend, if_neg hsame, if_pos hdots]⟩)
    · exact Or.inr (Or.inr ⟨⟨hnil, hdot, hdots⟩, descend_plain base hnil hdot hdots⟩)

/-- The job's own directory is left exactly by the names that do not denote an entry. -/
theorem job_prefix_iff {job filename : Str} :
    jobsPath ++ [job] <+: descend (descend jobsPath job) filename ↔
      job ≠ [] ∧ job ≠ "." ∧ job ≠ ".." ∧ filename ≠ ".." := by
  constructor
  · intro h
    have hlength : 5 ≤ (descend (descend jobsPath job) filename).length := h.length_le
    have hjobs : jobsPath.length = 4 := rfl
    rcases descend_cases jobsPath job with ⟨hjob, hdir⟩ | ⟨hjob, hdir⟩ | ⟨⟨hnil, hdot, hdots⟩, hdir⟩
    · rw [hdir] at h hlength
      rcases descend_cases jobsPath filename with ⟨-, hfile⟩ | ⟨-, hfile⟩ | ⟨⟨hnil, hdot, -⟩, hfile⟩
      · rw [hfile] at hlength
        omega
      · rw [hfile, List.length_dropLast] at hlength
        omega
      · rw [hfile, List.prefix_append_right_inj, List.cons_prefix_cons] at h
        rcases hjob with hjob | hjob
        · exact absurd (h.1.symm.trans hjob) hnil
        · exact absurd (h.1.symm.trans hjob) hdot
    · rw [hdir] at hlength
      have hshort : jobsPath.dropLast.length = 3 := rfl
      rcases descend_cases jobsPath.dropLast filename with ⟨-, hfile⟩ | ⟨-, hfile⟩ | ⟨-, hfile⟩
      · rw [hfile] at hlength
        omega
      · rw [hfile, List.length_dropLast] at hlength
        omega
      · rw [hfile, List.length_append, List.length_singleton] at hlength
        omega
    · refine ⟨hnil, hdot, hdots, ?_⟩
      rintro rfl
      have hfile : descend (jobsPath ++ [job]) ".." = (jobsPath ++ [job]).dropLast := by
        rw [descend, if_neg (by decide), if_pos rfl]
      rw [hdir, hfile, List.dropLast_concat] at hlength
      omega
  · rintro ⟨hnil, hdot, hdots, hname⟩
    rw [descend_plain jobsPath hnil hdot hdots, descend]
    split_ifs with hsame
    · exact List.prefix_rfl
    · exact List.prefix_append _ _

section Dependence
variable {world : World} {env : Environment} {r : Request} {m : Machine} {disk disk' : Storage}

theorem serveFiles_congr {readLimit : ℕ} {range : Option Str} {path : Str}
    (hcustom : ("/customOS/" : Str) <+: path → disk (customOsFile path) = disk' (customOsFile path))
    (hautomation : ("/automation/" : Str) <+: path → ∀ job filename,
      automationParts path = some (job, filename) →
        disk (automationFile job filename) = disk' (automationFile job filename)) :
    (serveFiles disk readLimit range path : Handler) = serveFiles disk' readLimit range path := by
  have hblock : (customOsBlock disk readLimit path : Handler) =
      customOsBlock disk' readLimit path := by
    by_cases h : ("/customOS/" : Str) <+: path
    · rw [customOsBlock, customOsBlock, hcustom h]
    · rw [customOsBlock_skip h, customOsBlock_skip h]
  have hblock' : (automationBlock disk readLimit range path : Handler) =
      automationBlock disk' readLimit range path := by
    by_cases h : ("/automation/" : Str) <+: path
    · unfold automationBlock
      cases hparts : automationParts path with
      | none => rfl
      | some parts =>
        obtain ⟨job, filename⟩ := parts
        dsimp only
        rw [hautomation h job filename hparts]
    · rw [automationBlock_skip h, automationBlock_skip h]
  rw [serveFiles, serveFiles, hblock, hblock']

theorem doHead_congr {now path : Str}
    (hautomation : ("/automation" : Str) <+: path → ∀ job filename,
      automationParts path = some (job, filename) →
        disk (automationFile job filename) = disk' (automationFile job filename)) :
    (doHead disk now path : Handler) = doHead disk' now path := by
  unfold doHead
  by_cases h : ("/automation" : Str) <+: path
  · rw [if_pos h, if_pos h, headAutomation, headAutomation]
    cases hparts : automationParts path with
    | none => rfl
    | some parts =>
      obtain ⟨job, filename⟩ := parts
      dsimp only
      rw [hautomation h job filename hparts]
  · rw [if_neg h, if_neg h]

end Dependence

def NamesJobFile (path file : Str) : Prop :=
  ∃ job filename, automationParts path = some (job, filename) ∧ file = automationFile job filename

/-- The path text that a request has looked up. -/
def LooksUp (method : Method) (path file : Str) : Prop :=
  match method with
  | .post => False
  | .head => ("/automation" : Str) <+: path ∧ NamesJobFile path file
  | .get => ¬ IsStatusPath path ∧ ((("/customOS/" : Str) <+: path ∧ file = customOsFile path) ∨
      (("/automation/" : Str) <+: path ∧ NamesJobFile path file))

/-- A file that is not looked up may be another one. -/
theorem answer_update {world : World} {env : Environment} {r : Request} {m : Machine}
    {disk : Storage} {file : Str} (h : ¬ LooksUp r.method r.path file) (object : FsObject) :
    answer world env r m (Function.update disk file (some object)) = answer world env r m disk := by
  unfold answer serve LooksUp at *
  cases hmethod : r.method with
  | post => rfl
  | head =>
    rw [hmethod] at h
    dsimp only at h ⊢
    rw [doHead_congr fun hpath job filename hparts => ?_]
    refine Function.update_of_ne (fun hfile => h ⟨hpath, job, filename, hparts, hfile.symm⟩) _ _
  | get =>
    rw [hmethod] at h
    dsimp only at h ⊢
    by_cases hstatus : IsStatusPath r.path
    · rw [run_doGet_status hstatus, run_doGet_status hstatus]
    · rw [run_doGet_other hstatus, run_doGet_other hstatus, serveFiles_congr ?_ ?_]
      · intro hpath
        exact Function.update_of_ne (fun hfile => h ⟨hstatus, Or.inl ⟨hpath, hfile.symm⟩⟩) _ _
      · intro hpath job filename hparts
        exact Function.update_of_ne
          (fun hfile => h ⟨hstatus, Or.inr ⟨hpath, job, filename, hparts, hfile.symm⟩⟩) _ _

section Lookup
variable {world : World} {m : Machine} {path file : Str}

theorem single_self (file : Str) (object : FsObject) : single file object file = some object :=
  if_pos rfl

theorem discloses_of_ne {respond : Storage → List Sent} {object object' : FsObject}
    (h : respond (Function.update (single file object) file (some object')) ≠
      respond (single file object)) : Discloses respond (single file object) file := by
  refine ⟨?_, object', h⟩
  rw [single_self]
  exact Option.some_ne_none object

/-- The contents of a regular file are the last thing that is sent. -/
theorem getLast_serveFiles {disk : Storage} {readLimit : ℕ} {content : List UInt8}
    (hlookup : (("/customOS/" : Str) <+: path ∧ file = customOsFile path) ∨
      (("/automation/" : Str) <+: path ∧ NamesJobFile path file))
    (hdisk : disk file = some (.file content)) (hfits : content.length ≤ readLimit) :
    ((serveFiles disk readLimit none path).run m).output.getLast? =
      some (.body (.bytes content)) := by
  have hread := FsObject.read?_eq_some_iff.mpr ⟨rfl, hfits⟩
  rcases hlookup with ⟨hpath, rfl⟩ | ⟨hpath, job, filename, hparts, rfl⟩
  · rw [customOs_found hpath hdisk, run_attempt_returned (run_sendCustomOs_read hread)]
    exact List.getLast?_concat
  · have hsend : (sendFile readLimit none filename (.file content)).run m =
        ⟨wholeHeaders filename ++ [.body (.bytes content)], m, .returned⟩ :=
          run_sendWhole_read hread
    rw [automation_found hpath ⟨job, hparts, hdisk⟩, run_attempt_returned hsend]
    exact List.getLast?_concat

/-- An empty file and one with a byte are told apart. -/
theorem discloses_lookup {method : Method} (h : LooksUp method path file) :
    Discloses (answer world calm (bare method path) m) (single file (.file [])) file := by
  refine @discloses_of_ne file _ (.file []) (.file [0]) fun heq => ?_
  have hempty := single_self file (.file [])
  have hbyte : Function.update (single file (.file [])) file (some (.file [0])) file =
      some (.file [0]) := Function.update_self ..
  generalize Function.update (single file (.file [])) file (some (.file [0])) = disk' at heq hbyte
  generalize single file (.file []) = disk at heq hempty
  unfold LooksUp at h
  unfold answer serve at heq
  cases method with
  | post => exact h
  | head =>
    obtain ⟨hpath, job, filename, hparts, rfl⟩ := h
    have hlist := congrArg (fun sent => sent[4]?) heq
    dsimp only [bare] at hlist
    rw [doHead_found hpath ⟨job, hparts, hbyte⟩, doHead_found hpath ⟨job, hparts, hempty⟩] at hlist
    injection hlist with hheader
    injection hheader with hname hvalue
    exact absurd hvalue (by decide)
  | get =>
    obtain ⟨hstatus, hlookup⟩ := h
    have hget : ∀ disk : Storage, ((doGet disk calm (bare .get path)).run m).output =
        ((serveFiles disk calm.readLimit none path).run (afterGet path m)).output := by
      intro disk
      rw [run_doGet_other hstatus]
      rfl
    have hlast := congrArg List.getLast? ((hget disk').symm.trans (heq.trans (hget disk)))
    rw [getLast_serveFiles hlookup hbyte (by decide),
      getLast_serveFiles hlookup hempty (by decide)] at hlast
    cases hlast

/-- What a request can disclose is what it looks up. -/
theorem discloses_iff {method : Method} :
    (∃ env r disk, r.method = method ∧ r.path = path ∧ Discloses (answer world env r m) disk file) ↔
      LooksUp method path file := by
  constructor
  · rintro ⟨env, r, disk, rfl, rfl, -, object, hne⟩
    by_contra hnot
    exact hne (answer_update hnot object)
  · intro h
    exact ⟨calm, bare method path, _, rfl, rfl, discloses_lookup h⟩

theorem confined_customOs (h : ("/customOS/" : Str) <+: path) :
    Confined path (customOsFile path) ↔ StaysUnder customOsPath (split '/' (path.drop 10)) := by
  have hautomation : ¬ ("/automation" : Str) <+: path :=
    not_prefix_of_prefix h (by decide) (by decide)
  rw [Confined, staysUnder_iff, resolve_customOsFile h]
  simp only [h, hautomation, true_and, false_and, or_false]

theorem confined_job {job filename : Str} (h : ("/automation" : Str) <+: path)
    (hparts : automationParts path = some (job, filename)) :
    Confined path (automationFile job filename) ↔
      job ≠ [] ∧ job ≠ "." ∧ job ≠ ".." ∧ filename ≠ ".." := by
  obtain ⟨hpiece, hjob, hname⟩ := automationParts_spec hparts
  have hcustom : ¬ ("/customOS/" : Str) <+: path := not_prefix_of_prefix h (by decide) (by decide)
  rw [← job_prefix_iff, ← resolve_automationFile hjob hname, Confined]
  simp only [h, hcustom, hpiece, true_and, false_and, false_or, Option.some.injEq, exists_eq_left']

theorem confined_jobs_iff (h : ("/automation" : Str) <+: path) :
    (∀ file, NamesJobFile path file → Confined path file) ↔ JobSafe path := by
  constructor
  · intro hconfined job filename hparts
    exact (confined_job h hparts).mp (hconfined _ ⟨job, filename, hparts, rfl⟩)
  · rintro hsafe file ⟨job, filename, hparts, rfl⟩
    exact (confined_job h hparts).mpr (hsafe job filename hparts)

end Lookup

/-- Every file that a request with this method and path can disclose, whatever its headers
and whatever is on the disk, is confined to the area of the path if and only if the path
is a safe one. -/
theorem reads_confined_iff (world : World) (m : Machine) (method : Method) (path : Str) :
    (∀ env r disk file, r.method = method → r.path = path →
      Discloses (answer world env r m) disk file → Confined path file) ↔ SafePath method path := by
  have hlookup : (∀ env r disk file, r.method = method → r.path = path →
      Discloses (answer world env r m) disk file → Confined path file) ↔
      ∀ file, LooksUp method path file → Confined path file := by
    constructor
    · intro h file hfile
      obtain ⟨env, r, disk, hmethod, hpath, hdiscloses⟩ :=
        (@discloses_iff world m path file method).mpr hfile
      exact h env r disk file hmethod hpath hdiscloses
    · intro h env r disk file hmethod hpath hdiscloses
      exact h file (discloses_iff.mp ⟨env, r, disk, hmethod, hpath, hdiscloses⟩)
  rw [hlookup]
  unfold LooksUp SafePath
  cases method with
  | post => exact iff_of_true (fun file hfile => hfile.elim) trivial
  | head =>
    dsimp only
    by_cases h : ("/automation" : Str) <+: path
    · simp only [h, true_and, true_implies, confined_jobs_iff h]
    · simp only [h, false_and, false_implies, implies_true]
  | get =>
    dsimp only
    by_cases hstatus : IsStatusPath path
    · simp only [hstatus, not_true_eq_false, false_and, false_implies, implies_true, true_or]
    · simp only [hstatus, not_false_eq_true, true_and, false_or, or_imp, forall_and]
      refine and_congr ?_ ?_
      · by_cases h : ("/customOS/" : Str) <+: path
        · simp only [h, true_and, true_implies, forall_eq, confined_customOs h]
        · simp only [h, false_and, false_implies, implies_true]
      · by_cases h : ("/automation/" : Str) <+: path
        · have hhead : ("/automation" : Str) <+: path := List.IsPrefix.trans (by decide) h
          simp only [h, true_and, true_implies, confined_jobs_iff hhead]
        · simp only [h, false_and, false_implies, implies_true]

def serverSource : Str := "/work/configServer/http/customOS/../../server.py"

/-- The source of the server itself is disclosed. -/
theorem traversal_discloses :
    Discloses (answer (worldWith fun _ => none) calm (bare .get "/customOS/../../server.py")
      emptyMachine)
      (single serverSource (.file [])) serverSource ∧
    resolve serverSource = ["work".toList, "configServer".toList, "server.py".toList] ∧
    ¬ Confined "/customOS/../../server.py" serverSource := by
  refine ⟨discloses_lookup ⟨by decide, Or.inl ⟨by decide, by decide⟩⟩, by decide, ?_⟩
  rintro (⟨-, hunder, -⟩ | ⟨hpath, -⟩)
  · exact absurd hunder (by decide)
  · exact absurd hpath (by decide)

end Astro.ReadConfinement
