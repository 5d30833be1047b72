import Astro.RangedResponses

/-!
# `HEAD` and `GET` side by side

The two methods recognise different areas of the path space. `HEAD` answers 200 to every
path outside the area of the jobs, and it looks into that area for paths that `GET` does
not find there.
-/

namespace Astro.HeadAgreement

open PythonText JobPaths ServerHandlers FileServing HttpMethods RangedResponses
  MethodBodies Statement

/-- The same status lines; and a length that is announced along with a 200 is the length of
what is sent with one. Files are the only content that a `GET` outside the status paths
sends. -/
def SameAnswer (head get : List Sent) : Prop :=
  statusLines head = statusLines get ∧
    (statusLines head = [200] → statusLines get = [200] →
      ∀ length ∈ headerValues "Content-Length" head, length = decimal (bodyBytes get).length)

/-- The paths on which the methods agree: jobs with their slash unless a directory or a file
that cannot be read at once is named, the same without the slash when nothing is found, and
files of the operating system that can be read. -/
def AgreeingPath (disk : Storage) (readLimit : ℕ) (path : Str) : Prop :=
  if ("/automation/" : Str) <+: path then
    ¬ ∃ filename object, Finds disk path filename object ∧ object.Unreadable readLimit
  else if ("/automation" : Str) <+: path then ¬ ∃ filename object, Finds disk path filename object
  else ("/customOS/" : Str) <+: path ∧
    ∃ object, disk (customOsFile path) = some object ∧ ¬ object.Unreadable readLimit

theorem not_sameAnswer {head get : List Sent} (codes codes' : List ℕ)
    (hhead : statusLines head = codes) (hget : statusLines get = codes') (hne : codes ≠ codes') :
    ¬ SameAnswer head get := by
  rintro ⟨hstatus, -⟩
  rw [hhead, hget] at hstatus
  exact hne hstatus

/-- Nothing is announced along with a 404. -/
theorem sameAnswer_notFound {head get : List Sent} (hhead : statusLines head = [404])
    (hget : statusLines get = [404]) : SameAnswer head get := by
  refine ⟨hhead.trans hget.symm, fun hstatus => ?_⟩
  rw [hhead] at hstatus
  exact absurd hstatus (by decide)

section Answers
variable {disk : Storage} {now path filename : Str} {readLimit : ℕ} {m m' : Machine}

theorem sameAnswer_file {object : FsObject} {content : List UInt8}
    (hhead : ("/automation" : Str) <+: path) (h : ("/automation/" : Str) <+: path)
    (hfinds : Finds disk path filename object) (hread : object.read? readLimit = some content) :
    SameAnswer ((doHead disk now path).run m).output
      ((serveFiles disk readLimit none path).run m').output := by
  have hget : (sendFile readLimit none filename object).run m' =
      ⟨wholeHeaders filename ++ [.body (.bytes content)], m', .returned⟩ := run_sendWhole_read hread
  rw [doHead_found hhead hfinds, automation_found h hfinds, run_attempt_returned hget,
    Effect.andThen_returned]
  refine ⟨rfl, fun _ _ length hlength => ?_⟩
  have hannounced : length ∈ [decimal object.size] := hlength
  have hbody : bodyBytes (wholeHeaders filename ++ [.body (.bytes content)]) = content :=
    List.append_nil content
  rw [hbody, List.mem_singleton.mp hannounced, (FsObject.read?_eq_some_iff.mp hread).1]
  rfl

theorem sameAnswer_automation (h : ("/automation/" : Str) <+: path) :
    SameAnswer ((doHead disk now path).run m).output
      ((serveFiles disk readLimit none path).run m').output ↔
      ¬ ∃ filename object, Finds disk path filename object ∧ object.Unreadable readLimit := by
  have hhead : ("/automation" : Str) <+: path := List.IsPrefix.trans (by decide) h
  by_cases hfound : ∃ filename object, Finds disk path filename object
  · obtain ⟨filename, object, hfinds⟩ := hfound
    cases hread : object.read? readLimit with
    | some content =>
      refine iff_of_true (sameAnswer_file hhead h hfinds hread) ?_
      rintro ⟨filename', object', hfinds', hunread⟩
      obtain ⟨rfl, rfl⟩ := hfinds.unique hfinds'
      rw [FsObject.read?_eq_none_iff.mpr hunread] at hread
      cases hread
    | none =>
      have hunread := FsObject.read?_eq_none_iff.mp hread
      have hget : (sendFile readLimit none filename object).run m' =
          ⟨wholeHeaders filename, m', .raised⟩ := run_sendWhole_unread hunread
      rw [doHead_found hhead hfinds, automation_found h hfinds, run_attempt_raised hget]
      refine iff_of_false ?_ fun hnot => hnot ⟨filename, object, hfinds, hunread⟩
      exact not_sameAnswer [200] [200, 404] rfl rfl (by decide)
  · rw [doHead_missing hhead hfound, automation_missing h hfound]
    refine iff_of_true (sameAnswer_notFound rfl rfl) ?_
    rintro ⟨filename, object, hfinds, -⟩
    exact hfound ⟨filename, object, hfinds⟩

/-- Without the slash only `HEAD` looks at the disk. -/
theorem sameAnswer_slashless (hhead : ("/automation" : Str) <+: path)
    (h : ¬ ("/automation/" : Str) <+: path) :
    SameAnswer ((doHead disk now path).run m).output
      ((serveFiles disk readLimit none path).run m').output ↔
      ¬ ∃ filename object, Finds disk path filename object := by
  have hcustom : ¬ ("/customOS/" : Str) <+: path :=
    not_prefix_of_prefix hhead (by decide) (by decide)
  have hweb : ¬ ("/web/" : Str) <+: path := not_prefix_of_prefix hhead (by decide) (by decide)
  rw [serveFiles_other hcustom h hweb]
  by_cases hfound : ∃ filename object, Finds disk path filename object
  · obtain ⟨filename, object, hfinds⟩ := hfound
    rw [doHead_found hhead hfinds]
    refine iff_of_false ?_ fun hnot => hnot ⟨filename, object, hfinds⟩
    exact not_sameAnswer [200] [404] rfl rfl (by decide)
  · rw [doHead_missing hhead hfound]
    exact iff_of_true (sameAnswer_notFound rfl rfl) hfound

/-- Everywhere else `HEAD` answers 200 and announces no length. -/
theorem sameAnswer_elsewhere (hhead : ¬ ("/automation" : Str) <+: path) :
    SameAnswer ((doHead disk now path).run m).output
      ((serveFiles disk readLimit none path).run m').output ↔
      statusLines ((serveFiles disk readLimit none path).run m').output = [200] := by
  rw [doHead_other hhead]
  constructor
  · rintro ⟨hstatus, -⟩
    exact hstatus.symm
  · intro hstatus
    refine ⟨hstatus.symm, fun _ _ length hlength => ?_⟩
    have hnone : length ∈ ([] : List Str) := hlength
    cases hnone

theorem statusLines_customOs (h : ("/customOS/" : Str) <+: path) :
    statusLines ((serveFiles disk readLimit none path).run m').output = [200] ↔
      ∃ object, disk (customOsFile path) = some object ∧ ¬ object.Unreadable readLimit := by
  cases hdisk : disk (customOsFile path) with
  | none =>
    rw [customOs_missing h hdisk]
    exact iff_of_false (by simp [statusLines, Sent.status?]) (by simp)
  | some object =>
    rw [customOs_found h hdisk]
    cases hread : object.read? readLimit with
    | some content =>
      rw [run_attempt_returned (run_sendCustomOs_read hread)]
      refine iff_of_true rfl ⟨object, rfl, fun hunread => ?_⟩
      rw [FsObject.read?_eq_none_iff.mpr hunread] at hread
      cases hread
    | none =>
      have hunread := FsObject.read?_eq_none_iff.mp hread
      rw [run_attempt_raised (run_sendCustomOs_unread hunread)]
      refine iff_of_false ?_ ?_
      · intro hstatus
        have hcodes : ([200, 404] : List ℕ) = [200] := hstatus
        exact absurd hcodes (by decide)
      · rintro ⟨object', hobject, hnot⟩
        cases hobject
        exact hnot hunread

theorem sameAnswer_iff : SameAnswer ((doHead disk now path).run m).output
    ((serveFiles disk readLimit none path).run m').output ↔
      AgreeingPath disk readLimit path := by
  unfold AgreeingPath
  split_ifs with h hhead
  · exact sameAnswer_automation h
  · exact sameAnswer_slashless hhead h
  · rw [sameAnswer_elsewhere hhead]
    by_cases hcustom : ("/customOS/" : Str) <+: path
    · rw [statusLines_customOs hcustom]
      simp only [hcustom, true_and]
    · refine iff_of_false ?_ fun hpath => hcustom hpath.1
      by_cases hweb : ("/web/" : Str) <+: path
      · rw [serveFiles_web hweb]
        intro hstatus
        have hcodes : ([302] : List ℕ) = [200] := hstatus
        exact absurd hcodes (by decide)
      · rw [serveFiles_other hcustom h hweb]
        intro hstatus
        have hcodes : ([404] : List ℕ) = [200] := hstatus
        exact absurd hcodes (by decide)

end Answers

/-- Outside the status paths, a `HEAD` agrees with a `GET` of the same path without a range
exactly on these paths. -/
theorem head_agrees_iff (world : World) (env env' : Environment) (r : Request) (m : Machine)
    (hstatus : ¬ IsStatusPath r.path) :
    SameAnswer (serve world env { r with method := .head } m).output
      (serve world env' { r with method := .get, range := none } m).output ↔
      AgreeingPath (world.disk m.files m.logs) env'.readLimit r.path := by
  rw [serve_head rfl, serve_get rfl,
    @run_doGet_other _ env' { r with method := .get, range := none } m hstatus]
  exact sameAnswer_iff

theorem head_agrees_kernel :
    ¬ IsStatusPath "/customOS/vmlinuz" ∧
    SameAnswer
      (serve (worldWith (single "/work/configServer/http/customOS/vmlinuz" (.file [1, 2]))) calm
        (bare .head "/customOS/vmlinuz") emptyMachine).output
      (serve (worldWith (single "/work/configServer/http/customOS/vmlinuz" (.file [1, 2]))) calm
        (bare .get "/customOS/vmlinuz") emptyMachine).output := by
  refine ⟨by decide, (head_agrees_iff _ calm calm (bare .get "/customOS/vmlinuz") emptyMachine
    (by decide)).mpr ?_⟩
  refine ⟨by decide, .file [1, 2], rfl, ?_⟩
  decide

/-- A file of the operating system that does not exist: `HEAD` announces it nevertheless. -/
theorem head_of_missing_file :
    ¬ IsStatusPath "/customOS/vmlinuz" ∧
    statusLines (serve (worldWith fun _ => none) calm (bare .head "/customOS/vmlinuz")
      emptyMachine).output = [200] ∧
    statusLines (serve (worldWith fun _ => none) calm (bare .get "/customOS/vmlinuz")
      emptyMachine).output = [404] := by
  decide +kernel

end Astro.HeadAgreement
