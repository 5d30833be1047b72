import Astro.ResponseCount
import Mathlib.Data.List.TakeWhile

/-!
# Ranged responses

A `Range` header `bytes=a-b` or `bytes=a-` on a file below `/automation`. The end of the
range goes into the headers as it is, and the number of bytes to read is computed from it
without a look at the size of the file.
-/

namespace Astro.RangedResponses

open PythonText JsonText ServerHandlers FileServing HttpMethods ResponseCount MethodBodies Statement

def rangeHeader (start : ℕ) (last : Option ℕ) : Str :=
  ("bytes=" : Str) ++ (decimal start ++ '-' :: last.elim [] decimal)

/-- `int` refuses longer texts. -/
def Readable (start : ℕ) (last : Option ℕ) : Prop :=
  (decimal start).length ≤ 4300 ∧ ∀ b, last = some b → (decimal b).length ≤ 4300

theorem bytes_prefix_rangeHeader (start : ℕ) (last : Option ℕ) :
    ("bytes=" : Str) <+: rangeHeader start last := List.prefix_append _ _

theorem isDigit_last {last : Option ℕ} : ∀ c ∈ last.elim [] decimal, c.isDigit = true := by
  cases last with
  | none => simp
  | some b => exact fun c hc => isDigit_of_mem_decimal hc

theorem rangeGroups_rangeHeader (start : ℕ) (last : Option ℕ) :
    rangeGroups (rangeHeader start last) = some (decimal start, last.elim [] decimal) := by
  have hstart : ∀ c ∈ decimal start, c.isDigit = true := fun c hc => isDigit_of_mem_decimal hc
  have hdrop : (rangeHeader start last).drop 6 = decimal start ++ '-' :: last.elim [] decimal := rfl
  have htake : (decimal start ++ '-' :: last.elim [] decimal).takeWhile Char.isDigit =
      decimal start := by
    rw [List.takeWhile_append_of_pos hstart]
    exact List.append_nil _
  have hrest : (decimal start ++ '-' :: last.elim [] decimal).dropWhile Char.isDigit =
      '-' :: last.elim [] decimal := by
    rw [List.dropWhile_append_of_pos hstart]
    rfl
  have hlast : (last.elim [] decimal).takeWhile Char.isDigit = last.elim [] decimal := by
    rw [List.takeWhile_eq_self_iff]
    exact isDigit_last
  rw [rangeGroups, if_pos (bytes_prefix_rangeHeader start last), hdrop, htake, hrest]
  change (if decimal start ≠ [] then
    some (decimal start, (last.elim [] decimal).takeWhile Char.isDigit) else none) = _
  rw [if_pos (decimal_ne_nil start), hlast]

theorem parseInt_decimal (n : ℕ) :
    parseInt (decimal n) = if (decimal n).length ≤ 4300 then some n else none := by
  rw [parseInt, decimal, Nat.ofDigitChars_ten_toDigits]

theorem rangeRequest_of_groups {text first last : Str} (hbytes : ("bytes=" : Str) <+: text)
    (hgroups : rangeGroups text = some (first, last)) :
    rangeRequest (some text) =
      match parseInt first, (if last = [] then some none else (parseInt last).map some) with
      | some start, some last => .part start last
      | _, _ => .malformed := by
  have htails : text.tails.findSome? rangeGroups = some (first, last) := by
    cases text with
    | nil => cases hgroups
    | cons c text => rw [List.tails, List.findSome?_cons, hgroups]
  rw [rangeRequest, if_pos hbytes]
  exact htails ▸ rfl

theorem rangeRequest_readable {start : ℕ} {last : Option ℕ} (h : Readable start last) :
    rangeRequest (some (rangeHeader start last)) = .part start last := by
  rw [rangeRequest_of_groups (bytes_prefix_rangeHeader start last)
    (rangeGroups_rangeHeader start last), parseInt_decimal, if_pos h.1]
  cases last with
  | none => rfl
  | some b =>
    rw [Option.elim_some, if_neg (decimal_ne_nil b), parseInt_decimal, if_pos (h.2 b rfl)]
    rfl

example : rangeRequest (some "bytes=5-9") = .part 5 (some 9) ∧
    rangeRequest (some "bytes=7-") = .part 7 none := by decide

theorem rangeRequest_unreadable {start : ℕ} {last : Option ℕ} (h : ¬ Readable start last) :
    rangeRequest (some (rangeHeader start last)) = .malformed := by
  rw [rangeRequest_of_groups (bytes_prefix_rangeHeader start last)
    (rangeGroups_rangeHeader start last), parseInt_decimal]
  by_cases hstart : (decimal start).length ≤ 4300
  · rw [if_pos hstart]
    cases last with
    | none => exact absurd ⟨hstart, fun b hb => by cases hb⟩ h
    | some b =>
      have hlast : ¬ (decimal b).length ≤ 4300 := by
        intro hb
        refine h ⟨hstart, fun b' hb' => ?_⟩
        cases hb'
        exact hb
      rw [Option.elim_some, if_neg (decimal_ne_nil b), parseInt_decimal, if_neg hlast]
      rfl
  · rw [if_neg hstart]

def Sent.headerValue? (name : Str) : Sent → Option Str
  | .header name' value => if name' = name then some value else none
  | _ => none

def headerValues (name : Str) (sent : List Sent) : List Str :=
  sent.filterMap (Sent.headerValue? name)

def Sent.bytes : Sent → List UInt8
  | .body (.bytes b) => b
  | _ => []

def bodyBytes (sent : List Sent) : List UInt8 := sent.flatMap Sent.bytes

/-- The last byte that is there of those asked for. -/
def lastSent (size : ℕ) (last : Option ℕ) : ℕ := last.elim (size - 1) fun b => min b (size - 1)

/-- Status, headers and body belong to the same bytes of the file. -/
structure Consistent (content : List UInt8) (start : ℕ) (last : Option ℕ)
    (sent : List Sent) : Prop where
  unsatisfiable : content.length ≤ start → statusLines sent = [416]
  delivered : start < content.length → (∀ b, last = some b → start ≤ b) →
    statusLines sent = [206] ∧
    bodyBytes sent = (content.drop start).take (lastSent content.length last + 1 - start) ∧
    headerValues "Content-Length" sent = [decimal (bodyBytes sent).length] ∧
    headerValues "Content-Range" sent = [("bytes " : Str) ++ decimal start ++ ("-" : Str) ++
      decimal (lastSent content.length last) ++ ("/" : Str) ++ decimal content.length]
  reversed : ∀ b, last = some b → b < start → 206 ∉ statusLines sent
  nonnegative : ∀ value ∈ headerValues "Content-Length" sent, ¬ ("-" : Str) <+: value

/-- The numbers can be read; and the range starts behind the file, or it ends inside the file
at or after its start and is no longer than a buffer can be. A reversed range in the file is
answered properly only when its numbers cannot be read. -/
def Acceptable (readLimit size start : ℕ) (last : Option ℕ) : Prop :=
  (Readable start last ∧ (size ≤ start ∨
    ∃ b, last.getD (size - 1) = b ∧ start ≤ b ∧ b < size ∧ b + 1 - start ≤ readLimit)) ∨
  (¬ Readable start last ∧ start < size ∧ ∃ b, last = some b ∧ b < start)

section Responses
variable {σ : Type} {readLimit : ℕ} {filename : Str} {content : List UInt8} {start : ℕ}
  {last : Option ℕ} {s : σ}

/-- The transfer of a range, with the 404 that follows when it raises. -/
def rangeResponse (readLimit : ℕ) (filename : Str) (content : List UInt8) (start : ℕ)
    (last : Option ℕ) (s : σ) : List Sent :=
  (((attempt (sendFile readLimit (some (rangeHeader start last)) filename (.file content))).run
    s).andThen fun _ => notFound).output

theorem rangeResponse_unreadable (h : ¬ Readable start last) :
    rangeResponse readLimit filename content start last s = [.status 404, .endHeaders] := by
  rw [rangeResponse, sendFile, rangeRequest_unreadable h]
  rfl

theorem rangeResponse_unsatisfiable (h : Readable start last) (hstart : content.length ≤ start) :
    rangeResponse readLimit filename content start last s =
      [.status 416, .header "Content-Range" (("bytes */" : Str) ++ decimal content.length),
        .endHeaders] := by
  rw [rangeResponse, sendFile, rangeRequest_readable h]
  dsimp only
  rw [run_attempt_returned (run_sendPart_unsatisfiable hstart)]
  rfl

theorem rangeResponse_read (h : Readable start last) (hstart : start < content.length)
    {chunk : List UInt8}
    (hchunk : readChunk readLimit content start (lastByte content.length last - start + 1) =
      some chunk) :
    rangeResponse readLimit filename content start last s =
      partHeaders filename (.file content) start last ++ [.body (.bytes chunk)] := by
  have hrun : (sendPart readLimit filename (.file content) start last).run s =
      ⟨partHeaders filename (.file content) start last ++ [.body (.bytes chunk)], s,
          .returned⟩ := by
    rw [run_sendPart hstart, run_sendChunk_read hchunk]
    rfl
  rw [rangeResponse, sendFile, rangeRequest_readable h]
  dsimp only
  rw [run_attempt_returned hrun]
  rfl

theorem rangeResponse_unread (h : Readable start last) (hstart : start < content.length)
    (hchunk : readChunk readLimit content start (lastByte content.length last - start + 1) = none) :
    rangeResponse readLimit filename content start last s =
      partHeaders filename (.file content) start last ++ [.status 404, .endHeaders] := by
  have hrun : (sendPart readLimit filename (.file content) start last).run s =
      ⟨partHeaders filename (.file content) start last ++ [], s, .raised⟩ := by
    rw [run_sendPart hstart, run_sendChunk_unread hchunk]
    rfl
  rw [rangeResponse, sendFile, rangeRequest_readable h]
  dsimp only
  rw [run_attempt_raised hrun, List.append_nil]
  rfl

theorem lastByte_eq (h : start < content.length) :
    lastByte content.length last = (last.getD (content.length - 1) : ℕ) := by
  cases last with
  | none =>
    rw [lastByte, Option.elim_none, Option.getD_none]
    omega
  | some b => rfl

theorem contentLength_partHeaders (rest : List Sent)
    (hrest : headerValues "Content-Length" rest = []) :
    headerValues "Content-Length" (partHeaders filename (.file content) start last ++ rest) =
      [compactInt (lastByte content.length last - start + 1)] := by
  rw [headerValues, List.filterMap_append, ← headerValues, ← headerValues, hrest]
  rfl

theorem contentRange_partHeaders (rest : List Sent)
    (hrest : headerValues "Content-Range" rest = []) :
    headerValues "Content-Range" (partHeaders filename (.file content) start last ++ rest) =
      [("bytes " : Str) ++ decimal start ++ ("-" : Str) ++
        compactInt (lastByte content.length last) ++
        ("/" : Str) ++ decimal content.length] := by
  rw [headerValues, List.filterMap_append, ← headerValues, ← headerValues, hrest]
  rfl

theorem not_minus_decimal (n : ℕ) : ¬ ("-" : Str) <+: decimal n := by
  intro h
  have hdigit := isDigit_of_mem_decimal (h.subset (List.mem_singleton_self '-'))
  cases hdigit

/-- Inside the file a 206 is sent in any case; it is the right answer when the range is in the
file and can be read. -/
theorem consistent_part_iff (h : Readable start last) (hstart : start < content.length) :
    Consistent content start last (rangeResponse readLimit filename content start last s) ↔
      start ≤ last.getD (content.length - 1) ∧ last.getD (content.length - 1) < content.length ∧
        last.getD (content.length - 1) + 1 - start ≤ readLimit := by
  have hlast := @lastByte_eq content start last hstart
  have hbounds : (∀ b, last = some b → start ≤ b) ↔ start ≤ last.getD (content.length - 1) := by
    cases last with
    | none =>
      refine iff_of_true (fun b hb => by cases hb) ?_
      rw [Option.getD_none]
      omega
    | some b =>
      refine ⟨fun hall => hall b rfl, fun hle b' hb' => ?_⟩
      cases hb'
      exact hle
  cases hchunk : readChunk readLimit content start (lastByte content.length last - start + 1) with
  | none =>
    rw [rangeResponse_unread h hstart hchunk]
    rw [readChunk_eq_none, BadRange, hlast] at hchunk
    refine iff_of_false (fun hconsistent => ?_) (by omega)
    by_cases hreversed : ∃ b, last = some b ∧ b < start
    · obtain ⟨b, hb, hlt⟩ := hreversed
      exact hconsistent.reversed b hb hlt (List.mem_cons_self ..)
    · have hall : ∀ b, last = some b → start ≤ b :=
        fun b hb => Nat.not_lt.mp fun hlt => hreversed ⟨b, hb, hlt⟩
      have hstatus : [206, 404] = [206] := (hconsistent.delivered hstart hall).1
      cases hstatus
  | some chunk =>
    have hsize : ¬ (last.getD (content.length - 1) + 2 < start ∨
        start + readLimit ≤ last.getD (content.length - 1)) := by
      intro hnone
      have hfails : readChunk readLimit content start (lastByte content.length last - start + 1) =
          none := readChunk_eq_none.mpr (by rw [BadRange, hlast]; omega)
      rw [hchunk] at hfails
      cases hfails
    have hbody : bodyBytes (partHeaders filename (.file content) start last ++
      [.body (.bytes chunk)]) =
        chunk := List.append_nil _
    have hstatus : statusLines (partHeaders filename (.file content) start last ++
        [.body (.bytes chunk)]) = [206] := rfl
    have hrange := @contentRange_partHeaders filename content start last [.body (.bytes chunk)] rfl
    have hlength :=
      @contentLength_partHeaders filename content start last [.body (.bytes chunk)] rfl
    rw [rangeResponse_read h hstart hchunk]
    generalize partHeaders filename (.file content) start last ++ [.body (.bytes chunk)] = sent
      at hbody hstatus hrange hlength ⊢
    rw [hlast] at hrange hlength hchunk
    have hread : start ≤ last.getD (content.length - 1) →
        ((last.getD (content.length - 1) : ℕ) - start + 1 : ℤ) =
          (last.getD (content.length - 1) + 1 - start : ℕ) ∧
        chunk = (content.drop start).take (last.getD (content.length - 1) + 1 - start) := by
      intro hle
      have hcast : ((last.getD (content.length - 1) : ℕ) - start + 1 : ℤ) =
          (last.getD (content.length - 1) + 1 - start : ℕ) := by omega
      rw [hcast, readChunk, if_neg (by omega), if_pos (by omega), Option.some.injEq] at hchunk
      exact ⟨hcast, hchunk.symm⟩
    constructor
    · intro hconsistent
      have hall : ∀ b, last = some b → start ≤ b := by
        intro b hb
        by_contra hlt
        refine hconsistent.reversed b hb (Nat.not_le.mp hlt) ?_
        rw [hstatus]
        exact List.mem_cons_self
      have hle := hbounds.mp hall
      obtain ⟨hcast, rfl⟩ := hread hle
      obtain ⟨-, -, hdelivered, -⟩ := hconsistent.delivered hstart hall
      rw [hlength, hcast, compactInt_natCast, hbody, List.length_take, List.length_drop,
        List.cons.injEq] at hdelivered
      have hcount := decimal_injective hdelivered.1
      omega
    · rintro ⟨hle, hlt, hlimit⟩
      obtain ⟨hcast, rfl⟩ := hread hle
      have hsent : lastSent content.length last = last.getD (content.length - 1) := by
        cases last with
        | none => rfl
        | some b =>
          rw [Option.getD_some] at hlt
          exact Nat.min_eq_left (by omega)
      refine ⟨fun hge => absurd hstart (Nat.not_lt.mpr hge), fun _ _ =>
        ⟨hstatus, ?_, ?_, ?_⟩, ?_, ?_⟩
      · rw [hbody, hsent]
      · rw [hlength, hcast, compactInt_natCast, hbody, List.length_take, List.length_drop]
        congr 2
        omega
      · rw [hrange, hsent, compactInt_natCast]
      · intro b hb hreversed
        exact absurd (hbounds.mpr hle b hb) (Nat.not_le.mpr hreversed)
      · intro value hvalue
        rw [hlength, hcast, compactInt_natCast, List.mem_singleton] at hvalue
        rw [hvalue]
        exact not_minus_decimal _

theorem consistent_iff :
    Consistent content start last (rangeResponse readLimit filename content start last s) ↔
      Acceptable readLimit content.length start last := by
  by_cases hreadable : Readable start last
  · by_cases hstart : content.length ≤ start
    · rw [rangeResponse_unsatisfiable hreadable hstart]
      refine iff_of_true ?_ (Or.inl ⟨hreadable, Or.inl hstart⟩)
      exact ⟨fun _ => rfl, fun hlt => absurd hlt (Nat.not_lt.mpr hstart),
        fun _ _ _ => (by decide : (206 : ℕ) ∉ [416]), fun value hvalue => by cases hvalue⟩
    · rw [consistent_part_iff hreadable (Nat.not_le.mp hstart), Acceptable]
      constructor
      · rintro ⟨hle, hlt, hlimit⟩
        exact Or.inl ⟨hreadable, Or.inr ⟨_, rfl, hle, hlt, hlimit⟩⟩
      · rintro (⟨-, hge | ⟨_, rfl, h⟩⟩ | ⟨hnot, -⟩)
        · exact absurd hge hstart
        · exact h
        · exact absurd hreadable hnot
  · rw [rangeResponse_unreadable hreadable]
    constructor
    · intro hconsistent
      have hstart : start < content.length := by
        by_contra hge
        have hstatus : [404] = [416] := hconsistent.unsatisfiable (Nat.not_lt.mp hge)
        cases hstatus
      refine Or.inr ⟨hreadable, hstart, ?_⟩
      by_contra hreversed
      have hall : ∀ b, last = some b → start ≤ b :=
        fun b hb => Nat.not_lt.mp fun hlt => hreversed ⟨b, hb, hlt⟩
      have hstatus : [404] = [206] := (hconsistent.delivered hstart hall).1
      cases hstatus
    · rintro (⟨hr, -⟩ | ⟨-, hstart, b, rfl, hlt⟩)
      · exact absurd hr hreadable
      · exact ⟨fun hge => absurd hstart (Nat.not_lt.mpr hge),
          fun _ hall => absurd (hall b rfl) (Nat.not_le.mpr hlt), fun _ _ _ => by decide,
          fun value hvalue => by cases hvalue⟩

end Responses

/-- The response of the server to a `GET` of a file below `/automation` with a range is
consistent exactly when the range is acceptable. -/
theorem ranged_response_iff (world : World) (env : Environment) (r : Request) (m : Machine)
    (start : ℕ) (last : Option ℕ) (hmethod : r.method = .get)
    (hrange : r.range = some (rangeHeader start last)) (hpath : ("/automation/" : Str) <+: r.path)
    (hstatus : ¬ IsStatusPath r.path) {filename : Str} {content : List UInt8}
    (hfile : Finds (world.disk m.files m.logs) r.path filename (.file content)) :
    Consistent content start last (serve world env r m).output ↔
      Acceptable env.readLimit content.length start last := by
  have hserve : (serve world env r m).output =
      rangeResponse env.readLimit filename content start last (afterGet r.path m) := by
    rw [serve_get hmethod, run_doGet_other hstatus, automation_found hpath hfile, hrange,
      rangeResponse]
  rw [hserve, consistent_iff]

def isoRange (start : ℕ) (last : Option ℕ) : Request :=
  { bare .get "/automation/node-1/boot.iso" with range := some (rangeHeader start last) }

def fourBytes : World :=
  worldWith (single "/work/configServer/http/jobs/node-1/boot.iso" (.file [1, 2, 3, 4]))

theorem ranged_response_middle :
    Consistent [1, 2, 3, 4] 1 (some 2)
      (serve fourBytes calm (isoRange 1 (some 2)) emptyMachine).output ↔
      Acceptable calm.readLimit 4 1 (some 2) :=
  ranged_response_iff fourBytes calm (isoRange 1 (some 2)) emptyMachine 1 (some 2) rfl
    rfl (by decide) (by decide) ⟨"node-1", rfl, rfl⟩

/-- Of a file with four bytes, ten are announced and four sent; and two bytes are sent for a
range that ends before it starts, with a negative length. -/
theorem ranges_inconsistent :
    headerValues "Content-Length" (serve fourBytes calm (isoRange 0 (some 9)) emptyMachine).output =
      ["10".toList] ∧
    bodyBytes (serve fourBytes calm (isoRange 0 (some 9)) emptyMachine).output = [1, 2, 3, 4] ∧
    statusLines (serve fourBytes calm (isoRange 2 (some 0)) emptyMachine).output = [206] ∧
    headerValues "Content-Length" (serve fourBytes calm (isoRange 2 (some 0)) emptyMachine).output =
      ["-1".toList] ∧
    bodyBytes (serve fourBytes calm (isoRange 2 (some 0)) emptyMachine).output = [3, 4] := by
  decide

end Astro.RangedResponses
