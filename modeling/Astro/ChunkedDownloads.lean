import Astro.RangedResponses

/-!
# Downloads in chunks

A client that cuts a file at increasing offsets and asks for each piece with its own `Range`
header gets the file back, whatever else the server does between the requests.
-/

namespace Astro.ChunkedDownloads

open PythonText JsonText ServerHandlers FileServing HttpMethods ResponseCount RangedResponses
  MethodBodies Statement

/-- Offsets `0 = c₀ < c₁ < … < cₖ = size`. -/
structure Cut (size : ℕ) where
  count : ℕ
  offset : ℕ → ℕ
  offset_zero : offset 0 = 0
  offset_count : offset count = size
  increasing : ∀ i < count, offset i < offset (i + 1)

namespace Cut
variable {α : Type} {content : List α} (cut : Cut content.length)

def piece (i : ℕ) : List α := (content.drop (cut.offset i)).take (cut.offset (i + 1) - cut.offset i)

theorem offset_le {i : ℕ} (hi : i ≤ cut.count) : cut.offset i ≤ content.length := by
  induction hi using Nat.decreasingInduction with
  | self => exact cut.offset_count.le
  | of_succ i hi ih => exact (cut.increasing i hi).le.trans ih

/-- A piece with everything behind it. -/
theorem piece_append_drop {i : ℕ} (hi : i < cut.count) :
    cut.piece i ++ content.drop (cut.offset (i + 1)) = content.drop (cut.offset i) := by
  have hsum : cut.offset i + (cut.offset (i + 1) - cut.offset i) = cut.offset (i + 1) :=
    Nat.add_sub_cancel' (cut.increasing i hi).le
  have hrest : (content.drop (cut.offset i)).drop (cut.offset (i + 1) - cut.offset i) =
      content.drop (cut.offset (i + 1)) := by rw [List.drop_drop, hsum]
  rw [piece, ← hrest]
  exact List.take_append_drop _ _

/-- The pieces from one offset on are what the content has from there on. -/
theorem flatMap_piece {n i : ℕ} (h : i + n = cut.count) :
    (List.range' i n).flatMap cut.piece = content.drop (cut.offset i) := by
  induction n generalizing i with
  | zero =>
    obtain rfl : i = cut.count := h
    rw [cut.offset_count, List.drop_length]
    rfl
  | succ n ih =>
    have hrest : i + 1 + n = cut.count := by omega
    rw [List.range'_succ, List.flatMap_cons, ih hrest]
    exact cut.piece_append_drop (by omega)

end Cut

section Requests
variable {world : World} {r : Request} {filename : Str} {content : List UInt8}

/-- A state of the server in which the path names the file, with the memory to read it. -/
structure Moment (world : World) (path filename : Str) (content : List UInt8) where
  env : Environment
  machine : Machine
  finds : Finds (world.disk machine.files machine.logs) path filename (.file content)
  fits : content.length ≤ env.readLimit

/-- What the server sends for a `Range` header, or without one. -/
def sent (world : World) (r : Request) (range : Option Str)
    (t : Moment world r.path filename content) :
    List Sent :=
  (serve world t.env { r with range := range } t.machine).output

variable (hmethod : r.method = .get) (hpath : ("/automation/" : Str) <+: r.path)
  (hstatus : ¬ IsStatusPath r.path)
include hmethod hpath hstatus

theorem sent_eq (t : Moment world r.path filename content) (range : Option Str) :
    sent world r range t =
      (((attempt (sendFile t.env.readLimit range filename (.file content))).run
        (afterGet r.path t.machine)).andThen fun _ => notFound).output := by
  have hserve := @serve_get world t.env { r with range := range } t.machine hmethod
  have hget := @run_doGet_other (world.disk t.machine.files t.machine.logs) t.env
    { r with range := range } t.machine hstatus
  rw [sent, hserve, hget, automation_found hpath t.finds]

theorem bodyBytes_whole (t : Moment world r.path filename content) :
    bodyBytes (sent world r none t) = content := by
  have hread := FsObject.read?_eq_some_iff.mpr ⟨rfl, t.fits⟩
  have hrun : (sendFile t.env.readLimit none filename (.file content)).run
    (afterGet r.path t.machine) =
      ⟨wholeHeaders filename ++ [.body (.bytes content)], _, .returned⟩ := run_sendWhole_read hread
  rw [sent_eq hmethod hpath hstatus, run_attempt_returned hrun]
  exact List.append_nil _

/-- A range inside the file. -/
theorem sent_range (hsize : (decimal content.length).length ≤ 4300)
    (t : Moment world r.path filename content) {start : ℕ} {last : Option ℕ}
    (hstart : start ≤ last.getD (content.length - 1))
    (hlast : last.getD (content.length - 1) < content.length) :
    statusLines (sent world r (some (rangeHeader start last)) t) = [206] ∧
      bodyBytes (sent world r (some (rangeHeader start last)) t) =
        (content.drop start).take (last.getD (content.length - 1) + 1 - start) ∧
      headerValues "Content-Length" (sent world r (some (rangeHeader start last)) t) =
        [decimal (bodyBytes (sent world r (some (rangeHeader start last)) t)).length] := by
  have hdigits : ∀ {n : ℕ}, n < content.length → (decimal n).length ≤ 4300 :=
    fun h => (length_decimal_mono h.le).trans hsize
  have hreadable : Readable start last := by
    refine ⟨hdigits (hstart.trans_lt hlast), ?_⟩
    rintro b rfl
    exact hdigits hlast
  have hconsistent := (@consistent_part_iff Machine t.env.readLimit filename content start last
    (afterGet r.path t.machine) hreadable (hstart.trans_lt hlast)).mpr
    ⟨hstart, hlast, by have := t.fits; omega⟩
  have hbounds : ∀ b, last = some b → start ≤ b := by
    rintro b rfl
    exact hstart
  have hsent : lastSent content.length last = last.getD (content.length - 1) := by
    cases last with
    | none => rfl
    | some b => exact Nat.min_eq_left (Nat.le_sub_one_of_lt hlast)
  obtain ⟨hcode, hbody, hlength, -⟩ := hconsistent.delivered (hstart.trans_lt hlast) hbounds
  rw [sent_eq hmethod hpath hstatus]
  rw [hsent] at hbody
  exact ⟨hcode, hbody, hlength⟩

end Requests

/-- The responses to the chunks of a cut, each at a moment of its own, put the file together;
and an open range gives what the chunks from its start on give. -/
theorem chunks_reassemble {world : World} {r : Request} {filename : Str} {content : List UInt8}
    (hmethod : r.method = .get) (hpath : ("/automation/" : Str) <+: r.path)
    (hstatus : ¬ IsStatusPath r.path) (hsize : (decimal content.length).length ≤ 4300)
    (cut : Cut content.length) (moment : ℕ → Moment world r.path filename content) :
    let chunk (i : ℕ) : List Sent :=
      sent world r (some (rangeHeader (cut.offset i) (some (cut.offset (i + 1) - 1)))) (moment i)
    (∀ i < cut.count, statusLines (chunk i) = [206] ∧
      headerValues "Content-Length" (chunk i) = [decimal (bodyBytes (chunk i)).length]) ∧
    (List.range cut.count).flatMap (fun i => bodyBytes (chunk i)) = content ∧
    (∀ t : Moment world r.path filename content, bodyBytes (sent world r none t) = content) ∧
    ∀ i < cut.count, ∀ t : Moment world r.path filename content,
      bodyBytes (sent world r (some (rangeHeader (cut.offset i) none)) t) =
        (List.range' i (cut.count - i)).flatMap fun j => bodyBytes (chunk j) := by
  intro chunk
  have hchunk : ∀ i < cut.count, statusLines (chunk i) = [206] ∧ bodyBytes (chunk i) = cut.piece i ∧
      headerValues "Content-Length" (chunk i) = [decimal (bodyBytes (chunk i)).length] := by
    intro i hi
    have hlt := cut.increasing i hi
    have hle : cut.offset (i + 1) ≤ content.length := cut.offset_le hi
    have hrange := @sent_range _ _ _ _ hmethod hpath hstatus hsize (moment i) (cut.offset i)
      (some (cut.offset (i + 1) - 1)) (Nat.le_sub_one_of_lt hlt) (by rw [Option.getD_some]; omega)
    rw [Option.getD_some, Nat.sub_add_cancel (Nat.one_le_of_lt hlt)] at hrange
    exact hrange
  have hpieces : ∀ i n, i + n = cut.count →
      (List.range' i n).flatMap (fun j => bodyBytes (chunk j)) = content.drop (cut.offset i) := by
    intro i n h
    rw [← cut.flatMap_piece h]
    refine List.flatMap_congr fun j hj => (hchunk j ?_).2.1
    have hj' := List.mem_range'_1.mp hj
    omega
  refine ⟨fun i hi => ⟨(hchunk i hi).1, (hchunk i hi).2.2⟩, ?_,
    bodyBytes_whole hmethod hpath hstatus, ?_⟩
  · rw [List.range_eq_range', hpieces 0 cut.count (Nat.zero_add _), cut.offset_zero, List.drop_zero]
  · intro i hi t
    have hstart : cut.offset i < content.length := (cut.increasing i hi).trans_le (cut.offset_le hi)
    have hrange := @sent_range _ _ _ _ hmethod hpath hstatus hsize t (cut.offset i) none
      (Nat.le_sub_one_of_lt hstart) (by rw [Option.getD_none]; omega)
    rw [hpieces i (cut.count - i) (by omega), hrange.2.1, Option.getD_none]
    refine List.take_of_length_le ?_
    rw [List.length_drop]
    omega

/-- One byte and then the rest, of the file with four bytes. -/
def oneAndRest : Cut (List.length [1, 2, 3, 4]) where
  count := 2
  offset i := [0, 1].getD i 4
  offset_zero := rfl
  offset_count := rfl
  increasing := by decide

def isoMoment : Moment fourBytes (isoRange 0 none).path "boot.iso" [1, 2, 3, 4] where
  env := calm
  machine := emptyMachine
  finds := ⟨"node-1", rfl, rfl⟩
  fits := by decide

theorem chunks_reassemble_oneAndRest :
    (List.range oneAndRest.count).flatMap (fun i => bodyBytes (sent fourBytes (isoRange 0 none)
      (some (rangeHeader (oneAndRest.offset i) (some (oneAndRest.offset (i + 1) - 1))))
        isoMoment)) =
        [1, 2, 3, 4] :=
  (@chunks_reassemble fourBytes (isoRange 0 none) "boot.iso" [1, 2, 3, 4] rfl
    (by decide) (by decide) (by decide) oneAndRest fun _ => isoMoment).2.1

end Astro.ChunkedDownloads
