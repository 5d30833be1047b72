import Astro.HttpMethods

/-!
# How many responses a request gets

A block of `do_GET` that raises after its headers falls through to the 404 at the end, and
a `POST` to an unknown path falls through to nothing. Every other request is answered with
one status line.
-/

namespace Astro.ResponseCount

open PythonText JobPaths RequestModels TelemetryHandler CustomIsoHandler ServerHandlers
  SeedRendering FileServing HttpMethods MethodBodies Statement

/-- The range is reversed by more than two bytes, longer than a buffer can be, or reversed by
just two, which reads to the end of the file, when that is too much. -/
def BadRange (readLimit size start : ℕ) (last : ℤ) : Prop :=
  last + 2 < start ∨ start + readLimit ≤ last ∨ last + 2 = start ∧ readLimit < size - start

theorem readChunk_eq_none {readLimit : ℕ} {content : List UInt8} {start : ℕ} {last : ℤ} :
    readChunk readLimit content start (last - start + 1) = none ↔
      BadRange readLimit content.length start last := by
  unfold readChunk readAll BadRange
  rw [List.length_drop]
  split_ifs with hall hfits hsize
  · simp only [false_iff]
    omega
  · simp only [true_iff]
    omega
  · simp only [false_iff]
    omega
  · simp only [true_iff]
    omega

section Files
variable {σ : Type} {disk : Storage} {readLimit : ℕ} {range : Option Str} {path filename : Str}
  {object : FsObject} {s : σ}

end Files

section Requests
variable {world : World} {env : Environment} {r : Request} {m : Machine}

end Requests

end Astro.ResponseCount
