import Astro.JsonText
import Astro.MethodBodies
import Astro.ServerHandlers

/-!
# Serving files

`HEAD` and the parts of `GET` that read the disk. A path text is built from the request
and handed to the operating system as it is. Opening a directory raises, and so does
reading a chunk of an impossible size; in both cases the headers have already been sent.
-/

namespace Astro.FileServing

open PythonText JsonText JobPaths RequestModels ServerHandlers MethodBodies Statement

/-- What is written after the headers. The two kinds of JSON text that only one handler
writes are kept as the values they are the text of. -/
inductive Content where
  | text (s : Str)
  | bytes (b : List UInt8)
  | json (value : Json)
  | errors (errors : List FieldError)
  | report (r : StatusReport)

/-- What the handler hands to the socket. `send_response` also sends the headers `Server`
and `Date`. -/
inductive Sent where
  | status (code : ℕ)
  | header (name value : Str)
  | endHeaders
  | body (content : Content)

def Sent.status? : Sent → Option ℕ
  | status code => some code
  | _ => none

def statusLines (sent : List Sent) : List ℕ := sent.filterMap Sent.status?

/-- A regular file or a directory with the size that the system reports for it. -/
inductive FsObject where
  | file (content : List UInt8)
  | directory (size : ℕ)

namespace FsObject

def size : FsObject → ℕ
  | file content => content.length
  | directory size => size

/-- `open(path, "rb")`. -/
def open? : FsObject → Option (List UInt8)
  | file content => some content
  | directory _ => none

end FsObject

/-- `f.read()`; a buffer that cannot be allocated raises. -/
def readAll (readLimit : ℕ) (content : List UInt8) : Option (List UInt8) :=
  if content.length ≤ readLimit then some content else none

namespace FsObject

/-- `open(path, "rb")` and `f.read()`. -/
def read? (readLimit : ℕ) (object : FsObject) : Option (List UInt8) :=
  object.open?.bind (readAll readLimit)

/-- A directory, or a file that is longer than a buffer can be. -/
def Unreadable (readLimit : ℕ) : FsObject → Prop
  | file content => readLimit < content.length
  | directory _ => True

instance (readLimit : ℕ) : DecidablePred (Unreadable readLimit)
  | file content => inferInstanceAs (Decidable (readLimit < content.length))
  | directory _ => inferInstanceAs (Decidable True)

theorem read?_eq_none_iff {readLimit : ℕ} {object : FsObject} :
    object.read? readLimit = none ↔ object.Unreadable readLimit := by
  cases object with
  | file content =>
    change readAll readLimit content = none ↔ readLimit < content.length
    rw [readAll]
    split_ifs with h
    · simpa using h
    · simpa using h
  | directory size => exact iff_of_true rfl trivial

theorem read?_eq_some_iff {readLimit : ℕ} {object : FsObject} {content : List UInt8} :
    object.read? readLimit = some content ↔
      object = .file content ∧ content.length ≤ readLimit := by
  cases object with
  | file content' =>
    change readAll readLimit content' = some content ↔ _
    rw [readAll, Option.ite_none_right_eq_some, Option.some.injEq, file.injEq]
    constructor
    · rintro ⟨hfits, rfl⟩
      exact ⟨rfl, hfits⟩
    · rintro ⟨rfl, hfits⟩
      exact ⟨hfits, rfl⟩
  | directory size => exact iff_of_false (by rintro ⟨⟩) (by rintro ⟨⟨⟩, -⟩)

end FsObject

/-- What the system finds under a path text. -/
abbrev Storage := Str → Option FsObject

/-- `int(text)` on digits; long texts are refused. -/
def parseInt (digits : Str) : Option ℕ :=
  if digits.length ≤ 4300 then some (Nat.ofDigitChars 10 digits 0) else none

/-- The groups of `bytes=(\d+)-(\d*)` at the start of a text. -/
def rangeGroups (text : Str) : Option (Str × Str) :=
  if ("bytes=" : Str) <+: text then
    let start := (text.drop 6).takeWhile Char.isDigit
    match (text.drop 6).dropWhile Char.isDigit with
    | '-' :: rest => if start ≠ [] then some (start, rest.takeWhile Char.isDigit) else none
    | _ => none
  else none

inductive RangeRequest where
  | whole
  | malformed
  | part (start : ℕ) (last : Option ℕ)
  deriving DecidableEq

def rangeRequest (header : Option Str) : RangeRequest :=
  match header with
  | none => .whole
  | some text =>
    if ("bytes=" : Str) <+: text then
      match text.tails.findSome? rangeGroups with
      | none => .whole
      | some (first, last) =>
        match parseInt first, (if last = [] then some none else (parseInt last).map some) with
        | some start, some last => .part start last
        | _, _ => .malformed
    else .whole

/-- `f.seek(start)` and `f.read(size)`; `-1` reads to the end, and a buffer that cannot be
allocated raises. -/
def readChunk (readLimit : ℕ) (content : List UInt8) (start : ℕ) (size : ℤ) : Option (List UInt8) :=
  if size = -1 then readAll readLimit (content.drop start)
  else if 0 ≤ size ∧ size ≤ readLimit then some ((content.drop start).take size.toNat)
  else none

section Handlers
variable {σ : Type}

def contentType (filename : Str) : Str :=
  if (".sh" : Str) <:+ filename then "text/x-shellscript"
  else if (".iso" : Str) <:+ filename then "application/x-iso9660-image"
  else "text/plain"

def sendResponse (code : ℕ) : Statement σ Sent Unit := send (.status code)

def sendHeader (name value : Str) : Statement σ Sent Unit := send (.header name value)

def endHeaders : Statement σ Sent Unit := send .endHeaders

def write (content : Content) : Statement σ Sent Unit := send (.body content)

def notFound : Statement σ Sent Unit := do
  sendResponse 404
  endHeaders

/-- `os.path.join(JOBS_DIR, job_id, filename)`. -/
def automationFile (job filename : Str) : Str := osPathJoin (jobDir job) filename

/-- `job_id` and `filename`, the third and fourth piece of the path. -/
def automationParts (path : Str) : Option (Str × Str) :=
  match split '/' path with
  | _ :: _ :: job :: filename :: _ => some (job, filename)
  | _ => none

def headFile (now : Str) (filename : Str) (object : FsObject) : Statement σ Sent Unit := do
  sendResponse 200
  sendHeader "Server" "Python/3.x ThreadedHTTPServer"
  sendHeader "Date" now
  sendHeader "Content-Type" (contentType filename)
  sendHeader "Content-Length" (decimal object.size)
  sendHeader "Accept-Ranges" "bytes"
  sendHeader "Connection" "keep-alive"
  endHeaders
  exit

def headAutomation (disk : Storage) (now path : Str) : Statement σ Sent Unit :=
  attempt <| match automationParts path with
    | some (job, filename) => match disk (automationFile job filename) with
      | some object => headFile now filename object
      | none => pure ()
    | none => pure ()

def doHead (disk : Storage) (now path : Str) : Statement σ Sent Unit :=
  if ("/automation" : Str) <+: path then do
    headAutomation disk now path
    notFound
  else do
    sendResponse 200
    sendHeader "Content-Type" "application/octet-stream"
    endHeaders

/-- `os.path.join("/work/configServer/http", self.path.lstrip("/"))`. -/
def customOsFile (path : Str) : Str :=
  osPathJoin "/work/configServer/http" (path.dropWhile (· = '/'))

def sendCustomOs (readLimit : ℕ) (object : FsObject) : Statement σ Sent Unit := do
  sendResponse 200
  sendHeader "Content-Type" "application/octet-stream"
  sendHeader "Content-Length" (decimal object.size)
  sendHeader "Connection" "keep-alive"
  endHeaders
  let content ← orRaise (object.read? readLimit)
  write (.bytes content)
  exit

def customOsBlock (disk : Storage) (readLimit : ℕ) (path : Str) : Statement σ Sent Unit :=
  onlyIf (("/customOS/" : Str) <+: path) <| attempt <| match disk (customOsFile path) with
    | some object => sendCustomOs readLimit object
    | none => pure ()

def sendPart (readLimit : ℕ) (filename : Str) (object : FsObject) (start : ℕ) (last : Option ℕ) :
    Statement σ Sent Unit :=
  if object.size ≤ start then do
    sendResponse 416
    sendHeader "Content-Range" (("bytes */" : Str) ++ decimal object.size)
    endHeaders
    exit
  else
    let last : ℤ := last.elim (object.size - 1) Nat.cast
    let chunkSize := last - start + 1
    do
      sendResponse 206
      sendHeader "Content-Type" (contentType filename)
      sendHeader "Accept-Ranges" "bytes"
      sendHeader "Content-Range" (("bytes " : Str) ++ decimal start ++ ("-" : Str) ++
        compactInt last ++
        ("/" : Str) ++ decimal object.size)
      sendHeader "Content-Length" (compactInt chunkSize)
      endHeaders
      let content ← orRaise object.open?
      let chunk ← orRaise (readChunk readLimit content start chunkSize)
      write (.bytes chunk)
      exit

def sendWhole (readLimit : ℕ) (filename : Str) (object : FsObject) : Statement σ Sent Unit := do
  sendResponse 200
  sendHeader "Content-Type" (contentType filename)
  endHeaders
  let content ← orRaise (object.read? readLimit)
  write (.bytes content)
  exit

/-- An existing file: a part of it if the client asks for one. -/
def sendFile (readLimit : ℕ) (range : Option Str) (filename : Str) (object : FsObject) :
    Statement σ Sent Unit :=
  match rangeRequest range with
  | .whole => sendWhole readLimit filename object
  | .malformed => raise
  | .part start last => sendPart readLimit filename object start last

def automationBlock (disk : Storage) (readLimit : ℕ) (range : Option Str) (path : Str) :
    Statement σ Sent Unit :=
  onlyIf (("/automation/" : Str) <+: path) <| attempt <| match automationParts path with
    | some (job, filename) => match disk (automationFile job filename) with
      | some object => sendFile readLimit range filename object
      | none => pure ()
    | none => pure ()

def webBlock (path : Str) : Statement σ Sent Unit :=
  onlyIf (("/web/" : Str) <+: path) do
    sendResponse 302
    sendHeader "Location" (("http://" : Str) ++ path.drop 5)
    endHeaders
    exit

/-- `do_GET` after the status and launcher blocks. -/
def serveFiles (disk : Storage) (readLimit : ℕ) (range : Option Str) (path : Str) :
    Statement σ Sent Unit := do
  customOsBlock disk readLimit path
  automationBlock disk readLimit range path
  webBlock path
  notFound

end Handlers

section Effects
variable {σ : Type} {disk : Storage} {now path filename : Str} {readLimit : ℕ} {range : Option Str}
  {object : FsObject} {s : σ}

theorem run_notFound : (notFound : Statement σ Sent Unit).run s =
    ⟨[.status 404, .endHeaders], s, .value ()⟩ := rfl

theorem not_prefix_of_prefix {front front' : Str} (h : front <+: path) (hne : ¬ front <+: front')
    (hne' : ¬ front' <+: front) : ¬ front' <+: path := by
  intro h'
  rcases List.prefix_or_prefix_of_prefix h h' with hp | hp
  · exact hne hp
  · exact hne' hp

theorem customOsBlock_skip (h : ¬ ("/customOS/" : Str) <+: path) :
    (customOsBlock disk readLimit path : Statement σ Sent Unit) = pure () := onlyIf_neg h _

theorem automationBlock_skip (h : ¬ ("/automation/" : Str) <+: path) :
    (automationBlock disk readLimit range path : Statement σ Sent Unit) = pure () := onlyIf_neg h _

theorem webBlock_skip (h : ¬ ("/web/" : Str) <+: path) :
    (webBlock path : Statement σ Sent Unit) = pure () := onlyIf_neg h _

/-- Only the block of the path's own area does anything; what does not return there is
answered with 404. -/
theorem serveFiles_customOs (h : ("/customOS/" : Str) <+: path) :
    (serveFiles disk readLimit range path).run s =
      ((customOsBlock disk readLimit path).run s).andThen fun _ => notFound := by
  have hautomation : ¬ ("/automation/" : Str) <+: path :=
    not_prefix_of_prefix h (by decide) (by decide)
  have hweb : ¬ ("/web/" : Str) <+: path := not_prefix_of_prefix h (by decide) (by decide)
  simp only [serveFiles, automationBlock_skip hautomation, webBlock_skip hweb, value_bind, run_bind]

theorem serveFiles_automation (h : ("/automation/" : Str) <+: path) :
    (serveFiles disk readLimit range path).run s =
      ((automationBlock disk readLimit range path).run s).andThen fun _ => notFound := by
  have hcustom : ¬ ("/customOS/" : Str) <+: path := not_prefix_of_prefix h (by decide) (by decide)
  have hweb : ¬ ("/web/" : Str) <+: path := not_prefix_of_prefix h (by decide) (by decide)
  simp only [serveFiles, customOsBlock_skip hcustom, webBlock_skip hweb, value_bind, run_bind]

theorem serveFiles_web (h : ("/web/" : Str) <+: path) :
    (serveFiles disk readLimit range path).run s =
      ⟨[.status 302, .header "Location" (("http://" : Str) ++ path.drop 5), .endHeaders], s,
        .returned⟩ := by
  have hcustom : ¬ ("/customOS/" : Str) <+: path := not_prefix_of_prefix h (by decide) (by decide)
  have hautomation : ¬ ("/automation/" : Str) <+: path :=
    not_prefix_of_prefix h (by decide) (by decide)
  rw [serveFiles, customOsBlock_skip hcustom, value_bind,
    automationBlock_skip hautomation, value_bind, webBlock, onlyIf_pos h]
  rfl

theorem serveFiles_other (hcustom : ¬ ("/customOS/" : Str) <+: path)
    (hautomation : ¬ ("/automation/" : Str) <+: path) (hweb : ¬ ("/web/" : Str) <+: path) :
    (serveFiles disk readLimit range path).run s = ⟨[.status 404, .endHeaders], s, .value ()⟩ := by
  rw [serveFiles, customOsBlock_skip hcustom, value_bind,
    automationBlock_skip hautomation, value_bind, webBlock_skip hweb, value_bind, run_notFound]

section CustomOs
variable (h : ("/customOS/" : Str) <+: path)
include h

theorem customOs_missing (hdisk : disk (customOsFile path) = none) :
    (serveFiles disk readLimit range path).run s = ⟨[.status 404, .endHeaders], s, .value ()⟩ := by
  rw [serveFiles_customOs h, customOsBlock, onlyIf_pos h, hdisk]
  rfl

/-- The headers announce the size; then the file is opened. -/
theorem customOs_found (hdisk : disk (customOsFile path) = some object) :
    (serveFiles disk readLimit range path).run s =
      ((attempt (sendCustomOs readLimit object)).run s).andThen fun _ => notFound := by
  rw [serveFiles_customOs h, customOsBlock, onlyIf_pos h, hdisk]

end CustomOs

/-- The path names an object in the area of the jobs. -/
def Finds (disk : Storage) (path filename : Str) (object : FsObject) : Prop :=
  ∃ job, automationParts path = some (job, filename) ∧
    disk (automationFile job filename) = some object

theorem Finds.unique {filename' : Str} {object' : FsObject} (h : Finds disk path filename object)
    (h' : Finds disk path filename' object') : filename = filename' ∧ object = object' := by
  obtain ⟨job, hparts, hdisk⟩ := h
  obtain ⟨job', hparts', hdisk'⟩ := h'
  rw [hparts] at hparts'
  cases hparts'
  rw [hdisk] at hdisk'
  cases hdisk'
  exact ⟨rfl, rfl⟩

theorem missing_of_not_finds (h : ¬ ∃ filename object, Finds disk path filename object) :
    ∀ job filename, automationParts path = some (job, filename) →
      disk (automationFile job filename) = none := by
  intro job filename hparts
  cases hdisk : disk (automationFile job filename) with
  | none => rfl
  | some object => exact absurd ⟨filename, object, job, hparts, hdisk⟩ h

section Automation
variable (h : ("/automation/" : Str) <+: path)
include h

theorem automation_missing (hmissing : ¬ ∃ filename object, Finds disk path filename object) :
    (serveFiles disk readLimit range path).run s = ⟨[.status 404, .endHeaders], s, .value ()⟩ := by
  rw [serveFiles_automation h, automationBlock, onlyIf_pos h]
  cases hparts : automationParts path with
  | none => rfl
  | some parts =>
    obtain ⟨job, filename⟩ := parts
    dsimp only
    rw [missing_of_not_finds hmissing job filename hparts]
    rfl

theorem automation_found (hfound : Finds disk path filename object) :
    (serveFiles disk readLimit range path).run s =
      ((attempt (sendFile readLimit range filename object)).run s).andThen fun _ => notFound := by
  obtain ⟨job, hparts, hdisk⟩ := hfound
  rw [serveFiles_automation h, automationBlock, onlyIf_pos h, hparts]
  dsimp only
  rw [hdisk]

end Automation

def customOsHeaders (object : FsObject) : List Sent :=
  [.status 200, .header "Content-Type" "application/octet-stream",
    .header "Content-Length" (decimal object.size), .header "Connection" "keep-alive", .endHeaders]

def wholeHeaders (filename : Str) : List Sent :=
  [.status 200, .header "Content-Type" (contentType filename), .endHeaders]

/-- The end of a response with a body, once the content has been read. -/
def sendContent (content : Option (List UInt8)) : Statement σ Sent Unit := do
  let content ← orRaise content
  write (.bytes content)
  exit

theorem run_sendCustomOs_read {content : List UInt8} (h : object.read? readLimit = some content) :
    (sendCustomOs readLimit object).run s =
      ⟨customOsHeaders object ++ [.body (.bytes content)], s, .returned⟩ := by
  change ((sendContent (object.read? readLimit)).run s).after (customOsHeaders object) = _
  rw [h]
  rfl

theorem run_sendCustomOs_unread (h : object.Unreadable readLimit) :
    (sendCustomOs readLimit object).run s = ⟨customOsHeaders object, s, .raised⟩ := by
  change ((sendContent (object.read? readLimit)).run s).after (customOsHeaders object) = _
  rw [FsObject.read?_eq_none_iff.mpr h]
  rfl

theorem run_sendWhole_read {content : List UInt8} (h : object.read? readLimit = some content) :
    (sendWhole readLimit filename object).run s =
      ⟨wholeHeaders filename ++ [.body (.bytes content)], s, .returned⟩ := by
  change ((sendContent (object.read? readLimit)).run s).after (wholeHeaders filename) = _
  rw [h]
  rfl

theorem run_sendWhole_unread (h : object.Unreadable readLimit) :
    (sendWhole readLimit filename object).run s = ⟨wholeHeaders filename, s, .raised⟩ := by
  change ((sendContent (object.read? readLimit)).run s).after (wholeHeaders filename) = _
  rw [FsObject.read?_eq_none_iff.mpr h]
  rfl

/-- The last byte of a range; without one the file is sent to its end. -/
def lastByte (size : ℕ) (last : Option ℕ) : ℤ := last.elim (size - 1) Nat.cast

def partHeaders (filename : Str) (object : FsObject) (start : ℕ) (last : Option ℕ) : List Sent :=
  [.status 206, .header "Content-Type" (contentType filename), .header "Accept-Ranges" "bytes",
    .header "Content-Range" (("bytes " : Str) ++ decimal start ++ ("-" : Str) ++
      compactInt (lastByte object.size last) ++ ("/" : Str) ++ decimal object.size),
    .header "Content-Length" (compactInt (lastByte object.size last - start + 1)), .endHeaders]

section Part
variable {start : ℕ} {last : Option ℕ} {content : List UInt8}

theorem run_sendPart_unsatisfiable (h : object.size ≤ start) :
    (sendPart readLimit filename object start last).run s =
      ⟨[.status 416, .header "Content-Range" (("bytes */" : Str) ++ decimal object.size),
        .endHeaders],
        s, .returned⟩ := by
  rw [sendPart, if_pos h]
  rfl

def sendChunk (readLimit : ℕ) (object : FsObject) (start : ℕ) (last : Option ℕ) :
    Statement σ Sent Unit := do
  let content ← orRaise object.open?
  sendContent (readChunk readLimit content start (lastByte object.size last - start + 1))

theorem run_sendPart (h : start < object.size) :
    (sendPart readLimit filename object start last).run s =
      ((sendChunk readLimit object start last).run s).after
        (partHeaders filename object start last) := by
  rw [sendPart, if_neg (Nat.not_le.mpr h)]
  rfl

theorem run_sendChunk_unread
    (h : readChunk readLimit content start (lastByte content.length last - start + 1) = none) :
    (sendChunk readLimit (.file content) start last).run s = ⟨[], s, .raised⟩ := by
  change (sendContent (readChunk readLimit content start
    (lastByte content.length last - start + 1))).run s = _
  rw [h]
  rfl

theorem run_sendChunk_read {chunk : List UInt8}
    (h : readChunk readLimit content start (lastByte content.length last - start + 1) =
      some chunk) :
    (sendChunk readLimit (.file content) start last).run s =
      ⟨[.body (.bytes chunk)], s, .returned⟩ := by
  change (sendContent (readChunk readLimit content start
    (lastByte content.length last - start + 1))).run s = _
  rw [h]
  rfl

end Part

theorem doHead_other (h : ¬ ("/automation" : Str) <+: path) :
    (doHead disk now path).run s = ⟨[.status 200, .header "Content-Type" "application/octet-stream",
      .endHeaders], s, .value ()⟩ := by
  rw [doHead, if_neg h]
  rfl

section Head
variable (h : ("/automation" : Str) <+: path)
include h

theorem doHead_missing (hmissing : ¬ ∃ filename object, Finds disk path filename object) :
    (doHead disk now path).run s = ⟨[.status 404, .endHeaders], s, .value ()⟩ := by
  rw [doHead, if_pos h, run_bind, headAutomation]
  cases hparts : automationParts path with
  | none => rfl
  | some parts =>
    obtain ⟨job, filename⟩ := parts
    dsimp only
    rw [missing_of_not_finds hmissing job filename hparts]
    rfl

theorem doHead_found (hfound : Finds disk path filename object) :
    (doHead disk now path).run s =
      ⟨[.status 200, .header "Server" "Python/3.x ThreadedHTTPServer", .header "Date" now,
        .header "Content-Type" (contentType filename),
        .header "Content-Length" (decimal object.size), .header "Accept-Ranges" "bytes",
        .header "Connection" "keep-alive", .endHeaders], s, .returned⟩ := by
  obtain ⟨job, hparts, hdisk⟩ := hfound
  rw [doHead, if_pos h, run_bind, headAutomation, hparts]
  dsimp only
  rw [hdisk]
  rfl

end Head

theorem stateless_notFound : Stateless (notFound : Statement σ Sent Unit) :=
  Stateless.bind (stateless_send _) fun _ => stateless_send _

theorem stateless_sendContent (content : Option (List UInt8)) :
    Stateless (sendContent content : Statement σ Sent Unit) :=
  Stateless.bind (stateless_orRaise _) fun _ => Stateless.bind (stateless_send _) fun _ =>
    stateless_exit

theorem stateless_sendCustomOs (readLimit : ℕ) (object : FsObject) :
    Stateless (sendCustomOs readLimit object : Statement σ Sent Unit) := by
  repeat refine Stateless.bind (stateless_send _) fun _ => ?_
  exact stateless_sendContent _

theorem stateless_sendWhole (readLimit : ℕ) (filename : Str) (object : FsObject) :
    Stateless (sendWhole readLimit filename object : Statement σ Sent Unit) := by
  repeat refine Stateless.bind (stateless_send _) fun _ => ?_
  exact stateless_sendContent _

theorem stateless_sendPart (readLimit : ℕ) (filename : Str) (object : FsObject) (start : ℕ)
    (last : Option ℕ) : Stateless (sendPart readLimit filename object start last :
      Statement σ Sent Unit) := by
  unfold sendPart
  split
  · repeat refine Stateless.bind (stateless_send _) fun _ => ?_
    exact stateless_exit
  · repeat refine Stateless.bind (stateless_send _) fun _ => ?_
    exact Stateless.bind (stateless_orRaise _) fun _ => stateless_sendContent _

theorem stateless_sendFile (readLimit : ℕ) (range : Option Str) (filename : Str)
    (object : FsObject) :
    Stateless (sendFile readLimit range filename object : Statement σ Sent Unit) := by
  unfold sendFile
  split
  · exact stateless_sendWhole readLimit filename object
  · exact stateless_raise
  · exact stateless_sendPart readLimit filename object _ _

theorem stateless_serveFiles (disk : Storage) (readLimit : ℕ) (range : Option Str) (path : Str) :
    Stateless (serveFiles disk readLimit range path : Statement σ Sent Unit) := by
  refine Stateless.bind (Stateless.onlyIf (Stateless.attempt ?_) _) fun _ =>
    Stateless.bind (Stateless.onlyIf (Stateless.attempt ?_) _) fun _ =>
    Stateless.bind (Stateless.onlyIf ?_ _) fun _ => stateless_notFound
  · split
    · exact stateless_sendCustomOs readLimit _
    · exact stateless_pure ()
  · split
    · split
      · exact stateless_sendFile readLimit range _ _
      · exact stateless_pure ()
    · exact stateless_pure ()
  · repeat refine Stateless.bind (stateless_send _) fun _ => ?_
    exact stateless_exit

theorem stateless_doHead (disk : Storage) (now path : Str) :
    Stateless (doHead disk now path : Statement σ Sent Unit) := by
  unfold doHead
  split
  · refine Stateless.bind (Stateless.attempt ?_) fun _ => stateless_notFound
    split
    · split
      · repeat refine Stateless.bind (stateless_send _) fun _ => ?_
        exact stateless_exit
      · exact stateless_pure ()
    · exact stateless_pure ()
  · repeat refine Stateless.bind (stateless_send _) fun _ => ?_
    exact stateless_send _

end Effects

end Astro.FileServing
