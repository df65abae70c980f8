import SnippetReview.Form.Fault
import SnippetReview.Form.Fields
import SnippetReview.Form.Header
import SnippetReview.Text.Charset

/-!
# Multipart forms

The parts of a multipart form are separated by lines that consist of two hyphens and a boundary;
two more hyphens after the boundary end the form, and what follows them is passed over. A part has
header lines, an empty line and its data. The disposition of a part names its field; a part with a
file name is a file. `Multipart.fields` reads the parts in order and stops at the first fault. A
part that the end of the body cuts off is no field.
-/

namespace SnippetReview

namespace Form

namespace Multipart

/-- Why reading stops before a part is complete. -/
inductive Stop
  | endOfBody
  | fault (f : Fault)
  deriving DecidableEq

/-- What is read from the front of the bytes, and the bytes after it. -/
abbrev Reading (α : Type) := Except Stop (α × Bytes)

/-! ## Header lines -/

/-- The byte that begins the end of a line. -/
def carriageReturn : UInt8 := 0x0D

/-- The end of a line. -/
def lineEnd : Bytes := [carriageReturn, 0x0A]

/-- The hyphen. -/
def hyphen : UInt8 := 0x2D

/-- Two hyphens. -/
def hyphens : Bytes := [hyphen, hyphen]

/-- The colon between a name and a value. -/
def colon : UInt8 := 0x3A

/-- The characters of the names of headers apart from letters and digits. -/
def nameSigns : Text := "!#$%&'*+-.^_`|~".toList

/-- Whether a byte may stand in the name of a header. -/
def isNameByte (b : UInt8) : Bool :=
  let c := Char.ofNat b.toNat
  c.isAlphanum || nameSigns.contains c

/-- A header line: its name in lower case, and its value. -/
structure HeaderLine where
  name : Text
  value : Text
  deriving DecidableEq

/-- The most header lines of a part. -/
def maxHeaderLines : Nat := 8

/-- The most bytes of a header line, without its end. -/
def maxHeaderBytes : Nat := 4096 + 128

/-- Passes the end of a line. -/
def passLineEnd : Bytes → Except Stop Bytes
  | 0x0D :: 0x0A :: rest => .ok rest
  | [0x0D] | [] => .error .endOfBody
  | _ => .error (.fault .badParts)

/-- Reads a header line. -/
def headerLine (bytes : Bytes) : Reading HeaderLine :=
  let line := bytes.takeWhile (· != carriageReturn)
  let name := line.takeWhile isNameByte
  if maxHeaderBytes < line.length then .error (.fault .badParts)
  else
    match bytes.drop name.length with
    | [] => .error .endOfBody
    | b :: _ =>
      if b ≠ colon ∨ name.isEmpty then .error (.fault .badParts)
      else
        let value := (line.drop (name.length + 1)).dropWhile (· == 0x20)
        (passLineEnd (bytes.drop line.length)).map fun rest =>
          (⟨Text.toLower (Bytes.toLatin1 name), Bytes.toLatin1 value⟩, rest)

/-- Reads header lines up to the empty line, at most as many as `room` says; `done` are those so
far, latest first. -/
def headerLines (room : Nat) (done : List HeaderLine) (bytes : Bytes) :
    Reading (List HeaderLine) :=
  if bytes.head? = some carriageReturn then
    (passLineEnd bytes).map fun rest => (done.reverse, rest)
  else
    match room with
    | 0 => if bytes.isEmpty then .error .endOfBody else .error (.fault .badParts)
    | n + 1 =>
      match headerLine bytes with
      | .error stop => .error stop
      | .ok (line, rest) => headerLines n (line :: done) rest

/-! ## Dispositions -/

/-- What the disposition of a part tells, in bytes: the name of its field, and the name of the file
if the part is one. -/
structure Disposition where
  name : Bytes
  fileName : Option Bytes
  deriving DecidableEq

/-- The name of a file without the folders on a drive or a share that some senders tell. -/
def withoutFolders (fileName : Text) : Text :=
  match fileName with
  | '\\' :: '\\' :: _ | _ :: ':' :: '\\' :: _ =>
    (fileName.reverse.takeWhile (· != '\\')).reverse
  | _ => fileName

/-- The disposition that header lines tell; the last line with it counts. -/
def Disposition.ofLines? (lines : List HeaderLine) : Option Disposition := do
  let line ← lines.reverse.find? fun l => l.name == "content-disposition".toList
  let header := Header.parse line.value
  let name ← header.parameter? "name"
  let fileName := (header.parameter? "filename").map withoutFolders
  some ⟨Bytes.ofLatin1 name, fileName.map Bytes.ofLatin1⟩

/-! ## Admission -/

/-- How many fields there may still be. -/
structure Room where
  fields : Nat
  files : Nat

/-- The room that is left after a part. -/
def Room.after (r : Room) (d : Disposition) : Except Fault Room :=
  match d.fileName, r with
  | some _, ⟨_, 0⟩ => .error .tooManyFiles
  | some _, ⟨fields, files + 1⟩ => .ok ⟨fields, files⟩
  | none, ⟨0, _⟩ => .error .tooManyFields
  | none, ⟨fields + 1, files⟩ => .ok ⟨fields, files⟩

theorem Room.after_lt {r s : Room} {d : Disposition} (h : r.after d = .ok s) :
    s.fields + s.files < r.fields + r.files := by
  unfold Room.after at h
  split at h
  · cases h
  · cases h
    simp
  · cases h
  · cases h
    simp only
    omega

/-- The names of a part that has been admitted: that of its field, and that of the file if it is
one. -/
structure Part where
  name : Text
  fileName : Option Text
  deriving DecidableEq

/-- The code points of bytes in a character set that may refuse them. -/
def readPoints (charset : Charset) (bytes : Bytes) : Except Fault RawText :=
  match charset.decode? bytes with
  | some p => .ok p
  | none => .error .unreadable

/-- The name that bytes are. No name that is asked for holds a lone surrogate or what stands for
one. -/
def readName (charset : Charset) (bytes : Bytes) : Except Fault Text :=
  (readPoints charset bytes).map RawText.legible

/-- Admits a part, and tells the room that is left. Its names are read one before and one after the
room is looked at. -/
def Room.admit (r : Room) (charset : Charset) (d : Disposition) : Except Fault (Part × Room) :=
  match readName charset d.name, r.after d, d.fileName.mapM (readName charset) with
  | .error f, _, _ | .ok _, .error f, _ | .ok _, .ok _, .error f => .error f
  | .ok name, .ok left, .ok fileName => .ok (⟨name, fileName⟩, left)

theorem Room.admit_lt {r : Room} {charset : Charset} {d : Disposition} {p : Part} {s : Room}
    (h : r.admit charset d = .ok (p, s)) : s.fields + s.files < r.fields + r.files := by
  unfold Room.admit at h
  split at h
  · cases h
  · cases h
  · cases h
  · cases h
    exact Room.after_lt (by assumption)

/-! ## Data -/

/-- The most bytes of a file that are kept in memory. -/
def maxMemoryBytes : Nat := 1024 * kibibyte

/-- Where the data of a file are kept. -/
def storageOf (data : Bytes) : Upload.Storage :=
  if maxMemoryBytes < data.length then .disk else .memory

/-- The value of a part with the given data. -/
def Part.value (charset : Charset) (p : Part) (data : Bytes) : Except Fault Value :=
  match p.fileName with
  | some fileName => .ok (.file ⟨some fileName, data, storageOf data⟩)
  | none => (readPoints charset data).map .ofPoints

/-- Whether data of the given length are too long for the part. -/
def Part.isOverfull (p : Part) (length : Nat) : Bool :=
  p.fileName.isNone && maxTextBytes < length

/-! ## Parts -/

/-- What follows a boundary. -/
inductive Turn
  | anotherPart
  | endOfForm
  deriving DecidableEq

/-- What stands in front of every part: the end of a line, two hyphens and the boundary. -/
def delimiter (boundary : Bytes) : Bytes := lineEnd ++ hyphens ++ boundary

/-- Passes a delimiter with what follows it, if they stand at the front of the bytes. -/
def turn? (delimiter bytes : Bytes) : Option (Turn × Bytes) :=
  if delimiter.isPrefixOf bytes then
    match bytes.drop delimiter.length with
    | 0x0D :: 0x0A :: rest => some (.anotherPart, rest)
    | 0x2D :: 0x2D :: rest => some (.endOfForm, rest)
    | _ => none
  else none

/-- Reads data up to a delimiter; `done` are the data so far, latest first. -/
def dataFrom (delimiter done : Bytes) : Bytes → Reading (Bytes × Turn)
  | [] => .error .endOfBody
  | b :: rest =>
    match turn? delimiter (b :: rest) with
    | some (turn, after) => .ok ((done.reverse, turn), after)
    | none => dataFrom delimiter (b :: done) rest

/-- Reads the rest of the form from the header lines of a part on; `done` are the fields so far,
latest first. -/
def fieldsFrom (delimiter : Bytes) (charset : Charset) (room : Room) (done : Fields)
    (bytes : Bytes) : Except Fault Fields :=
  match headerLines maxHeaderLines [] bytes with
  | .error .endOfBody => .ok done.reverse
  | .error (.fault f) => .error f
  | .ok (lines, rest) =>
    match Disposition.ofLines? lines with
    | none => .error .noName
    | some d =>
      match _h : room.admit charset d with
      | .error f => .error f
      | .ok (part, left) =>
        match dataFrom delimiter [] rest with
        | .error _ => if part.isOverfull rest.length then .error .longPart else .ok done.reverse
        | .ok ((data, turn), after) =>
          if part.isOverfull data.length then .error .longPart
          else
            match part.value charset data with
            | .error f => .error f
            | .ok value =>
              let fields := (part.name, value) :: done
              match turn with
              | .endOfForm => .ok fields.reverse
              | .anotherPart => fieldsFrom delimiter charset left fields after
  termination_by room.fields + room.files
  decreasing_by exact Room.admit_lt (by assumption)

/-! ## The form -/

/-- The most bytes of a boundary. -/
def maxBoundaryBytes : Nat := 256

/-- Whether the body ends before or with the first boundary line. -/
def hasNoPart (boundary bytes : Bytes) : Bool :=
  [lineEnd, hyphens].any fun close => bytes.isPrefixOf (hyphens ++ boundary ++ close)

/-- The fields of a form with the given boundary. What stands before the first hyphen is passed
over, and the first boundary line has to begin there. -/
def fields (charset : Charset) (boundary body : Bytes) : Except Fault Fields :=
  let bytes := body.dropWhile (· != hyphen)
  if maxBoundaryBytes < boundary.length then .error .badParts
  else if hasNoPart boundary bytes then .ok []
  else
    match turn? (delimiter boundary) (lineEnd ++ bytes) with
    | none => .error .badParts
    | some (.endOfForm, _) => .ok []
    | some (.anotherPart, rest) =>
      fieldsFrom (delimiter boundary) charset ⟨maxFields, maxFiles⟩ [] rest

end Multipart

end Form

end SnippetReview
