import SnippetReview.Submission
import SnippetReview.Text.Utf8

/-!
# Uploads

A file may be sent along with a submission. Code that was pasted wins over the file, and a language
that was chosen wins over the one that the file name tells. A file with more than four bytes for
every admitted character is rejected whatever else was sent; it is read no further than that. So
many bytes cannot always be asked for: their number has to fit into a word, and a file that has
been put aside on a disk is read into room that is made for all of them. How much room there is
depends on where the program runs.
-/

namespace SnippetReview

/-- Where the data of a file that was sent are kept. -/
inductive Upload.Storage
  | memory
  | disk
  deriving DecidableEq

/-- A file that was sent. -/
structure Upload where
  fileName : Option Text
  data : Bytes
  storage : Upload.Storage := .memory
  deriving DecidableEq

namespace Upload

/-- The byte order mark, which some programs put in front of a text. -/
def byteOrderMark : Char := '\uFEFF'

/-- The text of a file: its bytes as UTF-8 if they are that, otherwise one character per byte;
in both cases without byte order marks at the start. -/
def decode (data : Bytes) : Text :=
  ((Utf8.decode? data).getD data.toLatin1).dropWhile (· == byteOrderMark)

/-- The language that the name of the file tells. -/
def language? (file : Upload) : Option Text :=
  (file.fileName.bind Language.ofFileName?).map Language.name

/-- Whether the file has a name; without one no file was chosen. -/
def isNamed (file : Upload) : Bool := file.fileName.any fun n => !n.isEmpty

/-- The most bytes that a file may have. -/
def maxBytes (settings : Settings) : Int := settings.maxCodeChars * 4

/-- The number of bytes asked for when a file is read: one more than it may have. -/
def readSize (settings : Settings) : Int := maxBytes settings + 1

/-- The least number above those that fit into a signed word of 64 bits. -/
def wordLimit : Int := 0x8000000000000000

/-- The bytes that a sequence of bytes takes up besides its own. -/
def sequenceOverhead : Int := 33

/-- Why a file cannot be read. -/
inductive ReadError
  /-- The number of bytes asked for does not fit into a signed word. -/
  | sizeOutOfRange
  /-- A number below zero is asked for. -/
  | negativeSize
  /-- The length of the bytes asked for, with what they take up besides, does not fit into a
  signed word. -/
  | sequenceTooLarge
  /-- There is no room for the bytes asked for. -/
  | outOfMemory
  deriving DecidableEq

/-- The error in words. -/
def ReadError.message : ReadError → Text
  | sizeOutOfRange => "cannot fit 'int' into an index-sized integer".toList
  | negativeSize => "read length must be non-negative or -1".toList
  | sequenceTooLarge => "byte string is too large".toList
  | outOfMemory => []

/-- Why the given number of bytes cannot be read from where a file is kept, if it cannot: `room` is
the number of bytes that there is room for. What is in memory is read as far as it goes, and all of
it if the number is below zero. -/
def Storage.readError? (room size : Int) : Storage → Option ReadError
  | memory => if size < -wordLimit ∨ wordLimit ≤ size then some .sizeOutOfRange else none
  | disk =>
    if size < -wordLimit ∨ wordLimit ≤ size then some .sizeOutOfRange
    else if size < 0 then some .negativeSize
    else if wordLimit ≤ size + sequenceOverhead then some .sequenceTooLarge
    else if room < size then some .outOfMemory
    else none

end Upload

namespace Submission

/-- The submission with the code trimmed. -/
def trimCode (s : Submission) : Submission := ⟨s.language, some (Text.trim (s.code.getD []))⟩

/-- Fills a submission up from a file: its text where no code was pasted, the language its name
tells where none was chosen. -/
def fillFrom (file : Upload) (s : Submission) : Submission where
  language :=
    if Text.isBlankText (s.language.getD []) then file.language?.or s.language else s.language
  code := if Text.isBlankText (s.code.getD []) then some (Upload.decode file.data) else s.code

/-- Why a submission and a file are not put together. -/
inductive MergeError
  | rejected (reason : Rejection)
  | unread (e : Upload.ReadError)
  deriving DecidableEq

/-- The submission together with the file, its code trimmed. -/
def merge (room : Int) (settings : Settings) (file : Option Upload) (s : Submission) :
    Except MergeError Submission :=
  match file.filter Upload.isNamed with
  | none => .ok s.trimCode
  | some f =>
    match f.storage.readError? room (Upload.readSize settings) with
    | some e => .error (.unread e)
    | none =>
      if Upload.maxBytes settings < f.data.length then
        .error (.rejected (.uploadTooLarge settings.maxCodeChars))
      else .ok (s.fillFrom f).trimCode

end Submission

end SnippetReview
