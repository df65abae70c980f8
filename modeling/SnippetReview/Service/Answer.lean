import SnippetReview.Json.Write
import SnippetReview.Log
import SnippetReview.Page.Markup
import SnippetReview.Story
import SnippetReview.Text.LowerCase
import SnippetReview.Upload

/-!
# Requests and answers

An answer carries a JSON value, a page, a report to print or a text of the framework's, or nothing.
Its headers follow from what it carries, apart from the two that tell where to go and which method
is allowed. An exception may end the handling of a request before there is an answer; the framework
gives one then (`settle`).
-/

namespace SnippetReview

namespace Service

/-! ## Requests -/

/-- A request, with the scheme by which it was sent and the name of the server that it reached. -/
structure Request where
  scheme : Text
  server : Text
  method : Text
  path : Text
  query : Text
  headers : List (Text × Text)
  body : Bytes

/-- The value of the first header with a name, which is given in lower case. -/
def Request.header? (r : Request) (name : String) : Option Text :=
  (r.headers.find? fun h => Text.toLower h.1 == name.toList).map Prod.snd

/-- The address of the site that the request was sent to. -/
def Request.address (r : Request) : Text :=
  r.scheme ++ "://".toList ++ (r.header? "host").getD r.server

/-! ## Answers -/

/-- What an answer carries. -/
inductive Content
  | nothing
  | json (value : Json)
  | page (markup : Markup)
  | print (story : Story)
  /-- A text of a type, as the framework has it. -/
  | framework (type body : Text)

/-- An answer. -/
structure Answer where
  status : Nat
  content : Content
  allow : Option Text
  location : Option Text

namespace Content

/-- The content type. -/
def type? : Content → Option Text
  | nothing => none
  | json _ => some "application/json".toList
  | page _ => some "text/html; charset=utf-8".toList
  | print _ => some "application/pdf".toList
  | framework type _ => some type

/-- The content disposition: a report to print is a file. -/
def disposition? : Content → Option Text
  | print _ => some "attachment; filename=code_review.pdf".toList
  | _ => none

/-- Why a content has no form in UTF-8, if it has none. `marks` are the code points that stand in a
page where it shows the replacement character. -/
def encodeError? (marks : RawText) : Content → Option RawText.EncodeError
  | json value => value.write.encodeError?
  | page markup => (RawText.restore marks (markup.render Entities.page)).encodeError?
  | _ => none

end Content

namespace Answer

/-- An answer that carries something and has no headers of its own. -/
def of (status : Nat) (content : Content) : Answer := ⟨status, content, none, none⟩

/-- The headers of an answer. -/
def headers (a : Answer) : List (Text × Text) :=
  [("allow".toList, a.allow), ("content-disposition".toList, a.content.disposition?),
   ("content-type".toList, a.content.type?), ("location".toList, a.location)].filterMap
    fun (name, value?) => value?.map fun value => (name, value)

end Answer

/-- An answer together with all that was recorded on the way to it. -/
structure Reply where
  answer : Answer
  records : List Log.Record

/-- The reply with the records that are shown at a level. -/
def Reply.shownAt (level : Log.Level) (r : Reply) : Reply :=
  ⟨r.answer, Log.shown level r.records⟩

/-! ## Exceptions -/

/-- What ends the handling of a request. -/
inductive Crash
  /-- A file that was sent cannot be read. -/
  | unread (e : Upload.ReadError)
  /-- What is to be sent has no form in UTF-8. -/
  | unencodable (e : RawText.EncodeError)
  deriving DecidableEq

/-- The exception in words. -/
def Crash.message : Crash → Text
  | unread e => e.message
  | unencodable e => e.message

/-- The end of the handling of a request: what ended it, and what had been recorded by then. -/
structure Abort where
  cause : Crash
  records : List Log.Record

/-- The answer that the framework gives when an exception has ended the handling of a request. -/
def serverError : Answer :=
  .of 500 (.framework "text/plain; charset=utf-8".toList "Internal Server Error".toList)

/-- The reply to a request whose handling has come to this. -/
def settle : Except Abort Reply → Reply
  | .ok sent => sent
  | .error abort => ⟨serverError, abort.records⟩

/-- The reply as it is sent, unless what it carries has no form in UTF-8. -/
def Reply.encoded (marks : RawText) (r : Reply) : Except Abort Reply :=
  match r.answer.content.encodeError? marks with
  | some e => .error ⟨.unencodable e, r.records⟩
  | none => .ok r

/-! ## The platform -/

/-- What the framework tells of the program by itself. -/
inductive Documentation
  | schema
  | guide
  | signIn
  | reference
  deriving DecidableEq

/-- What the program finds where it runs. -/
structure Platform where
  /-- How many containers may be open around another one in JSON. -/
  maxDepth : Nat
  /-- The number of bytes that there is room for when a file is read from a disk. -/
  room : Int
  /-- How the framework tells a file in an object. -/
  fileObject : Upload → Json
  /-- What the framework tells of the program. -/
  documentation : Documentation → Text
  /-- The methods by which it is asked for, in the order in which the framework lists them. -/
  documentationMethods : Text

end Service

end SnippetReview
