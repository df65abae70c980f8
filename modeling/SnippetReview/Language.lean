import SnippetReview.Text.Blank
import SnippetReview.Text.LowerCase

/-!
# Languages

Six languages are known by name. A snippet may be in any language: what the user writes is
brought to its normal form, which is the display name of a known language where the spelling is
one of its aliases, and the trimmed text otherwise. A file name tells the language by the last
extension of its last component.
-/

namespace SnippetReview

/-- The languages known by name. -/
inductive Language
  | cpp
  | java
  | python
  | javaScript
  | typeScript
  | go
  deriving DecidableEq

namespace Language

/-- The known languages in the order in which they are offered. -/
def all : List Language := [cpp, java, python, javaScript, typeScript, go]

/-- The display name. -/
def name : Language → Text
  | cpp => "C++".toList
  | java => "Java".toList
  | python => "Python".toList
  | javaScript => "JavaScript".toList
  | typeScript => "TypeScript".toList
  | go => "Go".toList

/-- The lower-case spellings under which a language is found. -/
def aliases : Language → List Text
  | cpp => ["c++".toList, "cpp".toList, "cxx".toList]
  | java => ["java".toList]
  | python => ["python".toList, "py".toList, "python3".toList]
  | javaScript => ["javascript".toList, "js".toList, "node".toList]
  | typeScript => ["typescript".toList, "ts".toList]
  | go => ["go".toList, "golang".toList]

/-- The lower-case file extensions of a language, without the dot. -/
def extensions : Language → List Text
  | cpp => ["cpp".toList, "cc".toList, "cxx".toList, "hpp".toList, "hh".toList, "h".toList]
  | java => ["java".toList]
  | python => ["py".toList, "pyw".toList]
  | javaScript => ["js".toList, "jsx".toList, "mjs".toList, "cjs".toList]
  | typeScript => ["ts".toList, "tsx".toList]
  | go => ["go".toList]

/-- Whether the statements of a language are closed with a terminator. -/
def closesStatements : Language → Bool
  | cpp | java | javaScript | typeScript => true
  | python | go => false

/-- The language with the given display name. -/
def ofName? (s : Text) : Option Language := all.find? fun l => l.name == s

/-- The language with the given lower-case alias. -/
def ofAlias? (s : Text) : Option Language := all.find? fun l => l.aliases.contains s

/-- The language with the given lower-case file extension. -/
def ofExtension? (s : Text) : Option Language := all.find? fun l => l.extensions.contains s

/-- The language offered first. -/
def first : Language := cpp

/-! ## The normal form of a language -/

/-- The normal form of what the user calls a language: the display name if it is an alias in
any case, otherwise the text itself without the blanks around it. -/
def normalize (s : Text) : Text :=
  match ofAlias? (Text.toLower (Text.trim s)) with
  | some l => l.name
  | none => Text.trim s

/-- Whether statements in the language are closed with a terminator; not so in languages that
are not known. -/
def usesTerminator (s : Text) : Bool :=
  match ofName? (normalize s) with
  | some l => l.closesStatements
  | none => false

/-! ## The language of a file -/

/-- Whether a character separates the components of a file name. -/
def isPathSeparator (c : Char) : Bool := c == '/' || c == '\\'

/-- The last component of a file name. -/
def baseName (path : Text) : Text :=
  (path.reverse.takeWhile fun c => !isPathSeparator c).reverse

/-- The last extension of a base name, without its dot. Dots at the front of the name begin no
extension. -/
def extension? (base : Text) : Option Text :=
  match base.reverse.dropWhile (· != '.') with
  | [] => none
  | _ :: stem =>
    if stem.all (· == '.') then none
    else some (base.reverse.takeWhile (· != '.')).reverse

/-- The language that a file name tells. -/
def ofFileName? (path : Text) : Option Language :=
  (extension? (baseName path)).bind fun ext => ofExtension? (Text.toLower ext)

end Language

end SnippetReview
