import SnippetReview.Line.BlockOpening

/-!
# Statements without a terminator

A line needs a terminator if it looks like a statement and does not end with one. It looks like
a statement if it holds one of a few telling words and is neither blank nor a comment nor the
start or end of a block. All this is asked of one line alone, and nothing is known of strings or
of comments that began on an earlier line.
-/

namespace SnippetReview

namespace Line

/-- What closes a statement. -/
def terminator : Text := ";".toList

/-- The beginnings of lines that are comments. -/
def commentStarts : List Text := ["//".toList, "/*".toList, "*".toList, "#".toList]

/-- The ends of lines that open or close a block. -/
def blockEnds : List Text := ["\x7b".toList, "\x7d".toList, ":".toList]

/-- The words that tell a statement: an assignment, a return, a call that reads or prints. -/
def statementMarks : List Text :=
  ["=".toList, "return".toList, "cout <<".toList, "cin >>".toList, "printf(".toList,
   "scanf(".toList, "System.out.print".toList, "fmt.Print".toList, "console.log".toList,
   "console.error".toList, "console.warn".toList, "print(".toList, "puts(".toList]

/-- Whether a line is no statement for its shape: empty, a comment, or at the edge of a
block. -/
def isSkippable (s : Text) : Bool :=
  s.isEmpty || Text.startsWithAny commentStarts s || Text.endsWithAny blockEnds s

/-- Whether a line holds a word that tells a statement. -/
def tellsStatement (s : Text) : Bool := Text.mentionsAny statementMarks s

/-- Whether a line, without the blanks around it, is a statement that does not end with the
given terminator. -/
def needsTerminator (close : Text) (line : Text) : Bool :=
  let s := Text.trim line
  !isSkippable s && !opensBlock s && tellsStatement s && !close.isSuffixOf s

end Line

end SnippetReview
