import SnippetReview.Text.Split
import SnippetReview.Text.LowerCase

/-!
# Markers in the whole snippet

Three things are asked of a snippet as a whole: whether it prints for debugging, whether it
holds a note about work left to do, in any case, and whether it has more lines than a limit.
-/

namespace SnippetReview

namespace Marker

/-- The calls that print for debugging. -/
def debugCalls : List Text :=
  ["console.log".toList, "System.out.println".toList, "cout <<".toList, "fmt.Println".toList,
   "print(".toList]

/-- The words that mark work left to do, in lower case. -/
def todoWords : List Text := ["todo".toList, "fixme".toList]

/-- Whether the code prints for debugging. -/
def hasDebugOutput (code : Text) : Bool := Text.mentionsAny debugCalls code

/-- Whether the code marks work left to do. -/
def hasTodo (code : Text) : Bool := Text.mentionsAny todoWords (Text.toLower code)

/-- Whether the code has more lines than the limit. -/
def isLong (limit : Int) (code : Text) : Bool := limit < (Text.lines code).length

end Marker

end SnippetReview
