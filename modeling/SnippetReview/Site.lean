import SnippetReview.Text.Basic

/-!
# Addresses

The paths under which the program answers. A request reaches them at an address of the site.
-/

namespace SnippetReview

namespace Site

/-- The path of the form. -/
def homePath : Text := "/".toList

/-- The path that tells whether the program runs. -/
def healthPath : Text := "/healthz".toList

/-- The path that the form is sent to for a report. -/
def reportPath : Text := "/review".toList

/-- The path that the form is sent to for a report to print. -/
def printPath : Text := "/review/pdf".toList

/-- The path for programs. -/
def apiPath : Text := "/api/review".toList

end Site

end SnippetReview
