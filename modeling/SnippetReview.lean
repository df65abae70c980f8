import SnippetReview.Service.Route
import SnippetReview.Log.Configuration
import SnippetReview.Main
import SnippetReview.Proofs.Language.NormalForm
import SnippetReview.Proofs.Line.Repair
import SnippetReview.Proofs.Bracket.Placement
import SnippetReview.Proofs.Finding
import SnippetReview.Proofs.LineCheck
import SnippetReview.Proofs.Review.LineEnding
import SnippetReview.Proofs.Review.SuggestedFix
import SnippetReview.Proofs.Page.Entities
import SnippetReview.Proofs.Page.Form
import SnippetReview.Proofs.Page.Report
import SnippetReview.Proofs.Service.Agreement
import SnippetReview.Proofs.Quality
import SnippetReview.Proofs.Finding.Message
import SnippetReview.Proofs.Review.Issues
import SnippetReview.Proofs.Upload
import SnippetReview.Proofs.Page.HiddenForm
import SnippetReview.Proofs.Page.Skeleton
import SnippetReview.Proofs.Service.Outcome
import SnippetReview.Proofs.Service.Upload
import SnippetReview.Proofs.Service.Resubmission
import SnippetReview.Proofs.Service.Pages
import SnippetReview.Proofs.Story.Telling
import SnippetReview.Proofs.Json.Writing
import SnippetReview.Proofs.Form.Urlencoded
import SnippetReview.Proofs.Log.Configuration
import SnippetReview.Proofs.Launch
import SnippetReview.Proofs.Service.Verdict
import SnippetReview.Proofs.Service.Delivery
import SnippetReview.Proofs.Service.Recording
import SnippetReview.Proofs.Bracket.Balanced
import SnippetReview.Proofs.Bracket.Partner
import SnippetReview.Proofs.Line.BlockOpening
import SnippetReview.Proofs.Line.Amendment
import SnippetReview.Proofs.Line.Closer
import SnippetReview.Proofs.Line.Joining
import SnippetReview.Proofs.Upload.Decoding
import SnippetReview.Proofs.Upload.Limit
import SnippetReview.Proofs.Bracket.Insertion
import SnippetReview.Proofs.Complexity
import SnippetReview.Proofs.Service.ErrorPage
import SnippetReview.Proofs.Language.FileName
import SnippetReview.Proofs.Line.BlockGrammar
import SnippetReview.Proofs.Numeral.Decimal
import SnippetReview.Proofs.Service.Limit
import SnippetReview.Proofs.Story.Count
