import SnippetReview.Page.Markup

/-!
# The frame of every page

A page has a title, perhaps an error on top, and a content. All else is the same on every page.
-/

namespace SnippetReview

namespace Page

/-- Lines of markup, each with its newline. -/
def block (ls : List String) : Text := ls.flatMap fun l => l.toList ++ ['\n']

/-- The beginning of a page, up to its title. -/
def beforeTitle : Text :=
  block
  ["<!doctype html>",
   "<html lang=\"en\">",
   "<head>",
   "  <meta charset=\"utf-8\">",
   "  <meta name=\"viewport\" content=\"width=device-width, initial-scale=1\">"]
  ++ "  <title>".toList

/-- What stands between the title and the place of the error. -/
def afterTitle : Text :=
  block
  ["</title>",
   "  <style>",
   "    body \x7b font-family: Arial, Helvetica, sans-serif; margin: 0; background: "
     ++ "#f8fafc; color: #0f172a; \x7d",
   "    header \x7b background: #fff; border-bottom: 1px solid #e2e8f0; padding: 14px "
     ++ "24px; display: flex; align-items: center; gap: 10px; \x7d",
   "    header .logo \x7b width: 32px; height: 32px; border-radius: 10px; background: "
     ++ "#f97316; color: #fff; font-weight: bold; display: flex; align-items: center; "
     ++ "justify-content: center; \x7d",
   "    header h1 \x7b font-size: 18px; margin: 0; \x7d",
   "    header p \x7b font-size: 12px; margin: 0; color: #64748b; \x7d",
   "    main \x7b max-width: 1100px; margin: 0 auto; padding: 24px; \x7d",
   "    .error \x7b border: 1px solid #fecaca; background: #fef2f2; color: #b91c1c; "
     ++ "padding: 8px 12px; border-radius: 10px; font-size: 13px; margin-bottom: 16px; \x7d",
   "    .panel \x7b background: #fff; border: 1px solid #e2e8f0; border-radius: 16px; "
     ++ "padding: 16px; margin-bottom: 16px; \x7d",
   "    .panel h3 \x7b margin: 0 0 8px 0; font-size: 15px; display: flex; "
     ++ "justify-content: space-between; align-items: center; \x7d",
   "    .issues \x7b background: #fff7ed; border-color: #ffedd5; \x7d",
   "    .improvements \x7b background: #ecfdf5; border-color: #d1fae5; \x7d",
   "    .complexity \x7b background: #f0f9ff; border-color: #e0f2fe; \x7d",
   "    .fix \x7b background: #eef2ff; border-color: #e0e7ff; \x7d",
   "    textarea \x7b width: 100%; height: 320px; font-family: monospace; font-size: "
     ++ "12px; background: #0f172a; color: #f1f5f9; border-radius: 12px; padding: 12px; "
     ++ "box-sizing: border-box; \x7d",
   "    pre \x7b background: #312e81; color: #e0e7ff; padding: 12px; border-radius: 8px; "
     ++ "font-size: 12px; overflow-x: auto; \x7d",
   "    button, .btn \x7b background: #f97316; color: #fff; border: none; border-radius: "
     ++ "999px; padding: 6px 16px; font-size: 13px; cursor: pointer; text-decoration: none; "
     ++ "\x7d",
   "    button.copy \x7b font-size: 11px; padding: 2px 8px; border-radius: 6px; "
     ++ "background: #334155; \x7d",
   "    select, input[type=file] \x7b font-size: 13px; \x7d",
   "    .row \x7b display: flex; gap: 12px; align-items: center; margin-bottom: 10px; "
     ++ "flex-wrap: wrap; \x7d",
   "    .score \x7b font-size: 28px; font-weight: bold; \x7d",
   "    footer \x7b text-align: center; font-size: 11px; color: #64748b; padding: 16px; \x7d",
   "  </style>",
   "</head>",
   "<body>",
   "  <header>",
   "    <div class=\"logo\">C</div>",
   "    <div>",
   "      <h1>CodeChat Reviewer</h1>",
   "      <p>Rule-based analysis · Code quality · Complexity insights</p>",
   "    </div>",
   "  </header>",
   "  <main>"]
  ++ "    ".toList

/-- The end of a page, after its content. -/
def afterContent : Text :=
  block
  ["",
   "  </main>",
   "  <footer>Built with FastAPI &amp; Jinja2</footer>",
   "  <script>",
   "    function copyText(id) \x7b",
   "      var el = document.getElementById(id);",
   "      if (el && navigator.clipboard) \x7b navigator.clipboard.writeText(el.innerText); \x7d",
   "    \x7d",
   "  </script>",
   "</body>"]
  ++ "</html>".toList

/-- The box that shows an error. -/
def errorBox (message : Text) : Markup :=
  [.markup "<div class=\"error\">".toList, .text message, .markup "</div>".toList]

/-- A page with a title, perhaps an error, and a content. -/
def frame (title : Text) (error : Option Text) (content : Markup) : Markup :=
  [.markup beforeTitle, .markup title, .markup afterTitle]
    ++ (error.map errorBox).getD []
    ++ [.markup "\n    ".toList]
    ++ content
    ++ [.markup afterContent]

end Page

end SnippetReview
