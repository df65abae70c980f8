import SnippetReview.Json.Basic
import SnippetReview.Log

/-!
# The configuration of logging

How records are written out: one handler writes to the console, in a format that tells more when
debugging is switched on, and serves the program, the access log of the server, and all else from
warnings on.
-/

namespace SnippetReview

namespace Log

/-- How a record is written: its parts and its time. -/
def formatter (parts : List String) : Json :=
  .object [("format".toList, .string (List.intercalate " - ".toList (parts.map String.toList))),
    ("datefmt".toList, .ofString "%Y-%m-%d %H:%M:%S")]

/-- A logger that writes from a level on, and to the console alone. -/
def logger (level : Text) : Json :=
  .object [("level".toList, .string level), ("handlers".toList, .array [.ofString "console"]),
    ("propagate".toList, .bool false)]

/-- The configuration of logging under the settings. -/
def configuration (settings : Settings) : Json :=
  .object [("version".toList, .integer 1),
    ("disable_existing_loggers".toList, .bool false),
    ("formatters".toList, .object [
      ("default".toList,
        formatter ["%(asctime)s", "%(name)s", "%(levelname)s", "%(message)s"]),
      ("detailed".toList,
        formatter ["%(asctime)s", "%(name)s", "%(levelname)s",
          "%(module)s:%(funcName)s:%(lineno)d", "%(message)s"])]),
    ("handlers".toList, .object [
      ("console".toList, .object [("class".toList, .ofString "logging.StreamHandler"),
        ("level".toList, .string settings.logLevel),
        ("formatter".toList, .ofString (if settings.debug then "detailed" else "default")),
        ("stream".toList, .ofString "stdout")])]),
    ("loggers".toList, .object [
      ("codechat".toList, logger settings.logLevel),
      ("uvicorn.access".toList, logger "INFO".toList)]),
    ("root".toList, .object [("level".toList, .ofString "WARNING"),
      ("handlers".toList, .array [.ofString "console"])])]

end Log

end SnippetReview
