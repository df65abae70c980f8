import SnippetReview.Launch

/-!
# The command line

Reads the environment and tells what the server is started with, or why it is not.
-/

namespace SnippetReview

/-- The environment of the process. -/
def processEnvironment : IO Environment := do
  let values ← Variable.all.mapM fun v => do
    return (v, (← IO.getEnv v.name).map String.toList)
  return fun v => (values.lookup v).join

end SnippetReview

/-- Tells the launch, or why there is none. -/
def main : IO UInt32 := do
  match SnippetReview.Program.start (← SnippetReview.processEnvironment) with
  | .ok program =>
    IO.println (String.ofList (SnippetReview.Launch.ofSettings program.settings).line)
    return 0
  | .error e =>
    IO.eprintln (String.ofList e.message)
    return 1
