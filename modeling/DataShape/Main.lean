import DataShape.Closure.Inline
import DataShape.Demo

/-!
# The command line

`inline` inlines a closure text with replacement expressions, and `explain` prints the listing of
the demonstration schema, with `--sample` also the errors of the sample input.
-/

namespace DataShape.CommandLine

/-- How the program is called. -/
def usage : String :=
  "Usage: inline <SOURCE> [REPLACEMENTS]... | explain [--sample]"

/-- Prints an explanation. -/
def explain (withSample : Bool) : IO UInt32 := do
  match Demo.explanation withSample with
  | .ok text =>
    IO.print text
    return 0
  | .error defect =>
    IO.eprintln s!"Error: {defect.text}"
    return 1

/-- Runs the command that the arguments name. -/
def run (args : List String) : IO UInt32 := do
  match args with
  | "inline" :: source :: replacements =>
    IO.println (ClosureText.inlineText source replacements)
    return 0
  | ["explain"] => explain false
  | ["explain", "--sample"] => explain true
  | _ =>
    IO.eprintln usage
    return 2

end DataShape.CommandLine

/-- Runs the command line. -/
def main (args : List String) : IO UInt32 := DataShape.CommandLine.run args
