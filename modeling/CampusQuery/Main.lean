import CampusQuery.CommandLine.Session

/-!
# The program

Reads the files that the arguments name, and the input where a run asks for it, and
prints what the session leaves behind. What a session does is `outcome`; here is only
what it is given and where its texts go.
-/

namespace CampusQuery.CommandLine

/-- The text of a file, if it can be read as text. -/
def readFile? (path : String) : IO (Option String) := do
  try
    return some (← IO.FS.readFile path)
  catch _ => return none

/-- The text of the input, if it can be read as text. -/
def readInput? : IO (Option String) := do
  return String.fromUTF8? (← (← IO.getStdin).readBinToEnd)

/-- The texts of the files with the given paths. -/
def readFiles (paths : List String) : IO Files := do
  let texts ← paths.mapM fun path => return (path, ← readFile? path)
  return fun path => (texts.lookup path).join

/-- The run that arguments describe, if they describe one. -/
def invocation? (arguments : List String) : Option Invocation :=
  match request? arguments with
  | some (.run invocation) => some invocation
  | _ => none

/-- The files that a run names. -/
def Invocation.paths (invocation : Invocation) : List String :=
  invocation.sources.map Source.path ++ invocation.query.toList

end CampusQuery.CommandLine

open CampusQuery.CommandLine in
/-- Runs the program on its arguments. -/
def main (arguments : List String) : IO UInt32 := do
  let invocation := invocation? arguments
  let files ← readFiles ((invocation.map Invocation.paths).getD [])
  let input ← if invocation.any (·.asksInput files) then readInput? else pure none
  let start ← IO.monoMsNow
  let result := outcome arguments files input
  IO.print result.stdout
  IO.eprint result.stderr
  if invocation.any (·.timing) && result.exit == 0 then
    IO.eprintln ("Time: " ++ toString ((← IO.monoMsNow) - start) ++ "ms")
  return .ofNat result.exit
