import CanStream.Tool.Choice

/-!
# Command line

The first argument names the tool, the others are the tool's own. The tool works on a virtual
interface.
-/

namespace CanStream.Tool

/-- The number of turns that a wait is followed for. -/
def waitTurns : Nat := 1000000

/-- Prints what a tool printed, and ends with its exit code. -/
def report (outcome : Outcome) : IO UInt32 := do
  for line in outcome.out do
    IO.println line
  for line in outcome.err do
    IO.eprintln line
  pure (UInt32.ofNat outcome.exitCode)

end CanStream.Tool

open CanStream

def main (args : List String) : IO UInt32 := do
  let unknown := Tool.Outcome.ofUsage .wrong Endpoint.blank
  match args with
  | [] => Tool.report unknown
  | name :: words =>
      match Tool.Choice.ofName? name with
      | none => Tool.report unknown
      | some tool =>
          let endpoint := Tool.virtualEndpoint classicUnit
          Tool.report ((tool.run words endpoint (fun _ => 0) Tool.waitTurns).getD unknown)
