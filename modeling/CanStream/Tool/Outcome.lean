import CanStream.Socket.Dispatch
import CanStream.Tool.Arguments

/-!
# Running a tool

What a tool leaves behind: its exit code, the lines it printed, and the endpoint it worked on. A
tool that fails says so in one line.
-/

namespace CanStream.Tool

/-- What a tool leaves behind. -/
structure Outcome where
  exitCode : Nat
  out : List String
  err : List String
  endpoint : Endpoint

namespace Outcome

def ofUsage (usage : Usage) (e : Endpoint) : Outcome := ⟨usage.exitCode, [], [], e⟩

/-- The outcome of a tool that printed some lines, and then ended or failed. -/
def ofRun (out : List String) (failure : Option String) (e : Endpoint) : Outcome :=
  match failure with
  | none => ⟨0, out, [], e⟩
  | some message => ⟨1, out, [message], e⟩

end Outcome

/-- How long the waits of a tool are followed for: the timeout asked for, the clock, and the number
of turns of a wait as well as of the tool's own loops. -/
def waitOf (timeout : Option Int) (elapsed : Nat → Nat) (turns : Nat) : Wait :=
  ⟨timeout.bind Wait.timeoutOf, elapsed, turns⟩

def quoted (s : String) : String := "'" ++ s ++ "'"

def because (context cause : String) : String := context ++ ": " ++ cause

variable {P : Protocol}

/-- Waits until nothing is left to be written; a wait that fails ends it. -/
def pushOut (wait : Wait) : Nat → SocketM P Bool
  | 0 => Socket.never
  | rounds + 1 => do
      let s ← get
      if s.unwritten = 0 then pure true
      else do
        let written : Bool ← Socket.perform (.waitForBytesWritten wait)
        if written then pushOut wait rounds else pure false

/-- Runs the part of a tool that has a socket, which is given up at the end. -/
def withSocket (protocol : P.State) (e : Endpoint)
    (run : SocketM P (List String × Option String)) : Option Outcome := do
  let (result, s) ← run (Socket.initial protocol e)
  let (_, s) ← Socket.drop s
  pure (.ofRun result.1 result.2 s.endpoint)

end CanStream.Tool
