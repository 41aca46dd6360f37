import CanStream.Tool.Payloads
import CanStream.Tool.RawFrames

/-!
# The tools

The tools by name.
-/

namespace CanStream.Tool

/-- A tool. -/
inductive Choice
  | rawFrames
  | payloads
  deriving DecidableEq, Repr

namespace Choice

def name : Choice → String
  | rawFrames => "canraw"
  | payloads => "canisotp"

def all : List Choice := [rawFrames, payloads]

def ofName? (s : String) : Option Choice := all.find? (·.name == s)

/-- Runs a tool on an endpoint. Waits are followed for so many turns, with the given clock. -/
def run (choice : Choice) (words : List String) (e : Endpoint) (elapsed : Nat → Nat)
    (turns : Nat) : Option Outcome :=
  match choice with
  | rawFrames => RawFrames.run words e elapsed turns
  | payloads => Payloads.run words e elapsed turns

end Choice

/-- An endpoint with one virtual interface, on which nothing arrives. -/
def virtualEndpoint (mtu : Nat) : Endpoint :=
  { Endpoint.blank with interfaces := [⟨"vcan0", 3, mtu⟩] }

end CanStream.Tool
