import CanStream.Socket.Dispatch

/-!
# Handlers from rules

A rule says what is done on certain events, and how often. A handler made from rules hears the
events that some rule is still ready for, and follows all of those rules in order.
-/

namespace CanStream

/-- A rule: the events it is for, how often it is followed, and what is put in front of a script. -/
structure Rule (P : Protocol) where
  /-- The name or the whole text of an event, or a star for every event. -/
  pattern : String
  times : Nat
  act : Script P → Script P

namespace Rule

variable {P : Protocol}

def isFor (r : Rule P) (e : P.Event) : Bool :=
  r.pattern == "*" || r.pattern == e.name || r.pattern == e.text P.optionName

/-- Whether the rule is for an event and may still be followed. -/
def applies (r : Rule P) (e : P.Event) : Bool := decide (0 < r.times) && r.isFor e

def after (e : P.Event) (r : Rule P) : Rule P :=
  if r.applies e then { r with times := r.times - 1 } else r

/-- How often the rules may be followed altogether. -/
def total (rules : List (Rule P)) : Nat := rules.foldr (fun r n => r.times + n) 0

end Rule

namespace Handler

variable {P : Protocol}

/-- The handler that follows the rules for at most `n` events. -/
def ofRulesFor (label : Option String) : Nat → List (Rule P) → Handler P
  | 0, _ => .silent label
  | n + 1, rules =>
      .on label (fun e => rules.any (·.applies e)) fun e =>
        (rules.filter (·.applies e)).foldr Rule.act
          (.done (ofRulesFor label n (rules.map (Rule.after e))))

/-- The handler that follows the rules. Each event it hears uses up one time of some rule, so that
the times altogether bound the number of events. -/
def ofRules (label : Option String) (rules : List (Rule P)) : Handler P :=
  ofRulesFor label (Rule.total rules) rules

end Handler

end CanStream
