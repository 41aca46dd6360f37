import CanStream.Socket.Request

/-!
# Event handlers

A handler answers events with a script: requests to the socket, each chosen after the answers to
those before it, and at the end the handler that takes its place. It says which events it hears; the
others pass it by and leave it as it is. Events that are raised while a script runs wait until it is
done, so scripts do not interrupt one another.

A handler gives only finitely many answers before it falls silent; with this, dispatch always ends.
-/

namespace CanStream

mutual

/-- An event handler, under the label by which its deliveries are recorded. -/
inductive Handler (P : Protocol)
  /-- Hears nothing. -/
  | silent (label : Option String)
  /-- Answers the events that it hears. -/
  | on (label : Option String) (hears : P.Event → Bool) (react : P.Event → Script P)

/-- The answer of a handler to an event. -/
inductive Script (P : Protocol)
  /-- Ends, with the handler for the events to come. -/
  | done (next : Handler P)
  /-- Writes a note into the socket's journal. -/
  | note (text : String) (rest : Script P)
  /-- Sets the socket's handler, to be used when dispatch is over. -/
  | install (h : Handler P) (rest : Script P)
  /-- Makes a request and goes on with its answer. -/
  | call (q : Request P) (next : q.Answer → Script P)

end

namespace Handler

variable {P : Protocol}

instance : Inhabited (Handler P) := ⟨silent none⟩

def label : Handler P → Option String
  | silent l => l
  | on l _ _ => l

def hears : Handler P → P.Event → Bool
  | silent _, _ => false
  | on _ h _, e => h e

end Handler

end CanStream
