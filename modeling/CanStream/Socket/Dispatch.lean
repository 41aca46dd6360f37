import CanStream.Socket.Perform

/-!
# Dispatch of events

Outside of a handler an event is delivered at once: the handler is taken from the socket, answers
the event and then those that were raised meanwhile, in order, and is put back unless its script
installed another. Within a handler events only join the queue.
-/

namespace CanStream

variable {P : Protocol}

namespace Socket

/-- Hands the queued events to a handler up to the first that it hears, which is the result. -/
def nextHeard (h : Handler P) : SocketM P (Option P.Event) := fun s =>
  let missed := s.queue.takeWhile fun e => !h.hears e
  let rest := s.queue.dropWhile fun e => !h.hears e
  let entries := missed.flatMap (fun e => [.delivered h.label e, .returned]) ++
    (rest.take 1).map (Entry.delivered h.label)
  some (rest.head?, { s with queue := rest.drop 1, journal := s.journal ++ entries })

end Socket

mutual

/-- Hands the queued events to a handler until none is left. The result is the handler after that.
-/
def Handler.drain : Handler P → SocketM P (Handler P)
  | .silent label => do
      let _ ← Socket.nextHeard (.silent label)
      pure (.silent label)
  | .on label hears react => do
      match ← Socket.nextHeard (.on label hears react) with
      | none => pure (.on label hears react)
      | some e => (react e).run

/-- Runs a script, and then hands the events that were raised to the handler that it ends with. -/
def Script.run : Script P → SocketM P (Handler P)
  | .done next => do
      Socket.record .returned
      next.drain
  | .note text rest => do
      Socket.record (.noted text)
      rest.run
  | .install h rest => do
      Socket.install h
      rest.run
  | .call q next => do
      let answer ← q.perform Socket.enqueue
      (next answer).run

end

namespace Socket

/-- Raises an event. Without a handler nobody learns of it. -/
def emit (e : P.Event) : SocketM P Unit := do
  let s ← get
  if s.dispatching then enqueue e
  else
    match s.handler with
    | none => record (.raised e)
    | some h => do
        set { s with
          handler := none
          dispatching := true
          queue := e :: s.queue
          journal := s.journal ++ [Entry.raised e] }
        let next ← h.drain
        modify fun s => { s with dispatching := false, handler := some (s.handler.getD next) }

def perform (q : Request P) : SocketM P q.Answer := q.perform emit

/-- Gives a socket up: one that is not unconnected is closed. -/
def drop : SocketM P Unit := perform .close

def takeJournal : SocketM P (List (Entry P)) := do
  let s ← get
  set { s with journal := [] }
  pure s.journal

end Socket

end CanStream
