import CanStream.Proofs.Socket.Waits
import CanStream.Socket.Perform

/-!
# Operations are made of steps

An operation changes the connection, makes an entry in the journal, runs a hook, calls the endpoint
or raises an event, and goes on depending on what it sees. So a property that these steps have, and
that an operation has if its parts have it, is one of every operation.
-/

namespace CanStream

variable {P : Protocol}

/-- Whether an event was raised, handed to a handler, or dealt with by it. -/
def Entry.dispatches : Entry P → Bool
  | raised _ => true
  | delivered _ _ => true
  | returned => true
  | _ => false

namespace Socket

/-- A property that the steps of operations have, and with them what is composed of them. -/
structure Composes (emit : Emit P) (C : ∀ {α : Type}, SocketM P α → Prop) : Prop where
  pure : ∀ {α : Type} (a : α), C (Pure.pure a)
  bind : ∀ {α β : Type} {m : SocketM P α} {f : α → SocketM P β}, C m → (∀ a, C (f a)) →
    C (m >>= f)
  get : ∀ {β : Type} {f : Socket P → SocketM P β}, (∀ s, C (f s)) → C (MonadState.get >>= f)
  update : ∀ f, C (update f)
  record : ∀ entry : Entry P, entry.dispatches = false → C (record entry)
  runHook : ∀ {α ε : Type} (hook : Hook P.State ε α), C (runHook hook)
  callEndpoint : ∀ {α : Type} (call : Endpoint.Call α), C (callEndpoint call)
  raise : ∀ e, C (emit e)

namespace Composes

variable {emit : Emit P} {C : ∀ {α : Type}, SocketM P α → Prop} (h : Composes emit C)

theorem ite {α : Type} {c : Prop} [Decidable c] {m n : SocketM P α} (yes : C m) (no : C n) :
    C (if c then m else n) :=
  Closed.ite yes no

include h

theorem setState (state : SocketState) : C (setState emit state) := by
  refine h.get fun s => ite (h.pure ()) ?_
  refine h.bind (h.update _) fun _ => ?_
  exact h.raise (.stateChanged state)

theorem setError (error : SocketError) : C (setError emit error) := by
  refine h.bind (h.update _) fun _ => ?_
  exact h.raise (.error error.kind)

theorem reportFailure {α : Type} (result : Except IoError α) : C (reportFailure emit result) := by
  cases result with
  | ok a => exact h.pure ()
  | error cause => exact h.setError _

/-- An operation that reports an error and then answers. -/
theorem refuse {α : Type} (error : SocketError) (a : α) :
    C (do Socket.setError emit error; Pure.pure a) := by
  refine h.bind (h.setError error) fun _ => ?_
  exact h.pure a

theorem close : C (close emit) := by
  refine h.get fun s => ite (h.pure ()) ?_
  refine h.bind (h.setState .closing) fun _ => ?_
  refine h.bind (h.update Connection.hush) fun _ => ?_
  refine h.bind (h.callEndpoint Endpoint.close) fun result => ?_
  refine h.bind (h.reportFailure result) fun _ => ?_
  refine h.bind (h.update Connection.discard) fun _ => ?_
  refine h.bind (h.record .discarded rfl) fun _ => ?_
  exact h.setState .unconnected

theorem connect (ifname : String) (mode : OpenMode) : C (connect emit ifname mode) := by
  refine h.get fun s => ite (h.refuse _ false) (ite (h.refuse _ false) ?_)
  refine h.bind (h.update _) fun _ => ?_
  refine h.bind (h.record _ rfl) fun _ => ?_
  refine h.bind (h.setState .connecting) fun _ => ?_
  refine h.bind (h.runHook (P.connect ifname)) fun result => ?_
  refine h.bind (h.record _ rfl) fun _ => ?_
  cases result with
  | error cause =>
    refine h.bind (h.setError cause) fun _ => ?_
    refine h.bind h.close fun _ => ?_
    exact h.pure false
  | ok done =>
    refine h.bind (h.update _) fun _ => ?_
    refine h.bind (h.setState .connected) fun _ => ?_
    exact h.pure true

theorem announceRead (available : Nat) : C (announceRead emit available) := by
  refine h.get fun s => ite ?_ (h.pure ())
  refine h.bind (h.update _) fun _ => ?_
  refine h.bind (h.raise .readyRead) fun _ => ?_
  exact h.update _

theorem takeIn (before : Connection P) (window : Nat) (bytes : List UInt8) :
    C (takeIn emit before window bytes) := by
  refine h.bind (h.update _) fun _ => h.get fun s => ?_
  refine h.bind (h.record _ rfl) fun _ => ?_
  refine h.bind (h.announceRead before.available) fun _ => ?_
  exact h.pure true

theorem pumpRead : C (pumpRead emit) := by
  refine h.get fun s => ?_
  cases s.readWindow? with
  | none => exact h.pure false
  | some window =>
    refine h.bind (h.runHook (P.read window)) fun result => h.get fun after => ?_
    refine h.bind (h.record _ rfl) fun _ => ?_
    cases result with
    | ok bytes => exact h.takeIn _ window bytes
    | error cause =>
      refine ite (h.takeIn _ window []) ?_
      exact h.bind (h.update _) fun _ => h.refuse _ false

theorem readReady : C (readReady emit) := h.get fun _ => ite h.pumpRead (h.pure false)

theorem startWrite : C (startWrite emit) := by
  refine h.get fun s => ite (h.pure true) ?_
  refine h.bind (h.update Connection.align) fun _ => h.get fun aligned => ?_
  refine h.bind (h.runHook (P.write _)) fun result => h.get fun after => ?_
  refine h.bind (h.record _ rfl) fun _ => ?_
  cases result with
  | error cause => exact h.bind (h.update _) fun _ => h.refuse _ false
  | ok n =>
    refine h.bind (h.update _) fun _ => ?_
    exact h.pure true

theorem reportWritten : C (reportWritten emit) := by
  refine h.get fun s => ite ?_ (h.pure ())
  refine h.bind (h.update Connection.report) fun _ => ?_
  refine h.bind (h.raise (.bytesWritten s.pending)) fun _ => ?_
  exact h.update _

theorem completeWrite : C (completeWrite emit) := by
  refine h.bind h.reportWritten fun _ => ?_
  refine h.bind (h.update _) fun _ => h.get fun s => ite ?_ h.startWrite
  refine h.bind (h.update _) fun _ => ?_
  exact h.pure true

theorem setOption (option : P.Opt) (value : P.Value) : C (setOption emit option value) := by
  refine ite (h.refuse _ false) (h.get fun s => ?_)
  refine h.bind (h.runHook (P.applyOption s.state value)) fun result => ?_
  cases result with
  | error cause => exact h.refuse cause false
  | ok done =>
    refine h.get fun s => h.bind (h.update _) fun _ => ?_
    refine h.bind (h.record (.kept value) rfl) fun _ => ?_
    exact ite (h.bind (h.raise (.optionChanged option)) fun _ => h.pure true) (h.pure true)

theorem setOptions (options : List (P.Opt × P.Value)) : C (setOptions emit options) := by
  induction options with
  | nil => exact h.pure true
  | cons first rest ih =>
    refine h.bind (h.setOption first.1 first.2) fun passed => ?_
    exact ite ih (h.pure false)

theorem poll (read write : Bool) : C (poll emit read write) := by
  refine h.bind (h.callEndpoint (Endpoint.poll read write)) fun answer => ?_
  rcases answer with cause | _ | r
  · exact h.refuse _ none
  · exact h.refuse _ none
  · exact h.pure (some r)

theorem takeOut (f : ByteQueue → List UInt8 × ByteQueue) : C (takeOut f) := by
  refine h.get fun s => ?_
  refine h.bind (h.update _) fun _ => ?_
  refine h.bind (h.record (.taken _) rfl) fun _ => ?_
  exact h.pure _

theorem write (data : List UInt8) : C (write data) := by
  refine h.get fun s => ite (h.pure _) (ite (h.pure _) ?_)
  refine h.bind (h.update (·.enqueue data)) fun _ => ?_
  refine h.bind (h.record (.queued data) rfl) fun _ => ?_
  exact h.pure _

theorem writeFrame (f : Frame) : C (writeFrame f) := by
  refine h.get fun s => ite (h.pure _) (ite (h.pure _) ?_)
  refine h.bind (h.write f.toKernel) fun result => ?_
  cases result with
  | error cause => exact h.pure _
  | ok n =>
    refine h.bind (h.record (.frameQueued f) rfl) fun _ => ?_
    exact h.pure _

theorem readFrame : C (readFrame : SocketM P _) := by
  refine h.get fun s => ite (h.pure _) ?_
  refine h.bind (h.takeOut _) fun bytes => ?_
  cases Frame.ofKernel? bytes with
  | none => exact h.pure _
  | some made =>
    refine h.bind (h.record (.frameTaken made.1) rfl) fun _ => ?_
    exact h.pure _

theorem receive : C (receive emit) := by
  refine h.get fun s => ite (h.bind h.readReady fun _ => ?_) ?_
  all_goals
    refine h.bind h.readFrame fun result => ?_
    rcases result with (_ | _ | _) | f <;> exact h.pure _

/-! ## Requests -/

/-- Every request has the property, unless it takes the handler away. -/
theorem perform (never : ∀ {α : Type}, C (never : SocketM P α)) (q : Request P)
    (takes : q = .takeHandler → C (takeHandler : SocketM P Bool)) : C (q.perform emit) := by
  have closed : Closed C := ⟨h.pure, never, h.bind, h.get⟩
  cases q with
  | connect ifname mode => exact h.connect ifname mode
  | connectWith options ifname mode =>
    refine h.bind (h.setOptions options) fun passed => ?_
    exact ite (h.connect ifname mode) (h.pure false)
  | close => exact h.close
  | readReady => exact h.readReady
  | writeReady => exact h.get fun _ => ite h.completeWrite (h.pure false)
  | waitForReadyRead wait =>
    show C (waitForReadyRead emit wait)
    rw [waitForReadyRead_eq]
    exact closed.waitForReadyReadBy h.setError h.poll h.pumpRead h.completeWrite wait
  | waitForBytesWritten wait =>
    show C (waitForBytesWritten emit wait)
    rw [waitForBytesWritten_eq]
    exact closed.waitForBytesWrittenBy h.setError h.poll h.pumpRead h.completeWrite wait
  | read n => exact h.takeOut fun b => b.read n
  | peek n => exact h.get fun _ => h.pure _
  | readAll => exact h.takeOut ByteQueue.readAll
  | readLine limit => exact h.takeOut fun b => b.readLine limit
  | write data => exact h.write data
  | flush => exact h.completeWrite
  | streamRead n =>
    refine h.get fun s => ite (h.pure _) (ite (h.pure _) ?_)
    exact h.bind (h.takeOut _) fun _ => h.pure _
  | streamWrite data => exact h.bind (h.write data) fun _ => h.pure _
  | streamFlush =>
    refine h.bind h.completeWrite fun passed => ?_
    exact ite (h.pure _) (h.get fun _ => h.pure _)
  | clearError => exact h.update _
  | setReadLimit n => exact h.update _
  | setOption option value => exact h.setOption option value
  | writeFrame f => exact h.writeFrame f
  | readFrame => exact h.readFrame
  | transmit f =>
    refine h.bind (h.writeFrame f) fun result => ?_
    cases result with
    | error cause => exact h.pure _
    | ok sent => exact h.bind h.completeWrite fun _ => h.pure _
  | receive => exact h.receive
  | takeHandler => exact takes rfl
  | inspect => exact h.get fun s => h.bind (h.record _ rfl) fun _ => h.pure s.toConnection
  | cue c => exact h.update _
  | closeDescriptor =>
    refine h.bind (h.callEndpoint Endpoint.close) fun result => ?_
    exact h.bind (h.record .severed rfl) fun _ => h.pure result
  | takeWritten =>
    refine h.get fun s => h.bind (h.update _) fun _ => ?_
    exact h.pure s.endpoint.written

end Composes

end Socket

end CanStream
