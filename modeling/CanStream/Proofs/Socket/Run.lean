import CanStream.Proofs.Socket.Dispatch
import CanStream.Proofs.Socket.Operations

/-!
# Runs keep to a sound outline

A run of a socket is any list of requests, with handlers installed in between. What an application
asks for may depend on the answers it was given; a list that is what it asked for in the end always
exists. Whatever handlers do in the course of a run, it keeps to every sound outline.
-/

namespace CanStream

variable {P : Protocol} {scope : Scope P}

/-- What an application does with a socket. -/
inductive Action (P : Protocol)
  | ask (q : Request P)
  | install (h : Handler P)

namespace Action

/-- The action asks for nothing out of scope, and neither does a handler it installs. -/
def Within (scope : Scope P) : Action P → Prop
  | ask q => q.Within scope
  | install h => h.Within scope

theorem within_all (a : Action P) : a.Within Scope.all := by
  cases a with
  | ask q => exact q.within_all
  | install h => exact h.within_all

/-- Performs the action. -/
def perform : Action P → SocketM P Unit
  | ask q => do
      let _ ← Socket.perform q
      pure ()
  | install h => Socket.install h

end Action

namespace Socket

/-- Performs actions in order. -/
def run : List (Action P) → SocketM P Unit
  | [] => pure ()
  | a :: rest => do
      a.perform
      run rest

/-- A new socket whose buffers have chunks of the given sizes. -/
def fresh (protocol : P.State) (endpoint : Endpoint) (readChunk writeChunk : Nat) : Socket P :=
  (initial protocol endpoint).change fun c =>
    { c with
      readBuffer := ByteQueue.empty readChunk
      writeBuffer := ByteQueue.empty writeChunk }

/-- What is computed from the outcome of a run is so of the socket that it leads to. -/
theorem exists_run {β : Type} {actions : List (Action P)} {s₀ : Socket P} {f : Socket P → β}
    {b : β} (outcome : (run actions s₀).map (fun r => f r.2) = some b) :
    ∃ s, run actions s₀ = some ((), s) ∧ f s = b := by
  rw [Option.map_eq_some_iff] at outcome
  obtain ⟨⟨⟨⟩, s⟩, ran, value⟩ := outcome
  exact ⟨s, ran, value⟩

/-- The socket after a run, and what an operation then makes of it, if they come to an end. -/
theorem exists_asked {α β : Type} {actions : List (Action P)} {s₀ : Socket P} {m : SocketM P α}
    {f : Socket P → α → Socket P → β} {b : β}
    (outcome : ((run actions s₀).bind fun r => (m r.2).map fun t => f r.2 t.1 t.2) = some b) :
    ∃ s a s', run actions s₀ = some ((), s) ∧ m s = some (a, s') ∧ f s a s' = b := by
  rw [Option.bind_eq_some_iff] at outcome
  obtain ⟨⟨⟨⟩, s⟩, ran, asked⟩ := outcome
  rw [Option.map_eq_some_iff] at asked
  obtain ⟨⟨a, s'⟩, asked, value⟩ := asked
  exact ⟨s, a, s', ran, asked, value⟩

end Socket

open Socket

theorem Socket.upholds_enqueue (I : Assertion P) (e : P.Event) :
    Upholds scope (fun c j => I c (j ++ [.raised e])) (enqueue e) I := by
  intro s ready
  rw [after_enqueue]
  exact ⟨⟨ready.holds, ready.handler⟩, rfl⟩

theorem Socket.upholds_takeHandler {I : Assertion P} :
    Upholds scope I (takeHandler : SocketM P Bool) I := by
  intro s ready
  simp only [takeHandler, after_bind, after_get, after_set, after_pure]
  exact ⟨⟨ready.holds, fun _ member => by cases member⟩, rfl⟩

theorem Socket.upholds_inspect {I : Assertion P}
    (looks : ∀ c j, I c j → I c (j ++ [.inspected c])) :
    Upholds scope I (inspect : SocketM P (Connection P)) I := by
  intro s ready
  simp only [inspect, after_bind, after_get, after_record, after_pure]
  exact ⟨⟨looks _ _ ready.holds, ready.handler⟩, rfl⟩

theorem Socket.upholds_sever {I : Assertion P}
    (severs : ∀ c j, I c j →
      I { c with endpoint := (Endpoint.close c.endpoint).2 } (j ++ [.severed])) :
    Upholds scope I (sever : SocketM P (Except IoError Unit)) I := by
  intro s ready
  simp only [sever, after_bind, after_callEndpoint, after_record, after_pure]
  exact ⟨⟨severs _ _ ready.holds, ready.handler⟩, rfl⟩

/-- Every request in scope upholds the assertion. -/
def Endures (scope : Scope P) (emit : Emit P) (I : Assertion P) : Prop :=
  ∀ q : Request P, q.Within scope → Upholds scope I (q.perform emit) I

section

variable {I B O W R N : Assertion P}

/-- Whether the request only moves data or looks at the socket. It does not connect or close, and it
changes neither an option nor the limit of the read buffer. -/
def Request.transfers : Request P → Bool
  | .connect _ _ => false
  | .connectWith _ _ _ => false
  | .close => false
  | .setReadLimit _ => false
  | .setOption _ _ => false
  | _ => true

/-- Whether the request is a wait. -/
def Request.waits : Request P → Bool
  | .waitForReadyRead _ => true
  | .waitForBytesWritten _ => true
  | _ => false

/-- A wait may read whatever the socket waits for. With any other request all there is to show of
reads is what the socket does when it takes notice that it is readable. -/
theorem upholds_transfer_of_not_waits {emit : Emit P} (steps : CarrySteps scope I B)
    (reading : Upholds scope I (readReady emit) I)
    (writes : Upholds scope I (completeWrite emit) I) {q : Request P} (inScope : q.Within scope)
    (transfers : q.transfers = true) (waits : q.waits = false) :
    Upholds scope I (q.perform emit) I := by
  cases q with
  | connect ifname mode => cases transfers
  | connectWith options ifname mode => cases transfers
  | close => cases transfers
  | setReadLimit n => cases transfers
  | setOption option value => cases transfers
  | readReady => exact reading
  | writeReady => exact upholds_writeReady writes
  | waitForReadyRead wait => cases waits
  | waitForBytesWritten wait => cases waits
  | read n => exact upholds_takeOut (f := fun b => b.read n) steps (fun _ => ⟨n, rfl⟩) inScope
  | peek n => exact .get fun _ => .pure _ fun _ _ h => h.1
  | readAll => exact upholds_takeOut (f := ByteQueue.readAll) steps (fun b => ⟨b.size, rfl⟩) inScope
  | readLine limit =>
    refine upholds_takeOut (f := fun b => b.readLine limit) steps (fun b => ?_) inScope
    unfold ByteQueue.readLine
    split
    case h_1 i _ => exact ⟨i + 1, rfl⟩
    case h_2 => exact ⟨min b.size limit, rfl⟩
  | write data => exact upholds_write steps inScope
  | flush => exact writes
  | streamRead n => exact upholds_streamRead steps n inScope
  | streamWrite data => exact upholds_streamWrite steps inScope
  | streamFlush =>
    refine .bind writes fun _ => ?_
    refine .ite (fun _ => .skip _) fun _ => ?_
    exact .get fun _ => .pure _ fun _ _ h => h.1
  | clearError => exact .update (fun _ => ⟨rfl, rfl⟩) fun _ _ h => steps.clearError h
  | writeFrame f => exact upholds_writeFrame steps inScope
  | readFrame => exact upholds_readFrame steps
  | transmit f => exact upholds_transmit steps writes inScope
  | receive => exact upholds_receive steps reading
  | takeHandler => exact Socket.upholds_takeHandler
  | inspect => exact Socket.upholds_inspect fun _ _ h => steps.inspected h
  | cue c => exact .update (fun _ => ⟨rfl, rfl⟩) fun _ _ h => steps.cue inScope h
  | closeDescriptor => exact Socket.upholds_sever fun _ _ h => steps.sever h
  | takeWritten =>
    exact .get fun _ => .bind (.update (fun _ => ⟨rfl, rfl⟩) fun _ _ h => steps.takeWritten h.1)
      fun _ => .skip _

theorem upholds_transfer {emit : Emit P} (steps : CarrySteps scope I B) (reads : ReadSteps I N)
    (emits : Emits scope I emit) (writes : Upholds scope I (completeWrite emit) I)
    (announces : Announces scope N emit) {q : Request P} (inScope : q.Within scope)
    (transfers : q.transfers = true) : Upholds scope I (q.perform emit) I := by
  have pumps := reads.toPumpSteps
  have pumping := upholds_pumpRead steps.toBasicSteps pumps emits announces
  have reading : Upholds scope I (readReady emit) I :=
    upholds_readReady steps.toBasicSteps pumps emits announces (fun _ _ h _ _ => h) fun _ _ h => h
  cases waits : q.waits with
  | false => exact upholds_transfer_of_not_waits steps reading writes inScope transfers waits
  | true =>
    cases q with
    | waitForReadyRead wait =>
      rw [Request.perform, waitForReadyRead_eq]
      exact upholds_waitForReadyReadBy steps emits writes pumping wait
    | waitForBytesWritten wait =>
      rw [Request.perform, waitForBytesWritten_eq]
      exact upholds_waitForBytesWrittenBy steps emits writes pumping wait
    | _ => cases waits

/-- Beside the requests that transfer, all there is to show is what connecting and closing do. -/
theorem upholds_of_not_transfers {emit : Emit P} (options : OptionSteps I)
    (limits : ∀ {c j} n, I c j → c.readLimit ≠ n →
      I { c with readLimit := n }.resumeReading j) (emits : Emits scope I emit)
    (connects : ∀ ifname mode, Upholds scope I (connect emit ifname mode) I)
    (closes : Upholds scope I (close emit) I) {q : Request P} (other : q.transfers = false) :
    Upholds scope I (q.perform emit) I := by
  cases q with
  | connect ifname mode => exact connects ifname mode
  | connectWith settings ifname mode =>
    exact .bind (upholds_setOptions options emits settings) fun _ =>
      .ite (fun _ => connects ifname mode) fun _ => .skip false
  | close => exact closes
  | setReadLimit n =>
    exact upholds_setReadLimit n (fun _ _ h _ => h) fun _ _ h other =>
      limits n h other
  | setOption option value => exact upholds_setOption options emits option value
  | _ => cases other

theorem endures_of_upholds {emit : Emit P} (steps : LocalSteps scope I B) (reads : ReadSteps I N)
    (emits : Emits scope I emit) (announces : Announces scope N emit)
    (connects : ∀ ifname mode, Upholds scope I (connect emit ifname mode) I)
    (closes : Upholds scope I (close emit) I) : Endures scope emit I := by
  intro q inScope
  cases transfers : q.transfers with
  | true =>
    have writes := upholds_completeWrite emits steps.toTransferSteps
    exact upholds_transfer steps.toCarrySteps reads emits writes announces inScope transfers
  | false =>
    exact upholds_of_not_transfers steps.toOptionSteps steps.setReadLimit emits connects closes
      transfers

theorem endures_of_steps {emit : Emit P} (steps : LocalSteps scope I B) (reads : ReadSteps I N)
    (life : Lifecycle I O W R) (emits : Emits scope I emit) (announces : Announces scope N emit)
    (emitsOpening : Emits scope O emit) (emitsClosing : Emits scope W emit)
    (emitsReleased : Emits scope R emit) : Endures scope emit I := by
  refine endures_of_upholds steps reads emits announces (fun ifname mode => ?_) ?_
  · exact upholds_connect (life.connectSteps steps.toBasicSteps ifname mode) emits emitsOpening
      emitsClosing emitsReleased
  · exact upholds_close life.close emits emitsClosing emitsReleased

/-- Within a handler events only join the queue. -/
theorem endures_enqueue (steps : LocalSteps scope I B) (reads : ReadSteps I N)
    (life : Lifecycle I O W R) : Endures scope enqueue I :=
  endures_of_steps steps reads life (fun e _ => upholds_enqueue I e) (upholds_enqueue N .readyRead)
    (fun e _ => upholds_enqueue O e) (fun e _ => upholds_enqueue W e)
    (fun e _ => upholds_enqueue R e)

theorem Moves.endures_enqueue (moves : Moves scope I B W N) (closing : ClosingSteps W) :
    Endures scope enqueue I :=
  CanStream.endures_enqueue moves.toLocalSteps moves.toReadSteps (moves.lifecycle closing)

theorem Moves.endures {emit : Emit P} (moves : Moves scope I B W N) (closing : ClosingSteps W)
    (emits : Emits scope I emit) (emitsClosing : Emits scope W emit)
    (announces : Announces scope N emit) : Endures scope emit I :=
  endures_of_steps moves.toLocalSteps moves.toReadSteps (moves.lifecycle closing) emits announces
    emits emitsClosing emitsClosing

end

/-! ## Dispatch -/

section

variable {I : Assertion P} {pausing : List P.Event → Assertion P}

/-- A dispatch goes back and forth between the assertion and the pauses, and ends the reports that
it begins. -/
theorem Turns.dispatching (turns : Turns I pausing)
    (hosts : scope.handlersAsk → Endures scope enqueue I) (guards : Bool × Bool) :
    Dispatching scope (fun s => Ready scope I s ∧ s.guards = guards)
      (fun s => Ready scope (pausing s.queue) s ∧ s.guards = guards) where
  deliver := by
    rintro s e rest label ⟨ready, same⟩ waits
    have holds := ready.holds
    rw [waits] at holds
    exact ⟨⟨turns.delivery label e holds, ready.handler⟩, same⟩
  returned := by
    rintro s ⟨ready, same⟩
    exact ⟨⟨turns.returned s.queue ready.holds, ready.handler⟩, same⟩
  noted := by
    rintro s text ⟨ready, same⟩
    exact ⟨⟨turns.noted text ready.holds, ready.handler⟩, same⟩
  install := by
    rintro s h inScope ⟨ready, same⟩
    refine ⟨⟨ready.holds, ?_⟩, same⟩
    rintro h' ⟨⟩
    exact inScope
  host := by
    rintro q asks inScope s ⟨ready, same⟩
    refine (hosts asks q inScope s ready).mono fun _ s' upheld => ?_
    exact ⟨upheld.1, upheld.2.trans same⟩

/-- Raising an event leads from an assertion to itself, with all that the handler does, if the
handler begins from it and ends with it. -/
theorem Socket.upholds_emit {K : Assertion P} (turns : Turns I pausing)
    (hosts : scope.handlersAsk → Endures scope enqueue I) (e : P.Event)
    (begins : ∀ {c j} queue, K c (j ++ [.raised e]) → pausing (e :: queue) c (j ++ [.raised e]))
    (ends : ∀ {c j queue}, pausing queue c j → K c j) :
    Upholds scope (fun c j => K c (j ++ [.raised e])) (emit e) K := by
  intro s ready
  refine after_emit.mpr ⟨fun _ => ⟨⟨ready.holds, ready.handler⟩, rfl⟩,
    fun _ _ => ⟨⟨ready.holds, ready.handler⟩, rfl⟩, fun _ h installed => ?_⟩
  have paused : Ready scope (pausing (s.beginDispatch e).queue) (s.beginDispatch e) :=
    ⟨begins s.queue ready.holds, fun _ member => by cases member⟩
  refine (h.keeps_drain (turns.dispatching hosts s.guards) (ready.handler h installed) _
    ⟨paused, rfl⟩).mono ?_
  rintro next s₁ ⟨⟨⟨ready₁, same⟩, -⟩, inScope⟩
  refine ⟨⟨ends ready₁.holds, ?_⟩, same⟩
  rintro h' ⟨⟩
  cases installed₁ : s₁.handler with
  | none => simpa using inScope
  | some h₁ => simpa using ready₁.handler h₁ installed₁

end

section

variable {I : Assertion P} (endures : Endures scope emit I)

include endures

theorem Action.upholds_perform (a : Action P) (inScope : a.Within scope) :
    Upholds scope I a.perform I := by
  cases a with
  | ask q =>
    exact .bind (endures q inScope) fun _ =>
      .skip ()
  | install h =>
    intro s ready
    rw [Action.perform, Socket.install, after_modify]
    refine ⟨⟨ready.holds, ?_⟩, rfl⟩
    rintro h' ⟨⟩
    exact inScope

theorem Socket.upholds_run (actions : List (Action P)) (inScope : ∀ a ∈ actions, a.Within scope) :
    Upholds scope I (run actions) I := by
  induction actions with
  | nil => exact .skip ()
  | cons a rest ih =>
    exact .bind (a.upholds_perform endures
      (inScope a (List.mem_cons_self ..)))
      fun _ => ih fun b member => inScope b (List.mem_cons_of_mem a member)

/-- What the steps of a new socket uphold holds after every run of it. -/
theorem Socket.holds_after_run {protocol : P.State} {endpoint : Endpoint}
    {readChunk writeChunk : Nat} {actions : List (Action P)}
    (inScope : ∀ a ∈ actions, a.Within scope)
    (start : I (fresh protocol endpoint readChunk writeChunk).toConnection [])
    {s : Socket P}
    (ran : run actions (fresh protocol endpoint readChunk writeChunk) = some ((), s)) :
    I s.toConnection s.journal ∧ s.reportingRead = false ∧ s.reportingWrite = false := by
  have ready : Ready scope I (fresh protocol endpoint readChunk writeChunk) :=
    ⟨start, fun _ member => by cases member⟩
  obtain ⟨ready', same⟩ :=
    upholds_run endures actions inScope _ ready () s ran
  exact ⟨ready'.holds, congrArg Prod.fst same, congrArg Prod.snd same⟩

end

section

variable {I B W : Assertion P} (steps : Steps scope I B W) (within : ClosingSteps W)

include steps within

/-- Raising an event leads from the assertion to itself, with all that the handler does. -/
theorem Steps.emits (e : P.Event) :
    Upholds scope (fun c j => I c (j ++ [.raised e])) (emit e) I :=
  upholds_emit steps.toTurns (fun _ => steps.moves.endures_enqueue within) e (fun _ h => h) id

/-- What every step leads back to holds after every run, if the handler may be at work in the midst
of a close as well. -/
theorem Steps.holds_after_run (emitsClosing : Emits scope W emit) {protocol : P.State}
    {endpoint : Endpoint} {readChunk writeChunk : Nat} {actions : List (Action P)}
    (inScope : ∀ a ∈ actions, a.Within scope)
    (start : I (fresh protocol endpoint readChunk writeChunk).toConnection [])
    {s : Socket P}
    (ran : run actions (fresh protocol endpoint readChunk writeChunk) = some ((), s)) :
    I s.toConnection s.journal ∧ s.reportingRead = false ∧ s.reportingWrite = false := by
  have endures := steps.moves.endures within (fun e _ => steps.emits within e) emitsClosing
    (steps.emits within .readyRead)
  exact Socket.holds_after_run endures inScope start ran

end

section

variable {A : Outline P} (sound : A.Sound scope)

include sound

theorem Outline.Sound.closingOnly : ClosingSteps A.closing :=
  ⟨sound.closingSteps.toBasicSteps, sound.closeEndpoint, sound.hush⟩

/-- Raising an event keeps to the outline, with all that the handler does. -/
theorem Outline.Sound.emits (e : P.Event) :
    Upholds scope (fun c j => A.inv c (j ++ [.raised e])) (emit e) A.inv :=
  sound.steps.emits sound.closingOnly e

/-- What a sound outline says of a new socket it says after every run. -/
theorem Outline.Sound.holds_after_run {protocol : P.State} {endpoint : Endpoint}
    {readChunk writeChunk : Nat} {actions : List (Action P)}
    (inScope : ∀ a ∈ actions, a.Within scope)
    (start : A.inv (fresh protocol endpoint readChunk writeChunk).toConnection [])
    {s : Socket P}
    (ran : run actions (fresh protocol endpoint readChunk writeChunk) = some ((), s)) :
    A.inv s.toConnection s.journal ∧ s.reportingRead = false ∧ s.reportingWrite = false :=
  sound.steps.holds_after_run sound.closingOnly
    (fun e _ => sound.closingSteps.emits sound.closingOnly e) inScope start ran

end

end CanStream
