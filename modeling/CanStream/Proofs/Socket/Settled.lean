import CanStream.Proofs.Protocol.Hook
import CanStream.Proofs.Socket.Fields
import CanStream.Proofs.Socket.Run

/-!
# What transfers leave alone

Operations that move data leave the state of a connection, its mode and its interface alone, and
most of what the protocol keeps and of what the endpoint has on record. An assertion about these is
settled, and all there is to say about it is what setting options, connecting and closing do.

An assertion endures if handlers may be at work where it holds. One that endures, together with
those that hold in the midst of a connect or a close, holds after every run.
-/

namespace CanStream

variable {P : Protocol} {γ : Type}

/-- Reads and writes, and the changes made to the endpoint from outside, leave a view of the
protocol's state and the endpoint as it was. -/
structure Protocol.Spares (P : Protocol) (view : P.State × Endpoint → γ) : Prop where
  read : ∀ n, Hook.Keeps view (P.read n)
  write : ∀ bytes, Hook.Keeps view (P.write bytes)
  messageQueued : ∀ n s e, view (P.messageQueued n s, e) = view (s, e)
  cue : ∀ q s e, view (s, Endpoint.cue e q) = view (s, e)
  poll : ∀ read write s e, view (s, (Endpoint.poll read write e).2) = view (s, e)
  takeWritten : ∀ s (e : Endpoint), view (s, { e with written := [] }) = view (s, e)

/-- Whether an entry has to do with connecting and closing, or is a look at the connection. -/
def Entry.steers : Entry P → Bool
  | raised (.stateChanged _) => true
  | setUp _ => true
  | cleared _ _ => true
  | discarded => true
  | inspected _ => true
  | _ => false

/-- Whether an entry steers, or tells of an option that was kept or of a descriptor that was closed
by somebody else. -/
def Entry.configures : Entry P → Bool
  | kept _ => true
  | severed => true
  | entry => entry.steers

theorem Entry.steers_eq_false {entry : Entry P} (other : entry.configures = false) :
    entry.steers = false := by
  cases entry with
  | kept _ => cases other
  | severed => cases other
  | _ => exact other

/-- The assertion is about the state, the mode and the interface of a connection and a view of its
protocol and endpoint, and about the entries that configure. -/
structure Settled (view : P.State × Endpoint → γ) (K : Assertion P) : Prop where
  congr : ∀ {c c' j}, K c j → c'.state = c.state → c'.mode = c.mode →
    c'.interfaceName = c.interfaceName →
    view (c'.protocol, c'.endpoint) = view (c.protocol, c.endpoint) → K c' j
  append : ∀ {c j} {entry : Entry P}, entry.configures = false → K c j → K c (j ++ [entry])
  inspected : ∀ {c j}, K c j → K c (j ++ [.inspected c])
  sever : ∀ {c j}, K c j →
    K { c with endpoint := (Endpoint.close c.endpoint).2 } (j ++ [.severed])

namespace Settled

variable {view : P.State × Endpoint → γ} {K : Assertion P}

theorem error (settled : Settled view K) {c : Connection P} {j : List (Entry P)} (h : K c j)
    (e : SocketError) : K { c with error := e } (j ++ [.raised (.error e.kind)]) := by
  have raised : K c (j ++ [.raised (.error e.kind)]) := settled.append rfl h
  exact settled.congr raised rfl rfl rfl rfl

/-- Only whether the socket waits for data may change. -/
theorem resumeReading (settled : Settled view K) {c : Connection P} {j : List (Entry P)}
    (h : K c j) : K c.resumeReading j := by
  obtain ⟨on, resumed⟩ := c.exists_resumeReading
  rw [resumed]
  exact settled.congr h rfl rfl rfl rfl

theorem queue (settled : Settled view K) (spares : P.Spares view) {c : Connection P}
    {j : List (Entry P)} (h : K c j) (data : List UInt8) :
    K (c.enqueue data) (j ++ [.queued data]) := by
  have queued : K c (j ++ [.queued data]) := settled.append rfl h
  cases data with
  | nil => exact settled.congr queued rfl rfl rfl rfl
  | cons byte rest =>
    have same := spares.messageQueued (byte :: rest).length c.protocol c.endpoint
    exact settled.congr queued rfl rfl rfl same

theorem read (settled : Settled view K) (spares : P.Spares view) {c : Connection P}
    {j : List (Entry P)} (h : K c j) {window : Nat} {result : Except IoError (List UInt8)}
    {after : P.State × Endpoint}
    (ran : (P.read window).exec (c.protocol, c.endpoint) = (result, after)) :
    K ((c.hooked after).settleRead c window result) (j ++ [c.readEntry after result]) := by
  have same := (spares.read window).of_exec ran
  obtain ⟨buffer, on, settles⟩ := (c.hooked after).exists_settleRead c window result
  rw [settles]
  exact settled.congr (settled.append rfl h) rfl rfl rfl same

theorem write (settled : Settled view K) (spares : P.Spares view) {c : Connection P}
    {j : List (Entry P)} {entry : Entry P} (h : K c j) {result : Except IoError Nat}
    {after : P.State × Endpoint} (other : entry.configures = false)
    (ran : (P.write c.align.writeBuffer.head).exec (c.protocol, c.endpoint) = (result, after)) :
    K ((c.align.hooked after).settleWrite result) (j ++ [entry]) := by
  have same := (spares.write c.align.writeBuffer.head).of_exec ran
  obtain ⟨buffer, pending, started, on, settles⟩ :=
    (c.align.hooked after).exists_settleWrite result
  rw [settles]
  exact settled.congr (settled.append other h) rfl rfl rfl same

theorem transferSteps (settled : Settled view K) (spares : P.Spares view) :
    TransferSteps Scope.all K K where
  error := fun e h => settled.error h e
  clearError := fun h => settled.congr h rfl rfl rfl rfl
  inspected := fun h => settled.inspected h
  beginReport := fun h _ _ => settled.congr (settled.append rfl h) rfl rfl rfl rfl
  endReport := fun h _ => settled.congr h rfl rfl rfl rfl
  skipReport := fun h _ => settled.congr h rfl rfl rfl rfl
  idle := fun h _ => settled.congr h rfl rfl rfl rfl
  write := fun h _ ran => settled.write spares h rfl ran
  takeBytes := fun {c j} n _ h => by
    have taken : K c (j ++ [.taken (c.readBuffer.read n).1]) := settled.append rfl h
    refine settled.resumeReading (c := { c with readBuffer := (c.readBuffer.read n).2 }) ?_
    exact settled.congr taken rfl rfl rfl rfl
  takeFrame := fun {c j header} h _ _ _ => by
    have taken : K c (j ++ [.taken (c.readBuffer.read (Socket.frameSize header)).1]) :=
      settled.append rfl h
    refine settled.resumeReading (settled.congr (c := c) ?_ rfl rfl rfl rfl)
    exact holds_append_frameEntry taken fun _ => settled.append rfl taken
  queueBytes := fun {_ _ data} _ h _ _ => settled.queue spares h data
  queueFrame := fun {_ _ f} _ h _ _ _ _ => settled.append rfl (settled.queue spares h f.toKernel)
  cue := fun {c _ q} _ h => settled.congr h rfl rfl rfl (spares.cue q c.protocol c.endpoint)
  poll := fun {c _} read write h =>
    settled.congr h rfl rfl rfl (spares.poll read write c.protocol c.endpoint)
  takeWritten := fun {c _} h =>
    settled.congr h rfl rfl rfl (spares.takeWritten c.protocol c.endpoint)
  sever := fun h => settled.sever h

/-- All that is left to show is what setting options does. -/
theorem localSteps (settled : Settled view K) (spares : P.Spares view) (options : OptionSteps K) :
    LocalSteps Scope.all K K where
  toTransferSteps := settled.transferSteps spares
  refuseOption := options.refuseOption
  keepOption := options.keepOption
  optionChanged := options.optionChanged
  setReadLimit := fun {c _} n h _ => by
    refine settled.resumeReading (c := { c with readLimit := n }) ?_
    exact settled.congr h rfl rfl rfl rfl

theorem readSteps (settled : Settled view K) (spares : P.Spares view) : ReadSteps K K where
  refuseRead := fun h _ ran _ => settled.read spares h ran
  receive := by
    rintro c _ j window result after h - ran - rfl -
    exact settled.append rfl (settled.read spares h ran)
  announce := by
    rintro c _ j window result after h - ran - rfl - -
    have read := settled.read spares h ran
    exact settled.congr (settled.append rfl (settled.append rfl read)) rfl rfl rfl rfl
  endAnnounce := fun h _ => settled.congr h rfl rfl rfl rfl

theorem turns (settled : Settled view K) : Turns K fun _ => K where
  delivery := fun _ _ h => settled.append rfl h
  returned := fun _ h => settled.append rfl h
  noted := fun _ h => settled.append rfl h

end Settled

/-- A handler may be at work where the assertion holds, and connect and close the socket as well.
Its events wait, so nothing comes in between. -/
structure Enduring (K : Assertion P) : Prop where
  steps : LocalSteps Scope.all K K
  reads : ReadSteps K K
  turns : Turns K fun _ => K
  life : ∃ opening closing released, Lifecycle K opening closing released

/-- What a journal says once and for all lasts, whatever else is done. -/
def Lasting (fact : List (Entry P) → Prop) : Prop :=
  ∀ {j : List (Entry P)} (entry : Entry P), fact j → fact (j ++ [entry])

namespace Lasting

variable {fact : List (Entry P) → Prop}

theorem settled (lasting : Lasting fact) :
    Settled (fun _ => ()) fun (_ : Connection P) j => fact j where
  congr := fun h _ _ _ _ => h
  append := fun {_ _ entry} _ h => lasting entry h
  inspected := fun h => lasting _ h
  sever := fun h => lasting _ h

theorem optionSteps (lasting : Lasting fact) :
    OptionSteps fun (_ : Connection P) j => fact j where
  error := fun _ h => lasting _ h
  refuseOption := fun _ h _ => h
  keepOption := fun _ h _ => lasting _ h
  optionChanged := fun _ h => lasting _ h

theorem lifecycle (lasting : Lasting fact) :
    Lifecycle (fun (_ : Connection P) j => fact j) (fun _ j => fact j) (fun _ j => fact j)
      fun _ j => fact j := by
  have close : CloseSteps (fun (_ : Connection P) j => fact j) (fun _ j => fact j)
      (fun _ j => fact j) fun _ j => fact j := {
    stay := fun h _ => h
    beginClose := fun h _ _ => lasting _ h
    goOnClosing := fun h _ => h
    release := fun h => h
    releaseFailed := fun _ h => lasting _ h
    discard := fun h _ => lasting _ h
    endClose := fun h _ => lasting _ (lasting _ h) }
  exact {
    prepare := fun _ _ h _ _ => lasting _ (lasting _ h)
    connectFailed := fun _ h _ => lasting _ (lasting _ h)
    reconnected := fun _ _ h _ _ => lasting _ h
    connected := fun _ _ h _ _ => lasting _ (lasting _ h)
    giveUp := close
    close := close }

theorem enduring (lasting : Lasting fact) : Enduring fun (_ : Connection P) j => fact j := by
  have spares : P.Spares fun _ => () :=
    ⟨fun _ _ => rfl, fun _ _ => rfl, fun _ _ _ => rfl, fun _ _ _ => rfl, fun _ _ _ _ => rfl,
      fun _ _ => rfl⟩
  exact {
    steps := lasting.settled.localSteps spares lasting.optionSteps
    reads := lasting.settled.readSteps spares
    turns := lasting.settled.turns
    life := ⟨_, _, _, lasting.lifecycle⟩ }

end Lasting

section

variable {K opening closing released : Assertion P}

theorem Enduring.upholds_emit (enduring : Enduring K) (e : P.Event) :
    Socket.Upholds Scope.all (fun c j => K c (j ++ [.raised e])) (Socket.emit e) K := by
  obtain ⟨_, _, _, life⟩ := enduring.life
  have endures : Endures Scope.all Socket.enqueue K :=
    endures_enqueue enduring.steps enduring.reads life
  exact Socket.upholds_emit enduring.turns (fun _ => endures) e (fun _ h => h) id

/-- What connecting and closing lead back to, with handlers at work in the midst of them, holds
after every run. -/
theorem Enduring.holds_after_run (enduring : Enduring K) (whileOpening : Enduring opening)
    (whileClosing : Enduring closing) (whileReleased : Enduring released)
    (life : Lifecycle K opening closing released) {protocol : P.State} {endpoint : Endpoint}
    {readChunk writeChunk : Nat} {actions : List (Action P)}
    (start : K (Socket.fresh protocol endpoint readChunk writeChunk).toConnection [])
    {s : Socket P}
    (ran : Socket.run actions (Socket.fresh protocol endpoint readChunk writeChunk) =
      some ((), s)) : K s.toConnection s.journal := by
  have endures : Endures Scope.all Socket.emit K :=
    endures_of_steps enduring.steps enduring.reads life (fun e _ => enduring.upholds_emit e)
      (enduring.upholds_emit .readyRead) (fun e _ => whileOpening.upholds_emit e)
      (fun e _ => whileClosing.upholds_emit e) fun e _ => whileReleased.upholds_emit e
  exact (Socket.holds_after_run endures (fun a _ => a.within_all) start ran).1

end

end CanStream
