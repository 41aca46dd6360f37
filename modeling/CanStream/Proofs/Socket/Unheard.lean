import CanStream.Proofs.Protocol.Hook
import CanStream.Proofs.Socket.Alone
import CanStream.Proofs.Socket.Detached

/-!
# What nobody hears of

Without a handler nobody interferes with an operation. Beside its buffers, the protocol and the
endpoint, an operation only changes what the connection knows of its own state. So it keeps a
condition on a view of these if the hooks and the calls that it makes leave the view alone.
-/

namespace CanStream

variable {P : Protocol}

/-- What a connection works on. -/
structure Stock (P : Protocol) where
  protocol : P.State
  endpoint : Endpoint
  readBuffer : ByteQueue
  readLimit : Nat
  writeBuffer : ByteQueue

def Connection.stock (c : Connection P) : Stock P where
  protocol := c.protocol
  endpoint := c.endpoint
  readBuffer := c.readBuffer
  readLimit := c.readLimit
  writeBuffer := c.writeBuffer

namespace Socket

variable {α ε γ : Type} {view : Stock P → γ} {Φ : Socket P → Prop}

/-- The operation leads from the one condition to the other if it succeeds. -/
def Passes (Φ : Socket P → Prop) (m : SocketM P Bool) (Ψ : Socket P → Prop) : Prop :=
  ∀ s, Φ s → After m s fun passed s' => passed = true → Ψ s'

namespace Passes

variable {Ψ : Socket P → Prop}

theorem of_keeps {m : SocketM P Bool} (keeps : Keeps Φ m) : Passes Φ m Φ :=
  fun s h => (keeps s h).mono fun _ _ h' _ => h'

/-- It failed, whatever it does before it tells so. -/
theorem refused {m : SocketM P Unit} {s : Socket P} :
    After (do m; pure false) s fun passed s' => passed = true → Ψ s' := by
  intro passed s' ran
  obtain ⟨rfl, -⟩ := eq_of_bind_pure ran
  exact nofun

theorem failed {s : Socket P} : After (pure false) s fun passed s' => passed = true → Ψ s' :=
  (after_pure false).mpr fun passed => absurd passed Bool.false_ne_true

end Passes

/-- The condition is about a socket without a handler, and depends on a view of what its connection
works on. -/
structure Unheard (view : Stock P → γ) (Φ : Socket P → Prop) : Prop where
  alone : ∀ {s}, Φ s → s.handler = none
  congr : ∀ {s s'}, Φ s → s'.handler = s.handler →
    view s'.toConnection.stock = view s.toConnection.stock → Φ s'

namespace Unheard

variable (u : Unheard view Φ)

include u

theorem keeps_update {f : Connection P → Connection P}
    (same : ∀ c, view (f c).stock = view c.stock) : Keeps Φ (update f) :=
  fun s h => after_update.mpr (u.congr h rfl (same s.toConnection))

theorem keeps_record (entry : Entry P) : Keeps Φ (record entry) :=
  fun _ h => after_record.mpr (u.congr h rfl rfl)

theorem keeps_emit (e : P.Event) : Keeps Φ (Socket.emit e) := by
  intro s h
  refine (after_of_eq (emit_of_alone (u.alone h) e)).mpr (u.congr h (handler_unheard s e) ?_)
  rw [toConnection_unheard]

theorem keeps_setError (error : SocketError) : Keeps Φ (setError Socket.emit error) := by
  refine .bind (u.keeps_update fun _ => rfl) fun _ => ?_
  exact u.keeps_emit (.error error.kind)

theorem keeps_setState (state : SocketState) : Keeps Φ (setState Socket.emit state) := by
  refine .get fun s => .ite (.pure ()) ?_
  refine .bind (u.keeps_update fun _ => rfl) fun _ => ?_
  exact u.keeps_emit (.stateChanged state)

theorem keeps_reportFailure (result : Except IoError α) :
    Keeps Φ (reportFailure Socket.emit result) := by
  cases result with
  | ok a => exact .pure _
  | error cause => exact u.keeps_setError _

theorem keeps_call {call : Endpoint.Call α}
    (spares : ∀ k : Stock P, view { k with endpoint := (call k.endpoint).2 } = view k) :
    Keeps Φ (callEndpoint call) :=
  fun s h => after_callEndpoint.mpr (u.congr h rfl (spares s.toConnection.stock))

theorem keeps_hook {hook : Hook P.State ε α}
    (spares : ∀ k : Stock P, let after := (hook.exec (k.protocol, k.endpoint)).2
      view { k with protocol := after.1, endpoint := after.2 } = view k) : Keeps Φ (runHook hook) :=
  fun s h => after_runHook.mpr (u.congr h rfl (spares s.toConnection.stock))

theorem keeps_reportWritten : Keeps Φ (reportWritten Socket.emit) := by
  refine .get fun s => .ite ?_ (.pure ())
  refine .bind (u.keeps_update fun _ => rfl) fun _ => ?_
  refine .bind (u.keeps_emit (.bytesWritten s.pending)) fun _ => ?_
  exact u.keeps_update fun _ => rfl

theorem keeps_announceRead (available : Nat) : Keeps Φ (announceRead Socket.emit available) := by
  refine .get fun s => .ite ?_ (.pure ())
  refine .bind (u.keeps_update fun _ => rfl) fun _ => ?_
  refine .bind (u.keeps_emit .readyRead) fun _ => ?_
  exact u.keeps_update fun _ => rfl

/-- A view without the read buffer. -/
theorem keeps_pumpRead
    (blind : ∀ (k : Stock P) buffer, view { k with readBuffer := buffer } = view k)
    (spares : ∀ window, ∀ k : Stock P,
      let after := ((P.read window).exec (k.protocol, k.endpoint)).2
      view { k with protocol := after.1, endpoint := after.2 } = view k) :
    Keeps Φ (pumpRead Socket.emit) := by
  have takes (before : Connection P) (window : Nat) (bytes : List UInt8) :
      Keeps Φ (takeIn Socket.emit before window bytes) := by
    refine .bind (u.keeps_update fun c => blind c.stock _) fun _ => .get fun s => ?_
    refine .bind (u.keeps_record _) fun _ => ?_
    refine .bind (u.keeps_announceRead before.available) fun _ => ?_
    exact .pure true
  refine .get fun s => ?_
  cases s.readWindow? with
  | none => exact .pure false
  | some window =>
    refine .bind (u.keeps_hook (spares window)) fun result => .get fun after => ?_
    refine .bind (u.keeps_record _) fun _ => ?_
    cases result with
    | ok bytes => exact takes _ window bytes
    | error cause =>
      refine .ite (takes _ window []) ?_
      refine .bind (u.keeps_update fun c => blind c.stock _) fun _ => ?_
      refine .bind (u.keeps_setError _) fun _ => ?_
      exact .pure false

theorem keeps_polling {read write : Bool}
    (spares : ∀ k : Stock P,
      view { k with endpoint := (Endpoint.poll read write k.endpoint).2 } = view k) :
    Keeps Φ (poll Socket.emit read write) := by
  refine .bind (u.keeps_call spares) fun answer => ?_
  rcases answer with cause | ⟨⟨⟩ | r⟩
  · exact .bind (u.keeps_setError _) fun _ => .pure _
  · exact .bind (u.keeps_setError _) fun _ => .pure _
  · exact .pure _

theorem keeps_queueing
    (spares : ∀ (c : Connection P) data, view (c.enqueue data).stock = view c.stock)
    (data : List UInt8) : Keeps Φ (write data) := by
  refine .get fun s => .ite (.pure _) (.ite (.pure _) ?_)
  refine .bind (u.keeps_update fun c => spares c data) fun _ => ?_
  refine .bind (u.keeps_record (.queued data)) fun _ => ?_
  exact .pure _

theorem keeps_queueingFrame
    (spares : ∀ (c : Connection P) data, view (c.enqueue data).stock = view c.stock) (f : Frame) :
    Keeps Φ (writeFrame f) := by
  refine .get fun s => .ite (.pure _) (.ite (.pure _) ?_)
  refine .bind (u.keeps_queueing spares f.toKernel) fun result => ?_
  cases result with
  | error cause => exact .pure _
  | ok n =>
    refine .bind (u.keeps_record (.frameQueued f)) fun _ => ?_
    exact .pure _

/-- A view without the read buffer. -/
theorem keeps_readFrame
    (blind : ∀ (k : Stock P) buffer, view { k with readBuffer := buffer } = view k) :
    Keeps Φ readFrame := by
  have takes (f : ByteQueue → List UInt8 × ByteQueue) : Keeps Φ (takeOut f) := by
    refine .get fun s => ?_
    have shrinks : Keeps Φ (update fun c : Connection P =>
        { c with readBuffer := (f s.readBuffer).2 }.resumeReading) := by
      refine u.keeps_update fun c => ?_
      obtain ⟨on, resumed⟩ := { c with readBuffer := (f s.readBuffer).2 }.exists_resumeReading
      rw [resumed]
      exact blind c.stock _
    refine .bind shrinks fun _ => ?_
    refine .bind (u.keeps_record (.taken (f s.readBuffer).1)) fun _ => ?_
    exact .pure (f s.readBuffer).1
  refine .get fun s => .ite (.pure _) ?_
  refine .bind (takes _) fun bytes => ?_
  cases Frame.ofKernel? bytes with
  | none => exact .pure _
  | some made =>
    refine .bind (u.keeps_record (.frameTaken made.1)) fun _ => ?_
    exact .pure _

theorem passes_connect
    (prepares : ∀ {s} ifname mode, Φ s → Φ (s.change (·.prepare ifname mode))) {ifname : String}
    (spares : ∀ k : Stock P, let after := ((P.connect ifname).exec (k.protocol, k.endpoint)).2
      view { k with protocol := after.1, endpoint := after.2 } = view k)
    (mode : OpenMode) : Passes Φ (connect Socket.emit ifname mode) Φ := by
  intro s h
  rw [connect, after_bind, after_get, after_ite, after_ite]
  refine ⟨fun _ => Passes.refused, fun _ => ⟨fun _ => Passes.refused, fun _ => ?_⟩⟩
  rw [after_bind, after_update, after_bind]
  refine (u.keeps_record _ _ (prepares ifname mode h)).mono fun _ s₁ h₁ => ?_
  rw [after_bind]
  refine (u.keeps_setState .connecting s₁ h₁).mono fun _ s₂ h₂ => ?_
  rw [after_bind]
  refine (u.keeps_hook spares s₂ h₂).mono fun result s₃ h₃ => ?_
  rw [after_bind]
  refine (u.keeps_record _ s₃ h₃).mono fun _ s₄ h₄ => ?_
  cases result with
  | error cause =>
    exact after_bind.mpr ((u.keeps_setError cause s₄ h₄).mono fun _ _ _ => Passes.refused)
  | ok done =>
    rw [after_bind, after_update, after_bind]
    have h₅ : Φ (s₄.change fun c => { c with wantsRead := c.wantsRead || mode.reads }) :=
      u.congr h₄ rfl rfl
    exact (u.keeps_setState .connected _ h₅).mono fun _ s₆ h₆ => (after_pure true).mpr fun _ => h₆

theorem keeps_closing
    (spares : ∀ k : Stock P, view { k with endpoint := (Endpoint.close k.endpoint).2 } = view k)
    (discards : ∀ {s}, Φ s → Φ (s.change Connection.discard)) : Keeps Φ (close Socket.emit) := by
  have empties : Keeps Φ (update Connection.discard) := fun _ h => after_update.mpr (discards h)
  refine .get fun s => .ite (.pure ()) ?_
  refine .bind (u.keeps_setState .closing) fun _ => ?_
  refine .bind (u.keeps_update fun _ => rfl) fun _ => ?_
  refine .bind (u.keeps_call spares) fun result => ?_
  refine .bind (u.keeps_reportFailure result) fun _ => ?_
  refine .bind empties fun _ => ?_
  refine .bind (u.keeps_record .discarded) fun _ => ?_
  exact u.keeps_setState .unconnected

end Unheard

/-! ## Waits -/

namespace Passes

variable {Ψ : Socket P → Prop} {emit : Emit P}

theorem nextTurn {wait : Wait} {turn : Nat} {go : SocketM P Bool} (goes : Passes Φ go Ψ) :
    Passes Φ (nextTurn emit wait turn go) Ψ := by
  intro s h
  rw [Socket.nextTurn, after_ite, after_bind]
  exact ⟨fun _ _ _ _ => failed, fun _ => goes s h⟩

variable (polls : ∀ read write, Keeps Φ (poll emit read write))
  (writes : Passes Φ (completeWrite emit) Φ)

include polls writes

/-- A wait for a write reads meanwhile. -/
theorem writeTurns (reads : Passes Φ (pumpRead emit) Φ) (wait : Wait) (turn left : Nat) :
    Passes Φ (writeTurns emit wait turn left) Φ := by
  induction left generalizing turn with
  | zero => exact fun _ _ => after_never
  | succ left ih =>
    intro s h
    have next : Passes Φ (Socket.nextTurn emit wait turn
        (Socket.writeTurns emit wait (turn + 1) left)) Φ := nextTurn (ih (turn + 1))
    rw [Socket.writeTurns, after_bind, after_get, after_bind]
    refine (polls _ true s h).mono fun answer s₁ h₁ => ?_
    cases answer with
    | none => exact failed
    | some ready =>
      have goOn (read : Bool) {s₂ : Socket P} (h₂ : read = true → Φ s₂) :
          After (if !read then pure false
            else if ready.writable then completeWrite emit
            else Socket.nextTurn emit wait turn (Socket.writeTurns emit wait (turn + 1) left)) s₂
            fun passed s' => passed = true → Φ s' := by
        cases read with
        | false => exact failed
        | true =>
          rw [after_ite, after_ite]
          refine ⟨fun unread => absurd unread Bool.false_ne_true, fun _ => ?_⟩
          exact ⟨fun _ => writes s₂ (h₂ rfl), fun _ => next s₂ (h₂ rfl)⟩
      refine after_ite.mpr ⟨fun _ => after_bind.mpr ?_, fun _ => after_bind.mpr ?_⟩
      · exact (reads s₁ h₁).mono fun read s₂ h₂ => goOn read h₂
      · exact (after_pure true).mpr (goOn true fun _ => h₁)

theorem waitForBytesWritten (reads : Passes Φ (pumpRead emit) Φ) (wait : Wait) :
    Passes Φ (waitForBytesWritten emit wait) Φ := by
  intro s h
  rw [Socket.waitForBytesWritten, after_bind, after_get, after_ite, after_ite]
  refine ⟨fun _ => failed, fun _ => ⟨fun _ => failed, fun _ => ?_⟩⟩
  exact writeTurns polls writes reads wait 0 wait.turns s h

end Passes

end Socket

end CanStream
