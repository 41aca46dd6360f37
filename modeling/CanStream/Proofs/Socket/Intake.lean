import CanStream.Proofs.Protocol.Gathering
import CanStream.Proofs.Socket.Unheard

/-!
# What a socket takes in

What a read depends on is the intake of a connection: what is to arrive, the size that it is cut to,
and the buffer it goes into. Without a handler, operations leave the intake alone unless they read,
take data, connect or close. So the waits keep a condition on the intake that reads keep, and what a
wait took in is what its reads took.
-/

namespace CanStream

variable {P : Protocol}

/-- What is to arrive, the size it is cut to, the buffer it goes into and the buffer's limit. -/
def Gatherer.intake (g : Gatherer P) (k : Stock P) : List Arrival × Nat × ByteQueue × Nat :=
  (k.endpoint.arrivals, g.cut k.protocol, k.readBuffer, k.readLimit)

theorem Gatherer.intake_enqueue (g : Gatherer P) (c : Connection P) (data : List UInt8) :
    g.intake (c.enqueue data).stock = g.intake c.stock := by
  unfold Connection.enqueue
  split
  · rfl
  · exact congrArg (fun cut => (_, cut, _)) (g.messageQueued data.length c.protocol)

namespace Socket

variable {α ε : Type} {g : Gatherer P} {Φ Ψ : Socket P → Prop}

namespace Unheard

section

variable (u : Unheard g.intake Φ)

include u

theorem keeps_runHook {hook : Hook P.State ε α}
    (spares : Hook.Keeps (fun s => (g.cut s.1, s.2.arrivals)) hook) : Keeps Φ (runHook hook) := by
  refine u.keeps_hook fun k => ?_
  obtain ⟨cut, left⟩ := Prod.mk.inj (spares (k.protocol, k.endpoint))
  exact Prod.ext left (Prod.ext cut rfl)

theorem keeps_startWrite : Keeps Φ (startWrite Socket.emit) := by
  have refuses (cause : IoError) : Keeps Φ (update (·.refuseWrite cause)) := by
    refine u.keeps_update fun c => ?_
    unfold Connection.refuseWrite
    split <;> rfl
  refine .get fun s => .ite (.pure true) ?_
  refine .bind (u.keeps_update fun _ => rfl) fun _ => .get fun aligned => ?_
  refine .bind (u.keeps_runHook (g.write _)) fun result => .get fun after => ?_
  refine .bind (u.keeps_record _) fun _ => ?_
  cases result with
  | error cause =>
    refine .bind (refuses cause) fun _ => ?_
    refine .bind (u.keeps_setError _) fun _ => ?_
    exact .pure false
  | ok n =>
    refine .bind (u.keeps_update fun _ => rfl) fun _ => ?_
    exact .pure true

theorem keeps_completeWrite : Keeps Φ (completeWrite Socket.emit) := by
  refine .bind u.keeps_reportWritten fun _ => ?_
  refine .bind (u.keeps_update fun _ => rfl) fun _ => .get fun s => .ite ?_ u.keeps_startWrite
  refine .bind (u.keeps_update fun _ => rfl) fun _ => ?_
  exact .pure true

theorem keeps_poll (read write : Bool) : Keeps Φ (poll Socket.emit read write) :=
  u.keeps_polling fun k => congrArg (·, _) (Endpoint.arrivals_poll read write k.endpoint)

theorem keeps_write (data : List UInt8) : Keeps Φ (write data) :=
  u.keeps_queueing g.intake_enqueue data

theorem keeps_writeFrame (f : Frame) : Keeps Φ (writeFrame f) :=
  u.keeps_queueingFrame g.intake_enqueue f

theorem after_connect
    (prepares : ∀ {s} ifname mode, Φ s → Φ (s.change (·.prepare ifname mode)))
    (ifname : String) (mode : OpenMode) : Passes Φ (connect Socket.emit ifname mode) Φ :=
  u.passes_connect prepares (fun k => by
    obtain ⟨cut, left⟩ := Prod.mk.inj (g.connect ifname (k.protocol, k.endpoint))
    exact Prod.ext left (Prod.ext cut rfl)) mode

end

end Unheard

/-- A read leads from the one condition to the other, or it fails. -/
structure Gains (g : Gatherer P) (Φ Ψ : Socket P → Prop) : Prop extends Unheard g.intake Φ where
  pump : ∀ {s}, Φ s → After (pumpRead Socket.emit) s fun read s' =>
    (read = true → Ψ s') ∧ (read = false → s'.error.kind ≠ .timeout)

namespace Gains

/-- A wait for data ends with one read, unless it runs out of time or fails before. -/
theorem after_readTurns (r : Gains g Φ Ψ) (wait : Wait) (turn left : Nat) {s : Socket P}
    (h : Φ s) :
    After (readTurns Socket.emit wait turn left) s fun ready s' =>
      (ready = true → Ψ s') ∧ (ready = false → s'.error.kind = .timeout → Φ s') := by
  induction left generalizing turn s with
  | zero => exact after_never
  | succ left ih =>
    have fails {s : Socket P} (h : Φ s) : After (pure false) s fun ready s' =>
        (ready = true → Ψ s') ∧ (ready = false → s'.error.kind = .timeout → Φ s') :=
      (after_pure false).mpr ⟨nofun, fun _ _ => h⟩
    have next {s : Socket P} (h : Φ s) : After (nextTurn Socket.emit wait turn
        (readTurns Socket.emit wait (turn + 1) left)) s fun ready s' =>
        (ready = true → Ψ s') ∧ (ready = false → s'.error.kind = .timeout → Φ s') := by
      rw [nextTurn, after_ite, after_bind]
      exact ⟨fun _ => (r.keeps_setError _ s h).mono fun _ _ h => fails h, fun _ => ih (turn + 1) h⟩
    rw [readTurns, after_bind, after_get, after_bind]
    refine (r.keeps_poll true _ s h).mono fun answer s₁ h₁ => ?_
    cases answer with
    | none => exact fails h₁
    | some ready =>
      rw [after_ite, after_ite, after_bind]
      refine ⟨fun _ => (r.pump h₁).mono fun read s₂ gained => ?_,
        fun _ => ⟨fun _ => ?_, fun _ => next h₁⟩⟩
      · exact ⟨gained.1, fun failed late => absurd late (gained.2 failed)⟩
      · refine (r.keeps_completeWrite s₁ h₁).mono fun written s₂ h₂ => ?_
        rw [after_ite]
        exact ⟨fun _ => next h₂, fun _ => fails h₂⟩

theorem after_waitForReadyRead (r : Gains g Φ Ψ) (wait : Wait) {s : Socket P} (h : Φ s) :
    After (waitForReadyRead Socket.emit wait) s fun ready s' =>
      (ready = true → Ψ s') ∧ (ready = false → s'.error.kind = .timeout → Φ s') := by
  rw [waitForReadyRead, after_bind, after_get, after_ite]
  refine ⟨fun _ => (after_pure false).mpr ⟨fun ready => ?_, fun _ _ => h⟩, fun _ => ?_⟩
  · cases ready
  · exact r.after_readTurns wait 0 wait.turns h

theorem passes_waitForBytesWritten (r : Gains g Φ Φ) (wait : Wait) :
    Passes Φ (waitForBytesWritten Socket.emit wait) Φ :=
  Passes.waitForBytesWritten r.keeps_poll (.of_keeps r.keeps_completeWrite)
    (fun _ h => (r.pump h).mono fun _ _ gained => gained.1) wait

end Gains

end Socket

end CanStream
