import CanStream.Proofs.Raw.Reading
import CanStream.Proofs.Raw.Writing
import CanStream.Proofs.Socket.Reentry
import CanStream.Protocol.IsoTp
import CanStream.Protocol.Plain

/-!
# What transfers leave alone

Only the set-up of a connection opens the descriptor. What the protocols do to read, to write and to
put an option into effect leaves it open or closed as it was. What a protocol takes for its smallest
unit depends on its options; it stays the same while data is read, written and queued.
-/

namespace CanStream

/-- Transfers leave the size of the units alone. -/
structure Protocol.SteadyUnit (P : Protocol) : Prop where
  read : ∀ n, Hook.Keeps (fun s => P.msgSize s.1) (P.read n)
  write : ∀ bytes, Hook.Keeps (fun s => P.msgSize s.1) (P.write bytes)
  messageQueued : ∀ n s, P.msgSize (P.messageQueued n s) = P.msgSize s

theorem Raw.steadyUnit : protocol.SteadyUnit where
  read := fun _ => .bind .state fun _ => keeps_readFrames (fun _ _ _ => rfl) _ _
  write := fun _ => .bind .state fun _ => keeps_writeFrames (fun _ _ _ => rfl) _ _ _
  messageQueued := fun _ _ => rfl

/-- The units of a transport connection are bytes, whatever its options are. -/
theorem IsoTp.steadyUnit : protocol.SteadyUnit where
  read := fun _ _ => rfl
  write := fun _ _ => rfl
  messageQueued := fun _ _ => rfl

/-- A protocol leaves alone whether the descriptor is open if its hooks other than the set-up do. -/
theorem leaves_isOpen {P : Protocol} (read : ∀ n, Hook.Keeps (fun s => s.2.isOpen) (P.read n))
    (write : ∀ bytes, Hook.Keeps (fun s => s.2.isOpen) (P.write bytes))
    (applyOption : ∀ state value, Hook.Keeps (fun s => s.2.isOpen) (P.applyOption state value)) :
    P.Leaves Endpoint.isOpen where
  read := read
  write := write
  applyOption := applyOption
  cue := fun q e => by cases q <;> rfl
  poll := Endpoint.isOpen_poll
  takeWritten := fun _ => rfl

theorem Plain.leaves_isOpen : Plain.protocol.Leaves Endpoint.isOpen :=
  CanStream.leaves_isOpen (fun n => .call fun _ e => Endpoint.isOpen_read n e)
    (fun bytes => .call fun _ e => Endpoint.isOpen_write bytes e) fun _ => nofun

namespace Raw

theorem leaves_isOpen : protocol.Leaves Endpoint.isOpen := by
  have sets (name : OptionName) (value : List UInt8) :
      Hook.Keeps (fun s : State × Endpoint => s.2.isOpen)
        (Hook.call SocketError.ofIo (Endpoint.setOption name value)) :=
    .call fun _ e => Endpoint.isOpen_setOption name value e
  have pushes (value : Value) : Hook.Keeps (fun s => s.2.isOpen) (push value) := by
    refine .bind .state fun s => .ite ?_ (sets _ _)
    refine .bind (.call fun _ e => Endpoint.isOpen_lookup _ e) fun i => ?_
    exact .ite (.fail _) (sets _ _)
  refine CanStream.leaves_isOpen (fun n => ?_) (fun bytes => ?_) fun _ value => ?_
  · exact .bind .state fun s => keeps_readFrames (fun n _ e => Endpoint.isOpen_read n e) _ _
  · exact .bind .state fun s =>
      keeps_writeFrames (fun bytes _ e => Endpoint.isOpen_write bytes e) _ _ _
  · exact .ite (pushes value) (.pure ())

end Raw

namespace IsoTp

theorem leaves_isOpen : protocol.Leaves Endpoint.isOpen := by
  refine CanStream.leaves_isOpen (fun n => ?_) (fun bytes => ?_)
    fun _ _ => .ite (.pure ()) (.fail _)
  · refine .bind (.attempt fun _ e => Endpoint.isOpen_read n e) ?_
    rintro (cause | bytes)
    · exact .ite (.pure _) (.fail _)
    · exact .pure _
  · refine .bind .state fun s => .bind (.attempt fun _ e => Endpoint.isOpen_write _ e) ?_
    rintro (cause | n)
    · exact .ite (.pure _) (.fail _)
    · exact .bind (.modifyState fun _ _ => rfl) fun _ => .pure _

end IsoTp

end CanStream
