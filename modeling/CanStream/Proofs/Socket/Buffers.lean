import CanStream.Proofs.ByteQueue.Contents
import CanStream.Proofs.Socket.Fields
import CanStream.Proofs.Socket.Run

/-!
# The buffers of a socket

A read fills a window that is reserved at the tail of the read buffer, and the part that was not
filled is given back. Whatever a socket does, its buffers stay well formed.
-/

namespace CanStream

variable {P : Protocol}

namespace Connection

variable {c : Connection P}

theorem toList_settleRead_ok (whole : c.readBuffer.WellFormed) (before : Connection P)
    {window : Nat} {bytes : List UInt8} (fits : bytes.length ≤ window) :
    (c.settleRead before window (.ok bytes)).readBuffer.toList = c.readBuffer.toList ++ bytes := by
  have cut : window - min bytes.length window = window - bytes.length := by omega
  rw [settleRead, takeIn, cut]
  exact ByteQueue.toList_chop_reserve whole fits

theorem toList_settleRead_error (whole : c.readBuffer.WellFormed) (before : Connection P)
    (window : Nat) (cause : IoError) :
    (c.settleRead before window (.error cause)).readBuffer.toList = c.readBuffer.toList := by
  rw [settleRead]
  split
  · have cut : window - min ([] : List UInt8).length window = window := by simp
    rw [takeIn, cut]
    exact ByteQueue.toList_chop_reserve_nil whole window
  · exact ByteQueue.toList_chop_reserve_nil whole window

theorem wellFormed_settleRead (whole : c.readBuffer.WellFormed) (before : Connection P)
    (window : Nat) (result : Except IoError (List UInt8)) :
    (c.settleRead before window result).readBuffer.WellFormed := by
  cases result with
  | ok bytes => exact (whole.reserve _ _).chop _
  | error cause =>
    rw [settleRead]
    split
    · exact (whole.reserve _ _).chop _
    · exact (whole.reserve _ _).chop _

theorem wellFormed_settleWrite (whole : c.writeBuffer.WellFormed) (after : P.State × Endpoint)
    (result : Except IoError Nat) :
    ((c.hooked after).settleWrite result).writeBuffer.WellFormed := by
  cases result with
  | ok n => exact whole.free n
  | error cause =>
    by_cases invalid : cause.kind = .invalidData
    · rw [settleWrite, refuseWrite_of_invalid _ invalid]
      exact ByteQueue.wellFormed_clear _
    · rw [settleWrite, refuseWrite_of_valid _ invalid]
      exact whole

theorem readBuffer_settleWrite (c : Connection P) (result : Except IoError Nat) :
    (c.settleWrite result).readBuffer = c.readBuffer := by
  cases result with
  | ok n => rfl
  | error cause => exact c.readBuffer_refuseWrite cause

end Connection

/-- Both buffers of a connection are well formed. -/
structure Buffered (c : Connection P) (j : List (Entry P)) : Prop where
  read : c.readBuffer.WellFormed
  write : c.writeBuffer.WellFormed

namespace Buffered

variable {c c' : Connection P} {j j' : List (Entry P)}

theorem congr (h : Buffered c j) (read : c'.readBuffer = c.readBuffer)
    (write : c'.writeBuffer = c.writeBuffer) : Buffered c' j' :=
  ⟨read ▸ h.read, write ▸ h.write⟩

theorem cleared (read : c'.readBuffer = c.readBuffer.clear)
    (write : c'.writeBuffer = c.writeBuffer.clear) : Buffered c' j' :=
  ⟨read ▸ c.readBuffer.wellFormed_clear, write ▸ c.writeBuffer.wellFormed_clear⟩

theorem take (h : Buffered c j) (n : Nat) :
    Buffered { c with readBuffer := (c.readBuffer.read n).2 }.resumeReading j' := by
  obtain ⟨on, resumed⟩ := Connection.exists_resumeReading
    { c with readBuffer := (c.readBuffer.read n).2 }
  rw [resumed]
  exact ⟨h.read.read n, h.write⟩

theorem queue (h : Buffered c j) (data : List UInt8) : Buffered (c.enqueue data) j' := by
  by_cases isEmpty : data = []
  · subst isEmpty
    exact h.congr rfl rfl
  · rw [c.enqueue_of_ne_nil isEmpty]
    exact ⟨h.read, h.write.append data⟩

end Buffered

theorem steps_buffered : Steps Scope.all (Buffered (P := P)) Buffered Buffered where
  delivery := fun _ _ h => h.congr rfl rfl
  returned := fun _ h => h.congr rfl rfl
  noted := fun _ h => h.congr rfl rfl
  error := fun _ h => h.congr rfl rfl
  clearError := fun h => h.congr rfl rfl
  inspected := fun h => h.congr rfl rfl
  beginClose := fun h _ _ => h.congr rfl rfl
  goOnClosing := fun h _ => h
  discard := fun _ _ => .cleared rfl rfl
  endClose := fun _ _ => .cleared rfl rfl
  sever := fun h => h.congr rfl rfl
  prepare := fun _ _ _ _ => .cleared rfl rfl
  connectFailed := fun _ h _ => h.congr rfl rfl
  reconnected := fun _ _ h _ _ => h.congr rfl rfl
  connected := fun _ _ h _ _ => h.congr rfl rfl
  read := fun {c _ window result after} h _ _ => by
    have whole := Connection.wellFormed_settleRead (c := c.hooked after) h.read c window result
    obtain ⟨buffer, on, settled⟩ := (c.hooked after).exists_settleRead c window result
    rw [settled] at whole ⊢
    exact ⟨whole, h.write⟩
  received := fun _ h => h.congr rfl rfl
  beginAnnounce := fun h _ => h.congr rfl rfl
  endAnnounce := fun h _ => h.congr rfl rfl
  beginReport := fun h _ _ => h.congr rfl rfl
  endReport := fun h _ => h.congr rfl rfl
  skipReport := fun h _ => h.congr rfl rfl
  idle := fun h _ => h.congr rfl rfl
  write := fun {c _ result after} h _ _ => by
    refine ⟨?_, Connection.wellFormed_settleWrite (c := c.align) (h.write.makeContiguous _) _ _⟩
    rw [Connection.readBuffer_settleWrite]
    exact h.read
  refuseOption := fun _ h _ => h.congr rfl rfl
  keepOption := fun _ h _ => h.congr rfl rfl
  optionChanged := fun _ h => h.congr rfl rfl
  setReadLimit := fun {c _} n h _ => by
    obtain ⟨on, resumed⟩ := Connection.exists_resumeReading { c with readLimit := n }
    rw [resumed]
    exact h.congr rfl rfl
  takeBytes := fun n _ h => h.take n
  takeFrame := fun h _ _ _ => h.take _
  queueBytes := fun _ h _ _ => h.queue _
  queueFrame := fun _ h _ _ _ _ => h.queue _
  cue := fun _ h => h.congr rfl rfl
  poll := fun _ _ h => h.congr rfl rfl
  takeWritten := fun h => h.congr rfl rfl

/-- After every run of a socket its buffers are well formed. -/
theorem wellFormed_of_run {protocol : P.State} {endpoint : Endpoint} {readChunk writeChunk : Nat}
    {actions : List (Action P)} {s : Socket P}
    (ran : Socket.run actions (Socket.fresh protocol endpoint readChunk writeChunk) =
      some ((), s)) :
    s.readBuffer.WellFormed ∧ s.writeBuffer.WellFormed := by
  have sound : Outline.Sound Scope.all ⟨Buffered (P := P), Buffered, Buffered⟩ :=
    ⟨steps_buffered, steps_buffered, fun h => h.congr rfl rfl, fun h => h.congr rfl rfl⟩
  have start : Buffered (Socket.fresh protocol endpoint readChunk writeChunk).toConnection [] :=
    ⟨ByteQueue.wellFormed_empty _, ByteQueue.wellFormed_empty _⟩
  obtain ⟨h, -⟩ := sound.holds_after_run (fun a _ => a.within_all) start ran
  exact ⟨h.read, h.write⟩

end CanStream
