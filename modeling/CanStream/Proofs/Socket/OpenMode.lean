import CanStream.Proofs.ByteQueue.Contents
import CanStream.Proofs.Socket.Buffers
import CanStream.Proofs.Socket.History

/-!
# The mode of an open socket

A socket is in the mode that it was asked to connect in last, until it is closed. Only in a mode
that writes does anything get into the write buffer, so that the protocol is never asked to write in
any other. What is in the read buffer was read in the mode that the socket is still in.
-/

namespace CanStream

variable {P : Protocol}

/-- The mode that the socket was asked to connect in last, unless it was closed since. -/
def modeAt (j : List (Entry P)) : OpenMode := ((target j).map Prod.snd).getD FlagSet.empty

namespace Entry

/-- Whether the protocol was asked to read. -/
def isRead : Entry P → Bool
  | readHook _ _ _ => true
  | _ => false

/-- Whether the protocol was asked to write. -/
def isWrite : Entry P → Bool
  | writeHook _ _ _ _ _ => true
  | _ => false

end Entry

section

variable {j : List (Entry P)} {entry : Entry P}

theorem modeAt_append (keeps : entry.clears = false) : modeAt (j ++ [entry]) = modeAt j := by
  rw [modeAt, target_append]
  cases entry with
  | cleared ifname mode => cases keeps
  | discarded => cases keeps
  | _ => rfl

@[simp] theorem modeAt_append_cleared (ifname : String) (mode : OpenMode) :
    modeAt (j ++ [.cleared ifname mode]) = mode := by
  rw [modeAt, target_append]
  rfl

@[simp] theorem modeAt_append_discarded : modeAt (j ++ [.discarded]) = FlagSet.empty := by
  rw [modeAt, target_append]
  rfl

end

/-- The protocol was asked to read while the socket was in the mode. -/
def ReadIn (mode : OpenMode) (j : List (Entry P)) : Prop :=
  ∃ before entry after, j = before ++ entry :: after ∧ entry.isRead = true ∧ modeAt before = mode

theorem ReadIn.append {mode : OpenMode} {j : List (Entry P)} (h : ReadIn mode j)
    (entry : Entry P) : ReadIn mode (j ++ [entry]) := by
  obtain ⟨before, read, after, rfl, isRead, same⟩ := h
  exact ⟨before, read, after ++ [entry], by simp, isRead, same⟩

/-- The mode goes with the journal, and so does what the buffers hold with the mode. -/
structure Admitted (c : Connection P) (j : List (Entry P)) : Prop where
  mode : c.mode = modeAt j
  lawful : Lawful (fun before entry => entry.isWrite = true → (modeAt before).writes = true) j
  writes : c.unwritten ≠ 0 → c.mode.writes = true
  reads : c.available ≠ 0 → ReadIn c.mode j

namespace Admitted

variable {c c' : Connection P} {j : List (Entry P)} {entry : Entry P}

theorem congr (h : Admitted c j) (mode : c'.mode = c.mode)
    (written : c'.writeBuffer = c.writeBuffer) (read : c'.readBuffer = c.readBuffer) :
    Admitted c' j where
  mode := mode.trans h.mode
  lawful := h.lawful
  writes := by
    rw [Connection.unwritten, mode, written]
    exact h.writes
  reads := by
    rw [Connection.available, mode, read]
    exact h.reads

theorem append (h : Admitted c j) (keeps : entry.clears = false) (other : entry.isWrite = false) :
    Admitted c (j ++ [entry]) where
  mode := h.mode.trans (modeAt_append keeps).symm
  lawful := h.lawful.append (by simp [other])
  writes := h.writes
  reads := fun nonzero => (h.reads nonzero).append entry

/-- The buffers hold nothing. -/
theorem clear (h : Admitted c j) (clears : entry.clears = true)
    (mode : c'.mode = modeAt (j ++ [entry])) (written : c'.unwritten = 0)
    (read : c'.available = 0) : Admitted c' (j ++ [entry]) where
  mode := mode
  lawful := h.lawful.append fun isWrite => by
    cases entry <;> simp [Entry.clears, Entry.isWrite] at clears isWrite
  writes := fun nonzero => absurd written nonzero
  reads := fun nonzero => absurd read nonzero

theorem resumeReading (h : Admitted c j) : Admitted c.resumeReading j := by
  obtain ⟨on, resumed⟩ := c.exists_resumeReading
  rw [resumed]
  exact h.congr rfl rfl rfl

theorem take (h : Admitted c j) (n : Nat) :
    Admitted { c with readBuffer := (c.readBuffer.read n).2 }.resumeReading
      (j ++ [.taken (c.readBuffer.read n).1]) := by
  have taken : Admitted c (j ++ [.taken (c.readBuffer.read n).1]) := h.append rfl rfl
  refine resumeReading (c := { c with readBuffer := (c.readBuffer.read n).2 })
    ⟨taken.mode, taken.lawful, taken.writes, fun nonzero => taken.reads ?_⟩
  have less : (c.readBuffer.read n).2.size ≤ c.available := by
    rw [ByteQueue.read, ByteQueue.size_free]
    exact Nat.sub_le _ _
  exact Nat.ne_of_gt (Nat.lt_of_lt_of_le (Nat.pos_of_ne_zero nonzero) less)

theorem queue (h : Admitted c j) (data : List UInt8) (writes : c.mode.writes = true) :
    Admitted (c.enqueue data) (j ++ [.queued data]) := by
  have queued : Admitted c (j ++ [.queued data]) := h.append rfl rfl
  by_cases isEmpty : data = []
  · subst isEmpty
    exact queued.congr rfl rfl rfl
  · rw [c.enqueue_of_ne_nil isEmpty]
    exact ⟨queued.mode, queued.lawful, fun _ => writes, queued.reads⟩

/-- What a read leaves in the buffer was read now, or was there before. -/
theorem read (h : Admitted c j) {result : Except IoError (List UInt8)} (window : Nat)
    (after : P.State × Endpoint) :
    Admitted ((c.hooked after).settleRead c window result) (j ++ [c.readEntry after result]) := by
  obtain ⟨buffer, on, settled⟩ := (c.hooked after).exists_settleRead c window result
  have appended : Admitted c (j ++ [c.readEntry after result]) := h.append rfl rfl
  rw [settled]
  exact ⟨appended.mode, appended.lawful, h.writes, fun _ => ⟨j, _, [], rfl, rfl, h.mode.symm⟩⟩

theorem write (h : Admitted c j) (nonempty : c.writeBuffer.isEmpty = false)
    {result : Except IoError Nat} (after : P.State × Endpoint) {tried sent : List (List UInt8)} :
    Admitted ((c.align.hooked after).settleWrite result)
      (j ++ [.writeHook c.reportingWrite c.align.writeBuffer.head tried sent result]) := by
  have nonzero : c.unwritten ≠ 0 := by
    rw [ne_eq, Connection.unwritten, ← ByteQueue.isEmpty_iff, nonempty]
    exact nofun
  have writes := h.writes nonzero
  obtain ⟨buffer, pending, started, on, settled⟩ :=
    (c.align.hooked after).exists_settleWrite result
  rw [settled]
  refine ⟨h.mode.trans (modeAt_append rfl).symm, h.lawful.append fun _ => ?_, fun _ => writes,
    fun nonzero => (h.reads nonzero).append _⟩
  rw [← h.mode]
  exact writes

end Admitted

theorem steps_admitted : Steps Scope.all (Admitted (P := P)) Admitted Admitted where
  delivery := fun _ _ h => h.append rfl rfl
  returned := fun _ h => h.append rfl rfl
  noted := fun _ h => h.append rfl rfl
  error := fun _ h => (h.append rfl rfl).congr rfl rfl rfl
  clearError := fun h => h.congr rfl rfl rfl
  inspected := fun h => h.append rfl rfl
  beginClose := fun h _ _ => (h.append rfl rfl).congr rfl rfl rfl
  goOnClosing := fun h _ => h
  discard := fun h _ => h.clear rfl modeAt_append_discarded.symm rfl rfl
  endClose := fun h _ =>
    ((h.clear rfl modeAt_append_discarded.symm rfl rfl).append rfl rfl :
      Admitted (Connection.discard _) _).congr rfl rfl rfl
  sever := fun h => (h.append rfl rfl).congr rfl rfl rfl
  prepare := fun {c _} ifname mode h _ =>
    ((h.clear rfl (modeAt_append_cleared ifname mode).symm rfl rfl).append rfl rfl :
      Admitted (c.prepare ifname mode) _).congr rfl rfl rfl
  connectFailed := fun _ h _ => (h.append rfl rfl).congr rfl rfl rfl
  reconnected := fun _ _ h _ _ => (h.append rfl rfl).congr rfl rfl rfl
  connected := fun _ _ h _ _ =>
    ((h.append rfl rfl).append rfl rfl).congr rfl rfl rfl
  read := fun h _ _ => h.read _ _
  received := fun _ h => h.append rfl rfl
  beginAnnounce := fun h _ => (h.append rfl rfl).congr rfl rfl rfl
  endAnnounce := fun h _ => h.congr rfl rfl rfl
  beginReport := fun h _ _ => (h.append rfl rfl).congr rfl rfl rfl
  endReport := fun h _ => h.congr rfl rfl rfl
  skipReport := fun h _ => h.congr rfl rfl rfl
  idle := fun h _ => h.congr rfl rfl rfl
  write := fun h nonempty _ => h.write nonempty _
  refuseOption := fun _ h _ => h.congr rfl rfl rfl
  keepOption := fun _ h _ => (h.append rfl rfl).congr rfl rfl rfl
  optionChanged := fun _ h => h.append rfl rfl
  setReadLimit := fun {c j} n h _ => by
    have limited : Admitted { c with readLimit := n } j := h.congr rfl rfl rfl
    exact limited.resumeReading
  takeBytes := fun n _ h => h.take n
  takeFrame := fun h _ _ _ =>
    holds_append_frameEntry (h.take _) fun _ => (h.take _).append rfl rfl
  queueBytes := fun _ h _ writes => h.queue _ writes
  queueFrame := fun _ h _ writes _ _ => (h.queue _ writes).append rfl rfl
  cue := fun _ h => h.congr rfl rfl rfl
  poll := fun _ _ h => h.congr rfl rfl rfl
  takeWritten := fun h => h.congr rfl rfl rfl

theorem admitted_of_run {protocol : P.State} {endpoint : Endpoint} {readChunk writeChunk : Nat}
    {actions : List (Action P)} {s : Socket P}
    (ran : Socket.run actions (Socket.fresh protocol endpoint readChunk writeChunk) =
      some ((), s)) : Admitted s.toConnection s.journal := by
  have sound : Outline.Sound Scope.all ⟨Admitted (P := P), Admitted, Admitted⟩ :=
    ⟨steps_admitted, steps_admitted, fun h => h.congr rfl rfl rfl,
      fun h => h.congr rfl rfl rfl⟩
  have start : Admitted (Socket.fresh protocol endpoint readChunk writeChunk).toConnection [] :=
    ⟨rfl, lawful_nil, fun nonzero => absurd rfl nonzero, fun nonzero => absurd rfl nonzero⟩
  exact (sound.holds_after_run (fun a _ => a.within_all) start ran).1

end CanStream
