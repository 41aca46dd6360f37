import CanStream.Proofs.Endpoint.Calls
import CanStream.Proofs.Protocol.Hook
import CanStream.Proofs.Socket.Buffers
import CanStream.Proofs.Socket.History
import CanStream.Protocol.IsoTp

/-!
# Payloads are received exactly

A read of the protocol takes one arrival at most, and it is always given room for the largest
payload. So the bytes taken out of the read buffer, with those left in it behind them, are the
payloads that were read, in order and without a gap.
-/

namespace CanStream.IsoTp

/-- A read with room for some bytes consumes the arrivals and ends with the result. -/
inductive Reads (window : Nat) : List Arrival → Except IoError (List UInt8) → Prop
  /-- Nothing arrived. -/
  | idle : Reads window [] (.ok [])
  /-- The descriptor is not open. -/
  | refused (cause) : Reads window [] (.error cause)
  /-- A failure that may pass. -/
  | lapsed (code) : Reads window [.failure code] (.ok [])
  | failed (code) : Reads window [.failure code] (.error (.os code))
  | payload (bytes) : Reads window [.datagram bytes] (.ok (bytes.take window))

/-- The hook consumes one arrival at most and changes nothing else. -/
theorem reads_read (window : Nat) (s : State) (e : Endpoint) :
    ∃ consumed rest result, e.arrivals = consumed ++ rest ∧
      (read window).exec (s, e) = (result, (s, { e with arrivals := rest })) ∧
      Reads window consumed result := by
  rw [read, Hook.exec_attempt_bind]
  rcases Endpoint.read_cases window e with
    ⟨code, ran, -⟩ | ⟨code, rest, arrived, ran⟩ | ⟨bytes, rest, arrived, ran⟩
  · rw [ran]
    by_cases retry : (IoError.os code).shouldRetry = true
    · exact ⟨[], e.arrivals, .ok [], rfl, by simp only [if_pos retry, Hook.exec_pure], .idle⟩
    · exact ⟨[], e.arrivals, .error (.os code), rfl, by simp only [if_neg retry, Hook.exec_fail],
        .refused _⟩
  · rw [ran]
    by_cases retry : (IoError.os code).shouldRetry = true
    · exact ⟨[.failure code], rest, .ok [], arrived,
        by simp only [if_pos retry, Hook.exec_pure], .lapsed code⟩
    · exact ⟨[.failure code], rest, .error (.os code), arrived,
        by simp only [if_neg retry, Hook.exec_fail], .failed code⟩
  · rw [ran]
    exact ⟨[.datagram bytes], rest, .ok (bytes.take window), arrived, rfl, .payload bytes⟩

/-- A read is always given room for the largest payload, and is made only below the limit. -/
theorem readWindow?_eq_some {c : Connection protocol} {window : Nat}
    (asked : c.readWindow? = some window) :
    window = readChunk ∧ (0 < c.readLimit → c.available < c.readLimit) := by
  have chunk : protocol.readChunkSize c.protocol = 4096 := rfl
  have unit : c.unit = 1 := rfl
  have whole : protocol.isDatagram c.protocol = true := rfl
  simp only [Connection.readWindow?, chunk, unit, whole, if_true] at asked
  split at asked
  case isTrue roomy =>
    refine ⟨(Option.some.inj asked).symm, ?_⟩
    omega
  case isFalse =>
    split at asked
    · cases asked
    · refine ⟨(Option.some.inj asked).symm, ?_⟩
      omega

/-- The bytes that were taken out of the read buffer. -/
def entryTaken : Entry protocol → List UInt8
  | .taken data => data
  | _ => []

/-- The bytes taken out of the read buffer since it was emptied last. -/
def bytesTaken (j : List (Entry protocol)) : List UInt8 := told entryTaken j

/-- No payload was larger than what is read in one go. -/
def Moderate (j : List (Entry protocol)) : Prop := ∀ d ∈ datagramsRead j, d.length ≤ readChunk

instance (j : List (Entry protocol)) : Decidable (Moderate j) := List.decidableBAll _ _

/-- What a connection knows of what it received. -/
structure Receiving (c : Connection protocol) (j : List (Entry protocol)) : Prop where
  whole : c.readBuffer.WellFormed
  balance : Moderate j → bytesTaken j ++ c.readBuffer.toList = (datagramsRead j).flatten

/-- An entry that tells nothing of the read buffer. -/
structure Unread (entry : Entry protocol) : Prop where
  keeps : entry.clears = false
  unread : entry.datagramsRead = []
  untaken : entryTaken entry = []

namespace Receiving

variable {c c' : Connection protocol} {j : List (Entry protocol)} {entry : Entry protocol}

/-- Only the read buffer matters. -/
theorem congr (h : Receiving c j) (buffer : c'.readBuffer = c.readBuffer) : Receiving c' j where
  whole := by rw [buffer]; exact h.whole
  balance := by rw [buffer]; exact h.balance

theorem append (h : Receiving c j) (silent : Unread entry) : Receiving c (j ++ [entry]) where
  whole := h.whole
  balance := by
    intro moderate
    rw [Moderate, datagramsRead, told_append_silent silent.keeps silent.unread] at moderate
    rw [bytesTaken, datagramsRead, told_append_silent silent.keeps silent.untaken,
      told_append_silent silent.keeps silent.unread]
    exact h.balance moderate

theorem resumeReading (h : Receiving c j) : Receiving c.resumeReading j := by
  obtain ⟨on, resumed⟩ := c.exists_resumeReading
  rw [resumed]
  exact h.congr rfl

theorem clear {q : ByteQueue} (buffer : c.readBuffer = q.clear) (clears : entry.clears = true) :
    Receiving c (j ++ [entry]) where
  whole := by rw [buffer]; exact ByteQueue.wellFormed_clear q
  balance := by
    intro _
    rw [bytesTaken, datagramsRead, told_append_clear clears, told_append_clear clears, buffer,
      ByteQueue.toList_clear]
    rfl

theorem take (h : Receiving c j) (n : Nat) :
    Receiving { c with readBuffer := (c.readBuffer.read n).2 }
      (j ++ [.taken (c.readBuffer.read n).1]) where
  whole := h.whole.read n
  balance := by
    intro moderate
    have unread : (Entry.taken (P := protocol) (c.readBuffer.read n).1).datagramsRead = [] := rfl
    rw [Moderate, datagramsRead, told_append_silent rfl unread] at moderate
    have split : (c.readBuffer.read n).1 ++ (c.readBuffer.read n).2.toList =
        c.readBuffer.toList := by
      rw [ByteQueue.toList_read h.whole.size_eq, ByteQueue.read, ByteQueue.peek_eq,
        List.take_append_drop]
    rw [bytesTaken, datagramsRead, told_append_silent rfl unread, told_append rfl, entryTaken,
      List.append_assoc, split]
    exact h.balance moderate

/-- What is read goes behind what waits already. -/
theorem settleRead {before : Connection protocol} {unit : Nat} {consumed : List Arrival}
    {result : Except IoError (List UInt8)} (h : Receiving c j)
    (reads : Reads readChunk consumed result) :
    Receiving (c.settleRead before readChunk result)
      (j ++ [.readHook unit consumed (result.map List.length)]) := by
  refine ⟨Connection.wellFormed_settleRead h.whole before readChunk result, fun moderate => ?_⟩
  have account : datagramsRead (j ++ [.readHook unit consumed (result.map List.length)]) =
      datagramsRead j ++ datagrams consumed := told_append rfl
  have taken : bytesTaken (j ++ [.readHook unit consumed (result.map List.length)]) =
      bytesTaken j := told_append_silent rfl rfl
  rw [Moderate, account] at moderate
  have balance := h.balance fun d member => moderate d (List.mem_append_left _ member)
  rw [taken, account, List.flatten_append, ← balance, List.append_assoc]
  cases reads with
  | idle => rw [Connection.toList_settleRead_ok h.whole before (Nat.zero_le _)]; rfl
  | refused cause =>
    rw [Connection.toList_settleRead_error h.whole]
    simp [datagrams]
  | lapsed code => rw [Connection.toList_settleRead_ok h.whole before (Nat.zero_le _)]; rfl
  | failed code =>
    rw [Connection.toList_settleRead_error h.whole]
    simp [datagrams, Arrival.bytes?]
  | payload bytes =>
    have small : bytes.length ≤ readChunk :=
      moderate bytes (List.mem_append_right _ (List.mem_singleton_self _))
    rw [List.take_of_length_le small, Connection.toList_settleRead_ok h.whole before small]
    simp [datagrams, Arrival.bytes?]

end Receiving

theorem steps_receiving : Steps Scope.all Receiving Receiving Receiving where
  delivery := fun _ _ h => h.append ⟨rfl, rfl, rfl⟩
  returned := fun _ h => h.append ⟨rfl, rfl, rfl⟩
  noted := fun _ h => h.append ⟨rfl, rfl, rfl⟩
  error := fun _ h => (h.append ⟨rfl, rfl, rfl⟩).congr rfl
  clearError := fun h => h.congr rfl
  inspected := fun h => h.append ⟨rfl, rfl, rfl⟩
  beginClose := fun h _ _ => (h.append ⟨rfl, rfl, rfl⟩).congr rfl
  goOnClosing := fun h _ => h
  discard := fun _ _ => .clear rfl rfl
  endClose := fun {c j} _ _ =>
    have emptied : Receiving c.discard (j ++ [.discarded]) := .clear rfl rfl
    (emptied.append ⟨rfl, rfl, rfl⟩).congr rfl
  sever := fun h => (h.append ⟨rfl, rfl, rfl⟩).congr rfl
  prepare := fun {c j} ifname mode _ _ =>
    have emptied : Receiving (c.prepare ifname mode) (j ++ [.cleared ifname mode]) := .clear rfl rfl
    (emptied.append ⟨rfl, rfl, rfl⟩).congr rfl
  connectFailed := fun _ h _ => (h.append ⟨rfl, rfl, rfl⟩).congr rfl
  reconnected := fun _ _ h _ _ => (h.append ⟨rfl, rfl, rfl⟩).congr rfl
  connected := fun _ _ h _ _ =>
    ((h.append ⟨rfl, rfl, rfl⟩).append ⟨rfl, rfl, rfl⟩).congr rfl
  read := fun {c j window result after} h asked ran => by
    obtain ⟨consumed, rest, result', split, ran', reads⟩ := reads_read window c.protocol c.endpoint
    obtain ⟨rfl, rfl⟩ := Prod.mk.inj (ran.symm.trans ran')
    obtain ⟨rfl, -⟩ := readWindow?_eq_some asked
    rw [Endpoint.arrivalsTaken_eq split]
    exact Receiving.settleRead (c := c.hooked _) (h.congr rfl) reads
  received := fun _ h => h.append ⟨rfl, rfl, rfl⟩
  beginAnnounce := fun h _ => (h.append ⟨rfl, rfl, rfl⟩).congr rfl
  endAnnounce := fun h _ => h.congr rfl
  beginReport := fun h _ _ => (h.append ⟨rfl, rfl, rfl⟩).congr rfl
  endReport := fun h _ => h.congr rfl
  skipReport := fun h _ => h.congr rfl
  idle := fun h _ => h.congr rfl
  write := fun h _ _ =>
    (h.append ⟨rfl, rfl, rfl⟩).congr (Connection.readBuffer_settleWrite _ _)
  refuseOption := fun _ h _ => h.congr rfl
  keepOption := fun _ h _ => (h.append ⟨rfl, rfl, rfl⟩).congr rfl
  optionChanged := fun _ h => h.append ⟨rfl, rfl, rfl⟩
  setReadLimit := fun {c _} n h _ =>
    Receiving.resumeReading (c := { c with readLimit := n }) (h.congr rfl)
  takeBytes := fun n _ h => (h.take n).resumeReading
  takeFrame := fun h _ _ _ =>
    have taken := (h.take _).resumeReading
    holds_append_frameEntry taken fun _ => taken.append ⟨rfl, rfl, rfl⟩
  queueBytes := fun _ h _ _ => (h.append ⟨rfl, rfl, rfl⟩).congr (Connection.readBuffer_enqueue _ _)
  queueFrame := fun {c _ f} _ h _ _ _ _ =>
    ((h.append ⟨rfl, rfl, rfl⟩).append ⟨rfl, rfl, rfl⟩).congr (c.readBuffer_enqueue f.toKernel)
  cue := fun _ h => h.congr rfl
  poll := fun _ _ h => h.congr rfl
  takeWritten := fun h => h.congr rfl

/-- After every run a socket's read buffer is well formed, and as long as no payload was larger than
what is read in one go, nothing of them is lost. -/
theorem receiving_of_run {protocolState : State} {endpoint : Endpoint}
    {readChunk writeChunk : Nat} {actions : List (Action protocol)} {s : Socket protocol}
    (ran : Socket.run actions (Socket.fresh protocolState endpoint readChunk writeChunk) =
      some ((), s)) : Receiving s.toConnection s.journal := by
  have sound : Outline.Sound Scope.all ⟨Receiving, Receiving, Receiving⟩ :=
    ⟨steps_receiving, steps_receiving, fun h => h.congr rfl, fun h => h.congr rfl⟩
  have start : Receiving (Socket.fresh protocolState endpoint readChunk writeChunk).toConnection []
      := ⟨ByteQueue.wellFormed_empty _, fun _ => rfl⟩
  exact (sound.holds_after_run (fun a _ => a.within_all) start ran).1

end CanStream.IsoTp
