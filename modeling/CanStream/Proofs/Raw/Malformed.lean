import CanStream.Proofs.ByteQueue.Contents
import CanStream.Proofs.Raw.Reading
import CanStream.Proofs.Socket.After
import CanStream.Proofs.Socket.Run

/-!
# What a malformed datagram costs

A datagram that is no frame fails the reading it ends, and the pump then gives back its whole
window. The frames that were read before it in the same go are lost with it.
-/

namespace CanStream.Raw

open Socket

/-- A reading that consumed a malformed datagram consumed frames before it and nothing behind it,
and failed. -/
theorem Reads.of_malformed {unit window : Nat} {taken bad : List UInt8} {consumed : List Arrival}
    {result : Except IoError (List UInt8)} (reads : Reads unit window taken consumed result)
    (malformed : Malformed unit bad) (member : .datagram bad ∈ consumed) :
    ∃ good : List (List UInt8), consumed = good.map .datagram ++ [.datagram bad] ∧
      (∀ d ∈ good, FrameSized unit d) ∧ result = .error (unexpectedSize bad.length) := by
  induction reads with
  | stop taken => cases member
  | refused cause => cases member
  | lapsed code taken => simp at member
  | failed code => simp at member
  | ended taken => exact absurd (by simpa using member) malformed.nonempty
  | malformed taken _ =>
    obtain rfl : bad = _ := by simpa using member
    exact ⟨[], rfl, by simp, rfl⟩
  | frame sized fits next ih =>
    rename_i bytes taken rest result
    rcases List.mem_cons.mp member with same | later
    · obtain rfl : bad = bytes := by simpa using same
      rcases sized with classic | long
      · exact absurd classic malformed.noClassic
      · exact absurd malformed.short (Nat.not_lt.mpr long)
    · obtain ⟨good, split, framed, failed⟩ := ih later
      refine ⟨bytes :: good, by simp [split], ?_, failed⟩
      rintro d (_ | ⟨_, inGood⟩)
      · exact sized
      · exact framed d inGood

theorem shouldRetry_unexpectedSize (n : Nat) : (unexpectedSize n).shouldRetry = false := rfl

/-- A pump that consumed a malformed datagram raises a read error, with the read buffer as it was
before. The frames that it had consumed are in the buffer only if there were none. -/
theorem pumpRead_of_malformed (emit : Emit protocol) {s : Socket protocol}
    (whole : s.readBuffer.WellFormed) {window : Nat} (asked : s.readWindow? = some window)
    {result : Except IoError (List UInt8)} {after : State × Endpoint}
    (ran : (read window).exec (s.protocol, s.endpoint) = (result, after)) {bad : List UInt8}
    (malformed : Malformed s.protocol.frameSize bad)
    (consumed : .datagram bad ∈ s.endpoint.arrivalsTaken after.2) :
    ∃ (good : List (List UInt8)) (s₁ : Socket protocol),
      s.endpoint.arrivalsTaken after.2 = good.map .datagram ++ [.datagram bad] ∧
      (∀ d ∈ good, FrameSized s.protocol.frameSize d) ∧
      pumpRead emit s = (do emit (.error .readError); pure false : SocketM protocol Bool) s₁ ∧
      s₁.endpoint = after.2 ∧ s₁.readBuffer.toList = s.readBuffer.toList ∧
      (s₁.readBuffer.toList =
          s.readBuffer.toList ++ good.flatMap (fun d => tag (d.take s.protocol.frameSize)) ↔
        good = []) := by
  obtain ⟨taken, rest, result', split, ran', reads⟩ := reads_read window s.protocol s.endpoint
  rw [ran, Prod.mk.injEq] at ran'
  obtain ⟨rfl, rfl⟩ := ran'
  rw [Endpoint.arrivalsTaken_eq split] at consumed ⊢
  obtain ⟨good, rfl, framed, rfl⟩ := reads.of_malformed malformed consumed
  let cause := unexpectedSize bad.length
  let s₁ : Socket protocol :=
    ((s.hooked (s.protocol, { s.endpoint with arrivals := rest })).log
      (.readHook s.protocol.frameSize
        (s.endpoint.arrivalsTaken { s.endpoint with arrivals := rest })
        (.error cause))).change fun c =>
      { c.refuseRead window cause with error := SocketError.ofTransfer .readError cause }
  have same : s₁.readBuffer.toList = s.readBuffer.toList :=
    ByteQueue.toList_chop_reserve_nil whole window
  refine ⟨good, s₁, rfl, framed, ?_, rfl, same, ?_⟩
  · have hook : (protocol.read window).exec (s.protocol, s.endpoint) =
        (.error cause, (s.protocol, { s.endpoint with arrivals := rest })) := ran
    rw [pumpRead, get_bind_apply, asked]
    simp only [runHook_bind_apply, get_bind_apply, record_bind_apply, hook]
    have noRetry : ¬cause.shouldRetry = true := by
      rw [shouldRetry_unexpectedSize]
      exact Bool.false_ne_true
    rw [if_neg noRetry, refuseRead, update_bind_apply, setError, bind_assoc, update_bind_apply]
    rfl
  · rw [same, List.self_eq_append_right, List.flatMap_eq_nil_iff]
    constructor
    · intro untagged
      rw [List.eq_nil_iff_forall_not_mem]
      intro d member
      have sized := framed d member
      have empty := congrArg List.length (untagged d member)
      rw [length_tag, List.length_take, List.length_nil] at empty
      have positive := frameSize_pos s.protocol
      have classic : classicUnit = 16 := rfl
      rcases sized with classic | long <;> omega
    · rintro rfl d member
      cases member

/-- A connected socket for which a frame arrived, and three bytes that are none. -/
def strayRun : List (Action protocol) :=
  [.ask (.connect "" .readWrite), .ask (.cue (.pushRead (List.replicate 16 0))),
    .ask (.cue (.pushRead [1, 2, 3]))]

/-- A pump that consumed the frame and the three bytes leaves nothing in the read buffer. -/
theorem exists_lost_frame :
    ∃ s s' : Socket protocol, Socket.run strayRun (initial .initial .blank) = some ((), s) ∧
      pumpRead Socket.emit s = some (false, s') ∧ State.frameSize s.protocol = classicUnit ∧
      s.endpoint.arrivalsTaken s'.endpoint =
        [.datagram (List.replicate 16 0), .datagram [1, 2, 3]] ∧
      s'.readBuffer.toList = [] := by
  obtain ⟨s, read, s', ran, pumped, outcome⟩ : ∃ s read s',
      Socket.run strayRun (initial .initial .blank) = some ((), s) ∧
        pumpRead Socket.emit s = some (read, s') ∧
        (read, State.frameSize s.protocol, s.endpoint.arrivalsTaken s'.endpoint,
          s'.readBuffer.toList) =
          (false, classicUnit, [.datagram (List.replicate 16 0), .datagram [1, 2, 3]], []) :=
    exists_asked (by decide +kernel)
  simp only [Prod.mk.injEq] at outcome
  obtain ⟨rfl, unit, taken, after⟩ := outcome
  exact ⟨s, s', ran, pumped, unit, taken, after⟩

theorem not_always_kept :
    ¬∀ (actions : List (Action protocol)) (s s' : Socket protocol) (read : Bool)
      (good : List (List UInt8)) (bad : List UInt8),
      Socket.run actions (initial .initial .blank) = some ((), s) →
      pumpRead Socket.emit s = some (read, s') →
      s.endpoint.arrivalsTaken s'.endpoint = good.map .datagram ++ [.datagram bad] →
      (∀ d ∈ good, FrameSized (State.frameSize s.protocol) d) →
      Malformed (State.frameSize s.protocol) bad →
      ∀ d ∈ good, tag (d.take (State.frameSize s.protocol)) <:+: s'.readBuffer.toList := by
  intro always
  obtain ⟨s, s', ran, pumped, unit, taken, emptied⟩ := exists_lost_frame
  have framed : ∀ d ∈ [List.replicate 16 (0 : UInt8)],
      FrameSized (State.frameSize s.protocol) d := by
    intro d member
    rw [List.mem_singleton.mp member]
    exact .inl List.length_replicate
  have malformed : Malformed (State.frameSize s.protocol) [1, 2, 3] := by
    rw [unit]
    exact ⟨by decide, by decide, by decide⟩
  have kept := always strayRun s s' false [List.replicate 16 0] [1, 2, 3] ran pumped taken framed
    malformed _ (List.mem_singleton_self _)
  rw [emptied, List.infix_nil, unit] at kept
  exact absurd kept (by decide)

/-- A socket with an open descriptor on which the frame and the three bytes arrived. -/
def stray : Socket protocol :=
  initial .initial { Endpoint.blank with
    opened := some .raw, arrivals := [.datagram (List.replicate 16 0), .datagram [1, 2, 3]] }

theorem pumpRead_stray :
    ∃ (good : List (List UInt8)) (s₁ : Socket protocol),
      stray.endpoint.arrivals = good.map .datagram ++ [.datagram [1, 2, 3]] ∧
      pumpRead Socket.emit stray =
        (do Socket.emit (.error .readError); pure false : SocketM protocol Bool) s₁ ∧
      s₁.readBuffer.toList = [] ∧
      (s₁.readBuffer.toList = good.flatMap (fun d => tag (d.take 16)) ↔ good = []) := by
  have asked : stray.readWindow? = some readChunk := by decide +kernel
  have bad : Malformed (State.frameSize stray.protocol) [1, 2, 3] :=
    ⟨by decide, by decide, by decide⟩
  obtain ⟨good, s₁, split, -, pumped, -, same, iff⟩ :=
    pumpRead_of_malformed Socket.emit (ByteQueue.wellFormed_empty _) asked rfl bad
      (by decide +kernel)
  have all : stray.endpoint.arrivalsTaken
      ((read readChunk).exec (stray.protocol, stray.endpoint)).2.2 = stray.endpoint.arrivals := by
    decide +kernel
  exact ⟨good, s₁, all.symm.trans split, pumped, same, iff⟩

end CanStream.Raw
