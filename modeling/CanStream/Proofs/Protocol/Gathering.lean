import CanStream.Proofs.IsoTp.Receive
import CanStream.Proofs.IsoTp.Transmit
import CanStream.Proofs.Raw.Receive
import CanStream.Proofs.Raw.Transmit

/-!
# Protocols that gather datagrams

A read gives the datagrams that it took, each cut to a size and put into a form, one behind another.
The size depends on the options alone, and only a read takes from what is to arrive.
-/

namespace CanStream

/-- What came of a read that took some datagrams. One that came to an end gave their bytes, and one
that may be tried again took none. -/
structure Gathers (form : List UInt8 → List UInt8) (Batch : List (List UInt8) → Prop)
    (window : Nat) (taken : List (List UInt8)) (result : Except IoError (List UInt8)) : Prop where
  ended : ∀ bytes, result = .ok bytes → bytes = taken.flatMap form ∧ bytes.length ≤ window
  lapsed : ∀ cause, result = .error cause → cause.shouldRetry = true → taken = []
  batch : Passed result → Batch taken

/-- How a protocol gathers datagrams. -/
structure Gatherer (P : Protocol) where
  /-- The size that datagrams are cut to. -/
  cut : P.State → Nat
  /-- The form in which a datagram stands in the read buffer. -/
  form : List UInt8 → List UInt8
  /-- What is known of the datagrams that one read takes. -/
  Batch : List (List UInt8) → Prop
  read : ∀ s e, ∃ consumed rest result, e.arrivals = consumed ++ rest ∧
    (P.read (P.readChunkSize s)).exec (s, e) = (result, (s, { e with arrivals := rest })) ∧
    Gathers form Batch (P.readChunkSize s) (gathered (cut s) consumed) result
  connect : ∀ ifname, Hook.Keeps (fun s => (cut s.1, s.2.arrivals)) (P.connect ifname)
  write : ∀ bytes, Hook.Keeps (fun s => (cut s.1, s.2.arrivals)) (P.write bytes)
  messageQueued : ∀ n s, cut (P.messageQueued n s) = cut s
  applyOption : ∀ value, Hook.Keeps id (P.applyOption .unconnected value)

/-- Frames are read as they are, tagged with their own size. -/
def Raw.gatherer : Gatherer protocol where
  cut := State.frameSize
  form := tag
  Batch := fun taken => ∀ d ∈ taken, IsBlock d
  read := fun s e => by
    obtain ⟨consumed, rest, result, split, ran, reads⟩ := reads_read readChunk s e
    refine ⟨consumed, rest, result, split, ran, fun bytes given => ?_, fun cause failed retry => ?_,
      fun passed => ?_⟩
    · obtain ⟨all, -⟩ := reads.of_ok (frameSize_pos s) given
      exact ⟨all, reads.length_le (Nat.zero_le _) given⟩
    · exact (reads.of_retry (frameSize_pos s) failed retry).2
    · cases result with
      | ok bytes =>
        intro d member
        rcases (reads.of_ok (frameSize_pos s) rfl).2 d member with classic | whole
        · exact .inl classic
        · rcases frameSize_cases s with size | size
          · exact .inl (whole.trans size)
          · exact .inr (whole.trans size)
      | error cause =>
        rw [(reads.of_retry (frameSize_pos s) rfl (passed cause rfl)).2]
        exact nofun
  connect := keeps_connect Endpoint.setUpSpares_arrivals State.frameSize fun _ _ => rfl
  write := fun bytes => .bind .state fun _ =>
    keeps_writeFrames (fun data s e => congrArg (s.frameSize, ·) (Endpoint.arrivals_write data e))
      _ _ _
  messageQueued := fun _ _ => rfl
  applyOption := fun _ => .pure ()

theorem IsoTp.arrivals_write (bytes : List UInt8) :
    Hook.Keeps (fun s => s.2.arrivals) (write bytes) := by
  refine .bind .state fun s => .bind (.attempt fun _ e => Endpoint.arrivals_write _ e) ?_
  rintro (cause | n)
  · exact .ite (.pure _) (.fail _)
  · exact .bind (.modifyState fun _ _ => rfl) fun _ => .pure _

/-- Payloads are read one at a time, as they are. -/
def IsoTp.gatherer : Gatherer protocol where
  cut := fun _ => readChunk
  form := id
  Batch := fun taken => taken.length ≤ 1
  read := fun s e => by
    obtain ⟨consumed, rest, result, split, ran, reads⟩ := reads_read readChunk s e
    refine ⟨consumed, rest, result, split, ran, ?_⟩
    cases reads with
    | idle => exact ⟨fun _ given => by cases given; exact ⟨rfl, Nat.zero_le _⟩, nofun,
        fun _ => Nat.zero_le _⟩
    | refused cause => exact ⟨nofun, fun _ _ _ => rfl, fun _ => Nat.zero_le _⟩
    | lapsed code => exact ⟨fun _ given => by cases given; exact ⟨rfl, Nat.zero_le _⟩, nofun,
        fun _ => Nat.zero_le _⟩
    | failed code => exact ⟨nofun, fun _ _ _ => rfl, fun _ => Nat.zero_le _⟩
    | payload bytes =>
      by_cases isEmpty : bytes.take readChunk = []
      · have nothing : gathered readChunk [.datagram bytes] = [] := by
          simp [gathered, datagrams, Arrival.bytes?, isEmpty]
        rw [nothing, isEmpty]
        exact ⟨fun _ given => by cases given; exact ⟨rfl, Nat.zero_le _⟩, nofun,
          fun _ => Nat.zero_le _⟩
      · rw [gathered_datagram isEmpty]
        refine ⟨fun _ given => ?_, nofun, fun _ => Nat.le_refl 1⟩
        cases given
        exact ⟨by simp, List.length_take_le ..⟩
  connect := keeps_connect Endpoint.setUpSpares_arrivals (fun _ => readChunk) fun _ => rfl
  write := fun bytes s => Prod.ext rfl (arrivals_write bytes s)
  messageQueued := fun _ _ => rfl
  applyOption := fun _ => .pure ()

end CanStream
