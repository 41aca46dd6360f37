import CanStream.Proofs.IsoTp.Transmit
import CanStream.Proofs.Raw.Writing
import CanStream.Protocol.Plain

/-!
# Hooks that tell the truth about writes

A write that does not fail tells how many bytes it wrote. For the protocols here these are the bytes
that the endpoint took, over all the writes that were made for it.
-/

namespace CanStream

/-- Writes that do not fail tell how many bytes the endpoint took. -/
def Protocol.Truthful (P : Protocol) : Prop :=
  ∀ {bytes p e n after}, (P.write bytes).exec (p, e) = (.ok n, after) →
    (e.writesMade after.2).flatten.length = n

namespace Endpoint

variable {data : List UInt8} {e e' : Endpoint}

theorem length_writesMade_of_ok {n : Nat} (wrote : e.write data = (.ok n, e')) :
    (e.writesMade e').flatten.length = n := by
  obtain ⟨fits, written⟩ := written_of_write_ok wrote
  rw [writesMade_eq written, List.flatten_singleton, List.length_take, Nat.min_eq_left fits]

theorem writesMade_of_error {cause : IoError} (wrote : e.write data = (.error cause, e')) :
    e.writesMade e' = [] := by
  rw [writesMade, written_of_write_error wrote, List.drop_length]

end Endpoint

theorem Plain.truthful : protocol.Truthful := by
  intro bytes p e n after ran
  exact Endpoint.length_writesMade_of_ok (Hook.eq_of_call_ok ran).1

theorem IsoTp.truthful : protocol.Truthful := by
  intro bytes p e n after ran
  have hook : (write bytes).exec (p, e) = (.ok n, after) := ran
  rw [write, Hook.exec_state_bind, Hook.exec_attempt_bind] at hook
  rcases wrote : e.write (bytes.take (p.queued.headD maxPayload)) with ⟨cause | taken, e'⟩
  · rw [wrote] at hook
    by_cases retry : cause.shouldRetry = true
    · simp only [if_pos retry, Hook.exec_pure] at hook
      cases hook
      rw [Endpoint.writesMade_of_error wrote]
      rfl
    · simp only [if_neg retry, Hook.exec_fail] at hook
      cases hook
  · rw [wrote] at hook
    cases hook
    exact Endpoint.length_writesMade_of_ok wrote

namespace Raw

/-- A writing of frames tells the bytes that it took, with those taken before. -/
theorem exists_made_of_writeFrames {fd : Bool} (count : Nat) : ∀ {taken : Nat} {rest : List UInt8}
    {s : State} {e : Endpoint} {n : Nat} {after : State × Endpoint},
    (writeFrames fd count taken rest).exec (s, e) = (.ok n, after) →
    ∃ made, after.2.written = e.written ++ made ∧ n = taken + made.flatten.length := by
  have stops {taken : Nat} {rest : List UInt8} {s : State} {e : Endpoint} {n : Nat}
      {after : State × Endpoint} (ran : (stopWriting taken rest).exec (s, e) = (.ok n, after)) :
      ∃ made, after.2.written = e.written ++ made ∧ n = taken + made.flatten.length := by
    unfold stopWriting at ran
    split at ran
    · cases ran
      exact ⟨[], by simp, rfl⟩
    · cases ran
  induction count with
  | zero => exact fun ran => stops ran
  | succ count ih =>
    intro taken rest s e n after ran
    cases writeTurn_of_writeFrames ran with
    | stop noFrame stopped => exact stops stopped
    | lapsed found wrote => exact ⟨[], by simp [Endpoint.written_of_write_error wrote], rfl⟩
    | refused found wrote =>
      exact ⟨[[]], by simp [(Endpoint.written_of_write_ok wrote).2], rfl⟩
    | frame found wrote next =>
      obtain ⟨fits, written⟩ := Endpoint.written_of_write_ok wrote
      obtain ⟨made, grown, told⟩ := ih next
      refine ⟨_ :: made, by rw [grown, written, List.append_assoc]; rfl, ?_⟩
      rw [told, List.flatten_cons, List.length_append, List.length_take, Nat.min_eq_left fits,
        Nat.add_assoc]

theorem truthful : protocol.Truthful := by
  intro bytes p e n after ran
  have hook : (write bytes).exec (p, e) = (.ok n, after) := ran
  rw [write, Hook.exec_state_bind] at hook
  obtain ⟨made, grown, told⟩ := exists_made_of_writeFrames _ hook
  rw [Endpoint.writesMade_eq grown, told, Nat.zero_add]

end Raw

end CanStream
