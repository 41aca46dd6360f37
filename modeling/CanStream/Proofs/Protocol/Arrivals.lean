import CanStream.Proofs.IsoTp.Receive
import CanStream.Proofs.Raw.Reading
import CanStream.Proofs.Raw.Writing
import CanStream.Proofs.Socket.Pump
import CanStream.Protocol.Plain

/-!
# What a read gives for what arrived

A read may succeed and give nothing: if it would block, if a failure passes, or if what arrived is
an empty datagram. It gives data only for a datagram that is not empty.
-/

namespace CanStream

variable {P : Protocol}

/-- Reads of the protocol that do not fail give data just if they took a datagram that is not empty.
What is read in one go is settled by more than writes. -/
structure Protocol.Forthright (P : Protocol) : Prop where
  read : ∀ {window p e result after}, 0 < window →
    (P.read window).exec (p, e) = (result, after) → Passed result →
    (0 < Connection.gained window result ↔ ∃ d ∈ datagrams (e.arrivalsTaken after.2), d ≠ [])
  write : ∀ bytes, Hook.Keeps (fun s => P.readChunkSize s.1) (P.write bytes)

/-- There is always something to ask for, unless it is less than the smallest unit. -/
theorem Connection.window_pos {c : Connection P} {window : Nat}
    (asked : c.readWindow? = some window) (chunk : 0 < P.readChunkSize c.protocol) :
    0 < window := by
  have unit : 1 ≤ c.unit := Nat.le_max_right ..
  simp only [readWindow?] at asked
  split at asked
  · obtain rfl := Option.some.inj asked
    exact chunk
  · split at asked
    · cases asked
    · obtain rfl := Option.some.inj asked
      split <;> omega

theorem gathered_ne_nil_iff {n : Nat} (positive : 0 < n) {arrivals : List Arrival} :
    gathered n arrivals ≠ [] ↔ ∃ d ∈ datagrams arrivals, d ≠ [] := by
  have whole : n ≠ 0 := Nat.ne_of_gt positive
  simp [gathered, List.take_eq_nil_iff, whole]

namespace Plain

theorem forthright : protocol.Forthright where
  read := by
    intro window p e result after positive ran _
    have hook : (Hook.call id (Endpoint.read window) : Hook Plain IoError (List UInt8)).exec
        (p, e) = (result, after) := ran
    rw [Hook.exec_call] at hook
    obtain ⟨answer, rfl⟩ := Prod.mk.inj hook
    rcases Endpoint.read_cases window e with
      ⟨code, read, -⟩ | ⟨code, rest, arrived, read⟩ | ⟨bytes, rest, arrived, read⟩
    · rw [read] at answer ⊢
      subst answer
      simp [Connection.gained, Except.mapError, Endpoint.arrivalsTaken, datagrams]
    · rw [read] at answer ⊢
      subst answer
      have taken : e.arrivalsTaken { e with arrivals := rest } = [.failure code] :=
        Endpoint.arrivalsTaken_eq arrived
      simp [Connection.gained, Except.mapError, taken, datagrams, Arrival.bytes?]
    · rw [read] at answer ⊢
      subst answer
      have taken : e.arrivalsTaken { e with arrivals := rest } = [.datagram bytes] :=
        Endpoint.arrivalsTaken_eq arrived
      simp [Connection.gained, Except.mapError, taken, datagrams, Arrival.bytes?,
        List.length_pos_iff, positive]
  write := fun _ _ => rfl

end Plain

namespace IsoTp

theorem forthright : protocol.Forthright where
  read := by
    intro window p e result after positive ran _
    obtain ⟨consumed, rest, outcome, split, went, reads⟩ := reads_read window p e
    obtain ⟨rfl, rfl⟩ := Prod.mk.inj (ran.symm.trans went)
    have taken : e.arrivalsTaken { e with arrivals := rest } = consumed :=
      Endpoint.arrivalsTaken_eq split
    rw [taken]
    cases reads with
    | payload bytes =>
      simp [Connection.gained, datagrams, Arrival.bytes?, List.length_pos_iff, positive]
    | _ => simp [Connection.gained, datagrams, Arrival.bytes?]
  write := fun _ _ => rfl

end IsoTp

namespace Raw

theorem forthright : protocol.Forthright where
  read := by
    intro window p e result after _ ran passed
    obtain ⟨consumed, rest, outcome, split, went, reads⟩ := reads_read window p e
    obtain ⟨rfl, rfl⟩ := Prod.mk.inj (ran.symm.trans went)
    have taken : e.arrivalsTaken { e with arrivals := rest } = consumed :=
      Endpoint.arrivalsTaken_eq split
    rw [taken, ← gathered_ne_nil_iff (frameSize_pos p)]
    cases result with
    | ok bytes =>
      have fits := reads.length_le (Nat.zero_le _) rfl
      have all := (reads.of_ok (frameSize_pos p) rfl).1
      rw [Connection.gained, Nat.min_eq_left fits, List.length_pos_iff, all, List.nil_append, ne_eq,
        List.flatMap_eq_nil_iff, not_forall]
      constructor
      · rintro ⟨d, refutes⟩ empty
        exact refutes fun member => by simp [empty] at member
      · intro nonempty
        obtain ⟨d, member⟩ := List.exists_mem_of_ne_nil _ nonempty
        refine ⟨d, fun tagged => ne_nil_of_mem_gathered member ?_⟩
        have lengths := congrArg List.length (tagged member)
        rwa [length_tag, List.length_nil, List.length_eq_zero_iff] at lengths
    | error cause =>
      have nothing := (reads.of_retry (frameSize_pos p) rfl (passed cause rfl)).2
      simp [Connection.gained, nothing]
  write := fun _ _ => rfl

end Raw

end CanStream
