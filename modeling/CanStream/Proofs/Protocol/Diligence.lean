import CanStream.Proofs.Protocol.Truth
import CanStream.Proofs.Raw.Aborted
import CanStream.Proofs.Raw.Failure

/-!
# Hooks that use up the script of an endpoint

What an endpoint answers is laid down beforehand, and hooks never lay anything down. A read takes
some of it if there is something to be read, and so does a write, unless the endpoint takes some
bytes. A protocol may have something to use up as well.
-/

namespace CanStream

variable {P : Protocol} {σ ε α β : Type}

namespace Endpoint

/-- The number of answers that are laid down. -/
def scripted (e : Endpoint) : Nat :=
  e.arrivals.length + e.writeAnswers.length + e.pollAnswers.length

/-- The endpoint will answer a write, and not with a failure of its own. -/
structure Willing (e : Endpoint) : Prop where
  isOpen : e.isOpen = true
  ready : e.writable = true ∨ e.writeAnswers ≠ []
  limit : e.writeLimit ≠ some 0

variable {e e' : Endpoint}

theorem scripted_of_read {n : Nat} {result : Except IoError (List UInt8)}
    (read : e.read n = (result, e')) :
    e'.scripted ≤ e.scripted ∧ e'.writeLimit = e.writeLimit ∧
      (e.isOpen = true → e.arrivals ≠ [] → e'.scripted < e.scripted) := by
  rcases read_cases n e with ⟨code, ran, starved⟩ | ⟨code, rest, arrived, ran⟩ |
      ⟨bytes, rest, arrived, ran⟩ <;>
    obtain ⟨-, rfl⟩ := Prod.mk.inj (ran.symm.trans read)
  · exact ⟨Nat.le_refl _, rfl, fun isOpen waiting => absurd (starved isOpen).2 waiting⟩
  · simp [scripted, arrived]
  · simp [scripted, arrived]

theorem scripted_of_write {data : List UInt8} {result : Except IoError Nat}
    (wrote : e.write data = (result, e')) :
    e'.scripted ≤ e.scripted ∧ e'.writeLimit = e.writeLimit := by
  obtain ⟨rest, suffix, ⟨code, ran⟩ | ⟨part, -, ran⟩⟩ := write_cases data e <;>
  · obtain ⟨-, rfl⟩ := Prod.mk.inj (ran.symm.trans wrote)
    have shorter := suffix.length_le
    exact ⟨by simp only [scripted]; omega, rfl⟩

/-- A write that no answer is laid down for goes through, in part at least. -/
theorem Willing.of_write (willing : e.Willing) {data : List UInt8}
    {result : Except IoError Nat} (wrote : e.write data = (result, e')) :
    e'.scripted < e.scripted ∨ ∃ n, result = .ok n ∧ (data ≠ [] → 0 < n) := by
  obtain ⟨isOpen, ready, limit⟩ := willing
  have opened : ({ e with tried := e.tried ++ [data] } : Endpoint).isOpen = true := isOpen
  rw [write, answerWrite, whileOpen, if_pos opened] at wrote
  rcases answered : e.writeAnswers with _ | ⟨⟨code⟩ | ⟨n⟩, rest⟩
  · have writable : e.writable = true := ready.resolve_right (not_not_intro answered)
    simp only [answered, writable, if_true, accept] at wrote
    obtain ⟨rfl, -⟩ := Prod.mk.inj wrote
    refine .inr ⟨_, rfl, fun nonempty => ?_⟩
    have positive := List.length_pos_iff.mpr nonempty
    unfold limited
    split
    case h_1 n limited =>
      have nonzero : n ≠ 0 := by
        rintro rfl
        exact limit limited
      rw [List.length_take]
      omega
    case h_2 => exact positive
  · simp only [answered] at wrote
    obtain ⟨-, rfl⟩ := Prod.mk.inj wrote
    refine .inl ?_
    simp [scripted, answered]
  · simp only [answered, accept] at wrote
    obtain ⟨-, rfl⟩ := Prod.mk.inj wrote
    refine .inl ?_
    simp [scripted, answered]

end Endpoint

/-- What there is to use up. -/
def supply (rank : σ → Nat) (s : σ × Endpoint) : Nat := rank s.1 + s.2.scripted

/-- The hook adds nothing to what there is to use up, and leaves the limit of writes alone. -/
def Hook.Frugal (rank : σ → Nat) (h : Hook σ ε α) : Prop :=
  ∀ s, supply rank (h.exec s).2 ≤ supply rank s ∧ (h.exec s).2.2.writeLimit = s.2.writeLimit

namespace Hook.Frugal

variable {rank : σ → Nat}

theorem of_exec {h : Hook σ ε α} (frugal : Frugal rank h) {s after : σ × Endpoint}
    {result : Except ε α} (ran : h.exec s = (result, after)) :
    supply rank after ≤ supply rank s ∧ after.2.writeLimit = s.2.writeLimit := by
  have kept := frugal s
  rwa [ran] at kept

theorem pure (a : α) : Frugal rank (Pure.pure a : Hook σ ε α) := fun _ => ⟨Nat.le_refl _, rfl⟩

theorem fail (cause : ε) : Frugal rank (Hook.fail cause : Hook σ ε α) :=
  fun _ => ⟨Nat.le_refl _, rfl⟩

theorem state : Frugal rank (Hook.state : Hook σ ε σ) := fun _ => ⟨Nat.le_refl _, rfl⟩

theorem modifyState {f : σ → σ} (lowers : ∀ s, rank (f s) ≤ rank s) :
    Frugal rank (Hook.modifyState f : Hook σ ε Unit) :=
  fun s => ⟨Nat.add_le_add_right (lowers s.1) _, rfl⟩

theorem bind {h : Hook σ ε α} {f : α → Hook σ ε β} (first : Frugal rank h)
    (next : ∀ a, Frugal rank (f a)) : Frugal rank (h >>= f) := by
  intro s
  rcases ran : h.exec s with ⟨cause | a, s'⟩
  · rw [exec_bind_error s ran]
    exact first.of_exec ran
  · obtain ⟨less, limit⟩ := first.of_exec ran
    obtain ⟨less', limit'⟩ := next a s'
    rw [exec_bind_ok s ran]
    exact ⟨less'.trans less, limit'.trans limit⟩

theorem closed : Closed (Frugal rank : ∀ {α : Type}, Hook σ ε α → Prop) := ⟨pure, fail, bind⟩

theorem ite {c : Prop} [Decidable c] {h h' : Hook σ ε α} (yes : Frugal rank h)
    (no : Frugal rank h') : Frugal rank (if c then h else h') := by
  split
  · exact yes
  · exact no

theorem attempt_read (n : Nat) :
    Frugal rank (attempt (Endpoint.read n) : Hook σ ε (Except IoError (List UInt8))) := by
  intro s
  obtain ⟨less, limit, -⟩ := Endpoint.scripted_of_read (Prod.eta (Endpoint.read n s.2)).symm
  exact ⟨Nat.add_le_add_left less _, limit⟩

theorem attempt_write (data : List UInt8) :
    Frugal rank (attempt (Endpoint.write data) : Hook σ ε (Except IoError Nat)) := by
  intro s
  obtain ⟨less, limit⟩ := Endpoint.scripted_of_write (Prod.eta (Endpoint.write data s.2)).symm
  exact ⟨Nat.add_le_add_left less _, limit⟩

end Hook.Frugal

/-- The hooks of the protocol add nothing to what there is to use up. A read on an open descriptor
uses some of it up if something arrived, and a write does if it takes nothing. -/
structure Protocol.Diligent (P : Protocol) (rank : P.State → Nat) : Prop where
  frugalRead : ∀ window, (P.read window).Frugal rank
  frugalWrite : ∀ bytes, (P.write bytes).Frugal rank
  read : ∀ {c : Connection P} {window result after}, c.readWindow? = some window →
    c.endpoint.isOpen = true → c.endpoint.arrivals ≠ [] →
    (P.read window).exec (c.protocol, c.endpoint) = (result, after) →
    supply rank after < supply rank (c.protocol, c.endpoint)
  write : ∀ {bytes p e n after}, bytes ≠ [] → Endpoint.Willing e →
    (P.write bytes).exec (p, e) = (.ok n, after) →
    supply rank after < supply rank (p, e) ∨ 0 < n

/-! ## The protocols -/

namespace IsoTp

/-- The number of payloads whose lengths are kept. -/
def rank (s : State) : Nat := s.queued.length

theorem length_afterWrite_le (n : Nat) (queued : List Nat) :
    (afterWrite n queued).length ≤ queued.length := by
  cases queued with
  | nil => exact Nat.le_refl 0
  | cons first rest =>
    rw [afterWrite]
    split <;> simp

theorem supply_lt_of_exec_read {window : Nat} {s : State} {e : Endpoint} (isOpen : e.isOpen = true)
    (waiting : e.arrivals ≠ []) {result : Except IoError (List UInt8)} {after : State × Endpoint}
    (ran : (read window).exec (s, e) = (result, after)) :
    supply rank after < supply rank (s, e) := by
  rw [read, Hook.exec_attempt_bind] at ran
  rcases called : e.read window with ⟨answer, e'⟩
  have less := (Endpoint.scripted_of_read called).2.2 isOpen waiting
  have went : after = (s, e') := by
    rw [called] at ran
    rcases answer with cause | bytes
    · by_cases retry : cause.shouldRetry = true
      · simp only [if_pos retry, Hook.exec_pure] at ran
        exact (Prod.mk.inj ran).2.symm
      · simp only [if_neg retry, Hook.exec_fail] at ran
        exact (Prod.mk.inj ran).2.symm
    · exact (Prod.mk.inj ran).2.symm
  rw [went]
  exact Nat.add_lt_add_left less _

/-- What is offered is only nothing if the first payload has no length, and this one is forgotten
once it was offered. -/
theorem length_afterWrite_lt {bytes : List UInt8} (nonempty : bytes ≠ []) {queued : List Nat}
    (offered : bytes.take (queued.headD maxPayload) = []) (n : Nat) :
    (afterWrite n queued).length < queued.length := by
  rcases queued with _ | ⟨first, rest⟩
  · simp [nonempty, maxPayload] at offered
  · obtain rfl : first = 0 := by simpa [nonempty] using offered
    rw [afterWrite, if_pos (Nat.zero_le n)]
    exact Nat.lt_succ_self _

theorem supply_lt_or_pos_of_exec_write {bytes : List UInt8} (nonempty : bytes ≠ []) {s : State}
    {e : Endpoint} (willing : e.Willing) {n : Nat} {after : State × Endpoint}
    (ran : (write bytes).exec (s, e) = (.ok n, after)) :
    supply rank after < supply rank (s, e) ∨ 0 < n := by
  rw [write, Hook.exec_state_bind, Hook.exec_attempt_bind] at ran
  rcases wrote : e.write (bytes.take (s.queued.headD maxPayload)) with ⟨cause | taken, e'⟩
  · obtain less | ⟨_, ⟨⟩, -⟩ := willing.of_write wrote
    rw [wrote] at ran
    by_cases retry : cause.shouldRetry = true
    · simp only [if_pos retry, Hook.exec_pure] at ran
      obtain ⟨-, rfl⟩ := Prod.mk.inj ran
      exact .inl (Nat.add_lt_add_left less _)
    · simp only [if_neg retry, Hook.exec_fail] at ran
      cases ran
  · rw [wrote] at ran
    cases ran
    obtain less | ⟨_, ⟨⟩, moves⟩ := willing.of_write wrote
    · exact .inl (Nat.add_lt_add_of_le_of_lt (length_afterWrite_le n s.queued) less)
    · by_cases offered : bytes.take (s.queued.headD maxPayload) = []
      · have shorter := length_afterWrite_lt nonempty offered n
        exact .inl (Nat.add_lt_add_of_lt_of_le shorter (Endpoint.scripted_of_write wrote).1)
      · exact .inr (moves offered)

theorem diligent : protocol.Diligent rank where
  frugalRead := by
    intro window
    refine .bind (.attempt_read window) ?_
    rintro (cause | bytes)
    · exact .ite (.pure _) (.fail _)
    · exact .pure _
  frugalWrite := by
    intro bytes
    refine .bind .state fun s => .bind (.attempt_write _) ?_
    rintro (cause | n)
    · exact .ite (.pure _) (.fail _)
    · exact .bind (.modifyState fun s => length_afterWrite_le n s.queued) fun _ => .pure _
  read := fun _ isOpen waiting ran => supply_lt_of_exec_read isOpen waiting ran
  write := fun nonempty willing ran => supply_lt_or_pos_of_exec_write nonempty willing ran

end IsoTp

namespace Raw

/-- A reading that has room for a frame takes something if something arrived. -/
theorem scripted_lt_of_exec_read {window : Nat} {s : State} {e : Endpoint}
    (roomy : s.frameSize ≤ window) (isOpen : e.isOpen = true) (waiting : e.arrivals ≠ [])
    {result : Except IoError (List UInt8)} {after : State × Endpoint}
    (ran : (read window).exec (s, e) = (result, after)) : after.2.scripted < e.scripted := by
  obtain ⟨count, turn, fits⟩ := exists_turn_of_roomy roomy e
  rw [turn, readFrames, if_neg fits, Hook.exec_attempt_bind] at ran
  rcases called : e.read s.frameSize with ⟨answer, e'⟩
  have less := (Endpoint.scripted_of_read called).2.2 isOpen waiting
  rw [called] at ran
  rcases answer with cause | _ | ⟨byte, rest⟩
  · by_cases ends : (cause.shouldRetry || !([] : List UInt8).isEmpty) = true
    · simp only [if_pos ends, Hook.exec_pure] at ran
      obtain ⟨-, rfl⟩ := Prod.mk.inj ran
      exact less
    · simp only [if_neg ends, Hook.exec_fail] at ran
      obtain ⟨-, rfl⟩ := Prod.mk.inj ran
      exact less
  · obtain ⟨-, rfl⟩ := Prod.mk.inj ran
    exact less
  · by_cases bad : (byte :: rest).length ≠ classicUnit ∧ (byte :: rest).length ≠ s.frameSize
    · simp only [if_pos bad, Hook.exec_fail] at ran
      obtain ⟨-, rfl⟩ := Prod.mk.inj ran
      exact less
    · simp only [if_neg bad] at ran
      have frugal : Hook.Frugal (fun _ => 0)
          (readFrames s.frameSize window count ([] ++ tag (byte :: rest))) :=
        readFrames_of_closed Hook.Frugal.closed Hook.Frugal.attempt_read _ _
      obtain ⟨more, -⟩ := frugal.of_exec ran
      simp only [supply, Nat.zero_add] at more
      exact Nat.lt_of_le_of_lt more less

/-- There is room for a frame in every window that is asked for. -/
theorem frameSize_le_of_asked {c : Connection protocol} {window : Nat}
    (asked : c.readWindow? = some window) : c.protocol.frameSize ≤ window := by
  have chunk : protocol.readChunkSize c.protocol = 1152 := rfl
  have unit : c.protocol.frameSize ≤ c.unit := Nat.le_max_left ..
  have small : c.protocol.frameSize ≤ 72 := by
    unfold State.frameSize
    split <;> decide
  have stream : protocol.isDatagram c.protocol = false := rfl
  simp only [Connection.readWindow?, chunk, stream, Bool.false_eq_true, if_false] at asked
  split at asked
  · obtain rfl := Option.some.inj asked
    omega
  · split at asked
    · cases asked
    · obtain rfl := Option.some.inj asked
      omega

theorem scripted_lt_or_pos_of_exec_write {bytes : List UInt8} (nonempty : bytes ≠ []) {s : State}
    {e : Endpoint} (willing : e.Willing) {n : Nat} {after : State × Endpoint}
    (ran : (write bytes).exec (s, e) = (.ok n, after)) :
    after.2.scripted < e.scripted ∨ 0 < n := by
  rw [write, Hook.exec_state_bind] at ran
  -- What is offered does not end without a frame before it.
  have unstopped : (stopWriting 0 bytes).exec (s, e) ≠ (.ok n, after) := by
    have stopped : stopWriting 0 bytes = Hook.fail invalidFrame := by
      simp [stopWriting, nonempty]
    rw [stopped, Hook.exec_fail]
    rintro ⟨⟩
  have positive {size : Nat} (found : frameAt? s.fdFrames bytes = some size) :
      0 < size ∧ bytes.take size ≠ [] := by
    have pos := Nat.lt_of_lt_of_le (by decide : 0 < headerSize) (frameAt?_cases found).2.2
    refine ⟨pos, fun empty => ?_⟩
    rcases List.take_eq_nil_iff.mp empty with zero | isEmpty
    · omega
    · exact nonempty isEmpty
  cases count : bytes.length / classicUnit with
  | zero =>
    rw [count] at ran
    exact absurd ran unstopped
  | succ k =>
    rw [count] at ran
    cases writeTurn_of_writeFrames ran with
    | stop noFrame stops => exact absurd stops unstopped
    | lapsed found wrote =>
      obtain less | ⟨_, ⟨⟩, -⟩ := willing.of_write wrote
      exact .inl less
    | refused found wrote =>
      obtain less | ⟨_, ⟨⟩, moves⟩ := willing.of_write wrote
      · exact .inl less
      · exact absurd (moves (positive found).2) (Nat.lt_irrefl 0)
    | frame found wrote next =>
      obtain ⟨made, -, rfl⟩ := exists_made_of_writeFrames _ next
      have pos := (positive found).1
      exact .inr (by omega)

theorem diligent : protocol.Diligent fun _ => 0 where
  frugalRead := fun _ => .bind .state fun _ =>
    readFrames_of_closed Hook.Frugal.closed Hook.Frugal.attempt_read _ _
  frugalWrite := fun _ => .bind .state fun _ =>
    writeFrames_of_closed Hook.Frugal.closed Hook.Frugal.attempt_write _ _ _
  read := fun asked isOpen waiting ran => Nat.add_lt_add_left
    (scripted_lt_of_exec_read (frameSize_le_of_asked asked) isOpen waiting ran) 0
  write := fun nonempty willing ran =>
    (scripted_lt_or_pos_of_exec_write nonempty willing ran).imp_left (Nat.add_lt_add_left · 0)

end Raw

end CanStream
