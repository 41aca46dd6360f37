import CanStream.Proofs.Raw.Writing
import CanStream.Proofs.Socket.Pump
import CanStream.Proofs.Socket.Run

/-!
# Writings of raw frames that fail

A writing that fails as the first thing to happen took nothing, and what is to be written is as it
was. There is one failure that can come later: the endpoint takes a part of a frame. Then the frames
before it were taken, but nobody is told, and they are still to be written.
-/

namespace CanStream.Raw

open Socket

section

variable {fd : Bool} {bytes : List UInt8} {size : Nat}

theorem frameAt?_cases (found : frameAt? fd bytes = some size) :
    Frame.sizeAt? bytes = some size ∧ size ≤ bytes.length ∧ headerSize ≤ size := by
  obtain ⟨named, allowed⟩ := Option.filter_eq_some_iff.mp found
  refine ⟨named, of_decide_eq_true (Bool.and_eq_true_iff.mp allowed).2, ?_⟩
  rcases Frame.sizeAt?_cases named with rfl | rfl <;> decide

/-- A frame is found by itself as well. -/
theorem frameAt?_take (found : frameAt? fd bytes = some size) :
    frameAt? fd (bytes.take size) = some size := by
  obtain ⟨-, whole, header⟩ := frameAt?_cases found
  rw [frameAt?, Frame.sizeAt?_take header, List.length_take, Nat.min_eq_left whole]
  obtain ⟨named, allowed⟩ := Option.filter_eq_some_iff.mp found
  have kind := (Bool.and_eq_true_iff.mp allowed).1
  exact Option.filter_eq_some_iff.mpr ⟨named, by simp [kind]⟩

/-- No part of a frame is a frame. -/
theorem frameAt?_take_of_lt (found : frameAt? fd bytes = some size) {n : Nat} (part : n < size) :
    frameAt? fd (bytes.take n) ≠ some (bytes.take n).length := by
  intro other
  obtain ⟨named, whole, header⟩ := frameAt?_cases other
  obtain ⟨named', whole', -⟩ := frameAt?_cases found
  rw [List.length_take] at named header
  rw [Frame.sizeAt?_take (by omega), named', Option.some.injEq] at named
  omega

end

/-- The writes that were whole frames. -/
def wholeFrames (fd : Bool) (made : List (List UInt8)) : List (List UInt8) :=
  made.filter fun bytes => frameAt? fd bytes == some bytes.length

section

variable {fd : Bool} {bytes : List UInt8} {size : Nat}

theorem wholeFrames_take_cons (found : frameAt? fd bytes = some size)
    (made : List (List UInt8)) :
    wholeFrames fd (bytes.take size :: made) = bytes.take size :: wholeFrames fd made := by
  have whole : frameAt? fd (bytes.take size) = some (bytes.take size).length := by
    rw [frameAt?_take found, List.length_take, Nat.min_eq_left (frameAt?_cases found).2.1]
  simp [wholeFrames, whole]

theorem wholeFrames_part (found : frameAt? fd bytes = some size) {n : Nat} (part : n < size) :
    wholeFrames fd [bytes.take n] = [] := by
  have other := frameAt?_take_of_lt found part
  simpa [wholeFrames] using other

end

/-- With some bytes taken before, the writing of what is left makes the writes and fails. -/
inductive Aborts (fd : Bool) : Nat → List UInt8 → List (List UInt8) → IoError → Prop
  /-- A failure that is the first thing to happen. -/
  | first (rest cause) : Aborts fd 0 rest [] cause
  /-- The endpoint takes a part of a frame. -/
  | short {taken rest size n} (found : frameAt? fd rest = some size) (part : n < size) :
      Aborts fd taken rest [rest.take n] incompleteWrite
  /-- A frame is written, and the writing goes on behind it. -/
  | frame {taken rest size made cause} (found : frameAt? fd rest = some size)
      (next : Aborts fd (taken + size) (rest.drop size) made cause) :
      Aborts fd taken rest (rest.take size :: made) cause

section

variable {fd : Bool} {taken : Nat} {rest : List UInt8} {made : List (List UInt8)} {cause : IoError}

/-- Once something was taken only a part of a frame ends in a failure. -/
theorem Aborts.of_pos (aborts : Aborts fd taken rest made cause) (positive : 0 < taken) :
    cause = incompleteWrite ∧ made ≠ [] := by
  induction aborts with
  | first rest cause => cases positive
  | short found part => exact ⟨rfl, List.cons_ne_nil _ _⟩
  | frame found next ih => exact ⟨(ih (Nat.add_pos_left positive _)).1, List.cons_ne_nil _ _⟩

/-- The whole frames among the writes are the first of the bytes that were left. -/
theorem Aborts.flatten_isPrefix (aborts : Aborts fd taken rest made cause) :
    (wholeFrames fd made).flatten <+: rest := by
  induction aborts with
  | first rest cause => exact List.nil_prefix
  | short found part =>
    rw [wholeFrames_part found part]
    exact List.nil_prefix
  | @frame taken rest size made cause found next ih =>
    rw [wholeFrames_take_cons found, List.flatten_cons]
    nth_rewrite 2 [← List.take_append_drop size rest]
    exact (List.prefix_append_right_inj _).mpr ih

/-- A whole frame was written just if a part of another one was written behind it. -/
theorem Aborts.wholeFrames_eq_nil_iff (aborts : Aborts fd taken rest made cause) :
    wholeFrames fd made = [] ↔ ¬(cause = incompleteWrite ∧ 1 < made.length) := by
  cases aborts with
  | first rest cause => exact iff_of_true rfl fun behind => absurd behind.2 (Nat.not_lt_zero 1)
  | short found part =>
    exact iff_of_true (wholeFrames_part found part) fun behind => absurd behind.2 (Nat.lt_irrefl 1)
  | frame found next =>
    have positive := Nat.lt_of_lt_of_le (by decide : 0 < headerSize) (frameAt?_cases found).2.2
    obtain ⟨short, nonempty⟩ := next.of_pos (Nat.add_pos_right taken positive)
    rw [wholeFrames_take_cons found]
    refine iff_of_false (List.cons_ne_nil _ _) (not_not_intro ⟨short, ?_⟩)
    rw [List.length_cons]
    exact Nat.succ_lt_succ (List.length_pos_of_ne_nil nonempty)

end

theorem exists_aborts_of_stopWriting {fd : Bool} {taken : Nat} {rest : List UInt8}
    {s : State × Endpoint} {cause : IoError} {after : State × Endpoint}
    (ran : (stopWriting taken rest).exec s = (.error cause, after)) :
    after = s ∧ Aborts fd taken rest [] cause := by
  unfold stopWriting at ran
  split at ran
  case isTrue => cases ran
  case isFalse other =>
    obtain rfl : taken = 0 := by
      simp only [Bool.or_eq_true, decide_eq_true_iff, not_or] at other
      exact Nat.eq_zero_of_not_pos other.2
    exact ⟨(Prod.mk.inj ran).2.symm, .first rest cause⟩

theorem exists_aborts_of_writeFrames {fd : Bool} {count taken : Nat} {rest : List UInt8}
    {s : State} {e : Endpoint} {cause : IoError} {after : State × Endpoint}
    (ran : (writeFrames fd count taken rest).exec (s, e) = (.error cause, after)) :
    ∃ made, after.2.written = e.written ++ made ∧ Aborts fd taken rest made cause := by
  have stops {taken : Nat} {rest : List UInt8} {e : Endpoint}
      (ran : (stopWriting taken rest).exec (s, e) = (.error cause, after)) :
      ∃ made, after.2.written = e.written ++ made ∧ Aborts fd taken rest made cause := by
    obtain ⟨rfl, aborts⟩ := exists_aborts_of_stopWriting ran
    exact ⟨[], (List.append_nil _).symm, aborts⟩
  induction count generalizing taken rest e with
  | zero => exact stops ran
  | succ count ih =>
    cases writeTurn_of_writeFrames ran with
    | stop noFrame ended => exact stops ended
    | failed found wrote first =>
      subst first
      refine ⟨[], ?_, .first rest cause⟩
      rw [Endpoint.written_of_write_error wrote, List.append_nil]
    | frame found wrote next =>
      obtain ⟨made, written, aborts⟩ := ih next
      refine ⟨_, ?_, .frame found aborts⟩
      rw [written, (Endpoint.written_of_write_ok wrote).2, List.take_take, Nat.min_self,
        List.append_assoc, List.singleton_append]
    | @short size n e' found wrote part =>
      obtain ⟨fits, written⟩ := Endpoint.written_of_write_ok wrote
      have less : n < size := Nat.lt_of_le_of_ne (Nat.le_trans fits (List.length_take_le ..)) part
      refine ⟨_, ?_, .short found less⟩
      rw [written, List.take_take, Nat.min_eq_left (Nat.le_of_lt less)]

/-- A writing that fails took no whole frame, unless it took only a part of a frame behind one. The
frames that it took are then still at the head of the write buffer when the failure is reported. -/
theorem wholeFrames_eq_nil_iff_of_failed {bytes : List UInt8} {s : State} {e : Endpoint}
    {cause : IoError} {after : State × Endpoint}
    (failed : (write bytes).exec (s, e) = (.error cause, after)) :
    let made := e.writesMade after.2
    (wholeFrames s.fdFrames made = [] ↔ ¬(cause = incompleteWrite ∧ 1 < made.length)) ∧
      ∀ (emit : Emit protocol) (k : Socket protocol), k.protocol = s → k.endpoint = e →
        k.writeBuffer.isEmpty = false → k.writeStarted = false →
        k.align.writeBuffer.head = bytes →
        ∃ k' : Socket protocol, k'.error = SocketError.ofTransfer .writeError cause ∧
          (wholeFrames s.fdFrames made).flatten <+: k'.writeBuffer.toList ∧
          startWrite emit k =
            (do emit (.error k'.error.kind); pure false : SocketM protocol Bool) k' := by
  have ran := failed
  rw [write, Hook.exec_state_bind] at ran
  obtain ⟨made, written, aborts⟩ := exists_aborts_of_writeFrames ran
  rw [Endpoint.writesMade_eq written]
  refine ⟨aborts.wholeFrames_eq_nil_iff, ?_⟩
  rintro emit k rfl rfl nonempty fresh rfl
  obtain ⟨k', refused, -, went⟩ := exists_emit_error_of_refused nonempty fresh failed
  refine ⟨k', by rw [refused], ?_, ?_⟩
  · by_cases kept : wholeFrames k.protocol.fdFrames made = []
    · rw [kept]
      exact List.nil_prefix
    · obtain ⟨rfl, -⟩ := not_not.mp (mt aborts.wholeFrames_eq_nil_iff.mpr kept)
      have valid : incompleteWrite.kind ≠ .invalidData := by decide
      rw [refused, Connection.refuseWrite_of_valid _ valid]
      obtain ⟨tail, front⟩ := ByteQueue.head_append_tail k.align.writeBuffer
      refine aborts.flatten_isPrefix.trans ⟨tail, ?_⟩
      exact front.symm
  · rw [went emit, refused]

def classicBlock : List UInt8 := (Frame.empty.withKind .data).toKernel

def flexibleBlock : List UInt8 := (Frame.empty.withKind .fd).toKernel

/-- A protocol that exchanges frames of both kinds. -/
def flexibleState : State := { State.initial with fdFrames := true }

/-- An open endpoint that takes a classic frame at once, but not a flexible one. -/
def narrowEndpoint : Endpoint :=
  { Endpoint.blank with opened := some .raw, writeLimit := some classicUnit }

/-- The classic frame is taken, and of the flexible one behind it a part. -/
theorem exists_short_write :
    ∃ after, (write (classicBlock ++ flexibleBlock)).exec (flexibleState, narrowEndpoint) =
        (.error incompleteWrite, after) ∧
      narrowEndpoint.writesMade after.2 = [classicBlock, flexibleBlock.take classicUnit] := by
  let ran := (write (classicBlock ++ flexibleBlock)).exec (flexibleState, narrowEndpoint)
  have outcome : ran.1 = .error incompleteWrite ∧
      narrowEndpoint.writesMade ran.2.2 = [classicBlock, flexibleBlock.take classicUnit] := by
    decide +kernel
  exact ⟨_, Prod.ext outcome.1 rfl, outcome.2⟩

theorem not_always_nothing_taken :
    ¬∀ (bytes : List UInt8) (s : State) (e : Endpoint) (cause : IoError)
      (after : State × Endpoint), (write bytes).exec (s, e) = (.error cause, after) →
      wholeFrames s.fdFrames (e.writesMade after.2) = [] := by
  intro always
  obtain ⟨after, failed, made⟩ := exists_short_write
  have nothing := always _ _ _ _ _ failed
  rw [made] at nothing
  exact absurd nothing (by decide +kernel)

theorem wholeFrames_ne_nil_narrowEndpoint :
    ∃ after, (write (classicBlock ++ flexibleBlock)).exec (flexibleState, narrowEndpoint) =
        (.error incompleteWrite, after) ∧
      wholeFrames true (narrowEndpoint.writesMade after.2) ≠ [] := by
  obtain ⟨after, failed, made⟩ := exists_short_write
  refine ⟨after, failed, mt (wholeFrames_eq_nil_iff_of_failed failed).1.mp ?_⟩
  rw [made]
  exact not_not_intro ⟨rfl, by decide⟩

/-- What is asked of a socket that goes on after the failure. -/
def resumedRun : List (Action protocol) :=
  [.ask (.setOption Opt.fdFrames (Value.fdFrames true)), .ask (.connect "" .readWrite),
    .ask (.writeFrame (Frame.empty.withKind .data)), .ask (.writeFrame (Frame.empty.withKind .fd)),
    .ask (.cue (.setWriteLimit (some classicUnit))), .ask .flush, .ask (.cue (.setWriteLimit none)),
    .ask .flush]

/-- The classic frame is sent twice. -/
example :
    (Socket.run resumedRun (initial .initial .blank)).map (fun r => r.2.endpoint.written) =
      some [classicBlock, flexibleBlock.take classicUnit, classicBlock, flexibleBlock] := by
  decide +kernel

end CanStream.Raw
