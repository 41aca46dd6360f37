import CanStream.Proofs.Endpoint.Calls
import CanStream.Proofs.Protocol.Hook
import CanStream.Proofs.Socket.History
import CanStream.Protocol.Raw

/-!
# What the raw protocol reads

A reading of raw frames takes arrivals one by one. `Reads` follows it: which arrivals it consumed,
and what it gives for them. A datagram is cut to the size of the frames that are read, so that only
a shorter one can have a size that no frame has.
-/

namespace CanStream.Raw

/-- A datagram, shorter than the frames that are read, that is no classic frame either. -/
structure Malformed (unit : Nat) (bytes : List UInt8) : Prop where
  nonempty : bytes ≠ []
  short : bytes.length < unit
  noClassic : bytes.length ≠ classicUnit

/-- A datagram that fills a frame that is read, or is a classic frame. -/
def FrameSized (unit : Nat) (bytes : List UInt8) : Prop :=
  bytes.length = classicUnit ∨ unit ≤ bytes.length

/-- With some bytes read before, the reading of frames of at most `unit` bytes into a window
consumes the arrivals and ends with the result. -/
inductive Reads (unit window : Nat) :
    List UInt8 → List Arrival → Except IoError (List UInt8) → Prop
  /-- Nothing arrived, or no frame fits the window any more. -/
  | stop (taken) : Reads unit window taken [] (.ok taken)
  /-- The descriptor is not open. -/
  | refused (cause) : Reads unit window [] [] (.error cause)
  /-- A failure that only ends the reading: nothing else arrived yet, or some frames were read. -/
  | lapsed (code taken) (ends : (IoError.os code).shouldRetry = true ∨ taken ≠ []) :
      Reads unit window taken [.failure code] (.ok taken)
  /-- A failure before any frame. -/
  | failed (code) : Reads unit window [] [.failure code] (.error (.os code))
  /-- A datagram without bytes ends the reading. -/
  | ended (taken) : Reads unit window taken [.datagram []] (.ok taken)
  /-- A datagram that is no frame fails the reading, whatever was read before. -/
  | malformed {bytes} (taken) (bad : Malformed unit bytes) :
      Reads unit window taken [.datagram bytes] (.error (unexpectedSize bytes.length))
  /-- A frame. -/
  | frame {bytes taken rest result} (sized : FrameSized unit bytes)
      (fits : taken.length + unit ≤ window)
      (next : Reads unit window (taken ++ tag (bytes.take unit)) rest result) :
      Reads unit window taken (.datagram bytes :: rest) result

@[simp] theorem length_tag (bytes : List UInt8) : (tag bytes).length = bytes.length := by
  simp [tag]

theorem take_length_cases (unit : Nat) (bytes : List UInt8) (nonempty : bytes ≠ []) :
    Malformed unit bytes ∧ (bytes.take unit).length ≠ classicUnit ∧
        (bytes.take unit).length ≠ unit ∧ bytes.take unit = bytes ∨
      FrameSized unit bytes ∧
        ((bytes.take unit).length = classicUnit ∨ (bytes.take unit).length = unit) := by
  rcases Nat.lt_or_ge bytes.length unit with short | long
  · have whole : bytes.take unit = bytes := List.take_of_length_le (Nat.le_of_lt short)
    rw [whole]
    by_cases classic : bytes.length = classicUnit
    · exact .inr ⟨.inl classic, .inl classic⟩
    · exact .inl ⟨⟨nonempty, short, classic⟩, classic, Nat.ne_of_lt short, rfl⟩
  · refine .inr ⟨.inr long, .inr ?_⟩
    rw [List.length_take, Nat.min_eq_left long]

theorem readFrames_of_closed {C : ∀ {α : Type}, Hook State IoError α → Prop}
    (closed : Hook.Closed C) (reads : ∀ n, C (Hook.attempt (Endpoint.read n)))
    {frameSize window : Nat} (count : Nat) (taken : List UInt8) :
    C (readFrames frameSize window count taken) := by
  induction count generalizing taken with
  | zero => exact closed.pure _
  | succ count ih =>
    refine Hook.Closed.ite (closed.pure _) (closed.bind (reads frameSize) ?_)
    rintro (cause | _ | ⟨byte, rest⟩)
    · exact Hook.Closed.ite (closed.pure _) (closed.fail _)
    · exact closed.pure _
    · exact Hook.Closed.ite (closed.fail _) (ih _)

/-- A reading leaves alone what a read of the endpoint does. -/
theorem keeps_readFrames {γ : Type} {view : State × Endpoint → γ}
    (keeps : ∀ n s e, view (s, (Endpoint.read n e).2) = view (s, e)) {frameSize window : Nat}
    (count : Nat) (taken : List UInt8) :
    Hook.Keeps view (readFrames frameSize window count taken) :=
  readFrames_of_closed Hook.Keeps.closed (fun n => .attempt (keeps n)) count taken

/-- The reading of frames consumes arrivals and changes nothing else. -/
theorem reads_readFrames {unit window : Nat} (positive : 0 < unit) (count : Nat)
    (taken : List UInt8) (s : State) (e : Endpoint) :
    ∃ consumed rest result, e.arrivals = consumed ++ rest ∧
      (readFrames unit window count taken).exec (s, e) =
        (result, (s, { e with arrivals := rest })) ∧
      Reads unit window taken consumed result := by
  induction count generalizing taken e with
  | zero => exact ⟨[], e.arrivals, .ok taken, rfl, rfl, .stop taken⟩
  | succ count ih =>
    unfold readFrames
    by_cases full : window - taken.length < unit
    · exact ⟨[], e.arrivals, .ok taken, rfl, by simp [full], .stop taken⟩
    simp only [full, if_false, Hook.exec_attempt_bind]
    rcases Endpoint.read_cases unit e with
      ⟨code, ran, again⟩ | ⟨code, rest, arrived, ran⟩ | ⟨bytes, rest, arrived, ran⟩
    · rw [ran]
      by_cases ends : ((IoError.os code).shouldRetry || !taken.isEmpty) = true
      · exact ⟨[], e.arrivals, .ok taken, rfl, by simp only [if_pos ends, Hook.exec_pure],
          .stop taken⟩
      · obtain rfl : taken = [] := by simp at ends; exact ends.2
        exact ⟨[], e.arrivals, .error (.os code), rfl, by simp only [if_neg ends, Hook.exec_fail],
          .refused _⟩
    · rw [ran]
      by_cases ends : ((IoError.os code).shouldRetry || !taken.isEmpty) = true
      · exact ⟨[.failure code], rest, .ok taken, arrived,
          by simp only [if_pos ends, Hook.exec_pure], .lapsed code taken (by simpa using ends)⟩
      · obtain rfl : taken = [] := by simp at ends; exact ends.2
        exact ⟨[.failure code], rest, .error (.os code), arrived,
          by simp only [if_neg ends, Hook.exec_fail], .failed code⟩
    · rw [ran]
      by_cases isEmpty : bytes = []
      · subst isEmpty
        exact ⟨[.datagram []], rest, .ok taken, arrived, by simp, .ended taken⟩
      obtain ⟨b, bytes', kept⟩ : ∃ b bytes', bytes.take unit = b :: bytes' := by
        refine List.exists_cons_of_ne_nil ?_
        rw [ne_eq, List.take_eq_nil_iff, not_or]
        exact ⟨Nat.ne_of_gt positive, isEmpty⟩
      have next := ih (taken ++ tag (bytes.take unit)) { e with arrivals := rest }
      simp only [kept] at next ⊢
      rcases take_length_cases unit bytes isEmpty with ⟨bad, classic, wrong, whole⟩ | ⟨sized, sizes⟩
      · rw [kept] at classic wrong whole
        refine ⟨[.datagram bytes], rest, _, arrived, ?_, .malformed taken bad⟩
        rw [if_pos ⟨classic, wrong⟩, Hook.exec_fail, whole]
      · rw [kept] at sizes
        obtain ⟨consumed, rest', result, split, went, reads⟩ := next
        refine ⟨.datagram bytes :: consumed, rest', result, ?_, ?_,
          .frame sized (by omega) (by rw [kept]; exact reads)⟩
        · rw [arrived, List.cons_append, ← split]
        · rw [if_neg (by omega), went]

theorem frameSize_pos (s : State) : 0 < s.frameSize := by
  unfold State.frameSize
  split <;> decide

/-- The hook consumes arrivals and leaves the state of the protocol alone. -/
theorem reads_read (window : Nat) (s : State) (e : Endpoint) :
    ∃ consumed rest result, e.arrivals = consumed ++ rest ∧
      (read window).exec (s, e) = (result, (s, { e with arrivals := rest })) ∧
      Reads s.frameSize window [] consumed result := by
  rw [read, Hook.exec_state_bind]
  exact reads_readFrames (frameSize_pos s) _ [] s e

/-- Where every datagram is a frame of its own size, a reading gives all that it consumed, unless it
failed before the first. -/
theorem Reads.of_sized {unit window : Nat} {taken : List UInt8} {consumed : List Arrival}
    {result : Except IoError (List UInt8)} (reads : Reads unit window taken consumed result)
    (classic : classicUnit ≤ unit)
    (sized : ∀ d ∈ datagrams consumed, d.length = classicUnit ∨ d.length = unit) :
    result = .ok (taken ++ (datagrams consumed).flatMap tag) ∨
      ∃ cause, result = .error cause ∧ datagrams consumed = [] ∧ taken = [] := by
  induction reads with
  | stop taken => exact .inl (by simp [datagrams])
  | refused cause => exact .inr ⟨cause, rfl, rfl, rfl⟩
  | lapsed code taken => exact .inl (by simp [datagrams, Arrival.bytes?])
  | failed code => exact .inr ⟨_, rfl, rfl, rfl⟩
  | ended taken =>
    have absurdSize := sized [] (by simp [datagrams, Arrival.bytes?])
    rw [List.length_nil] at absurdSize
    have positive : classicUnit = 16 := rfl
    omega
  | malformed taken bad =>
    rename_i bytes
    have size := sized bytes (by simp [datagrams, Arrival.bytes?])
    rcases size with isClassic | isLong
    · exact absurd isClassic bad.noClassic
    · exact absurd bad.short (by omega)
  | frame framed fits next ih =>
    rename_i bytes taken rest result
    have split : datagrams (.datagram bytes :: rest) = bytes :: datagrams rest := rfl
    rw [split] at sized ⊢
    have size := sized bytes (List.mem_cons_self ..)
    have whole : bytes.take unit = bytes := List.take_of_length_le (by omega)
    rcases ih fun d member => sized d (List.mem_cons_of_mem _ member) with ok | ⟨_, _, _, empty⟩
    · exact .inl (by rw [ok, whole, List.flatMap_cons, List.append_assoc])
    · have lengths := congrArg List.length empty
      rw [whole, List.length_append, length_tag, List.length_nil] at lengths
      have positive : classicUnit = 16 := rfl
      omega

/-- A reading that does not fail gives all that it consumed, each datagram cut to the size of the
frames that are read. -/
theorem Reads.of_ok {unit window : Nat} {taken bytes : List UInt8} {consumed : List Arrival}
    {result : Except IoError (List UInt8)} (reads : Reads unit window taken consumed result)
    (positive : 0 < unit) (given : result = .ok bytes) :
    bytes = taken ++ (gathered unit consumed).flatMap tag ∧
      ∀ d ∈ gathered unit consumed, d.length = classicUnit ∨ d.length = unit := by
  induction reads with
  | stop taken =>
    cases given
    simp
  | refused cause => cases given
  | lapsed code taken =>
    cases given
    simp
  | failed code => cases given
  | ended taken =>
    cases given
    simp
  | malformed taken bad => cases given
  | frame sized fits next ih =>
    rename_i framed taken rest result
    have size : (framed.take unit).length = classicUnit ∨ (framed.take unit).length = unit := by
      rw [List.length_take]
      rcases sized with classic | long <;> omega
    have nonempty : framed.take unit ≠ [] := by
      have classic : classicUnit = 16 := rfl
      exact List.ne_nil_of_length_pos (by omega)
    obtain ⟨all, sizes⟩ := ih given
    rw [gathered_datagram nonempty, List.flatMap_cons, ← List.append_assoc]
    exact ⟨all, List.forall_mem_cons.mpr ⟨size, sizes⟩⟩

/-- A reading that may be tried again took nothing. -/
theorem Reads.of_retry {unit window : Nat} {taken : List UInt8} {consumed : List Arrival}
    {result : Except IoError (List UInt8)} {cause : IoError}
    (reads : Reads unit window taken consumed result) (positive : 0 < unit)
    (failed : result = .error cause) (retry : cause.shouldRetry = true) :
    taken = [] ∧ gathered unit consumed = [] := by
  induction reads with
  | stop taken => cases failed
  | refused other => exact ⟨rfl, gathered_nil⟩
  | lapsed code taken => cases failed
  | failed code => exact ⟨rfl, gathered_failure code⟩
  | ended taken => cases failed
  | malformed taken bad =>
    cases failed
    cases retry
  | frame sized fits next ih =>
    rename_i bytes taken rest result
    have lengths := congrArg List.length (ih failed).1
    rw [List.length_append, length_tag, List.length_take, List.length_nil] at lengths
    have classic : classicUnit = 16 := rfl
    rcases sized with size | long <;> omega

/-- A reading gives no more than its window. -/
theorem Reads.length_le {unit window : Nat} {taken bytes : List UInt8} {consumed : List Arrival}
    {result : Except IoError (List UInt8)} (reads : Reads unit window taken consumed result)
    (before : taken.length ≤ window) (given : result = .ok bytes) : bytes.length ≤ window := by
  induction reads with
  | stop taken => cases given; exact before
  | refused cause => cases given
  | lapsed code taken => cases given; exact before
  | failed code => cases given
  | ended taken => cases given; exact before
  | malformed taken bad => cases given
  | frame framed fits next ih =>
    refine ih ?_ given
    rw [List.length_append, length_tag, List.length_take]
    omega

end CanStream.Raw
