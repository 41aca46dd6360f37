import CanStream.Proofs.Endpoint.Calls
import CanStream.Proofs.Frame.Made
import CanStream.Proofs.Protocol.Hook
import CanStream.Protocol.Raw

/-!
# What the raw protocol writes

A writing of raw frames hands the blocks at the head of the write buffer to the endpoint, one at a
time. `Writes` follows it: which of the frames that wait it wrote, and what it tells of them. As
long as the endpoint takes a block whole or not at all, nothing else can happen.
-/

namespace CanStream.Raw

/-- A limit that lets every block through whole, or nothing. -/
def TakesWhole (n : Nat) : Prop := n = 0 ∨ fdUnit ≤ n

/-- The endpoint takes the whole of a block, or nothing of it. -/
structure WholeWrites (e : Endpoint) : Prop where
  answers : ∀ n, .upTo n ∈ e.writeAnswers → TakesWhole n
  limit : ∀ n, e.writeLimit = some n → TakesWhole n

theorem WholeWrites.congr {e e' : Endpoint} (h : WholeWrites e)
    (answers : e'.writeAnswers = e.writeAnswers) (limit : e'.writeLimit = e.writeLimit) :
    WholeWrites e' :=
  ⟨answers ▸ h.answers, limit ▸ h.limit⟩

theorem take_whole {n : Nat} (whole : TakesWhole n) {data : List UInt8}
    (short : data.length ≤ fdUnit) : data.take n = [] ∨ data.take n = data := by
  rcases whole with rfl | long
  · exact .inl List.take_zero
  · exact .inr (List.take_of_length_le (Nat.le_trans short long))

/-- A write of a block fails, or takes nothing, or takes all of it. -/
theorem write_cases {e : Endpoint} (whole : WholeWrites e) {data : List UInt8}
    (short : data.length ≤ fdUnit) :
    ∃ e', WholeWrites e' ∧ e'.tried = e.tried ++ [data] ∧
      ((∃ code, e.write data = (.error (.os code), e') ∧ e'.written = e.written) ∨
        e.write data = (.ok 0, e') ∧ e'.written = e.written ++ [[]] ∨
        e.write data = (.ok data.length, e') ∧ e'.written = e.written ++ [data]) := by
  obtain ⟨rest, suffix, ⟨code, ran⟩ | ⟨part, lets, ran⟩⟩ := Endpoint.write_cases data e
  · exact ⟨{ e with tried := e.tried ++ [data], writeAnswers := rest },
      ⟨fun n member => whole.answers n (suffix.subset member), whole.limit⟩, rfl,
      .inl ⟨code, ran, rfl⟩⟩
  · have allOrNone : part = [] ∨ part = data := by
      rcases lets with ⟨n, answer, rfl⟩ | ⟨-, rfl⟩
      · exact take_whole (whole.answers n answer) short
      · cases limit : e.writeLimit with
        | none => exact .inr rfl
        | some n => exact take_whole (whole.limit n limit) short
    refine ⟨{ e with
        tried := e.tried ++ [data], writeAnswers := rest, written := e.written ++ [part],
        writes := e.writes + 1 },
      ⟨fun n member => whole.answers n (suffix.subset member), whole.limit⟩, rfl, .inr ?_⟩
    rcases allOrNone with rfl | rfl
    · exact .inl ⟨ran, rfl⟩
    · exact .inr ⟨ran, rfl⟩

/-! ## Writings -/

theorem writeFrames_of_closed {C : ∀ {α : Type}, Hook State IoError α → Prop}
    (closed : Hook.Closed C) (writes : ∀ bytes, C (Hook.attempt (Endpoint.write bytes))) {fd : Bool}
    (count taken : Nat) (bytes : List UInt8) : C (writeFrames fd count taken bytes) := by
  have stops (taken : Nat) (bytes : List UInt8) : C (stopWriting taken bytes) :=
    Hook.Closed.ite (closed.pure _) (closed.fail _)
  induction count generalizing taken bytes with
  | zero => exact stops taken bytes
  | succ count ih =>
    rw [writeFrames]
    split
    · exact stops taken bytes
    · refine closed.bind (writes _) ?_
      rintro (cause | n)
      · exact Hook.Closed.ite (closed.pure _) (closed.fail _)
      · exact Hook.Closed.ite (closed.pure _) (Hook.Closed.ite (ih _ _) (closed.fail _))

/-- A writing leaves alone what a write to the endpoint does. -/
theorem keeps_writeFrames {γ : Type} {view : State × Endpoint → γ}
    (keeps : ∀ bytes s e, view (s, (Endpoint.write bytes e).2) = view (s, e)) {fd : Bool}
    (count taken : Nat) (bytes : List UInt8) :
    Hook.Keeps view (writeFrames fd count taken bytes) :=
  writeFrames_of_closed Hook.Keeps.closed (fun bytes => .attempt (keeps bytes)) count taken bytes

/-- How a writing that has a turn left ends. -/
inductive WriteTurn (fd : Bool) (count taken : Nat) (rest : List UInt8) (s : State) (e : Endpoint) :
    Except IoError Nat → State × Endpoint → Prop
  /-- There is no frame at the start of what is left. -/
  | stop {result after} (noFrame : frameAt? fd rest = none)
      (stops : (stopWriting taken rest).exec (s, e) = (result, after)) :
      WriteTurn fd count taken rest s e result after
  /-- A failure that only ends the writing. -/
  | lapsed {size cause e'} (found : frameAt? fd rest = some size)
      (wrote : e.write (rest.take size) = (.error cause, e')) :
      WriteTurn fd count taken rest s e (.ok taken) (s, e')
  /-- A failure before any frame. -/
  | failed {size cause e'} (found : frameAt? fd rest = some size)
      (wrote : e.write (rest.take size) = (.error cause, e')) (first : taken = 0) :
      WriteTurn fd count taken rest s e (.error cause) (s, e')
  /-- The endpoint took nothing. -/
  | refused {size e'} (found : frameAt? fd rest = some size)
      (wrote : e.write (rest.take size) = (.ok 0, e')) :
      WriteTurn fd count taken rest s e (.ok taken) (s, e')
  /-- The endpoint took the frame, and the writing goes on behind it. -/
  | frame {size e' result after} (found : frameAt? fd rest = some size)
      (wrote : e.write (rest.take size) = (.ok size, e'))
      (next : (writeFrames fd count (taken + size) (rest.drop size)).exec (s, e') =
        (result, after)) :
      WriteTurn fd count taken rest s e result after
  /-- The endpoint took a part of the frame. -/
  | short {size n e'} (found : frameAt? fd rest = some size)
      (wrote : e.write (rest.take size) = (.ok n, e')) (part : n ≠ size) :
      WriteTurn fd count taken rest s e (.error incompleteWrite) (s, e')

theorem writeTurn_of_writeFrames {fd : Bool} {count taken : Nat} {rest : List UInt8} {s : State}
    {e : Endpoint} {result : Except IoError Nat} {after : State × Endpoint}
    (ran : (writeFrames fd (count + 1) taken rest).exec (s, e) = (result, after)) :
    WriteTurn fd count taken rest s e result after := by
  rw [writeFrames] at ran
  cases found : frameAt? fd rest with
  | none =>
    rw [found] at ran
    exact .stop found ran
  | some size =>
    rw [found] at ran
    rcases wrote : e.write (rest.take size) with ⟨cause | n, e'⟩ <;>
      simp only [Hook.exec_attempt_bind, wrote] at ran
    · by_cases ends : (cause.isBusy || decide (0 < taken)) = true
      · rw [if_pos ends] at ran
        cases ran
        exact .lapsed found wrote
      · rw [if_neg ends] at ran
        cases ran
        have first : taken = 0 := by simp at ends; exact ends.2
        exact .failed found wrote first
    · by_cases nothing : n = 0
      · rw [if_pos nothing] at ran
        cases ran
        exact .refused found (nothing ▸ wrote)
      · rw [if_neg nothing] at ran
        by_cases all : n = size
        · rw [if_pos all] at ran
          exact .frame found (all ▸ wrote) ran
        · rw [if_neg all] at ran
          cases ran
          exact .short found wrote all

/-- A frame that may be written, flexible frames included or not. -/
structure Writable (fd : Bool) (f : Frame) : Prop where
  known : f.kind ≠ .unknown
  isSealed : Frame.Sealed f
  fits : f.kind = .fd → fd = true

/-- The blocks of some frames, one behind another. -/
def blocks (frames : List Frame) : List UInt8 := frames.flatMap Frame.toKernel

@[simp] theorem blocks_cons (f : Frame) (frames : List Frame) :
    blocks (f :: frames) = f.toKernel ++ blocks frames := by
  simp [blocks]

@[simp] theorem blocks_append (frames more : List Frame) :
    blocks (frames ++ more) = blocks frames ++ blocks more := by
  simp [blocks]

/-- With some bytes taken before, the writing of the frames that wait tries and makes the writes and
ends with the result. -/
inductive Writes :
    Nat → List Frame → List (List UInt8) → List (List UInt8) → Except IoError Nat → Prop
  /-- No whole block is left. -/
  | stop (taken waiting) : Writes taken waiting [] [] (.ok taken)
  /-- A failure that only ends the writing. -/
  | lapsed (taken f waiting) : Writes taken (f :: waiting) [f.toKernel] [] (.ok taken)
  /-- The kernel took nothing. -/
  | refused (taken f waiting) : Writes taken (f :: waiting) [f.toKernel] [[]] (.ok taken)
  /-- A failure before any frame. -/
  | failed {cause} (f waiting) (valid : cause.kind ≠ .invalidData) :
      Writes 0 (f :: waiting) [f.toKernel] [] (.error cause)
  /-- A frame. -/
  | frame {taken f waiting tried made result}
      (next : Writes (taken + f.toKernel.length) waiting tried made result) :
      Writes taken (f :: waiting) (f.toKernel :: tried) (f.toKernel :: made) result

namespace Writable

variable {fd : Bool} {f : Frame}

theorem length_cases (h : Writable fd f) :
    f.toKernel.length = classicUnit ∨ f.toKernel.length = fdUnit ∧ fd = true := by
  rw [Frame.length_toKernel h.known, Frame.transferUnit]
  cases kind : f.kind with
  | unknown => exact absurd kind h.known
  | fd => exact .inr ⟨rfl, h.fits kind⟩
  | data => exact .inl rfl
  | error => exact .inl rfl
  | remote => exact .inl rfl

theorem classicUnit_le (h : Writable fd f) : classicUnit ≤ f.toKernel.length := by
  rcases h.length_cases with size | ⟨size, -⟩
  · exact Nat.le_of_eq size.symm
  · rw [size]
    decide

theorem length_pos (h : Writable fd f) : 0 < f.toKernel.length :=
  Nat.lt_of_lt_of_le (by decide) h.classicUnit_le

theorem length_le (h : Writable fd f) : f.toKernel.length ≤ fdUnit := by
  rcases h.length_cases with size | ⟨size, -⟩
  · rw [size]
    decide
  · exact Nat.le_of_eq size

/-- What is found at the start of a byte string that begins like the block of a frame. -/
theorem frameAt?_eq (h : Writable fd f) {bytes tail more : List UInt8}
    (split : f.toKernel ++ more = bytes ++ tail) :
    frameAt? fd bytes =
      if f.toKernel.length ≤ bytes.length then some f.toKernel.length else none := by
  have named := h.isSealed.sizeAt?_toKernel h.known more
  rw [← Frame.length_toKernel h.known, split] at named
  by_cases long : headerSize ≤ bytes.length
  · have found : Frame.sizeAt? bytes = some f.toKernel.length := by
      rw [← Frame.sizeAt?_append long tail]
      exact named
    have allowed : (f.toKernel.length == classicUnit || fd) = true := by
      rcases h.length_cases with isClassic | ⟨-, on⟩
      · simp [isClassic]
      · simp [on]
    rw [frameAt?, found, Option.filter_some, allowed, Bool.true_and]
    simp only [decide_eq_true_eq]
  · have header : headerSize ≤ classicUnit := by decide
    have least := h.classicUnit_le
    rw [frameAt?, Frame.sizeAt?_eq_none (by omega), if_neg (by omega), Option.filter_none]

end Writable

/-- A frame that fits in the first part of some blocks is the head of the frames. -/
theorem take_drop_of_fits {f : Frame} {more : List Frame} {rest tail : List UInt8}
    (split : blocks (f :: more) = rest ++ tail) (fits : f.toKernel.length ≤ rest.length) :
    rest.take f.toKernel.length = f.toKernel ∧
      blocks more = rest.drop f.toKernel.length ++ tail := by
  rw [blocks_cons] at split
  constructor
  · rw [← List.take_append_of_le_length fits, ← split, List.take_left]
  · rw [← List.drop_append_of_le_length fits, ← split, List.drop_left]

/-- A frame at the start of some blocks is the first of their frames. -/
theorem exists_head_of_frameAt? {fd : Bool} {waiting : List Frame} {rest tail : List UInt8}
    (split : blocks waiting = rest ++ tail) (writable : ∀ f ∈ waiting, Writable fd f) {size : Nat}
    (found : frameAt? fd rest = some size) :
    ∃ f more, waiting = f :: more ∧ size = f.toKernel.length ∧
      rest.take f.toKernel.length = f.toKernel ∧
      blocks more = rest.drop f.toKernel.length ++ tail := by
  cases waiting with
  | nil =>
    obtain ⟨rfl, -⟩ := List.append_eq_nil_iff.mp split.symm
    cases found
  | cons f more =>
    have starts : f.toKernel ++ blocks more = rest ++ tail := by rw [← split, blocks_cons]
    rw [(writable f (List.mem_cons_self ..)).frameAt?_eq starts] at found
    obtain ⟨fits, same⟩ := Option.ite_none_right_eq_some.mp found
    exact ⟨f, more, rfl, (Option.some.inj same).symm, take_drop_of_fits split fits⟩

theorem exec_stopWriting {taken : Nat} {rest : List UInt8} (ended : rest = [] ∨ 0 < taken)
    (s : State × Endpoint) : (stopWriting taken rest).exec s = (.ok taken, s) := by
  have stops : (rest.isEmpty || decide (0 < taken)) = true := by
    rw [Bool.or_eq_true, List.isEmpty_iff, decide_eq_true_iff]
    exact ended
  rw [stopWriting, if_pos stops, Hook.exec_pure]

/-- The writing of frames from the start of their blocks tries writes and changes nothing else. It
needs a whole block to begin with. -/
theorem writes_writeFrames {fd : Bool} (count taken : Nat) {waiting : List Frame}
    {rest tail : List UInt8} (split : blocks waiting = rest ++ tail)
    (writable : ∀ f ∈ waiting, Writable fd f)
    (begun : 0 < taken ∨
      0 < count ∧ ∃ f more, waiting = f :: more ∧ f.toKernel.length ≤ rest.length)
    (s : State) {e : Endpoint} (whole : WholeWrites e) :
    ∃ tried made result e', (writeFrames fd count taken rest).exec (s, e) = (result, (s, e')) ∧
      WholeWrites e' ∧ e'.tried = e.tried ++ tried ∧ e'.written = e.written ++ made ∧
      Writes taken waiting tried made result := by
  induction count generalizing taken waiting rest e with
  | zero =>
    have positive : 0 < taken := begun.resolve_right fun h => Nat.lt_irrefl 0 h.1
    refine ⟨[], [], .ok taken, e, ?_, whole, by simp, by simp, .stop taken waiting⟩
    rw [writeFrames, exec_stopWriting (.inr positive)]
  | succ count ih =>
    cases waiting with
    | nil =>
      obtain ⟨rfl, -⟩ : rest = [] ∧ tail = [] := List.append_eq_nil_iff.mp split.symm
      refine ⟨[], [], .ok taken, e, ?_, whole, by simp, by simp, .stop taken []⟩
      have noFrame : frameAt? fd [] = none := rfl
      rw [writeFrames, noFrame]
      exact exec_stopWriting (.inl rfl) _
    | cons f waiting =>
      have block := writable f (List.mem_cons_self ..)
      have starts : f.toKernel ++ blocks waiting = rest ++ tail := by
        rw [← split, blocks_cons]
      rw [writeFrames, block.frameAt?_eq starts]
      by_cases fits : f.toKernel.length ≤ rest.length
      · obtain ⟨first, next⟩ := take_drop_of_fits split fits
        rw [if_pos fits]
        simp only [first, Hook.exec_attempt_bind]
        obtain ⟨e', whole', tried, ⟨code, ran, written⟩ | ⟨ran, written⟩ | ⟨ran, written⟩⟩ :=
          write_cases whole block.length_le
        · rw [ran]
          by_cases ends : ((IoError.os code).isBusy || decide (0 < taken)) = true
          · refine ⟨[f.toKernel], [], .ok taken, e', ?_, whole', tried, by simp [written],
              .lapsed taken f _⟩
            simp only [if_pos ends, Hook.exec_pure]
          · obtain rfl : taken = 0 := by simp at ends; exact ends.2
            refine ⟨[f.toKernel], [], .error (.os code), e', ?_, whole', tried,
              by simp [written], .failed f _ (IoError.kind_os_ne_invalidData code)⟩
            simp only [if_neg ends, Hook.exec_fail]
        · rw [ran]
          exact ⟨[f.toKernel], [[]], .ok taken, e', rfl, whole', tried, written,
            .refused taken f _⟩
        · rw [ran]
          have nonzero : f.toKernel.length ≠ 0 := Nat.ne_of_gt block.length_pos
          obtain ⟨more, made, result, e'', ran', whole'', tried', written', writes⟩ :=
            ih (taken + f.toKernel.length) next
              (fun g member => writable g (List.mem_cons_of_mem _ member))
              (.inl (by omega)) whole'
          refine ⟨f.toKernel :: more, f.toKernel :: made, result, e'', ?_, whole'', ?_, ?_,
            .frame writes⟩
          · simp only [if_neg nonzero, if_true]
            exact ran'
          · rw [tried', tried, List.append_assoc, List.singleton_append]
          · rw [written', written, List.append_assoc, List.singleton_append]
      · have positive : 0 < taken := by
          rcases begun with positive | ⟨-, g, more, same, whole⟩
          · exact positive
          · obtain ⟨rfl, -⟩ := List.cons.inj same
            exact absurd whole fits
        rw [if_neg fits]
        exact ⟨[], [], .ok taken, e, exec_stopWriting (.inr positive) _, whole, by simp, by simp,
          .stop taken _⟩

/-- Whatever a writing tries to write is the block of a frame that waits. -/
theorem Writes.exists_of_tried {taken : Nat} {waiting : List Frame}
    {tried made : List (List UInt8)} {result : Except IoError Nat}
    (writes : Writes taken waiting tried made result) :
    ∀ bytes ∈ tried, ∃ f ∈ waiting, bytes = f.toKernel := by
  have head {f : Frame} {waiting : List Frame} :
      ∀ bytes ∈ [f.toKernel], ∃ g ∈ f :: waiting, bytes = g.toKernel :=
    fun bytes member => ⟨f, List.mem_cons_self .., List.mem_singleton.mp member⟩
  induction writes with
  | stop taken waiting => exact fun _ member => by cases member
  | lapsed taken f waiting => exact head
  | refused taken f waiting => exact head
  | failed f waiting valid => exact head
  | @frame taken f waiting tried made result next ih =>
    intro bytes member
    rcases List.mem_cons.mp member with first | later
    · exact ⟨f, List.mem_cons_self .., first⟩
    · obtain ⟨g, waits, same⟩ := ih bytes later
      exact ⟨g, List.mem_cons_of_mem f waits, same⟩

/-- The frames that a writing wrote are the first of those that waited. -/
theorem Writes.exists_split {taken : Nat} {waiting : List Frame} {tried made : List (List UInt8)}
    {result : Except IoError Nat} (writes : Writes taken waiting tried made result)
    (nonempty : ∀ f ∈ waiting, 0 < f.toKernel.length) :
    ∃ sent left, waiting = sent ++ left ∧
      (made.filter fun bytes => !bytes.isEmpty) = sent.map Frame.toKernel ∧
      (result = .ok (taken + (blocks sent).length) ∨
        taken = 0 ∧ sent = [] ∧ ∃ cause, result = .error cause ∧ cause.kind ≠ .invalidData) := by
  induction writes with
  | stop taken waiting => exact ⟨[], waiting, rfl, rfl, .inl rfl⟩
  | lapsed taken f waiting => exact ⟨[], f :: waiting, rfl, rfl, .inl rfl⟩
  | refused taken f waiting => exact ⟨[], f :: waiting, rfl, rfl, .inl rfl⟩
  | failed f waiting valid =>
    exact ⟨[], f :: waiting, rfl, rfl, .inr ⟨rfl, rfl, _, rfl, valid⟩⟩
  | @frame taken f waiting tried made result next ih =>
    have positive := nonempty f (List.mem_cons_self ..)
    obtain ⟨sent, left, split, kept, outcome⟩ :=
      ih fun g member => nonempty g (List.mem_cons_of_mem _ member)
    refine ⟨f :: sent, left, by rw [split, List.cons_append], ?_, ?_⟩
    · have notEmpty : (!f.toKernel.isEmpty) = true := by
        rw [Bool.not_eq_true', List.isEmpty_eq_false_iff, ← List.length_pos_iff]
        exact positive
      rw [List.filter_cons, if_pos notEmpty, kept, List.map_cons]
    · rcases outcome with ok | ⟨zero, -⟩
      · left
        rw [ok, blocks_cons, List.length_append, Nat.add_assoc]
      · omega

end CanStream.Raw
