import CanStream.Endpoint.Basic

/-!
# What the calls on an endpoint do

A read takes the next arrival, and a write goes through, is answered with a failure, or finds no
descriptor. What a hook did in between is told from the endpoint before and after it.
-/

namespace CanStream

/-- No failure of a call to the kernel is one of the data. -/
theorem IoError.kind_os_ne_invalidData (code : Int) : (IoError.os code).kind ≠ .invalidData := by
  rw [IoError.kind]
  unfold Errno.kind
  split <;> simp

namespace Endpoint

theorem read_cases (n : Nat) (e : Endpoint) :
    (∃ code, e.read n = (.error (.os code), e) ∧
      (e.isOpen = true → code = Errno.again ∧ e.arrivals = [])) ∨
    (∃ code rest, e.arrivals = .failure code :: rest ∧
      e.read n = (.error (.os code), { e with arrivals := rest })) ∨
    ∃ bytes rest, e.arrivals = .datagram bytes :: rest ∧
      e.read n = (.ok (bytes.take n), { e with arrivals := rest }) := by
  by_cases isOpen : e.isOpen = true
  · rcases arrived : e.arrivals with _ | ⟨⟨bytes⟩ | ⟨code⟩, rest⟩
    · refine .inl ⟨Errno.again, ?_, fun _ => ⟨rfl, rfl⟩⟩
      simp [Endpoint.read, whileOpen, isOpen, arrived]
    · refine .inr (.inr ⟨bytes, rest, rfl, ?_⟩)
      simp [Endpoint.read, whileOpen, isOpen, arrived]
    · refine .inr (.inl ⟨code, rest, rfl, ?_⟩)
      simp [Endpoint.read, whileOpen, isOpen, arrived]
  · refine .inl ⟨Errno.badDescriptor, ?_, fun other => absurd other isOpen⟩
    simp [Endpoint.read, whileOpen, isOpen]

/-- The answer to a write is a failure, or it takes what an answer or else the limit lets through.
-/
theorem answerWrite_cases (data : List UInt8) (e : Endpoint) :
    ∃ rest, rest <:+ e.writeAnswers ∧
      ((∃ code, e.answerWrite data = (.error (.os code), { e with writeAnswers := rest })) ∨
        ∃ part, ((∃ n, .upTo n ∈ e.writeAnswers ∧ part = data.take n) ∨
            e.writeAnswers = [] ∧ part = limited e.writeLimit data) ∧
          e.answerWrite data = (.ok part.length, { e with
            writeAnswers := rest, written := e.written ++ [part], writes := e.writes + 1 })) := by
  by_cases isOpen : e.isOpen = true
  · rcases answered : e.writeAnswers with _ | ⟨⟨code⟩ | ⟨n⟩, rest⟩
    · refine ⟨[], List.suffix_rfl, ?_⟩
      by_cases writable : e.writable = true
      · refine .inr ⟨limited e.writeLimit data, .inr ⟨rfl, rfl⟩, ?_⟩
        simp [answerWrite, whileOpen, accept, isOpen, answered, writable]
      · have same : { e with writeAnswers := [] } = e := by rw [← answered]
        refine .inl ⟨Errno.again, ?_⟩
        rw [same]
        simp [answerWrite, whileOpen, isOpen, answered, writable]
    · refine ⟨rest, List.suffix_cons .., .inl ⟨code, ?_⟩⟩
      simp [answerWrite, whileOpen, isOpen, answered]
    · refine ⟨rest, List.suffix_cons .., .inr ⟨data.take n, .inl ⟨n, by simp, rfl⟩, ?_⟩⟩
      simp [answerWrite, whileOpen, accept, isOpen, answered]
  · refine ⟨e.writeAnswers, List.suffix_rfl, .inl ⟨Errno.badDescriptor, ?_⟩⟩
    simp [answerWrite, whileOpen, isOpen]

/-- A write is kept on record, whether it fails or takes what an answer or else the limit lets
through. -/
theorem write_cases (data : List UInt8) (e : Endpoint) :
    ∃ rest, rest <:+ e.writeAnswers ∧
      ((∃ code, e.write data = (.error (.os code), { e with
          tried := e.tried ++ [data], writeAnswers := rest })) ∨
        ∃ part, ((∃ n, .upTo n ∈ e.writeAnswers ∧ part = data.take n) ∨
            e.writeAnswers = [] ∧ part = limited e.writeLimit data) ∧
          e.write data = (.ok part.length, { e with
            tried := e.tried ++ [data], writeAnswers := rest, written := e.written ++ [part],
            writes := e.writes + 1 })) :=
  answerWrite_cases data { e with tried := e.tried ++ [data] }

/-- What an answer or else the limit lets through is the start of the data. -/
theorem isPrefix_of_lets {e : Endpoint} {data part : List UInt8}
    (lets : (∃ n, .upTo n ∈ e.writeAnswers ∧ part = data.take n) ∨
      e.writeAnswers = [] ∧ part = limited e.writeLimit data) : part <+: data := by
  rcases lets with ⟨n, -, rfl⟩ | ⟨-, rfl⟩
  · exact List.take_prefix ..
  · unfold limited
    split
    · exact List.take_prefix ..
    · exact List.prefix_rfl

section

variable {data : List UInt8} {e e' : Endpoint}

/-- A write uses answers up and keeps the limit. -/
theorem writing_of_write {result : Except IoError Nat} (wrote : e.write data = (result, e')) :
    e'.writeAnswers <:+ e.writeAnswers ∧ e'.writeLimit = e.writeLimit := by
  obtain ⟨rest, suffix, ⟨code, ran⟩ | ⟨part, -, ran⟩⟩ := write_cases data e <;>
  · rw [ran] at wrote
    cases wrote
    exact ⟨suffix, rfl⟩

/-- Nothing was written by a write that failed. -/
theorem written_of_write_error {cause : IoError} (wrote : e.write data = (.error cause, e')) :
    e'.written = e.written := by
  obtain ⟨rest, -, ⟨code, ran⟩ | ⟨part, -, ran⟩⟩ := write_cases data e
  · rw [ran] at wrote
    cases wrote
    rfl
  · rw [ran] at wrote
    cases wrote

/-- A write that succeeded wrote what an answer or else the limit lets through. -/
theorem exists_part_of_write_ok {n : Nat} (wrote : e.write data = (.ok n, e')) :
    ∃ part, ((∃ n, .upTo n ∈ e.writeAnswers ∧ part = data.take n) ∨
        e.writeAnswers = [] ∧ part = limited e.writeLimit data) ∧
      part.length = n ∧ e'.written = e.written ++ [part] := by
  obtain ⟨rest, -, ⟨code, ran⟩ | ⟨part, lets, ran⟩⟩ := write_cases data e
  · rw [ran] at wrote
    cases wrote
  · rw [ran] at wrote
    cases wrote
    exact ⟨part, lets, rfl, rfl⟩

/-- It wrote as many bytes as it tells, from the start of the data. -/
theorem written_of_write_ok {n : Nat} (wrote : e.write data = (.ok n, e')) :
    n ≤ data.length ∧ e'.written = e.written ++ [data.take n] := by
  obtain ⟨part, lets, rfl, written⟩ := exists_part_of_write_ok wrote
  have start := isPrefix_of_lets lets
  exact ⟨start.length_le, by rw [written, ← List.prefix_iff_eq_take.mp start]⟩

end

theorem arrivalsTaken_eq {before after : Endpoint} {taken : List Arrival}
    (split : before.arrivals = taken ++ after.arrivals) : before.arrivalsTaken after = taken := by
  simp [arrivalsTaken, split]

theorem writesTried_eq {before after : Endpoint} {tried : List (List UInt8)}
    (grown : after.tried = before.tried ++ tried) : before.writesTried after = tried := by
  simp [writesTried, grown]

theorem writesMade_eq {before after : Endpoint} {made : List (List UInt8)}
    (grown : after.written = before.written ++ made) : before.writesMade after = made := by
  simp [writesMade, grown]

/-! ## What calls leave alone -/

/-- A call that is only made on an open descriptor leaves alone what it leaves alone there. -/
theorem view_whileOpen {α γ : Type} {view : Endpoint → γ} {call : Call α}
    (h : ∀ e, view (call e).2 = view e) (e : Endpoint) :
    view (whileOpen call e).2 = view e := by
  unfold whileOpen
  split
  · exact h e
  · rfl

/-- What is not about polls is left alone by them. -/
theorem view_poll {γ : Type} (view : Endpoint → γ)
    (same : ∀ (e : Endpoint) pollAnswers polls,
      view { e with pollAnswers := pollAnswers, polls := polls } = view e)
    (read write : Bool) (e : Endpoint) : view (poll read write e).2 = view e := by
  unfold poll
  split
  · exact same e _ _
  · exact same e _ _
  · exact same e _ _
  · exact view_whileOpen (fun e => same e _ _) e

/-- What is not about the descriptor is left alone when it is closed. -/
theorem view_close {γ : Type} {view : Endpoint → γ}
    (same : ∀ (e : Endpoint) opened bound closes closeError,
      view { e with
        opened := opened, bound := bound, closes := closes, closeError := closeError } = view e)
    (e : Endpoint) : view (close e).2 = view e := by
  unfold close
  split
  · simp only
    split <;> exact same e _ _ _ _
  · rfl

/-- How the coming writes are answered. -/
def writing (e : Endpoint) : List WriteAnswer × Option Nat := (e.writeAnswers, e.writeLimit)

@[simp] theorem writing_close (e : Endpoint) : (close e).2.writing = e.writing :=
  view_close (fun _ _ _ _ _ => rfl) e

@[simp] theorem writing_poll (read write : Bool) (e : Endpoint) :
    (poll read write e).2.writing = e.writing :=
  view_poll _ (fun _ _ _ => rfl) read write e

/-- The calls that set up a descriptor leave a view of the endpoint as it was. -/
structure SetUpSpares {γ : Type} (view : Endpoint → γ) : Prop where
  openAs : ∀ type e, view (openAs type e).2 = view e
  setNonblocking : ∀ on e, view (setNonblocking on e).2 = view e
  lookup : ∀ name e, view (lookup name e).2 = view e
  setOption : ∀ name value e, view (setOption name value e).2 = view e
  bindTo : ∀ address e, view (bindTo address e).2 = view e

/-- What is not about the descriptor and how it is set up is left alone. -/
theorem setUpSpares_of_congr {γ : Type} {view : Endpoint → γ}
    (same : ∀ (e : Endpoint) opened nonblocking bound options openError nonblockingError bindError,
      view { e with
        opened := opened
        nonblocking := nonblocking
        bound := bound
        options := options
        openError := openError
        nonblockingError := nonblockingError
        bindError := bindError } = view e) : SetUpSpares view where
  openAs := fun type e => by
    unfold openAs
    split <;> exact same e _ _ _ _ _ _ _
  setNonblocking := fun on e => by
    unfold setNonblocking
    split
    · exact same e _ _ _ _ _ _ _
    · exact view_whileOpen (fun e => same e _ _ _ _ _ _ _) e
  lookup := fun name e => by
    unfold lookup
    split <;> rfl
  setOption := fun name value e => by
    refine view_whileOpen (fun e => ?_) e
    split
    · rfl
    · exact same e _ _ _ _ _ _ _
  bindTo := fun address e => by
    refine view_whileOpen (fun e => ?_) e
    split <;> exact same e _ _ _ _ _ _ _

theorem setUpSpares_const {γ : Type} (c : γ) : SetUpSpares fun _ => c :=
  setUpSpares_of_congr fun _ _ _ _ _ _ _ _ => rfl

theorem setUpSpares_writing : SetUpSpares writing :=
  setUpSpares_of_congr fun _ _ _ _ _ _ _ _ => rfl

theorem setUpSpares_arrivals : SetUpSpares arrivals :=
  setUpSpares_of_congr fun _ _ _ _ _ _ _ _ => rfl

@[simp] theorem arrivals_poll (read write : Bool) (e : Endpoint) :
    (poll read write e).2.arrivals = e.arrivals :=
  view_poll _ (fun _ _ _ => rfl) read write e

@[simp] theorem arrivals_write (data : List UInt8) (e : Endpoint) :
    (write data e).2.arrivals = e.arrivals := by
  obtain ⟨rest, -, ⟨code, ran⟩ | ⟨part, -, ran⟩⟩ := write_cases data e
  · rw [ran]
  · rw [ran]

@[simp] theorem isOpen_close (e : Endpoint) : (close e).2.isOpen = false := by
  unfold close
  split
  · simp only
    split <;> rfl
  case isFalse shut => exact Bool.eq_false_iff.mpr shut

theorem isOpen_lookup (name : String) (e : Endpoint) :
    (lookup name e).2.isOpen = e.isOpen := by
  unfold lookup
  split <;> rfl

theorem isOpen_setOption (name : OptionName) (value : List UInt8) (e : Endpoint) :
    (setOption name value e).2.isOpen = e.isOpen := by
  refine view_whileOpen (fun e => ?_) e
  split <;> rfl

theorem isOpen_read (n : Nat) (e : Endpoint) : (read n e).2.isOpen = e.isOpen := by
  refine view_whileOpen (fun e => ?_) e
  split <;> rfl

theorem isOpen_write (data : List UInt8) (e : Endpoint) :
    (write data e).2.isOpen = e.isOpen := by
  obtain ⟨rest, -, ⟨code, ran⟩ | ⟨part, -, ran⟩⟩ := write_cases data e
  · rw [ran]
    rfl
  · rw [ran]
    rfl

theorem isOpen_poll (read write : Bool) (e : Endpoint) :
    (poll read write e).2.isOpen = e.isOpen :=
  view_poll _ (fun _ _ _ => rfl) read write e

end Endpoint

end CanStream
