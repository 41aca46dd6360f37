import CanStream.Proofs.Raw.Reading
import CanStream.Proofs.Raw.Writing
import CanStream.Protocol.IsoTp
import CanStream.Protocol.Plain

/-!
# Hooks that take no notice of the number of polls

An endpoint counts the polls that are made on it, but where no answers to them are laid down nothing
that it does depends on their number. So neither does what a hook does.
-/

namespace CanStream

namespace Endpoint

/-- The endpoint with so many polls made on it. -/
def recount (polls : Nat) (e : Endpoint) : Endpoint := { e with polls := polls }

/-- Where no answers to polls are laid down, the call does the same whatever the number of polls,
and lays none down itself. It may poll. -/
def Unpolled {α : Type} (call : Call α) : Prop :=
  ∀ e : Endpoint, e.pollAnswers = [] → ∃ result, ∃ e' : Endpoint, e'.pollAnswers = [] ∧
    ∀ polls, ∃ polls', call (e.recount polls) = (result, e'.recount polls')

section

variable {e : Endpoint} (unscripted : e.pollAnswers = []) (read write : Bool)

include unscripted

/-- A poll that is not answered beforehand finds what the endpoint itself is ready for. -/
theorem poll_of_isOpen (isOpen : e.isOpen = true) :
    poll read write e =
      (.ok (if (e.readiness read write).readable || (e.readiness read write).writable
        then some (e.readiness read write) else none), e.recount (e.polls + 1)) := by
  simp only [poll, unscripted, whileOpen, isOpen, if_true, recount]

theorem poll_of_closed (closed : e.isOpen = false) :
    poll read write e = (.error (.os Errno.badDescriptor), e) := by
  simp [poll, unscripted, whileOpen, closed]

end

theorem Unpolled.whileOpen {α : Type} {call : Call α} (unpolled : Unpolled call) :
    Unpolled (whileOpen call) := by
  intro e unscripted
  by_cases isOpen : e.isOpen = true
  · obtain ⟨result, e', unscripted', same⟩ := unpolled e unscripted
    refine ⟨result, e', unscripted', fun polls => ?_⟩
    have opened : (e.recount polls).isOpen = true := isOpen
    rw [Endpoint.whileOpen, if_pos opened]
    exact same polls
  · refine ⟨.error (.os Errno.badDescriptor), e, unscripted, fun polls => ⟨polls, ?_⟩⟩
    have shut : ¬(e.recount polls).isOpen = true := isOpen
    rw [Endpoint.whileOpen, if_neg shut]

theorem Unpolled.of_commutes {α : Type} {call : Call α}
    (same : ∀ e polls, call (recount polls e) = ((call e).1, (call e).2.recount polls))
    (keeps : ∀ e, (call e).2.pollAnswers = e.pollAnswers) : Unpolled call :=
  fun e unscripted => ⟨_, _, (keeps e).trans unscripted, fun polls => ⟨polls, same e polls⟩⟩

theorem unpolled_read (n : Nat) : Unpolled (read n) := by
  refine Unpolled.whileOpen (.of_commutes (fun e polls => ?_) fun e => ?_)
  · rcases arrived : e.arrivals with _ | ⟨_ | _, rest⟩ <;> simp only [recount, arrived]
  · split <;> rfl

theorem unpolled_write (data : List UInt8) : Unpolled (write data) := by
  have answers : Unpolled (answerWrite data) := by
    refine Unpolled.whileOpen (.of_commutes (fun e polls => ?_) fun e => ?_)
    · rcases answered : e.writeAnswers with _ | ⟨_ | _, rest⟩
      · cases writable : e.writable <;> simp [recount, accept, answered, writable]
      · simp only [recount, answered]
      · simp only [recount, accept, answered]
    · split
      · rfl
      · rfl
      · split <;> rfl
  exact fun e unscripted => answers { e with tried := e.tried ++ [data] } unscripted

end Endpoint

namespace Hook

variable {σ ε α β : Type}

/-- Where no answers to polls are laid down, the hook does the same whatever the number of polls,
and lays none down itself. -/
def Unpolled (h : Hook σ ε α) : Prop :=
  ∀ s (e : Endpoint), e.pollAnswers = [] → ∃ result s', ∃ e' : Endpoint, e'.pollAnswers = [] ∧
    ∀ polls, ∃ polls', h.exec (s, e.recount polls) = (result, s', e'.recount polls')

namespace Unpolled

theorem pure (a : α) : Unpolled (Pure.pure a : Hook σ ε α) :=
  fun s e unscripted => ⟨.ok a, s, e, unscripted, fun polls => ⟨polls, rfl⟩⟩

theorem fail (cause : ε) : Unpolled (Hook.fail cause : Hook σ ε α) :=
  fun s e unscripted => ⟨.error cause, s, e, unscripted, fun polls => ⟨polls, rfl⟩⟩

theorem state : Unpolled (Hook.state : Hook σ ε σ) :=
  fun s e unscripted => ⟨.ok s, s, e, unscripted, fun polls => ⟨polls, rfl⟩⟩

theorem modifyState (f : σ → σ) : Unpolled (Hook.modifyState f : Hook σ ε Unit) :=
  fun s e unscripted => ⟨.ok (), f s, e, unscripted, fun polls => ⟨polls, rfl⟩⟩

theorem attempt {c : Endpoint.Call α} (unpolled : Endpoint.Unpolled c) :
    Unpolled (Hook.attempt c : Hook σ ε (Except IoError α)) := by
  intro s e unscripted
  obtain ⟨result, e', unscripted', called⟩ := unpolled e unscripted
  refine ⟨.ok result, s, e', unscripted', fun polls => ?_⟩
  obtain ⟨polls', called⟩ := called polls
  exact ⟨polls', by rw [exec_attempt, called]⟩

theorem call {c : Endpoint.Call α} (unpolled : Endpoint.Unpolled c) (wrap : IoError → ε) :
    Unpolled (Hook.call wrap c : Hook σ ε α) := by
  intro s e unscripted
  obtain ⟨result, e', unscripted', called⟩ := unpolled e unscripted
  refine ⟨result.mapError wrap, s, e', unscripted', fun polls => ?_⟩
  obtain ⟨polls', called⟩ := called polls
  exact ⟨polls', by rw [exec_call, called]⟩

theorem bind {h : Hook σ ε α} {f : α → Hook σ ε β} (first : Unpolled h)
    (next : ∀ a, Unpolled (f a)) : Unpolled (h >>= f) := by
  intro s e unscripted
  obtain ⟨result, s₁, e₁, unscripted₁, ran⟩ := first s e unscripted
  cases result with
  | error cause =>
    refine ⟨.error cause, s₁, e₁, unscripted₁, fun polls => ?_⟩
    obtain ⟨polls₁, ran⟩ := ran polls
    exact ⟨polls₁, exec_bind_error _ ran⟩
  | ok a =>
    obtain ⟨result, s', e', unscripted', ran'⟩ := next a s₁ e₁ unscripted₁
    refine ⟨result, s', e', unscripted', fun polls => ?_⟩
    obtain ⟨polls₁, ran⟩ := ran polls
    obtain ⟨polls', ran'⟩ := ran' polls₁
    exact ⟨polls', (exec_bind_ok _ ran).trans ran'⟩

end Unpolled

theorem Unpolled.closed : Closed (Unpolled : ∀ {α : Type}, Hook σ ε α → Prop) :=
  ⟨Unpolled.pure, Unpolled.fail, Unpolled.bind⟩

end Hook

/-- Reads and writes take no notice of the number of polls. -/
structure Protocol.Unpolled (P : Protocol) : Prop where
  read : ∀ window, (P.read window).Unpolled
  write : ∀ bytes, (P.write bytes).Unpolled

theorem Plain.unpolled : protocol.Unpolled where
  read := fun window => .call (Endpoint.unpolled_read window) id
  write := fun bytes => .call (Endpoint.unpolled_write bytes) id

theorem Raw.unpolled : protocol.Unpolled where
  read := fun _ => .bind .state fun _ =>
    readFrames_of_closed Hook.Unpolled.closed (fun n => .attempt (Endpoint.unpolled_read n)) _ _
  write := fun _ => .bind .state fun _ =>
    writeFrames_of_closed Hook.Unpolled.closed
      (fun bytes => .attempt (Endpoint.unpolled_write bytes)) _ _ _

theorem IsoTp.unpolled : protocol.Unpolled where
  read := by
    intro window
    refine .bind (.attempt (Endpoint.unpolled_read window)) ?_
    rintro (cause | bytes)
    · exact Hook.Closed.ite (.pure _) (.fail _)
    · exact .pure _
  write := by
    intro bytes
    refine .bind .state fun s => .bind (.attempt (Endpoint.unpolled_write _)) ?_
    rintro (cause | n)
    · exact Hook.Closed.ite (.pure _) (.fail _)
    · exact .bind (.modifyState _) fun _ => .pure _

end CanStream
