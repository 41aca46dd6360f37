import CanStream.Proofs.Socket.Holding
import CanStream.Tool.Outcome

/-!
# What a tool took in

A tool that succeeds printed what its part with the socket gave. It pushes out what is to be written
first, and reads meanwhile; then it waits for data before it looks at what it has read already.
-/

namespace CanStream

variable {P : Protocol}

/-- Data is there, but a wait for data fails. -/
def Socket.Overlooks (wait : Wait) (s : Socket P) : Prop :=
  s.available ≠ 0 ∧ ∃ s', Socket.perform (.waitForReadyRead wait) s = some (false, s')

namespace Tool

open Socket

/-- Nothing is left to be written once it was pushed out. What the waits keep that succeed holds
still. -/
theorem passes_pushOut {Φ : Socket P → Prop} {wait : Wait}
    (waits : Passes Φ (perform (.waitForBytesWritten wait)) Φ) (rounds : Nat) :
    Passes Φ (pushOut wait rounds) fun s => Φ s ∧ s.unwritten = 0 := by
  induction rounds with
  | zero => exact fun _ _ => after_never
  | succ rounds ih =>
    intro s h
    rw [pushOut, after_bind, after_get, after_ite]
    refine ⟨fun isZero => (after_pure true).mpr fun _ => ⟨h, isZero⟩, fun _ => after_bind.mpr ?_⟩
    refine (waits s h).mono fun written s₁ kept => ?_
    cases written with
    | false => exact Passes.failed
    | true => exact ih s₁ (kept rfl)

/-- Giving a socket up leaves alone what is not about the descriptor. -/
theorem view_drop {γ : Type} {view : Endpoint → γ}
    (same : ∀ (e : Endpoint) opened bound closes closeError,
      view { e with
        opened := opened, bound := bound, closes := closes, closeError := closeError } = view e)
    {s s' : Socket P} (alone : s.handler = none) (dropped : drop s = some ((), s')) :
    view s'.endpoint = view s.endpoint := by
  have u : Unheard (fun k : Stock P => view k.endpoint)
      fun t => t.handler = none ∧ view t.endpoint = view s.endpoint :=
    ⟨And.left, fun h still unmoved => ⟨still.trans h.1, unmoved.trans h.2⟩⟩
  have closes := u.keeps_closing (fun k => Endpoint.view_close same k.endpoint) fun h => h
  exact (closes s ⟨alone, rfl⟩ () s' dropped).2

/-- What a tool leaves behind is what its part with the socket gave. -/
theorem exists_of_run {α F : Type} {protocol : P.State} {e : Endpoint}
    {part : SocketM P (List α × Option F)} {line : α → String} {message : F → String}
    {outcome : Outcome}
    (ran : withSocket protocol e (do
      let (out, failure) ← part
      pure (out.map line, failure.map message)) = some outcome) :
    ∃ out failure s s', part (initial protocol e) = some ((out, failure), s) ∧
      drop s = some ((), s') ∧
      outcome = .ofRun (out.map line) (failure.map message) s'.endpoint := by
  obtain ⟨⟨⟨printed, failed⟩, s⟩, went, rest⟩ := Option.bind_eq_some_iff.mp ran
  obtain ⟨⟨⟨⟩, s'⟩, dropped, made⟩ := Option.bind_eq_some_iff.mp rest
  obtain rfl := Option.some.inj made
  obtain ⟨⟨out, failure⟩, s₁, gave, last⟩ := bind_eq_some.mp went
  obtain ⟨result, rfl⟩ := Prod.mk.inj (Option.some.inj last)
  obtain ⟨rfl, rfl⟩ := Prod.mk.inj result
  exact ⟨out, failure, s₁, s', gave, dropped, rfl⟩

/-- A tool that succeeds printed what its part with the socket gave, and took from the endpoint what
that took. -/
theorem exists_of_success {α F : Type} {protocol : P.State} {e : Endpoint}
    {part : SocketM P (List α × Option F)} {line : α → String} {message : F → String}
    {outcome : Outcome}
    (ran : withSocket protocol e (do
      let (out, failure) ← part
      pure (out.map line, failure.map message)) = some outcome)
    (success : outcome.exitCode = 0) :
    ∃ out s, part (initial protocol e) = some ((out, none), s) ∧ outcome.out = out.map line ∧
      (s.handler = none → e.arrivalsTaken outcome.endpoint = e.arrivalsTaken s.endpoint) := by
  obtain ⟨out, failure, s, s', gave, dropped, rfl⟩ := exists_of_run ran
  cases failure with
  | some failure => cases success
  | none =>
    refine ⟨out, s, gave, rfl, fun alone => ?_⟩
    have same : s'.endpoint.arrivals = s.endpoint.arrivals :=
      view_drop (fun _ _ _ _ _ => rfl) alone dropped
    simp only [Option.map_none, Outcome.ofRun, Endpoint.arrivalsTaken, same]

/-- An interface on which some arrivals wait. -/
def busy (arrivals : List Arrival) : Endpoint :=
  { Endpoint.blank with interfaces := [⟨"vcan0", 3, 16⟩], arrivals := arrivals }

theorem eq_ok_of_toOption {ε α : Type} {x : Except ε α} {a : α} (read : x.toOption = some a) :
    x = .ok a := by
  cases x with
  | error cause => cases read
  | ok b => exact congrArg Except.ok (Option.some.inj read)

/-- A command line that can be read, and what is seen of it. -/
theorem exists_given {β : Type} {spec : CommandSpec} {words : List String} {view : Given → β}
    {b : β} (read : (arguments spec words).toOption.map view = some b) :
    ∃ g, arguments spec words = .ok g ∧ view g = b := by
  obtain ⟨g, given, seen⟩ := Option.map_eq_some_iff.mp read
  exact ⟨g, eq_ok_of_toOption given, seen⟩

/-- A command line that is understood, and what is seen of it. -/
theorem exists_plan {F Plan β : Type} {spec : CommandSpec} {words : List String}
    {plan : Given → Except F Plan} {view : Given → Plan → β} {b : β}
    (read : ((arguments spec words).toOption.bind fun g => (plan g).toOption.map (view g)) =
      some b) : ∃ g p, arguments spec words = .ok g ∧ plan g = .ok p ∧ view g p = b := by
  obtain ⟨g, given, rest⟩ := Option.bind_eq_some_iff.mp read
  obtain ⟨p, planned, seen⟩ := Option.map_eq_some_iff.mp rest
  exact ⟨g, p, eq_ok_of_toOption given, eq_ok_of_toOption planned, seen⟩

end Tool

end CanStream
