import CanStream.Proofs.Tool.Outcome
import CanStream.Tool.Payloads

/-!
# The tool for transport connections prints what it received

A tool that only receives takes what it reads out of the buffer after every read, and a read takes
one payload at most, so that every payload is printed in a line of its own. A tool that waits for a
reply reads while it is sending, too. What came in meanwhile waits in the buffer, where payloads
have no bounds: it is printed as one with the payload that comes in next, and not at all if none
does.
-/

namespace CanStream

@[simp] theorem Hex.length_upper (bytes : List UInt8) :
    (Hex.upper bytes).length = 2 * bytes.length := by
  simp [Hex.upper, Hex.encode, Hex.ofByte, Nat.mul_comm]

namespace Tool.Payloads

open Socket IsoTp

/-- What a round does that does not end with a failure: nothing came before the time was over, or
something came, and what is there is taken. -/
theorem dump_cases {once : Bool} {wait : Wait} {rounds : Nat} {seen lines : List (List UInt8)}
    {s s' : Socket IsoTp.protocol}
    (ran : dump once wait (rounds + 1) seen s = some ((lines, none), s')) :
    perform (.waitForReadyRead wait) s = some (false, s') ∧ s'.error.kind = .timeout ∧
        lines = seen ∨
      ∃ (s₁ : Socket IsoTp.protocol) (data : List UInt8) (s₂ : Socket IsoTp.protocol),
        perform (.waitForReadyRead wait) s = some (true, s₁) ∧
        perform .readAll s₁ = some (data, s₂) ∧
        (data = [] ∧ dump once wait rounds seen s₂ = some ((lines, none), s') ∨
          data ≠ [] ∧ once = true ∧ lines = seen ++ [data] ∧ s' = s₂ ∨
          data ≠ [] ∧ once = false ∧
            dump once wait rounds (seen ++ [data]) s₂ = some ((lines, none), s')) := by
  obtain ⟨ready, s₁, waited, rest⟩ := bind_eq_some.mp ran
  cases ready with
  | false =>
    obtain ⟨result, rfl⟩ := Prod.mk.inj (Option.some.inj rest)
    obtain ⟨same, failure⟩ := Prod.mk.inj result
    split at failure
    case isTrue late => exact .inl ⟨waited, late, same.symm⟩
    case isFalse => cases failure
  | true =>
    obtain ⟨data, s₂, took, next⟩ := bind_eq_some.mp rest
    refine .inr ⟨s₁, data, s₂, waited, took, ?_⟩
    split at next
    case isTrue isEmpty => exact .inl ⟨List.isEmpty_iff.mp isEmpty, next⟩
    case isFalse notEmpty =>
      have nonempty : data ≠ [] := fun empty => notEmpty (List.isEmpty_iff.mpr empty)
      split at next
      case isTrue ends =>
        obtain ⟨result, rfl⟩ := Prod.mk.inj (Option.some.inj next)
        exact .inr (.inl ⟨nonempty, ends, (Prod.mk.inj result).1.symm, rfl⟩)
      case isFalse more => exact .inr (.inr ⟨nonempty, Bool.eq_false_iff.mpr more, next⟩)

section

variable {e : Endpoint} {cut : Nat} {wait : Wait}

/-- No payload that was taken is empty. -/
theorem flatten_eq_nil_iff {used waiting : List (List UInt8)} {s : Socket IsoTp.protocol}
    (h : Holding IsoTp.gatherer e cut used waiting s) :
    waiting.flatMap IsoTp.gatherer.form = [] ↔ waiting = [] := by
  cases waiting with
  | nil => exact ⟨fun _ => rfl, fun _ => rfl⟩
  | cons d rest =>
    have member : d ∈ gathered cut (e.arrivalsTaken s.endpoint) := by
      rw [h.taken]
      exact List.mem_append_right _ (List.mem_cons_self ..)
    refine ⟨fun empty => ?_, nofun⟩
    exact absurd (List.append_eq_nil_iff.mp empty).1 (ne_nil_of_mem_gathered member)

/-- A loop that prints all that comes in, with nothing there at first, prints every payload. -/
theorem holding_of_dump (rounds : Nat) {seen lines : List (List UInt8)}
    {s s' : Socket IsoTp.protocol} (h : Holding IsoTp.gatherer e cut seen [] s)
    (ran : dump false wait rounds seen s = some ((lines, none), s')) :
    Holding IsoTp.gatherer e cut lines [] s' := by
  induction rounds generalizing seen s with
  | zero => cases ran
  | succ rounds ih =>
    have gains : Gains IsoTp.gatherer (Holds IsoTp.gatherer e cut seen (· = []))
        (Holds IsoTp.gatherer e cut seen (·.length ≤ 1)) :=
      gains_holds fun _ batch empty one => by
        rw [empty]
        exact one
    have waits (ready : Bool) (s₁ : Socket IsoTp.protocol) :=
      gains.after_waitForReadyRead wait ⟨[], rfl, h⟩ ready s₁
    rcases dump_cases ran with ⟨waited, late, rfl⟩ | ⟨s₁, data, s₂, waited, took, rest⟩
    · obtain ⟨_, rfl, same⟩ := (waits false s' waited).2 rfl late
      exact same
    · obtain ⟨waiting, one, held⟩ := (waits true s₁ waited).1 rfl
      obtain ⟨s₃, took', used⟩ := held.readAll
      obtain ⟨rfl, rfl⟩ := Prod.mk.inj (Option.some.inj (took'.symm.trans took))
      rcases rest with ⟨empty, next⟩ | ⟨-, never, -⟩ | ⟨nonempty, -, next⟩
      · rw [(flatten_eq_nil_iff held).mp empty, List.append_nil] at used
        exact ih used next
      · cases never
      · obtain ⟨d, rfl⟩ : ∃ d, waiting = [d] := by
          refine List.length_eq_one_iff.mp (Nat.le_antisymm one ?_)
          refine List.length_pos_iff.mpr fun isEmpty => nonempty ?_
          exact (flatten_eq_nil_iff held).mpr isEmpty
        refine ih used ?_
        have whole : [d].flatMap IsoTp.gatherer.form = d := List.append_nil d
        rw [whole] at next
        exact next

theorem available_eq_zero_iff {used waiting : List (List UInt8)} {s : Socket IsoTp.protocol}
    (h : Holding IsoTp.gatherer e cut used waiting s) : s.available = 0 ↔ waiting = [] := by
  rw [h.available_eq, List.length_eq_zero_iff, flatten_eq_nil_iff h]

/-- A loop that waits for a reply prints all that was there with what came in next, or nothing, if
it overlooks what is there already. -/
theorem dump_outcome (rounds : Nat) {waiting lines : List (List UInt8)}
    {s s' : Socket IsoTp.protocol} (h : Holding IsoTp.gatherer e cut [] waiting s)
    (ran : dump true wait rounds [] s = some ((lines, none), s')) :
    ∃ taken, gathered cut (e.arrivalsTaken s'.endpoint) = taken ∧ s'.handler = none ∧
      (lines = (if taken = [] then [] else [taken.flatten]) ∧ ¬s.Overlooks wait ∨
        lines = [] ∧ taken ≠ [] ∧ s.Overlooks wait) := by
  induction rounds generalizing waiting s with
  | zero => cases ran
  | succ rounds ih =>
    have gains : Gains IsoTp.gatherer (Holds IsoTp.gatherer e cut [] (· = waiting))
        (Holds IsoTp.gatherer e cut [] fun _ => True) := gains_holds fun _ _ _ _ => trivial
    have waits (ready : Bool) (s₁ : Socket IsoTp.protocol) :=
      gains.after_waitForReadyRead wait ⟨waiting, rfl, h⟩ ready s₁
    rcases dump_cases ran with ⟨waited, late, rfl⟩ | ⟨s₁, data, s₂, waited, took, rest⟩
    · obtain ⟨waiting, rfl, same⟩ := (waits false s' waited).2 rfl late
      refine ⟨_, same.taken, same.alone, ?_⟩
      rw [List.nil_append]
      by_cases drained : waiting = []
      · refine .inl ⟨(if_pos drained).symm, fun overlooked => ?_⟩
        exact overlooked.1 ((available_eq_zero_iff h).mpr drained)
      · refine .inr ⟨rfl, drained, fun empty => drained ?_, s', waited⟩
        exact (available_eq_zero_iff h).mp empty
    · have noticed : ¬s.Overlooks wait := by
        rintro ⟨-, s₃, failed⟩
        cases waited.symm.trans failed
      obtain ⟨more, -, held⟩ := (waits true s₁ waited).1 rfl
      obtain ⟨s₃, took', used⟩ := held.readAll
      obtain ⟨rfl, rfl⟩ := Prod.mk.inj (Option.some.inj (took'.symm.trans took))
      rcases rest with ⟨isEmpty, next⟩ | ⟨nonempty, -, same, rfl⟩ | ⟨-, never, -⟩
      · rw [(flatten_eq_nil_iff held).mp isEmpty, List.nil_append] at used
        obtain ⟨taken, all, alone, ⟨printed, -⟩ | ⟨-, -, left, -⟩⟩ := ih used next
        · exact ⟨taken, all, alone, .inl ⟨printed, noticed⟩⟩
        · exact absurd ((available_eq_zero_iff used).mpr rfl) left
      · refine ⟨more, ?_, used.alone, .inl ⟨?_, noticed⟩⟩
        · rw [used.taken, List.append_nil, List.nil_append]
        · rw [if_neg fun isEmpty => nonempty ((flatten_eq_nil_iff held).mpr isEmpty), same]
          exact congrArg (fun bytes => [bytes]) List.flatMap_id
      · cases never

end

/-! ## The way to the printing loop -/

/-- What a plan does before anything is printed. -/
def approach (p : Plan) (wait : Wait) : Run Bool := do
  let values := p.options ++ [.txId p.tx, .rxId p.rx]
  let settings := values.map fun v => (v.option, v)
  let connected : Bool ← perform (.connectWith settings p.iface OpenMode.readWrite)
  if connected then
    match p.payload with
    | none => pure true
    | some payload => do
        let failure ← sendPayload payload wait
        pure failure.isNone
  else pure false

section

variable {e : Endpoint} {wait : Wait} {p : Plan} {s : Socket IsoTp.protocol}

/-- Sending takes in payloads. -/
theorem exists_holding_of_sendPayload {s' : Socket IsoTp.protocol} {payload : List UInt8}
    (h : Holding IsoTp.gatherer e readChunk [] [] s)
    (sent : sendPayload payload wait s = some (none, s')) :
    ∃ waiting, Holding IsoTp.gatherer e readChunk [] waiting s' := by
  have gains : Gains IsoTp.gatherer (Holds IsoTp.gatherer e readChunk [] fun _ => True)
      (Holds IsoTp.gatherer e readChunk [] fun _ => True) := gains_holds fun _ _ _ _ => trivial
  obtain ⟨result, s₁, queued, rest⟩ := bind_eq_some.mp sent
  have h₁ := gains.keeps_write payload s ⟨[], trivial, h⟩ result s₁ queued
  cases result with
  | error cause => cases rest
  | ok n =>
    obtain ⟨out, s₂, pushed, rest⟩ := bind_eq_some.mp rest
    cases out with
    | false => cases rest
    | true =>
      obtain ⟨-, rfl⟩ := Prod.mk.inj (Option.some.inj rest)
      have waits := gains.passes_waitForBytesWritten wait
      obtain ⟨⟨waiting, -, held⟩, -⟩ := passes_pushOut waits wait.turns _ h₁ true _ pushed rfl
      exact ⟨waiting, held⟩

/-- Without a payload nothing is read before the printing loop, and with one the socket reads while
it is sending. -/
theorem holding_of_approach (ran : approach p wait (initial .initial e) = some (true, s)) :
    ∃ waiting, Holding IsoTp.gatherer e readChunk [] waiting s ∧
      (p.payload = none → waiting = []) := by
  obtain ⟨connected, s₁, first, rest⟩ := bind_eq_some.mp ran
  cases connected with
  | false => cases rest
  | true =>
    have start : Holding IsoTp.gatherer e readChunk [] [] s₁ :=
      holding_of_connectWith IsoTp.gatherer first
    rw [if_pos rfl] at rest
    cases given : p.payload with
    | none =>
      rw [given] at rest
      obtain ⟨-, rfl⟩ := Prod.mk.inj (Option.some.inj rest)
      exact ⟨[], start, fun _ => rfl⟩
    | some payload =>
      rw [given] at rest
      obtain ⟨failure, s₂, sent, ends⟩ := bind_eq_some.mp rest
      obtain ⟨isNone, rfl⟩ := Prod.mk.inj (Option.some.inj ends)
      obtain rfl := Option.isNone_iff_eq_none.mp isNone
      obtain ⟨waiting, held⟩ := exists_holding_of_sendPayload start sent
      exact ⟨waiting, held, nofun⟩

/-- A plan that prints without a failure approaches the printing loop first. -/
theorem exists_approach {lines : List (List UInt8)} {s' : Socket IsoTp.protocol}
    (prints : p.payload = none ∨ p.reply = true)
    (ran : exchange p wait s = some ((lines, none), s')) :
    ∃ s₁, approach p wait s = some (true, s₁) ∧
      dump p.payload.isSome wait wait.turns [] s₁ = some ((lines, none), s') := by
  obtain ⟨connected, s₂, first, rest⟩ := bind_eq_some.mp ran
  cases connected with
  | false =>
    obtain ⟨result, -⟩ := Prod.mk.inj (Option.some.inj rest)
    cases (Prod.mk.inj result).2
  | true =>
    rw [if_pos rfl] at rest
    cases given : p.payload with
    | none =>
      rw [given] at rest
      refine ⟨s₂, bind_eq_some.mpr ⟨true, s₂, first, ?_⟩, rest⟩
      rw [if_pos rfl, given]
      rfl
    | some payload =>
      have asked : p.reply = true := prints.resolve_left (by rw [given]; exact nofun)
      rw [given] at rest
      obtain ⟨failure, s₁, sent, dumps⟩ := bind_eq_some.mp rest
      cases failure with
      | some failure =>
        obtain ⟨result, -⟩ := Prod.mk.inj (Option.some.inj dumps)
        cases (Prod.mk.inj result).2
      | none =>
        rw [if_pos asked] at dumps
        refine ⟨s₁, bind_eq_some.mpr ⟨true, s₂, first, ?_⟩, dumps⟩
        rw [if_pos rfl, given]
        exact bind_eq_some.mpr ⟨none, s₁, sent, rfl⟩

end

/-- Payloads that are printed as one look like the first of them only if there is no other. -/
theorem joined_eq_first_iff {taken : List (List UInt8)} (nonempty : ∀ d ∈ taken, d ≠ []) :
    (if taken = [] then [] else [taken.flatten]).map Hex.upper = (taken.take 1).map Hex.upper ↔
      taken.length ≤ 1 := by
  rcases taken with _ | ⟨first, _ | ⟨second, rest⟩⟩
  · simp
  · simp
  · refine ⟨fun same => ?_, fun one => absurd one (by simp)⟩
    have sizes := congrArg String.length (List.cons.inj same).1
    rw [Hex.length_upper, Hex.length_upper, List.flatten_cons, List.flatten_cons,
      List.length_append, List.length_append] at sizes
    have longer := List.length_pos_iff.mpr (nonempty second (by simp))
    omega

/-- A run that goes well and comes to the printing loop prints the payloads that the socket took, or
the first one if it waits for a reply, if and only if a wait for a reply took one at most and does
not overlook it. A wait for a reply prints all that the socket took as one, unless it overlooks what
came in while it was sending. -/
theorem printed_iff_single_reply {words : List String} {e : Endpoint} {elapsed : Nat → Nat}
    {turns : Nat} {g : Given} {p : Plan} {outcome : Outcome}
    (given : arguments spec words = .ok g) (planned : plan g = .ok p)
    (prints : p.payload = none ∨ p.reply = true)
    (ran : run words e elapsed turns = some outcome) (success : outcome.exitCode = 0) :
    ∃ taken s, gathered readChunk (e.arrivalsTaken outcome.endpoint) = taken ∧
      approach p (waitOf p.timeout elapsed turns) (initial .initial e) = some (true, s) ∧
      (outcome.out = (if p.payload.isSome then taken.take 1 else taken).map Hex.upper ↔
        (p.payload.isSome = true →
          taken.length ≤ 1 ∧ ¬s.Overlooks (waitOf p.timeout elapsed turns))) ∧
      (p.payload.isSome = true →
        (s.Overlooks (waitOf p.timeout elapsed turns) → outcome.out = []) ∧
        (¬s.Overlooks (waitOf p.timeout elapsed turns) →
          outcome.out = if taken = [] then [] else [Hex.upper taken.flatten])) := by
  simp only [run, given, planned] at ran
  obtain ⟨lines, s', exchanged, printed, spares⟩ := exists_of_success ran success
  obtain ⟨s, approached, dumps⟩ := exists_approach prints exchanged
  obtain ⟨waiting, held, fresh⟩ := holding_of_approach approached
  refine ⟨_, s, rfl, approached, ?_⟩
  rw [printed]
  cases payload : p.payload with
  | none =>
    rw [payload] at dumps
    rw [fresh payload] at held
    have all := holding_of_dump _ held dumps
    have taken := all.taken
    rw [← spares all.alone, List.append_nil] at taken
    rw [taken]
    exact ⟨⟨fun _ => nofun, fun _ => rfl⟩, nofun⟩
  | some bytes =>
    rw [payload] at dumps
    obtain ⟨taken, all, alone, outcomes⟩ := dump_outcome _ held dumps
    rw [← spares alone] at all
    rw [all]
    rcases outcomes with ⟨rfl, noticed⟩ | ⟨rfl, notEmpty, overlooked⟩
    · have nonempty : ∀ d ∈ taken, d ≠ [] := fun d member => ne_nil_of_mem_gathered (all ▸ member)
      have single : taken.length ≤ 1 ↔ (true = true →
          taken.length ≤ 1 ∧ ¬s.Overlooks (waitOf p.timeout elapsed turns)) :=
        ⟨fun one _ => ⟨one, noticed⟩, fun single => (single rfl).1⟩
      refine ⟨(joined_eq_first_iff nonempty).trans single, fun _ => ⟨?_, fun _ => ?_⟩⟩
      · intro overlooked
        exact absurd overlooked noticed
      · split <;> rfl
    · refine ⟨⟨fun nothing => ?_, fun single => ?_⟩, fun _ => ⟨fun _ => rfl, fun noticed => ?_⟩⟩
      · rcases List.take_eq_nil_iff.mp (List.map_eq_nil_iff.mp nothing.symm) with never | empty
        · cases never
        · exact absurd empty notEmpty
      · exact absurd overlooked (single rfl).2
      · exact absurd overlooked noticed

/-- Sends a payload, and waits for a reply. -/
def inquiry : List String := ["vcan0", "AA", "-s", "1", "-d", "2", "-w"]

/-- Two payloads come in while the tool is sending, and the reply is printed as one. -/
theorem not_always_printed_singly :
    ¬∀ (words : List String) (e : Endpoint) (elapsed : Nat → Nat) (turns : Nat) (g : Given)
      (p : Plan) (outcome : Outcome), arguments spec words = .ok g → plan g = .ok p →
      (p.payload = none ∨ p.reply = true) → run words e elapsed turns = some outcome →
      outcome.exitCode = 0 →
      outcome.out =
        (if p.payload.isSome then (gathered readChunk (e.arrivalsTaken outcome.endpoint)).take 1
          else gathered readChunk (e.arrivalsTaken outcome.endpoint)).map Hex.upper := by
  intro always
  obtain ⟨g, p, given, planned, view⟩ : ∃ g p, arguments spec inquiry = .ok g ∧
      plan g = .ok p ∧ (p.payload, p.reply) = (some [0xAA], true) := exists_plan (by decide +kernel)
  obtain ⟨payload, reply⟩ := Prod.mk.inj view
  let e := busy [.datagram [1, 2], .datagram [3]]
  have happened : (run inquiry e (fun _ => 0) 10).map (fun o => (o.exitCode, o.out,
      (gathered readChunk (e.arrivalsTaken o.endpoint)).take 1)) =
      some (0, ["010203"], [[1, 2]]) := by decide +kernel
  obtain ⟨outcome, ran, values⟩ := Option.map_eq_some_iff.mp happened
  simp only [Prod.mk.injEq] at values
  obtain ⟨success, joined, first⟩ := values
  have printed := always _ e _ 10 g p outcome given planned (.inr reply) ran success
  rw [payload, Option.isSome_some, if_pos rfl, first, joined] at printed
  exact absurd printed (by decide)

/-- The only payload comes in after the tool has sent its own. -/
theorem printed_iff_single_reply_inquiry :
    ∃ (g : Given) (p : Plan) (outcome : Outcome) (taken : List (List UInt8))
      (s : Socket IsoTp.protocol),
      arguments spec inquiry = .ok g ∧ plan g = .ok p ∧ p.reply = true ∧
      run inquiry (busy [.failure 11, .datagram [1, 2]]) (fun _ => 0) 10 = some outcome ∧
      outcome.exitCode = 0 ∧ outcome.out = ["0102"] ∧
      (outcome.out = (if p.payload.isSome then taken.take 1 else taken).map Hex.upper ↔
        (p.payload.isSome = true →
          taken.length ≤ 1 ∧ ¬s.Overlooks (waitOf p.timeout (fun _ => 0) 10))) := by
  obtain ⟨g, p, given, planned, reply⟩ : ∃ g p, arguments spec inquiry = .ok g ∧
      plan g = .ok p ∧ p.reply = true := exists_plan (by decide +kernel)
  have happened : (run inquiry (busy [.failure 11, .datagram [1, 2]]) (fun _ => 0) 10).map
      (fun o => (o.exitCode, o.out)) = some (0, ["0102"]) := by decide +kernel
  obtain ⟨outcome, ran, values⟩ := Option.map_eq_some_iff.mp happened
  obtain ⟨success, printed⟩ := Prod.mk.inj values
  obtain ⟨taken, s, -, -, iff, -⟩ :=
    printed_iff_single_reply given planned (.inr reply) ran success
  exact ⟨g, p, outcome, taken, s, given, planned, reply, ran, success, printed, iff⟩

end Tool.Payloads

end CanStream
