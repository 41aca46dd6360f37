import CanStream.Proofs.Socket.After
import CanStream.Socket.Waiting

/-!
# Waits with another pump

A wait works the read pump when it finds its descriptor readable. Here its turns are described for
any pump in that place, so that what a wait does and what it reads can be told apart.

A property that operations have from their parts is one of a wait if it is one of its polls, of its
pumps and of reporting an error. Two waits that read by different pumps, or that are followed for a
different number of turns, do the same for as long as their pumps do.
-/

namespace CanStream

/-- A wait without time to wait. -/
def Wait.momentary : Wait := ⟨some 0, id, 1⟩

namespace Socket

variable {P : Protocol} (emit : Emit P) (pump : SocketM P Bool)

/-- The turns of a wait for data that reads by the given pump. -/
def readTurnsBy (wait : Wait) : Nat → Nat → SocketM P Bool
  | _, 0 => never
  | turn, left + 1 => do
      let s ← get
      match ← poll emit true (!s.writeBuffer.isEmpty) with
      | none => pure false
      | some r =>
          if r.readable then pump
          else if r.writable then do
            if ← completeWrite emit then nextTurn emit wait turn (readTurnsBy wait (turn + 1) left)
            else pure false
          else nextTurn emit wait turn (readTurnsBy wait (turn + 1) left)

/-- The wait for data that reads by the given pump. -/
def waitForReadyReadBy (wait : Wait) : SocketM P Bool := do
  let s ← get
  if s.state = .unconnected then pure false else readTurnsBy emit pump wait 0 wait.turns

/-- The turns of a wait for a write that reads by the given pump. -/
def writeTurnsBy (wait : Wait) : Nat → Nat → SocketM P Bool
  | _, 0 => never
  | turn, left + 1 => do
      let s ← get
      match ← poll emit s.wantsRead true with
      | none => pure false
      | some r => do
          let read ← if r.readable then pump else pure true
          if !read then pure false
          else if r.writable then completeWrite emit
          else nextTurn emit wait turn (writeTurnsBy wait (turn + 1) left)

/-- The wait for a write that reads by the given pump. -/
def waitForBytesWrittenBy (wait : Wait) : SocketM P Bool := do
  let s ← get
  if s.state = .unconnected then pure false
  else if s.writeBuffer.isEmpty && s.pending == 0 then pure false
  else writeTurnsBy emit pump wait 0 wait.turns

theorem readTurns_eq (wait : Wait) (turn left : Nat) :
    readTurns emit wait turn left = readTurnsBy emit (pumpRead emit) wait turn left := by
  induction left generalizing turn with
  | zero => rfl
  | succ left ih =>
    simp only [readTurns, ih]
    rfl

theorem writeTurns_eq (wait : Wait) (turn left : Nat) :
    writeTurns emit wait turn left = writeTurnsBy emit (pumpRead emit) wait turn left := by
  induction left generalizing turn with
  | zero => rfl
  | succ left ih =>
    simp only [writeTurns, ih]
    rfl

theorem waitForReadyRead_eq (wait : Wait) :
    waitForReadyRead emit wait = waitForReadyReadBy emit (pumpRead emit) wait := by
  rw [waitForReadyRead, waitForReadyReadBy, readTurns_eq]

theorem waitForBytesWritten_eq (wait : Wait) :
    waitForBytesWritten emit wait = waitForBytesWrittenBy emit (pumpRead emit) wait := by
  rw [waitForBytesWritten, waitForBytesWrittenBy, writeTurns_eq]

/-- A property of operations that an operation has if its parts have it. -/
structure Closed (C : ∀ {α : Type}, SocketM P α → Prop) : Prop where
  pure : ∀ {α : Type} (a : α), C (Pure.pure a)
  never : ∀ {α : Type}, C (never : SocketM P α)
  bind : ∀ {α β : Type} {m : SocketM P α} {f : α → SocketM P β}, C m → (∀ a, C (f a)) →
    C (m >>= f)
  get : ∀ {β : Type} {f : Socket P → SocketM P β}, (∀ s, C (f s)) → C (MonadState.get >>= f)

namespace Closed

variable {C : ∀ {α : Type}, SocketM P α → Prop}

theorem ite {α : Type} {c : Prop} [Decidable c] {m n : SocketM P α} (yes : C m) (no : C n) :
    C (if c then m else n) := by
  split
  · exact yes
  · exact no

variable {emit pump} (closed : Closed C) (fails : ∀ error, C (setError emit error))
  (polls : ∀ read write, C (poll emit read write)) (pumps : C pump)
  (writes : C (completeWrite emit))

include closed fails

theorem nextTurn (wait : Wait) (turn : Nat) {go : SocketM P Bool} (goes : C go) :
    C (nextTurn emit wait turn go) :=
  ite (closed.bind (fails _) fun _ => closed.pure false) goes

include polls pumps writes

theorem readTurnsBy (wait : Wait) (turn left : Nat) : C (readTurnsBy emit pump wait turn left) := by
  induction left generalizing turn with
  | zero => exact closed.never
  | succ left ih =>
    have next := closed.nextTurn fails wait turn (ih (turn + 1))
    refine closed.get fun _ => closed.bind (polls _ _) fun answer => ?_
    cases answer with
    | none => exact closed.pure false
    | some r =>
      refine ite pumps (ite ?_ next)
      exact closed.bind writes fun _ => ite next (closed.pure false)

theorem waitForReadyReadBy (wait : Wait) : C (waitForReadyReadBy emit pump wait) :=
  closed.get fun _ => ite (closed.pure false)
    (closed.readTurnsBy fails polls pumps writes wait 0 wait.turns)

theorem writeTurnsBy (wait : Wait) (turn left : Nat) :
    C (writeTurnsBy emit pump wait turn left) := by
  induction left generalizing turn with
  | zero => exact closed.never
  | succ left ih =>
    have next := closed.nextTurn fails wait turn (ih (turn + 1))
    refine closed.get fun _ => closed.bind (polls _ _) fun answer => ?_
    cases answer with
    | none => exact closed.pure false
    | some r =>
      have goOn (read : Bool) : C
          (if !read then Pure.pure false
            else if r.writable then completeWrite emit
            else Socket.nextTurn emit wait turn
              (Socket.writeTurnsBy emit pump wait (turn + 1) left)) :=
        ite (closed.pure false) (ite writes next)
      exact ite (closed.bind pumps goOn) (closed.bind (closed.pure true) goOn)

theorem waitForBytesWrittenBy (wait : Wait) : C (waitForBytesWrittenBy emit pump wait) :=
  closed.get fun _ => ite (closed.pure false) (ite (closed.pure false)
    (closed.writeTurnsBy fails polls pumps writes wait 0 wait.turns))

end Closed

section

variable {emit pump} {pump' : SocketM P Bool} {motive : Socket P → Prop}
  {lost : Bool → Socket P → Prop}
  (polls : ∀ {s s' read write r}, motive s → poll emit read write s = some (some r, s') →
    motive s')
  (loses : ∀ {s}, motive s → MayLose lost pump pump' s) (wait : Wait)

include polls loses

/-- A wait for data that reads by another pump, and is followed for as many turns at least, may lose
what the pump may, if what is so when it begins stays so in polls and writes. -/
theorem mayLose_readTurnsBy
    (pushes : ∀ {s s'}, motive s → completeWrite emit s = some (true, s') → motive s')
    {left : Nat} : ∀ {left' : Nat}, left ≤ left' → ∀ (turn : Nat) {s : Socket P}, motive s →
    MayLose lost (readTurnsBy emit pump wait turn left) (readTurnsBy emit pump' wait turn left')
      s := by
  induction left with
  | zero => exact fun _ _ _ _ => .never _
  | succ left ih =>
    intro left' enough turn s h
    obtain ⟨left', rfl⟩ := Nat.exists_eq_succ_of_ne_zero (Nat.ne_zero_of_lt enough)
    refine .get (.bind_same fun found s₁ polled => ?_)
    cases found with
    | none => exact .refl _
    | some r =>
      have h₁ := polls h polled
      have enough := Nat.le_of_succ_le_succ enough
      refine .ite (loses h₁) (.ite (.bind_same fun went s₂ pushed => ?_)
        (.ite (.refl _) (ih enough _ h₁)))
      cases went with
      | true => exact .ite (.ite (.refl _) (ih enough _ (pushes h₁ pushed))) (.refl _)
      | false => exact .refl _

/-- So may a wait for a write, if what is so when it begins stays so in polls and reads, and what
may be lost in a read leads to what may be lost in the rest. -/
theorem mayLose_writeTurnsBy
    (pumps : ∀ {s s'}, motive s → pump' s = some (true, s') → motive s')
    (leads : ∀ {r : Readiness} {turn left : Nat} {s}, lost true s →
      After (if r.writable then completeWrite emit
        else nextTurn emit wait turn (writeTurnsBy emit pump wait (turn + 1) left)) s lost)
    {left : Nat} : ∀ {left' : Nat}, left ≤ left' → ∀ (turn : Nat) {s : Socket P}, motive s →
    MayLose lost (writeTurnsBy emit pump wait turn left) (writeTurnsBy emit pump' wait turn left')
      s := by
  induction left with
  | zero => exact fun _ _ _ _ => .never _
  | succ left ih =>
    intro left' enough turn s h
    obtain ⟨left', rfl⟩ := Nat.exists_eq_succ_of_ne_zero (Nat.ne_zero_of_lt enough)
    refine .get (.bind_same fun found s₁ polled => ?_)
    cases found with
    | none => exact .refl _
    | some r =>
      have h₁ := polls h polled
      have enough := Nat.le_of_succ_le_succ enough
      -- Whether anything was read or not, the turn goes on in the same way.
      have goOn {s₂ : Socket P} (h₂ : motive s₂) : MayLose lost
          (if r.writable then completeWrite emit
            else nextTurn emit wait turn (writeTurnsBy emit pump wait (turn + 1) left))
          (if r.writable then completeWrite emit
            else nextTurn emit wait turn (writeTurnsBy emit pump' wait (turn + 1) left')) s₂ :=
        .ite (.refl _) (.ite (.refl _) (ih enough _ h₂))
      refine .ite (.bind (loses h₁) (fun read s₂ pumped => ?_) fun read s₂ gone => ?_)
        (.bind_same fun read s₂ passed => ?_)
      · cases read with
        | true => exact goOn (pumps h₁ pumped)
        | false => exact .refl _
      · cases read with
        | true => exact leads gone
        | false => exact (after_pure false).mpr gone
      · obtain ⟨rfl, rfl⟩ := Prod.mk.inj (Option.some.inj passed)
        exact goOn h₁

end

end Socket

end CanStream
