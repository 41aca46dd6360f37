import CanStream.Proofs.Socket.History

/-!
# Turns of a handler

Outside of a handler an event is handed over right behind its raising, and begins a dispatch. Those
that are raised meanwhile are answered in turns of their own before the dispatch is over. A journal
tells which event a handler is answering, and which one began the dispatch.

What was read is reported right behind it or not at all. It is due for a report if there was
something, unless a handler is at work in a dispatch that an arrival began.
-/

namespace CanStream

variable {P : Protocol}

/-- Where the handler is, as far as a journal tells. -/
structure Turn (P : Protocol) where
  /-- Whether the last entry raised an event. -/
  raised : Bool
  /-- The event that the handler is answering. -/
  answering : Option P.Event
  /-- The event that began the last dispatch. -/
  origin : Option P.Event

namespace Turn

/-- The turn after one more entry. -/
def next (t : Turn P) : Entry P → Turn P
  | .raised _ => { t with raised := true }
  | .delivered _ e =>
      { raised := false, answering := some e, origin := if t.raised then some e else t.origin }
  | .returned => { t with raised := false, answering := none }
  | _ => { t with raised := false }

/-- The handler is at work in a dispatch that an arrival began. -/
def Reports (t : Turn P) : Prop := t.answering.isSome = true ∧ t.origin = some .readyRead

instance (t : Turn P) : Decidable t.Reports := inferInstanceAs (Decidable (_ ∧ _))

end Turn

def turn (j : List (Entry P)) : Turn P := j.foldl Turn.next ⟨false, none, none⟩

namespace Entry

/-- Whether the handler is handed an event or is done with one. -/
def turns : Entry P → Bool
  | delivered _ _ => true
  | returned => true
  | _ => false

/-- What the read buffer held before and after something was read. -/
def received? : Entry P → Option (Nat × Nat)
  | received m n => some (m, n)
  | _ => none

/-- Whether something was read, or an arrival raised. -/
def arrives : Entry P → Bool
  | raised .readyRead => true
  | received _ _ => true
  | _ => false

end Entry

section

variable {j : List (Entry P)} {entry : Entry P}

/-- The moment of a read, told from its index. -/
theorem eq_take_append_received {k m n : Nat}
    (found : (j[k]?).bind Entry.received? = some (m, n)) :
    j = j.take k ++ .received m n :: j.drop (k + 1) := by
  obtain ⟨entry, isRead, moment⟩ := exists_moment found
  cases entry with
  | received m' n' =>
    cases isRead
    exact moment
  | _ => cases isRead

theorem turn_append (j : List (Entry P)) (entry : Entry P) :
    turn (j ++ [entry]) = (turn j).next entry := by
  rw [turn, List.foldl_append]
  rfl

theorem turn_append_of_not_turns (stays : entry.turns = false) :
    (turn (j ++ [entry])).answering = (turn j).answering ∧
      (turn (j ++ [entry])).origin = (turn j).origin := by
  rw [turn_append]
  cases entry with
  | delivered label e => cases stays
  | returned => cases stays
  | _ => exact ⟨rfl, rfl⟩

/-- Something was read last, and no arrival is being reported. -/
def Due (j : List (Entry P)) : Prop :=
  ∃ before m n, j = before ++ [.received m n] ∧ m < n ∧ ¬(turn before).Reports

theorem due_append_iff :
    Due (j ++ [entry]) ↔ ∃ m n, entry = .received m n ∧ m < n ∧ ¬(turn j).Reports := by
  constructor
  · rintro ⟨before, m, n, split, grown, free⟩
    obtain ⟨rfl, last⟩ := List.append_inj' split rfl
    exact ⟨m, n, List.singleton_inj.mp last, grown, free⟩
  · rintro ⟨m, n, rfl, grown, free⟩
    exact ⟨j, m, n, rfl, grown, free⟩

/-- An entry raises an arrival if and only if one is due. -/
def RaisesDue (j : List (Entry P)) : Prop :=
  Lawful (fun before entry => entry = .raised .readyRead ↔ Due before) j

/-- An arrival was raised if and only if one was due, and none is due any more. -/
structure Announced (j : List (Entry P)) : Prop where
  raisesDue : RaisesDue j
  settled : ¬Due j

theorem announced_nil : Announced ([] : List (Entry P)) :=
  ⟨lawful_nil, by rintro ⟨before, m, n, split, -⟩; simp at split⟩

namespace Announced

/-- An entry that has nothing to do with arrivals. -/
theorem append (h : Announced j) (other : entry.arrives = false) : Announced (j ++ [entry]) where
  raisesDue := h.raisesDue.append (iff_of_false (by rintro rfl; cases other) h.settled)
  settled := by
    rw [due_append_iff]
    rintro ⟨m, n, rfl, -⟩
    cases other

theorem raisesDue_received (h : Announced j) (m n : Nat) :
    RaisesDue (j ++ [.received m n]) :=
  h.raisesDue.append (iff_of_false nofun h.settled)

/-- What was read is not due for a report. -/
theorem receive {m n : Nat} (h : Announced j) (reports : m < n → (turn j).Reports) :
    Announced (j ++ [.received m n]) where
  raisesDue := h.raisesDue_received m n
  settled := by
    rw [due_append_iff]
    rintro ⟨_, _, ⟨⟩, grown, free⟩
    exact free (reports grown)

/-- What was read is reported, for it is due. -/
theorem announce {m n : Nat} (h : Announced j) (grown : m < n) (free : ¬(turn j).Reports) :
    Announced (j ++ [.received m n] ++ [.raised .readyRead]) where
  raisesDue := (h.raisesDue_received m n).append
    ⟨fun _ => due_append_iff.mpr ⟨m, n, rfl, grown, free⟩, fun _ => rfl⟩
  settled := by
    rw [due_append_iff]
    rintro ⟨_, _, ⟨⟩, -⟩

/-- What was read is reported right behind it or not at all. -/
theorem head?_eq_raised_iff (h : Announced j) {before after : List (Entry P)} {m n : Nat}
    (moment : j = before ++ .received m n :: after) :
    after.head? = some (.raised .readyRead) ↔ m < n ∧ ¬(turn before).Reports := by
  have due : Due (before ++ [.received m n]) ↔ m < n ∧ ¬(turn before).Reports := by
    rw [due_append_iff]
    exact ⟨fun ⟨_, _, same, due⟩ => (by cases same; exact due), fun due => ⟨m, n, rfl, due⟩⟩
  rw [← due]
  cases after with
  | nil =>
    have settled := h.settled
    rw [moment] at settled
    simp [settled]
  | cons entry rest =>
    have next : j = (before ++ [.received m n]) ++ entry :: rest := by
      rw [moment, List.append_assoc]
      rfl
    rw [List.head?_cons, Option.some_inj]
    exact h.raisesDue _ entry rest next

end Announced

end

end CanStream
