import CanStream.Proofs.Socket.Coherence
import CanStream.Proofs.Socket.OpenMode
import CanStream.Proofs.Socket.States
import CanStream.Proofs.Socket.Turns

/-!
# Sockets that mind their mode

A socket in a mode that does not read does not wait for data, so it takes no notice of its
descriptor being readable. This is so whatever handlers do, unless they supplant an operation: a
connect that goes on for a socket that was closed or connected anew meanwhile, and a close that goes
on for one that was connected meanwhile, may leave a socket waiting in a mode that does not read.
-/

namespace CanStream

variable {P : Protocol}

/-- A connect comes to an end although the socket is not connecting any more, or a close although
the socket is connected. -/
def Entry.Supplants (before : List (Entry P)) : Entry P → Prop
  | setUp (.ok ()) => (course before).state ≠ .connecting
  | discarded => (course before).state = .connected
  | _ => False

/-- A connect or a close was supplanted by another one that a handler asked for meanwhile. -/
def Supplanted (j : List (Entry P)) : Prop :=
  ∃ before entry after, j = before ++ entry :: after ∧ entry.Supplants before

/-- At a moment that counts, the protocol was asked to read in a mode that does not read. -/
def Strayed (counts : List (Entry P) → Prop) (j : List (Entry P)) : Prop :=
  ∃ before entry after, j = before ++ entry :: after ∧ entry.isRead = true ∧ counts before ∧
    (modeAt before).reads = false

section

variable {counts : List (Entry P) → Prop} {j : List (Entry P)} {entry : Entry P}

theorem lasting_supplanted : Lasting (Supplanted (P := P)) := by
  rintro j last ⟨before, entry, after, rfl, supplants⟩
  exact ⟨before, entry, after ++ [last], by simp, supplants⟩

theorem supplanted_append (supplants : entry.Supplants j) : Supplanted (j ++ [entry]) :=
  ⟨j, entry, [], rfl, supplants⟩

theorem lasting_strayed : Lasting (Strayed (P := P) counts) := by
  rintro j last ⟨before, entry, after, rfl, strays⟩
  exact ⟨before, entry, after ++ [last], by simp, strays⟩

theorem strayed_append (isRead : entry.isRead = true) (here : counts j)
    (mode : (modeAt j).reads = false) : Strayed counts (j ++ [entry]) :=
  ⟨j, entry, [], rfl, isRead, here, mode⟩

theorem not_strayed_append (h : ¬Strayed counts j)
    (here : entry.isRead = true → counts j → (modeAt j).reads = true) :
    ¬Strayed counts (j ++ [entry]) := by
  rintro ⟨before, read, after, split, isRead, counted, mode⟩
  rcases moment_of_append split with ⟨-, rfl, rfl⟩ | ⟨earlier, -, split'⟩
  · rw [here isRead counted] at mode
    cases mode
  · exact h ⟨before, read, earlier, split', isRead, counted, mode⟩

end

/-- A condition on journals that has to do with nothing else than the turns of handlers. -/
structure Moment (P : Protocol) where
  holds : List (Entry P) → Prop
  stays : ∀ {j entry}, entry.turns = false → holds j → holds (j ++ [entry])

namespace Moment

/-- No handler is at work. -/
def atRest : Moment P where
  holds := fun j => (turn j).answering = none
  stays := fun other h => (turn_append_of_not_turns other).1.trans h

/-- A handler is at work. -/
def atWork : Moment P where
  holds := fun j => (turn j).answering.isSome = true
  stays := fun other h => by rwa [(turn_append_of_not_turns other).1]

end Moment

/-! ## The invariant -/

/-- Whether an entry has nothing to do with the state of a socket, its mode, its reads and the turns
of its handler. -/
def Entry.passesBy : Entry P → Bool
  | raised (.stateChanged _) => false
  | delivered _ _ => false
  | returned => false
  | setUp _ => false
  | readHook _ _ _ => false
  | cleared _ _ => false
  | discarded => false
  | _ => true

/-- A socket waits for data only in a mode that reads, and only if it is connected or, in the midst
of a close, not hushed yet. One that is being connected is in the mode of the stage. -/
structure Minds (counts : List (Entry P) → Prop) (closing : Bool) (stage : Option OpenMode)
    (c : Connection P) (j : List (Entry P)) : Prop where
  state : c.state = (course j).state
  mode : c.mode = modeAt j
  unconnected : c.state = .unconnected → c.mode = FlagSet.empty
  connecting : c.state = .connecting → stage = some c.mode
  reads : c.wantsRead = true → c.mode.reads = true
  waits : c.wantsRead = true → c.state = .connected ∨ closing = true ∧ c.state = .closing
  straight : ¬Strayed counts j

namespace Minds

variable {counts : List (Entry P) → Prop} {closing : Bool} {stage : Option OpenMode}
  {c c' : Connection P} {j : List (Entry P)} {entry : Entry P}

theorem congr (h : Minds counts closing stage c j) (state : c'.state = c.state)
    (mode : c'.mode = c.mode) (wants : c'.wantsRead = true → c.wantsRead = true) :
    Minds counts closing stage c' j where
  state := state.trans h.state
  mode := mode.trans h.mode
  unconnected := by rw [state, mode]; exact h.unconnected
  connecting := by rw [state, mode]; exact h.connecting
  reads := fun waits => by rw [mode]; exact h.reads (wants waits)
  waits := fun waits => by rw [state]; exact h.waits (wants waits)
  straight := h.straight

theorem append (h : Minds counts closing stage c j) (same : entry.newState? = none)
    (keeps : entry.clears = false)
    (here : entry.isRead = true → counts j → c.mode.reads = true) :
    Minds counts closing stage c (j ++ [entry]) where
  state := by rw [course_append_of_not_changed same]; exact h.state
  mode := h.mode.trans (modeAt_append keeps).symm
  unconnected := h.unconnected
  connecting := h.connecting
  reads := h.reads
  waits := h.waits
  straight := not_strayed_append h.straight fun isRead counted => by
    rw [← h.mode]
    exact here isRead counted

theorem silent (h : Minds counts closing stage c j) (passes : entry.passesBy = true) :
    Minds counts closing stage c (j ++ [entry]) := by
  cases entry with
  | raised e =>
    cases e with
    | stateChanged state => cases passes
    | _ => exact h.append rfl rfl nofun
  | delivered label e => cases passes
  | returned => cases passes
  | setUp result => cases passes
  | readHook unit consumed result => cases passes
  | cleared ifname mode => cases passes
  | discarded => cases passes
  | _ => exact h.append rfl rfl nofun

/-- A socket that begins to wait is connected, and in a mode that reads. -/
theorem resumeReading (h : Minds counts closing stage c j) :
    Minds counts closing stage c.resumeReading j := by
  unfold Connection.resumeReading
  split
  case isTrue ready =>
    exact ⟨h.state, h.mode, h.unconnected, h.connecting, fun _ => ready.2.1, fun _ => .inl ready.1,
      h.straight⟩
  case isFalse => exact h

theorem idle (h : Minds counts closing stage c j) (notConnected : c.state ≠ .connected)
    (notClosing : closing = true → c.state ≠ .closing) : c.wantsRead = false := by
  cases waits : c.wantsRead with
  | false => rfl
  | true =>
    rcases h.waits waits with connected | ⟨isClosing, same⟩
    · exact absurd connected notConnected
    · exact absurd same (notClosing isClosing)

theorem idle_of_unconnected (h : Minds counts closing stage c j)
    (unconnected : c.state = .unconnected) : c.wantsRead = false := by
  refine h.idle ?_ fun _ => ?_ <;> rw [unconnected] <;> exact nofun

end Minds

/-- A socket minds its mode, unless an operation was supplanted, and the handler is where the moment
says. -/
def Mindful (counts : List (Entry P) → Prop) (m : Moment P) (closing : Bool)
    (stage : Option OpenMode) : Assertion P :=
  fun c j => (Supplanted j ∨ Minds counts closing stage c j) ∧ m.holds j

/-- A socket minds its mode, and may read where a read counts. -/
def MayRead (counts : List (Entry P) → Prop) (m : Moment P) (closing : Bool)
    (stage : Option OpenMode) : Assertion P :=
  fun c j => (Supplanted j ∨ Minds counts closing stage c j ∧
    (c.readWindow?.isSome = true → counts j → c.mode.reads = true)) ∧ m.holds j

theorem Entry.turns_of_passesBy {entry : Entry P} (passes : entry.passesBy = true) :
    entry.turns = false := by
  cases entry with
  | delivered label e => cases passes
  | returned => cases passes
  | _ => rfl

namespace Mindful

variable {counts : List (Entry P) → Prop} {m : Moment P} {closing closing' : Bool}
  {stage stage' : Option OpenMode} {c c' : Connection P} {j : List (Entry P)} {entry : Entry P}

theorem imp (h : Mindful counts m closing stage c j)
    (step : Minds counts closing stage c j → Minds counts closing' stage' c' j) :
    Mindful counts m closing' stage' c' j :=
  ⟨h.1.imp_right step, h.2⟩

theorem append (h : Mindful counts m closing stage c j) (other : entry.turns = false)
    (step : Minds counts closing stage c j →
      Supplanted (j ++ [entry]) ∨ Minds counts closing' stage' c' (j ++ [entry])) :
    Mindful counts m closing' stage' c' (j ++ [entry]) :=
  ⟨h.1.elim (fun supplanted => .inl (lasting_supplanted entry supplanted)) step,
    m.stays other h.2⟩

theorem silent (h : Mindful counts m closing stage c j) (passes : entry.passesBy = true) :
    Mindful counts m closing stage c (j ++ [entry]) :=
  h.append (Entry.turns_of_passesBy passes) fun minds => .inr (minds.silent passes)

theorem congr (h : Mindful counts m closing stage c j) (state : c'.state = c.state)
    (mode : c'.mode = c.mode) (wants : c'.wantsRead = c.wantsRead) :
    Mindful counts m closing stage c' j :=
  h.imp fun minds => minds.congr state mode (by rw [wants]; exact id)

theorem resumeReading (h : Mindful counts m closing stage c j) :
    Mindful counts m closing stage c.resumeReading j :=
  h.imp fun minds => minds.resumeReading

theorem take (h : Mindful counts m closing stage c j) (n : Nat) :
    Mindful counts m closing stage { c with readBuffer := (c.readBuffer.read n).2 }.resumeReading
      (j ++ [.taken (c.readBuffer.read n).1]) := by
  have taken : Mindful counts m closing stage { c with readBuffer := (c.readBuffer.read n).2 }
      (j ++ [.taken (c.readBuffer.read n).1]) := (h.silent rfl).congr rfl rfl rfl
  exact taken.resumeReading

theorem localSteps : LocalSteps Scope.all (Mindful (P := P) counts m closing stage)
    (Mindful counts m closing stage) where
  error := fun _ h => (h.silent rfl).congr rfl rfl rfl
  clearError := fun h => h.congr rfl rfl rfl
  inspected := fun h => h.silent rfl
  beginReport := fun h _ _ => (h.silent rfl).congr rfl rfl rfl
  endReport := fun h _ => h.congr rfl rfl rfl
  skipReport := fun h _ => h.congr rfl rfl rfl
  idle := fun h _ => h.congr rfl rfl rfl
  write := fun {c _ result after} h _ _ => by
    obtain ⟨buffer, pending, started, on, settled⟩ :=
      (c.align.hooked after).exists_settleWrite result
    rw [settled]
    exact (h.silent rfl).congr rfl rfl rfl
  takeBytes := fun n _ h => h.take n
  takeFrame := fun h _ _ _ =>
    holds_append_frameEntry (h.take _) fun _ => (h.take _).silent rfl
  queueBytes := fun {_ _ data} _ h _ _ => by
    cases data <;> exact (h.silent rfl).congr rfl rfl rfl
  queueFrame := fun {_ _ f} _ h _ _ _ _ => by
    cases f.toKernel <;> exact ((h.silent rfl).silent rfl).congr rfl rfl rfl
  cue := fun _ h => h.congr rfl rfl rfl
  poll := fun _ _ h => h.congr rfl rfl rfl
  takeWritten := fun h => h.congr rfl rfl rfl
  sever := fun h => (h.silent rfl).congr rfl rfl rfl
  refuseOption := fun _ h _ => h.congr rfl rfl rfl
  keepOption := fun _ h _ => (h.silent rfl).congr rfl rfl rfl
  optionChanged := fun _ h => h.silent rfl
  setReadLimit := fun {c j} n h _ => by
    have limited : Mindful counts m closing stage { c with readLimit := n } j :=
      h.congr rfl rfl rfl
    exact limited.resumeReading

theorem read (h : MayRead counts m closing stage c j) {window : Nat}
    (asked : c.readWindow? = some window) (after : P.State × Endpoint)
    (result : Except IoError (List UInt8)) :
    Mindful counts m closing stage ((c.hooked after).settleRead c window result)
      (j ++ [c.readEntry after result]) := by
  obtain ⟨buffer, on, settled⟩ := (c.hooked after).exists_settleRead c window result
  have still : on = true → c.wantsRead = true := fun waits =>
    Connection.wantsRead_of_settleRead (c := c.hooked after) (by rw [settled]; exact waits)
  rw [settled]
  refine ⟨h.1.imp (lasting_supplanted _) ?_, m.stays rfl h.2⟩
  rintro ⟨minds, allowed⟩
  have isSome : c.readWindow?.isSome = true := by rw [asked]; rfl
  exact (minds.append rfl rfl fun _ => allowed isSome).congr rfl rfl still

theorem pumpSteps : PumpSteps (MayRead (P := P) counts m closing stage)
    (Mindful counts m closing stage) (Mindful counts m closing stage) where
  full := fun h _ => ⟨h.1.imp_right And.left, h.2⟩
  refuseRead := fun h asked _ _ => read h asked _ _
  receive := by
    rintro c _ j window result after h asked - - rfl -
    exact (read h asked after result).silent rfl
  announce := by
    rintro c _ j window result after h asked - - rfl - -
    exact (((read h asked after result).silent rfl).silent rfl).congr rfl rfl rfl
  endAnnounce := fun h _ => h.congr rfl rfl rfl

/-- Where no read counts, every one is as good as any other. -/
theorem readSteps (exempt : ∀ j, m.holds j → ¬counts j) :
    ReadSteps (Mindful (P := P) counts m closing stage) (Mindful counts m closing stage) := by
  have may : ∀ {c j}, Mindful (P := P) counts m closing stage c j →
      MayRead counts m closing stage c j := fun h =>
    ⟨h.1.imp_right fun minds => ⟨minds, fun _ counted => absurd counted (exempt _ h.2)⟩, h.2⟩
  exact {
    refuseRead := fun h => pumpSteps.refuseRead (may h)
    receive := fun h => pumpSteps.receive (may h)
    announce := fun h => pumpSteps.announce (may h)
    endAnnounce := pumpSteps.endAnnounce }

/-- A socket that is closed does not wait any more, unless it was connected meanwhile. -/
theorem closeSteps (before after : Bool) (stage stage' : Option OpenMode) :
    CloseSteps (Mindful (P := P) counts m before stage) (Mindful counts m true stage)
      (Mindful counts m false stage) (Mindful counts m after stage') where
  stay := fun {c _} h unconnected => h.imp fun minds => by
    have shut := minds.idle_of_unconnected unconnected
    refine ⟨minds.state, minds.mode, minds.unconnected, ?_, minds.reads, ?_, minds.straight⟩
    · rw [unconnected]
      exact nofun
    · rw [shut]
      exact nofun
  beginClose := fun h _ _ => h.append rfl fun minds => .inr
    ⟨by rw [course_append]; rfl, minds.mode.trans (modeAt_append rfl).symm, nofun, nofun,
      minds.reads, fun _ => .inr ⟨rfl, rfl⟩, not_strayed_append minds.straight nofun⟩
  goOnClosing := fun h isClosing => h.imp fun minds =>
    ⟨minds.state, minds.mode, minds.unconnected, minds.connecting, minds.reads,
      fun _ => .inr ⟨rfl, isClosing⟩, minds.straight⟩
  release := fun h => h.imp fun minds =>
    ⟨minds.state, minds.mode, minds.unconnected, minds.connecting, nofun, nofun, minds.straight⟩
  releaseFailed := fun _ h => (h.silent rfl).congr rfl rfl rfl
  discard := fun {c _} h unconnected => h.append rfl fun minds => .inr (by
    have shut : c.discard.wantsRead = false := minds.idle_of_unconnected unconnected
    have state : c.discard.state = .unconnected := unconnected
    refine ⟨?_, modeAt_append_discarded.symm, fun _ => rfl, ?_, ?_, ?_,
      not_strayed_append minds.straight nofun⟩
    · rw [course_append_of_not_changed rfl]
      exact minds.state
    · rw [state]
      exact nofun
    · rw [shut]
      exact nofun
    · rw [shut]
      exact nofun)
  endClose := fun {c j} h _ => by
    have discarded : Supplanted (j ++ [.discarded]) ∨
        Minds counts after stage' { c.discard with state := .unconnected }
          (j ++ [.discarded] ++ [.raised (.stateChanged .unconnected)]) := by
      rcases h.1 with supplanted | minds
      · exact .inl (lasting_supplanted _ supplanted)
      by_cases connected : c.state = .connected
      · exact .inl (supplanted_append (minds.state.symm.trans connected))
      · have shut : c.discard.wantsRead = false := minds.idle connected nofun
        refine .inr ⟨?_, ?_, fun _ => rfl, nofun, ?_, ?_, ?_⟩
        · rw [course_append]
          rfl
        · rw [modeAt_append rfl]
          exact modeAt_append_discarded.symm
        · exact fun waits => absurd (shut.symm.trans waits) nofun
        · exact fun waits => absurd (shut.symm.trans waits) nofun
        · exact not_strayed_append (not_strayed_append minds.straight nofun) nofun
    exact ⟨discarded.imp_left (lasting_supplanted _), m.stays rfl (m.stays rfl h.2)⟩

/-- A socket that is connected waits if its mode is one that reads, unless it was closed or
connected anew meanwhile. -/
theorem connectSteps (ifname : String) (mode : OpenMode) :
    ConnectSteps ifname mode (Mindful (P := P) counts m closing stage)
      (Mindful counts m false (some mode)) (Mindful counts m true (some mode))
      (Mindful counts m false (some mode)) (Mindful counts m closing stage) where
  refuse := fun _ h => (h.silent rfl).congr rfl rfl rfl
  prepare := fun {c j} h unconnected _ => by
    refine ⟨h.1.imp (fun supplanted => lasting_supplanted _ (lasting_supplanted _ supplanted))
      fun minds => ?_, m.stays rfl (m.stays rfl h.2)⟩
    have shut : (c.prepare ifname mode).wantsRead = false := minds.idle_of_unconnected unconnected
    refine ⟨?_, ?_, nofun, fun _ => rfl, ?_, ?_, ?_⟩
    · rw [course_append]
      rfl
    · rw [modeAt_append rfl]
      exact (modeAt_append_cleared ifname mode).symm
    · exact fun waits => absurd (shut.symm.trans waits) nofun
    · exact fun waits => absurd (shut.symm.trans waits) nofun
    · exact not_strayed_append (not_strayed_append minds.straight nofun) nofun
  connectFailed := fun {c j cause after} h _ => by
    have setUp : Mindful counts m false (some mode) c (j ++ [.setUp (.error cause)]) :=
      h.append rfl fun minds => .inr (minds.append rfl rfl nofun)
    exact (setUp.silent rfl).congr rfl rfl rfl
  reconnected := fun {c j after} h _ connected => by
    refine ⟨.inl ?_, m.stays rfl h.2⟩
    rcases h.1 with supplanted | minds
    · exact lasting_supplanted _ supplanted
    · refine supplanted_append ?_
      change (course j).state ≠ .connecting
      rw [← minds.state, connected]
      exact nofun
  connected := fun {c j after} h _ _ => by
    refine ⟨?_, m.stays rfl (m.stays rfl h.2)⟩
    rcases h.1 with supplanted | minds
    · exact .inl (lasting_supplanted _ (lasting_supplanted _ supplanted))
    by_cases connecting : c.state = .connecting
    · obtain rfl : mode = c.mode := Option.some.inj (minds.connecting connecting)
      have idle : c.wantsRead = false := minds.idle (by rw [connecting]; exact nofun) nofun
      refine .inr ⟨?_, ?_, nofun, nofun, ?_, fun _ => .inl rfl, ?_⟩
      · rw [course_append]
        rfl
      · rw [modeAt_append rfl, modeAt_append rfl]
        exact minds.mode
      · rw [idle]
        exact id
      · exact not_strayed_append (not_strayed_append minds.straight nofun) nofun
    · refine .inl (lasting_supplanted _ (supplanted_append ?_))
      change (course j).state ≠ .connecting
      rwa [← minds.state]
  giveUp := closeSteps false closing (some mode) stage

/-- Whatever a handler at work asks for, the socket minds its mode: its own reads are left out of
account. -/
theorem endures_enqueue (exempt : ∀ j, m.holds j → ¬counts j) :
    Endures Scope.all Socket.enqueue (Mindful (P := P) counts m closing stage) := by
  have emits (K : Assertion P) : Socket.Emits Scope.all K Socket.enqueue :=
    fun e _ => Socket.upholds_enqueue K e
  refine endures_of_upholds localSteps (readSteps exempt) (emits _)
    (Socket.upholds_enqueue _ .readyRead) (fun ifname mode => ?_) ?_
  · exact Socket.upholds_connect (connectSteps ifname mode) (emits _) (emits _) (emits _) (emits _)
  · exact Socket.upholds_close (closeSteps closing closing stage stage) (emits _) (emits _)
      (emits _)

theorem turns : Turns (Mindful (P := P) counts Moment.atWork closing stage) fun _ =>
    Mindful counts Moment.atRest closing stage where
  delivery := fun label e h =>
    ⟨h.1.imp (lasting_supplanted _) fun minds => minds.append rfl rfl nofun, by
      change (turn _).answering.isSome = true
      rw [turn_append]
      rfl⟩
  returned := fun _ h =>
    ⟨h.1.imp (lasting_supplanted _) fun minds => minds.append rfl rfl nofun, by
      change (turn _).answering = none
      rw [turn_append]
      rfl⟩
  noted := fun _ h => h.silent rfl

/-- Only the reads count that are made with no handler at work. -/
theorem upholds_emit (e : P.Event) :
    Socket.Upholds Scope.all
      (fun c j => Mindful Moment.atRest.holds Moment.atRest closing stage c (j ++ [.raised e]))
      (Socket.emit e) (Mindful Moment.atRest.holds Moment.atRest closing stage) := by
  have exempt (j : List (Entry P)) (atWork : Moment.atWork.holds j) : ¬Moment.atRest.holds j := by
    intro atRest
    have resting : (turn j).answering = none := atRest
    have isSome : (turn j).answering.isSome = true := atWork
    rw [resting] at isSome
    cases isSome
  exact Socket.upholds_emit turns (fun _ => endures_enqueue exempt) e (fun _ h => h) id

end Mindful

end CanStream
