import CanStream.Proofs.IsoTp.Transmit
import CanStream.Proofs.Protocol.Diligence
import CanStream.Proofs.Socket.Passive
import CanStream.Proofs.Socket.Undisturbed

/-!
# Waits come to an end

Whatever a turn of a wait does on a passive socket comes to an end. If the wait then goes on, the
turn has used up something: an answer of the endpoint that was laid down, or some of what there is
to be written. So the wait comes to an end too, after as many turns as there is something to use up
and one more, whatever its time is.
-/

namespace CanStream

variable {P : Protocol} {rank : P.State → Nat}

/-- A poll that finds something ready uses up an answer that was laid down, or else the endpoint is
open and is ready itself. -/
theorem Endpoint.scripted_of_poll {read write : Bool} {e e' : Endpoint} {r : Readiness}
    (polled : poll read write e = (.ok (some r), e')) :
    e'.writeLimit = e.writeLimit ∧ (e'.scripted < e.scripted ∨
      e'.scripted = e.scripted ∧ e'.isOpen = true ∧ r = e'.readiness read write ∧
        (r.readable || r.writable) = true) := by
  rcases answers : e.pollAnswers with _ | ⟨⟨⟩ | found | code, rest⟩
  · cases isOpen : e.isOpen with
    | false =>
      rw [poll_of_closed answers read write isOpen] at polled
      cases polled
    | true =>
      rw [poll_of_isOpen answers read write isOpen] at polled
      obtain ⟨found, rfl⟩ := Prod.mk.inj polled
      split at found
      case isTrue ready =>
        obtain rfl := Option.some.inj (Except.ok.inj found)
        exact ⟨rfl, .inr ⟨rfl, isOpen, rfl, ready⟩⟩
      case isFalse => cases found
  all_goals simp only [poll, answers] at polled
  · cases polled
  · obtain ⟨-, rfl⟩ := Prod.mk.inj polled
    refine ⟨rfl, .inl ?_⟩
    simp [scripted, answers]
  · cases polled

/-- What there is for a wait to use up. -/
def Connection.budget (rank : P.State → Nat) (c : Connection P) : Nat :=
  supply rank (c.protocol, c.endpoint) + c.unwritten

namespace Socket

variable {α β ε : Type} {s s₁ s₂ s' : Socket P}

/-- On a passive socket the operation comes to an end, and the socket is passive again. -/
def Ends (m : SocketM P α) : Prop :=
  ∀ s : Socket P, s.Passive → ∃ a s', m s = some (a, s') ∧ s'.Passive

namespace Ends

theorem of_leads {m : SocketM P α} (leads : ∀ c, ∃ a c', Leads m c a c') : Ends m := by
  intro s passive
  obtain ⟨a, c', leads⟩ := leads s.toConnection
  obtain ⟨s', ran, -, passive'⟩ := leads s rfl passive
  exact ⟨a, s', ran, passive'⟩

/-- Raising an event comes to an end, and so does every step that raises none. -/
theorem composes : Composes Socket.emit fun m : SocketM P _ => Ends m where
  pure a := fun s passive => ⟨a, s, rfl, passive⟩
  bind first next := by
    intro s passive
    obtain ⟨a, s₁, begun, passive₁⟩ := first s passive
    obtain ⟨b, s', ended, passive'⟩ := next a s₁ passive₁
    exact ⟨b, s', bind_eq_some.mpr ⟨a, s₁, begun, ended⟩, passive'⟩
  get next := fun s passive => next s s passive
  update f := .of_leads fun _ => ⟨_, _, leads_update f⟩
  record entry _ := .of_leads fun _ => ⟨_, _, leads_record entry⟩
  runHook _ := .of_leads fun _ => ⟨_, _, leads_runHook rfl⟩
  callEndpoint call := .of_leads fun _ => ⟨_, _, leads_callEndpoint call⟩
  raise e := .of_leads fun _ => ⟨_, _, leads_emit e⟩

theorem passive {m : SocketM P α} (ends : Ends m) (passive : s.Passive) {a : α}
    (ran : m s = some (a, s')) : s'.Passive := by
  obtain ⟨a, s₁, ended, passive'⟩ := ends s passive
  rw [ended] at ran
  obtain ⟨-, rfl⟩ := Prod.mk.inj (Option.some.inj ran)
  exact passive'

end Ends

/-- The socket is passive, the bytes that it is to write are well kept, and its endpoint can take
some of them. -/
structure Reliable (s : Socket P) : Prop where
  passive : s.Passive
  whole : s.writeBuffer.WellFormed
  limit : s.endpoint.writeLimit ≠ some 0

namespace Reliable

variable (h : s.Reliable)

include h

theorem undisturbed : Undisturbed emit s := .inr ⟨rfl, h.passive⟩

theorem of_poll (rank : P.State → Nat) {read write : Bool} {r : Readiness}
    (polled : poll emit read write s = some (some r, s')) :
    s'.Reliable ∧ s'.writeBuffer = s.writeBuffer ∧
      (s'.budget rank < s.budget rank ∨
        s'.budget rank = s.budget rank ∧ s'.endpoint.isOpen = true ∧
          r = s'.endpoint.readiness read write ∧ (r.readable || r.writable) = true) := by
  have passive := (Ends.composes.poll read write).passive h.passive polled
  cases outcome_of_poll polled with
  | ready answered =>
    obtain ⟨limit, uses⟩ := Endpoint.scripted_of_poll (Prod.ext answered rfl)
    refine ⟨⟨passive, h.whole, limit ▸ h.limit⟩, rfl, uses.imp (fun less => ?_) fun ready => ?_⟩
    · exact Nat.add_lt_add_right (Nat.add_lt_add_left less _) _
    · refine ⟨?_, ready.2⟩
      exact congrArg (fun n => rank s.protocol + n + s.unwritten) ready.1

theorem of_pumpRead (diligent : P.Diligent rank)
    (pumped : pumpRead emit s = some (true, s')) :
    s'.Reliable ∧ s'.budget rank ≤ s.budget rank ∧
      (s.endpoint.isOpen = true → s.endpoint.arrivals ≠ [] →
        s'.budget rank < s.budget rank) := by
  have passive := Ends.composes.pumpRead.passive h.passive pumped
  cases outcome_of_pumpRead pumped with
  | passed asked hook passed announced =>
    rename_i window result after
    obtain ⟨buffer, on, settled⟩ :=
      (s.toConnection.hooked after).exists_settleRead s.toConnection window result
    have went := (comes_of_announced h.undisturbed announced).connection.trans settled
    obtain ⟨more, limit⟩ := (diligent.frugalRead window).of_exec hook
    have left : s'.budget rank = supply rank after + s.unwritten := by
      rw [went]
      rfl
    rw [left]
    refine ⟨⟨passive, ?_, ?_⟩, Nat.add_le_add_right more _, fun isOpen waiting => ?_⟩
    · rw [went]
      exact h.whole
    · rw [went]
      exact limit ▸ h.limit
    · exact Nat.add_lt_add_right (diligent.read asked isOpen waiting hook) _

/-- A report uses up nothing, and leaves all there that is to be written. -/
theorem of_reportWritten (rank : P.State → Nat)
    (reported : reportWritten emit s = some ((), s')) :
    s'.Reliable ∧ s'.endpoint = s.endpoint ∧ s'.writeBuffer = s.writeBuffer ∧
      s'.budget rank = s.budget rank := by
  have passive := Ends.composes.reportWritten.passive h.passive reported
  obtain ⟨pending, reports⟩ := s.toConnection.exists_reported
  have went := (comes_reportWritten h.undisturbed reported).connection.trans reports
  refine ⟨⟨passive, ?_, ?_⟩, ?_⟩
  · rw [went]
    exact h.whole
  · rw [went]
    exact h.limit
  · rw [went]
    exact ⟨rfl, rfl, rfl⟩

theorem of_completeWrite (diligent : P.Diligent rank)
    (pushed : completeWrite emit s = some (true, s')) :
    s'.Reliable ∧ s'.budget rank ≤ s.budget rank ∧
      (s.endpoint.Willing → s.writeBuffer.isEmpty = false → s'.budget rank < s.budget rank) := by
  have passive := Ends.composes.completeWrite.passive h.passive pushed
  cases outcome_of_completeWrite pushed with
  | idle reported isEmpty =>
    rename_i s₁
    obtain ⟨h₁, -, kept, begun⟩ := h.of_reportWritten rank reported
    refine ⟨⟨passive, h₁.whole, h₁.limit⟩, Nat.le_of_eq begun, fun _ nonempty => ?_⟩
    rw [kept, nonempty] at isEmpty
    cases isEmpty
  | passed reported nonempty hook =>
    rename_i s₁ n after
    obtain ⟨h₁, same, -, begun⟩ := h.of_reportWritten rank reported
    obtain ⟨more, limit⟩ := (diligent.frugalWrite _).of_exec hook
    have aligned := h₁.whole.makeContiguous (P.nextWriteSize s₁.protocol)
    have size : s₁.align.writeBuffer.size = s₁.unwritten := ByteQueue.size_makeContiguous ..
    have left : (s₁.unstarted.handed (.ok n) after).budget rank =
        supply rank after + (s₁.unwritten - n) := by
      rw [← size]
      exact congrArg (supply rank after + ·) (ByteQueue.size_free ..)
    rw [← begun, left]
    refine ⟨⟨passive, aligned.free n, ?_⟩, ?_, fun willing _ => ?_⟩
    · exact limit ▸ h₁.limit
    · exact Nat.add_le_add more (Nat.sub_le ..)
    · have waits : s₁.unwritten ≠ 0 := by
        rw [← Bool.not_eq_true, ByteQueue.isEmpty_iff] at nonempty
        exact nonempty
      have notEmpty : s₁.align.writeBuffer.head ≠ [] := aligned.head_ne_nil (size.trans_ne waits)
      rcases diligent.write notEmpty (same ▸ willing) hook with less | moves
      · exact Nat.add_lt_add_of_lt_of_le less (Nat.sub_le ..)
      · exact Nat.add_lt_add_of_le_of_lt more (Nat.sub_lt (Nat.pos_of_ne_zero waits) moves)

/-- A turn of a wait for data that goes on has used up something. -/
theorem of_pushed (diligent : P.Diligent rank) {r : Readiness}
    (polled : poll emit true (!s.writeBuffer.isEmpty) s = some (some r, s₁))
    (unreadable : r.readable = false) (pushed : Pushed emit r s₁ s₂) :
    s₂.Reliable ∧ s₂.budget rank < s.budget rank := by
  obtain ⟨h₁, kept, uses⟩ := h.of_poll rank polled
  unfold Pushed at pushed
  split at pushed
  case isTrue writable =>
    obtain ⟨h₂, less, strictly⟩ := h₁.of_completeWrite diligent pushed
    refine ⟨h₂, ?_⟩
    rcases uses with fewer | ⟨same, isOpen, rfl, -⟩
    · exact Nat.lt_of_le_of_lt less fewer
    · rw [← same]
      rw [Endpoint.readiness, Bool.and_eq_true, Bool.not_eq_true'] at writable
      obtain ⟨nonempty, ready⟩ := writable
      refine strictly ⟨isOpen, ?_, h₁.limit⟩ (kept ▸ nonempty)
      simpa using ready
  case isFalse unwritable =>
    subst pushed
    refine ⟨h₁, uses.resolve_right ?_⟩
    rintro ⟨-, -, -, ready⟩
    simp [unreadable, unwritable] at ready

/-- So has a turn of a wait for a write that goes on. -/
theorem of_pumped (diligent : P.Diligent rank) {r : Readiness}
    (polled : poll emit s.wantsRead true s = some (some r, s₁))
    (pumped : Pumped (pumpRead emit) r s₁ true s₂) (unwritable : r.writable = false) :
    s₂.Reliable ∧ s₂.budget rank < s.budget rank := by
  obtain ⟨h₁, -, uses⟩ := h.of_poll rank polled
  unfold Pumped at pumped
  split at pumped
  case isTrue readable =>
    obtain ⟨h₂, less, strictly⟩ := h₁.of_pumpRead diligent pumped
    refine ⟨h₂, ?_⟩
    rcases uses with fewer | ⟨same, isOpen, rfl, -⟩
    · exact Nat.lt_of_le_of_lt less fewer
    · rw [← same]
      rw [Endpoint.readiness, Bool.and_eq_true] at readable
      refine strictly isOpen ?_
      simpa using readable.2
  case isFalse unreadable =>
    obtain ⟨-, rfl⟩ := pumped
    refine ⟨h₁, uses.resolve_right ?_⟩
    rintro ⟨-, -, -, ready⟩
    simp [unreadable, unwritable] at ready

end Reliable

/-! ## Turns -/

/-- What comes of a wait that is followed for a number of turns: if that is `n` or more, it comes to
an end, and always to the same one. -/
def Settles (n : Nat) (outcome : Nat → Nat → Option α) : Prop :=
  ∃ a, ∀ turns left, n ≤ left → outcome turns left = some a

theorem Settles.of_eq {n : Nat} {outcome : Option α} {a : α} (ran : outcome = some a) :
    Settles n fun _ _ => outcome :=
  ⟨a, fun _ _ _ => ran⟩

theorem Settles.succ {n : Nat} {outcome : Nat → Nat → Option α}
    (h : Settles n fun turns left => outcome turns (left + 1)) : Settles (n + 1) outcome := by
  obtain ⟨a, ran⟩ := h
  refine ⟨a, fun turns left enough => ?_⟩
  obtain ⟨left, rfl⟩ := Nat.exists_eq_succ_of_ne_zero (Nat.ne_zero_of_lt enough)
  exact ran turns left (Nat.le_of_succ_le_succ enough)

section

variable (timeout : Option Nat) (elapsed : Nat → Nat)

/-- After a turn the time is over, or the rest of the wait decides. -/
theorem Settles.nextTurn {n turn : Nat} {go : Nat → Nat → SocketM P Bool} (passive : s.Passive)
    (goes : Settles n fun turns left => go turns left s) :
    Settles n fun turns left =>
      nextTurn emit ⟨timeout, elapsed, turns⟩ turn (go turns left) s := by
  by_cases isOver : (⟨timeout, elapsed, 0⟩ : Wait).isOver turn = true
  · obtain ⟨⟨⟩, s', raised, -⟩ := Ends.composes.setError (.ofKind .timeout) s passive
    refine ⟨(false, s'), fun turns left _ => ?_⟩
    have late : (⟨timeout, elapsed, turns⟩ : Wait).isOver turn = true := isOver
    simp only [Socket.nextTurn, if_pos late, bind_of_eq raised]
    rfl
  · obtain ⟨a, ran⟩ := goes
    refine ⟨a, fun turns left enough => ?_⟩
    have goesOn : ¬(⟨timeout, elapsed, turns⟩ : Wait).isOver turn = true := isOver
    simp only [Socket.nextTurn, if_neg goesOn]
    exact ran turns left enough

variable (diligent : P.Diligent rank)

include diligent

/-- The turns of a wait for data come to an end once there is nothing left to use up, or before. -/
theorem settles_readTurns {n : Nat} : ∀ {s : Socket P} (turn : Nat), s.Reliable →
    s.budget rank < n →
    Settles n fun turns left => readTurns emit ⟨timeout, elapsed, turns⟩ turn left s := by
  -- A turn after which the wait goes on leaves a reliable socket with less to use up.
  induction n with
  | zero => exact fun _ _ less => absurd less (Nat.not_lt_zero _)
  | succ n ih =>
    intro s turn h less
    have next {s₂ : Socket P} (turned : s₂.Reliable ∧ s₂.budget rank < s.budget rank) :
        Settles n fun turns left => nextTurn emit ⟨timeout, elapsed, turns⟩ turn
          (readTurns emit ⟨timeout, elapsed, turns⟩ (turn + 1) left) s₂ :=
      .nextTurn timeout elapsed turned.1.passive
        (ih (turn + 1) turned.1 (Nat.lt_of_lt_of_le turned.2 (Nat.le_of_lt_succ less)))
    obtain ⟨found, s₁, polled, passive⟩ :=
      Ends.composes.poll true (!s.writeBuffer.isEmpty) s h.passive
    refine .succ ?_
    simp only [readTurns, get_bind_apply, bind_of_eq polled]
    cases found with
    | none => exact .of_eq rfl
    | some r =>
      dsimp only
      cases readable : r.readable with
      | true =>
        obtain ⟨answer, s', pumped, -⟩ := Ends.composes.pumpRead s₁ passive
        exact .of_eq pumped
      | false =>
        cases writable : r.writable with
        | false =>
          have pushed : Pushed emit r s₁ s₁ := by simp [Pushed, writable]
          exact next (h.of_pushed diligent polled readable pushed)
        | true =>
          obtain ⟨went, s₂, pushed, -⟩ := Ends.composes.completeWrite s₁ passive
          simp only [if_true, Bool.false_eq_true, if_false, bind_of_eq pushed]
          cases went with
          | false => exact .of_eq rfl
          | true =>
            have pushed : Pushed emit r s₁ s₂ := by simp [Pushed, writable, pushed]
            exact next (h.of_pushed diligent polled readable pushed)

/-- So do the turns of a wait for a write. -/
theorem settles_writeTurns {n : Nat} : ∀ {s : Socket P} (turn : Nat), s.Reliable →
    s.budget rank < n →
    Settles n fun turns left => writeTurns emit ⟨timeout, elapsed, turns⟩ turn left s := by
  induction n with
  | zero => exact fun _ _ less => absurd less (Nat.not_lt_zero _)
  | succ n ih =>
    intro s turn h less
    obtain ⟨found, s₁, polled, passive⟩ := Ends.composes.poll s.wantsRead true s h.passive
    refine .succ ?_
    simp only [writeTurns, get_bind_apply, bind_of_eq polled]
    cases found with
    | none => exact .of_eq rfl
    | some r =>
      dsimp only
      -- What is left of the turn is the same whether anything was read in it or not.
      have goOn (read : Bool) {s₂ : Socket P} (pumped : Pumped (pumpRead emit) r s₁ read s₂)
          (passive : s₂.Passive) : Settles n fun turns left =>
          (if !read then pure false
            else if r.writable then completeWrite emit
            else nextTurn emit ⟨timeout, elapsed, turns⟩ turn
              (writeTurns emit ⟨timeout, elapsed, turns⟩ (turn + 1) left) : SocketM P Bool) s₂ := by
        cases read with
        | false => exact .of_eq rfl
        | true =>
          cases writable : r.writable with
          | true =>
            obtain ⟨answer, s', pushed, -⟩ := Ends.composes.completeWrite s₂ passive
            exact .of_eq pushed
          | false =>
            obtain ⟨h₂, fewer⟩ := h.of_pumped diligent polled pumped writable
            exact .nextTurn timeout elapsed h₂.passive
              (ih (turn + 1) h₂ (Nat.lt_of_lt_of_le fewer (Nat.le_of_lt_succ less)))
      cases readable : r.readable with
      | true =>
        obtain ⟨read, s₂, pumped, passive₂⟩ := Ends.composes.pumpRead s₁ passive
        simp only [if_true, bind_of_eq pumped]
        exact goOn read (by simp [Pumped, readable, pumped]) passive₂
      | false => exact goOn true (by simp [Pumped, readable]) passive

end

/-- Whatever their time is, both waits of the socket come to an end within so many turns and one
more, and it is the same one however much longer they are followed. -/
def WaitsEnd (s : Socket P) (n : Nat) : Prop :=
  ∀ timeout elapsed,
    (∃ ready s', ∀ turns, n < turns →
      perform (.waitForReadyRead ⟨timeout, elapsed, turns⟩) s = some (ready, s')) ∧
    ∃ written s', ∀ turns, n < turns →
      perform (.waitForBytesWritten ⟨timeout, elapsed, turns⟩) s = some (written, s')

theorem Reliable.waitsEnd (h : s.Reliable) (diligent : P.Diligent rank) :
    s.WaitsEnd (s.budget rank) := by
  intro timeout elapsed
  have waits (wait : Wait) :
      perform (.waitForReadyRead wait) s = waitForReadyRead emit wait s ∧
        perform (.waitForBytesWritten wait) s = waitForBytesWritten emit wait s := ⟨rfl, rfl⟩
  simp only [waits, waitForReadyRead, waitForBytesWritten, get_bind_apply]
  by_cases unconnected : s.state = .unconnected
  · simp only [if_pos unconnected]
    exact ⟨⟨false, s, fun _ _ => rfl⟩, false, s, fun _ _ => rfl⟩
  · simp only [if_neg unconnected]
    constructor
    · obtain ⟨⟨ready, s'⟩, ran⟩ :=
        settles_readTurns timeout elapsed diligent 0 h (Nat.lt_succ_self _)
      exact ⟨ready, s', fun turns enough => ran turns turns enough⟩
    · by_cases nothing : (s.writeBuffer.isEmpty && s.pending == 0) = true
      · simp only [if_pos nothing]
        exact ⟨false, s, fun _ _ => rfl⟩
      · simp only [if_neg nothing]
        obtain ⟨⟨written, s'⟩, ran⟩ :=
          settles_writeTurns timeout elapsed diligent 0 h (Nat.lt_succ_self _)
        exact ⟨written, s', fun turns enough => ran turns turns enough⟩

/-- After every run the waits of a passive socket come to an end, if its protocol is diligent and
its endpoint takes something of what it is given. -/
theorem waitsEnd_of_run (diligent : P.Diligent rank) {protocol : P.State} {endpoint : Endpoint}
    {readChunk writeChunk : Nat} {actions : List (Action P)}
    (ran : run actions (fresh protocol endpoint readChunk writeChunk) = some ((), s))
    (passive : s.Passive) (limit : s.endpoint.writeLimit ≠ some 0) :
    s.WaitsEnd (s.budget rank) :=
  Reliable.waitsEnd ⟨passive, (wellFormed_of_run ran).2, limit⟩ diligent

end Socket

open Socket

/-- On every socket that is passive, and whose endpoint takes something of what it is given, both
waits come to an end, with a timeout or without one. Each turn is one poll. There are no more turns
than answers that are laid down for the endpoint, bytes that are to be written, and payloads whose
lengths the protocol keeps, and one more. -/
theorem waits_end :
    (∀ (protocol : Raw.State) (endpoint : Endpoint) (readChunk writeChunk : Nat)
        (actions : List (Action Raw.protocol)) (s : Socket Raw.protocol),
      run actions (fresh protocol endpoint readChunk writeChunk) = some ((), s) → s.Passive →
      s.endpoint.writeLimit ≠ some 0 → s.WaitsEnd (s.endpoint.scripted + s.unwritten)) ∧
    ∀ (protocol : IsoTp.State) (endpoint : Endpoint) (readChunk writeChunk : Nat)
        (actions : List (Action IsoTp.protocol)) (s : Socket IsoTp.protocol),
      run actions (fresh protocol endpoint readChunk writeChunk) = some ((), s) → s.Passive →
      s.endpoint.writeLimit ≠ some 0 →
      s.WaitsEnd (s.protocol.queued.length + s.endpoint.scripted + s.unwritten) := by
  constructor
  · intro protocol endpoint readChunk writeChunk actions s ran passive limit
    have ends := waitsEnd_of_run Raw.diligent ran passive limit
    rwa [Connection.budget, supply, Nat.zero_add] at ends
  · intro protocol endpoint readChunk writeChunk actions s ran passive limit
    exact waitsEnd_of_run IsoTp.diligent ran passive limit

/-- A run after which a frame waits to be written, and the first write will fail. -/
def Raw.lingeringRun : List (Action Raw.protocol) :=
  [.ask (.connect "" .readWrite), .ask (.write (List.replicate 16 0)),
    .ask (.cue (.pushWriteError Errno.again))]

/-- A run after which a payload waits to be written, and the first write will fail. -/
def IsoTp.lingeringRun : List (Action IsoTp.protocol) :=
  [.ask (.cue (.addInterface ⟨"vcan0", 3, 16⟩)),
    .ask (.connectWith IsoTp.exampleIds "vcan0" .readWrite), .ask (.write [1, 2, 3]),
    .ask (.cue (.pushWriteError Errno.again))]

theorem waits_end_lingeringRuns :
    (∃ s, run Raw.lingeringRun (fresh .initial .blank 20 20) = some ((), s) ∧ s.Passive ∧
      s.endpoint.writeLimit ≠ some 0 ∧ s.WaitsEnd 17) ∧
    ∃ s, run IsoTp.lingeringRun (fresh .initial .blank 20 20) = some ((), s) ∧ s.Passive ∧
      s.endpoint.writeLimit ≠ some 0 ∧ s.WaitsEnd 5 := by
  obtain ⟨raw, transport⟩ := waits_end
  constructor
  · obtain ⟨s, ran, outcome⟩ : ∃ s,
        run Raw.lingeringRun (fresh .initial .blank 20 20) = some ((), s) ∧
        (s.handler.isNone, s.endpoint.writeLimit, s.endpoint.scripted + s.unwritten) =
          (true, none, 17) :=
      exists_run (by decide +kernel)
    simp only [Prod.mk.injEq] at outcome
    obtain ⟨alone, unlimited, enough⟩ := outcome
    have passive := passive_of_alone (Option.isNone_iff_eq_none.mp alone)
    have limit : s.endpoint.writeLimit ≠ some 0 := by simp [unlimited]
    exact ⟨s, ran, passive, limit, enough ▸ raw _ _ _ _ _ s ran passive limit⟩
  · obtain ⟨s, ran, outcome⟩ : ∃ s,
        run IsoTp.lingeringRun (fresh .initial .blank 20 20) = some ((), s) ∧
        (s.handler.isNone, s.endpoint.writeLimit,
          s.protocol.queued.length + s.endpoint.scripted + s.unwritten) = (true, none, 5) :=
      exists_run (by decide +kernel)
    simp only [Prod.mk.injEq] at outcome
    obtain ⟨alone, unlimited, enough⟩ := outcome
    have passive := passive_of_alone (Option.isNone_iff_eq_none.mp alone)
    have limit : s.endpoint.writeLimit ≠ some 0 := by simp [unlimited]
    exact ⟨s, ran, passive, limit, enough ▸ transport _ _ _ _ _ s ran passive limit⟩

end CanStream
