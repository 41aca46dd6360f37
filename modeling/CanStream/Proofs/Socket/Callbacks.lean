import CanStream.Proofs.Socket.Undisturbed
import CanStream.Proofs.Socket.WriteNotification

/-!
# Waits and callbacks

An application with an event loop of its own tells a socket when the descriptor is readable or
writable. A wait finds that out itself, by polls, and works the pumps without asking again whether
the socket waits for it. On a passive socket it comes to the same but for one case: a wait for a
write that succeeds although the socket does not wait to write. All that it had left were stranded
bytes. The wait reports them, and no notice would have brought the socket to do so.
-/

namespace CanStream

variable {P : Protocol}

/-- What an application tells a socket of its descriptor. -/
inductive Notice
  | readable
  | writable
  deriving DecidableEq, Repr

/-- What a wait that ends with the notice asks of a poll: whether the descriptor is readable, and
whether it is writable. -/
def Notice.asks (goal : Notice) (c : Connection P) : Bool × Bool :=
  match goal with
  | readable => (true, !c.writeBuffer.isEmpty)
  | writable => (c.wantsRead, true)

namespace Socket

variable {s s₁ s' : Socket P} {wait : Wait} {goal : Notice}

def notice : Notice → SocketM P Bool
  | .readable => perform .readReady
  | .writable => perform .writeReady

/-- Gives one notice after another, and collects the answers. -/
def noticeAll (notices : List Notice) : SocketM P (List Bool) := notices.mapM notice

theorem noticeAll_cons {n : Notice} {notices : List Notice} {b : Bool} {answers : List Bool}
    (first : notice n s = some (b, s₁)) (rest : noticeAll notices s₁ = some (answers, s')) :
    noticeAll (n :: notices) s = some (b :: answers, s') := by
  rw [noticeAll, List.mapM_cons, bind_of_eq first]
  exact bind_of_eq rest

theorem notice_readable (connected : s.state = .connected) (reading : s.wantsRead = true) :
    notice .readable s = pumpRead emit s := by
  have heard : notice .readable s = readReady emit s := rfl
  rw [heard, readReady, get_bind_apply, if_pos ⟨connected, reading⟩]

theorem notice_writable (connected : s.state = .connected) (writing : s.wantsWrite = true) :
    notice .writable s = completeWrite emit s := by
  have heard : notice .writable s = writeReady emit s := rfl
  rw [heard, writeReady, get_bind_apply, if_pos ⟨connected, writing⟩]

/-- The error of a wait whose time is over, or whose poll found nothing or failed. -/
inductive PollError (wait : Wait) (goal : Notice) (s : Socket P) : SocketError → Prop
  | late {turn} (isOver : wait.isOver turn = true) :
      PollError wait goal s (SocketError.ofKind .timeout)
  | idle {read write e'} (asks : goal.asks s.toConnection = (read, write))
      (polled : Endpoint.poll read write s.endpoint = (.ok none, e')) :
      PollError wait goal s (SocketError.ofKind .timeout)
  | failed {read write cause e'} (asks : goal.asks s.toConnection = (read, write))
      (polled : Endpoint.poll read write s.endpoint = (.error cause, e')) :
      PollError wait goal s (SocketError.ofIo cause)

/-- The answer and the socket are what comes of some notices, but for the number of polls: the last
of them gave the answer, or the error of a poll follows them and the answer is no. -/
inductive Noticed (wait : Wait) (goal : Notice) (s : Socket P) : Bool → Socket P → Prop
  | answered {answers answer s₁} (notices : List Notice) (polls : Nat)
      (noticed : noticeAll notices s = some (answers ++ [answer], s₁)) :
      Noticed wait goal s answer (s₁.recount polls)
  | failed {answers s₁ error s₂} (notices : List Notice) (polls : Nat)
      (noticed : noticeAll notices s = some (answers, s₁))
      (polled : PollError wait goal s₁ error)
      (raised : setError emit error s₁ = some ((), s₂)) :
      Noticed wait goal s false (s₂.recount polls)

namespace Noticed

theorem single {n : Notice} {answer : Bool} (gave : notice n s = some (answer, s₁))
    (polls : Nat) : Noticed wait goal s answer (s₁.recount polls) := by
  have noticed : noticeAll [n] s = some ([] ++ [answer], s₁) := noticeAll_cons gave rfl
  exact .answered [n] polls noticed

theorem cons {n : Notice} {b answer : Bool} (first : notice n s = some (b, s₁))
    (rest : Noticed wait goal s₁ answer s') : Noticed wait goal s answer s' := by
  cases rest with
  | @answered answers _ s₁ notices polls noticed =>
    have noticed : noticeAll (n :: notices) s = some ((b :: answers) ++ [answer], s₁) :=
      noticeAll_cons first noticed
    exact .answered (n :: notices) polls noticed
  | failed notices polls noticed polled raised =>
    exact .failed (n :: notices) polls (noticeAll_cons first noticed) polled raised

end Noticed

/-- The turns of a wait, from the given one on, come to what comes of notices, or go on as long as
they are followed with the time never over. -/
inductive Refines (wait : Wait) (goal : Notice) (turn left : Nat) (s : Socket P) :
    Option (Bool × Socket P) → Prop
  | goesOn (inTime : ∀ later, turn ≤ later → later < turn + left → wait.isOver later = false) :
      Refines wait goal turn left s none
  | ends {answer s'} (noticed : Noticed wait goal s answer s') :
      Refines wait goal turn left s (some (answer, s'))

namespace Refines

variable {turn left : Nat} {outcome : Option (Bool × Socket P)}

theorem cons {n : Notice} {b : Bool} (first : notice n s = some (b, s₁))
    (rest : Refines wait goal turn left s₁ outcome) : Refines wait goal turn left s outcome := by
  cases rest with
  | goesOn inTime => exact .goesOn inTime
  | ends noticed => exact .ends (noticed.cons first)

/-- The turn before did not find the time over either. -/
theorem turnBefore (inTime : wait.isOver turn = false)
    (rest : Refines wait goal (turn + 1) left s outcome) :
    Refines wait goal turn (left + 1) s outcome := by
  cases rest with
  | ends noticed => exact .ends noticed
  | goesOn later =>
    refine .goesOn fun n since before => ?_
    rcases Nat.eq_or_lt_of_le since with rfl | since
    · exact inTime
    · exact later n since (by omega)

end Refines

/-- The socket told of the bytes that it had left to report, and with no notices at all would it
have told of a write. -/
structure Exceeds (s s' : Socket P) : Prop where
  told : .raised (.bytesWritten s.pending) ∈ added s.journal s'.journal
  unnoticed : ∀ {notices answers s₁}, noticeAll notices s = some (answers, s₁) →
    ∀ n, .raised (.bytesWritten n) ∉ added s.journal s₁.journal

/-- What exceeds all notices comes of none. -/
theorem Exceeds.not_refines {turn left : Nat} (exceeds : Exceeds s s') :
    ¬Refines wait goal turn left s (some (true, s')) := by
  rintro (_ | ⟨⟨notices, polls, noticed⟩ | _⟩)
  exact exceeds.unnoticed noticed _ exceeds.told

/-- The error of a poll follows no notice at all. -/
theorem exists_setError_of_pollError (calm : s.Calm) {error : SocketError}
    (polled : PollError wait goal s error) (polls : Nat) :
    ∃ s', setError emit error (s.recount polls) = some ((), s') ∧
      Noticed wait goal s false s' := by
  obtain ⟨⟨⟩, s₁, raised, -, recounted⟩ := (unpolled_setError error).exists_ran calm
  obtain ⟨polls', recounted⟩ := recounted polls
  exact ⟨s₁.recount polls', recounted, .failed [] polls' rfl polled raised⟩

/-- A poll says what of that which it asks for the descriptor is ready for, or ends the wait. -/
theorem poll_cases (wait : Wait) (calm : s.Calm) {read write : Bool}
    (asks : goal.asks s.toConnection = (read, write)) (polls : Nat) :
    (∃ r, poll emit read write (s.recount polls) = some (some r, s.recount (polls + 1)) ∧
      (r.readable = true → read = true) ∧ (r.writable = true → write = true)) ∨
    ∃ s', poll emit read write (s.recount polls) = some (none, s') ∧
      Noticed wait goal s false s' := by
  let e := s.endpoint.recount polls
  have polled : callEndpoint (Endpoint.poll read write) (s.recount polls) =
      some ((e.poll read write).1, s.called (e.poll read write).2) := rfl
  rw [poll]
  cases isOpen : s.endpoint.isOpen with
  | false =>
    have fails := Endpoint.poll_of_closed calm.unscripted read write isOpen
    have shut : e.poll read write = (.error (.os Errno.badDescriptor), e) :=
      Endpoint.poll_of_closed (e := e) calm.unscripted read write isOpen
    have failure : PollError wait goal s (SocketError.ofIo (.os Errno.badDescriptor)) :=
      .failed asks fails
    obtain ⟨s', raised, noticed⟩ := exists_setError_of_pollError calm failure polls
    rw [shut] at polled
    rw [bind_of_eq polled]
    exact .inr ⟨s', bind_of_eq raised, noticed⟩
  | true =>
    have finds := Endpoint.poll_of_isOpen calm.unscripted read write isOpen
    have found := Endpoint.poll_of_isOpen (e := e) calm.unscripted read write isOpen
    rw [found] at polled
    rw [bind_of_eq polled]
    by_cases ready : (e.readiness read write).readable || (e.readiness read write).writable
    · refine .inl ⟨e.readiness read write, ?_, ?_, ?_⟩
      · rw [if_pos ready]
        rfl
      · exact fun readable => (Bool.and_eq_true_iff.mp readable).1
      · exact fun writable => (Bool.and_eq_true_iff.mp writable).1
    · have nothing : ¬((s.endpoint.readiness read write).readable ||
          (s.endpoint.readiness read write).writable) = true := ready
      rw [if_neg nothing] at finds
      have timeout : PollError wait goal s (SocketError.ofKind .timeout) := .idle asks finds
      obtain ⟨s', raised, noticed⟩ := exists_setError_of_pollError calm timeout (polls + 1)
      rw [if_neg ready]
      exact .inr ⟨s', bind_of_eq raised, noticed⟩

/-- Without a write or a report of one the first socket became the second one, undisturbed. -/
abbrev Unwritten (s s' : Socket P) : Prop :=
  Retains emit (fun c => (c.state, c.writeBuffer, c.pending, c.reportingWrite, c.wantsWrite))
    (fun entry => ∀ n, entry ≠ .raised (.bytesWritten n)) s s'

namespace Unwritten

theorem of_pumpRead (h : Undisturbed emit s) {answer : Bool}
    (ran : pumpRead emit s = some (answer, s')) : Unwritten s s' := by
  cases answer with
  | true =>
    apply Retains.of_pumpRead h ran
    · exact fun _ _ _ _ => rfl
    · exact fun _ _ _ _ => nofun
    · exact fun _ _ _ => nofun
    · exact fun _ => nofun
  | false =>
    apply Retains.of_failed_pumpRead h ran
    · exact fun _ _ _ _ _ => rfl
    · exact fun _ _ _ _ => nofun
    · exact fun _ _ => nofun

/-- A socket that does not wait to write takes no notice of being writable. -/
theorem of_notice (h : Undisturbed emit s) (idle : s.wantsWrite = false) {n : Notice}
    {answer : Bool} (noticed : notice n s = some (answer, s')) : Unwritten s s' := by
  cases n with
  | readable =>
    have heard : readReady emit s = some (answer, s') := noticed
    rw [readReady, get_bind_apply] at heard
    split at heard
    · exact of_pumpRead h heard
    · obtain ⟨-, rfl⟩ := Prod.mk.inj (Option.some.inj heard)
      exact .refl h
  | writable =>
    have heard : writeReady emit s = some (answer, s') := noticed
    have deaf : ¬(s.state = .connected ∧ s.wantsWrite = true) := by simp [idle]
    rw [writeReady, get_bind_apply, if_neg deaf] at heard
    obtain ⟨-, rfl⟩ := Prod.mk.inj (Option.some.inj heard)
    exact .refl h

theorem of_noticeAll {notices : List Notice} {answers : List Bool} (h : Undisturbed emit s)
    (idle : s.wantsWrite = false) (noticed : noticeAll notices s = some (answers, s')) :
    Unwritten s s' := by
  induction notices generalizing s answers with
  | nil =>
    obtain ⟨-, rfl⟩ := Prod.mk.inj (Option.some.inj noticed)
    exact .refl h
  | cons n notices ih =>
    rw [noticeAll, List.mapM_cons] at noticed
    obtain ⟨b, s₁, first, noticed⟩ := bind_eq_some.mp noticed
    obtain ⟨rest, s₂, others, ended⟩ := bind_eq_some.mp noticed
    obtain ⟨-, rfl⟩ := Prod.mk.inj (Option.some.inj ended)
    have unwritten := of_notice h idle first
    have idle₁ : s₁.wantsWrite = false := by
      have same := unwritten.view_eq
      simp only [Prod.mk.injEq] at same
      rw [same.2.2.2.2, idle]
    exact unwritten.trans (ih unwritten.undisturbed idle₁ others)

theorem not_mem (h : Unwritten s s') (n : Nat) :
    .raised (.bytesWritten n) ∉ added s.journal s'.journal := by
  obtain ⟨c, entries, comes, -, silent⟩ := h
  rw [comes.mem_added_iff rfl]
  intro member
  exact silent _ member n rfl

end Unwritten

/-- A report leaves alone what there is to write. -/
theorem writeBuffer_of_reportWritten (h : Undisturbed emit s)
    (reported : reportWritten emit s = some ((), s')) : s'.writeBuffer = s.writeBuffer := by
  obtain ⟨pending, reports⟩ := s.toConnection.exists_reported
  have went := (comes_reportWritten h reported).connection.trans reports
  rw [went]

/-- A write pump with nothing to write has no failure to tell of. -/
theorem answer_of_completeWrite (h : Undisturbed emit s) (isEmpty : s.writeBuffer.isEmpty = true)
    {answer : Bool} (ran : completeWrite emit s = some (answer, s')) : answer = true := by
  cases outcome_of_completeWrite ran with
  | idle reported isEmpty => rfl
  | passed reported nonempty wrote => rfl
  | failed reported nonempty wrote raised =>
    rw [writeBuffer_of_reportWritten h reported, isEmpty] at nonempty
    cases nonempty

/-- A wait for a write that succeeds on a socket that does not wait to write tells of what was
left to report. -/
theorem exceeds_of_waitForBytesWritten (h : Undisturbed emit s) (idle : s.wantsWrite = false)
    (isEmpty : s.writeBuffer.isEmpty = true) (quiet : s.reportingWrite = false)
    (ran : waitForBytesWritten emit wait s = some (true, s')) : Exceeds s s' := by
  refine ⟨?_, fun noticed n => (Unwritten.of_noticeAll h idle noticed).not_mem n⟩
  rw [waitForBytesWritten_eq] at ran
  rcases writeWait_of_waitForBytesWrittenBy ran with ⟨-, failed, -⟩ | ⟨due, waited⟩
  · cases failed
  have pending : 0 < s.pending := by
    rcases due with nonempty | pending
    · rw [isEmpty] at nonempty
      cases nonempty
    · exact Nat.pos_of_ne_zero pending
  obtain ⟨s₁, unwritten, pushed⟩ := waited.exists_push (motive := Unwritten s) (.refl h) rfl
    (fun unwritten polled => unwritten.trans (.of_poll unwritten.undisturbed polled fun _ _ => rfl))
    (fun unwritten pumped => unwritten.trans (Unwritten.of_pumpRead unwritten.undisturbed pumped))
  have same := unwritten.view_eq
  simp only [Prod.mk.injEq] at same
  obtain ⟨-, sameBuffer, samePending, sameReporting, -⟩ := same
  obtain ⟨c, entries, comes, -, -⟩ := unwritten
  cases outcome_of_completeWrite pushed with
  | idle reported isEmpty =>
    have due : 0 < s₁.pending ∧ s₁.reportingWrite = false := by
      rw [samePending, sameReporting]
      exact ⟨pending, quiet⟩
    have tells := comes.trans (comes_reportWritten comes.undisturbed reported)
    rw [Connection.report?, if_pos due, samePending] at tells
    exact (tells.mem_added_iff rfl).mpr (List.mem_append_right _ (List.mem_singleton_self _))
  | passed reported nonempty wrote =>
    rw [writeBuffer_of_reportWritten comes.undisturbed reported, sameBuffer, isEmpty] at nonempty
    cases nonempty

/-- After a turn the time is over, which is an error of its own, or the wait goes on. -/
theorem nextTurn_cases_of_calm (calm : s.Calm) (turn left polls : Nat) (go : SocketM P Bool) :
    Refines wait goal turn (left + 1) s (nextTurn emit wait turn go (s.recount polls)) ∨
      wait.isOver turn = false ∧
        nextTurn emit wait turn go (s.recount polls) = go (s.recount polls) := by
  rw [nextTurn]
  by_cases ended : wait.isOver turn = true
  · have late : PollError wait goal s (SocketError.ofKind .timeout) := .late ended
    obtain ⟨s', raised, noticed⟩ := exists_setError_of_pollError calm late polls
    rw [if_pos ended, bind_of_eq raised]
    exact .inl (.ends noticed)
  · rw [if_neg ended]
    exact .inr ⟨Bool.eq_false_iff.mpr ended, rfl⟩

/-- What a wait for data finds at every turn. -/
structure Listening (s : Socket P) : Prop where
  notified : Notified s.toConnection s.journal
  connected : s.state = .connected
  reading : s.wantsRead = true

/-- Writes leave alone whether the socket waits for data. -/
theorem Listening.of_completeWrite (listening : Listening s) (calm : s.Calm)
    (ran : completeWrite emit s = some (true, s')) : Listening s' := by
  have undisturbed : Undisturbed emit s := .inr ⟨rfl, calm.handler⟩
  have kept : Retains emit (fun c => (c.state, c.wantsRead)) (fun _ => True) s s' := by
    apply Retains.of_completeWrite undisturbed ran
    · exact fun _ _ => rfl
    · exact fun _ => rfl
    · exact fun _ => rfl
    · exact fun _ => trivial
    · exact fun _ _ _ _ _ => trivial
  have same := kept.view_eq
  simp only [Prod.mk.injEq] at same
  have upholds : Upholds Scope.all Notified (completeWrite (P := P) emit) Notified :=
    upholds_completeWrite (fun e _ => sound_notification.emits e) steps_notification.toTransferSteps
  have notified := upholds.holds listening.notified ran
  exact ⟨notified, same.1.trans listening.connected, same.2.trans listening.reading⟩

theorem refines_readTurns (unpolled : P.Unpolled) (wait : Wait) (turn left polls : Nat)
    (calm : s.Calm) (listening : Listening s) :
    Refines wait .readable turn left s (readTurns emit wait turn left (s.recount polls)) := by
  induction left generalizing turn polls s with
  | zero => exact .goesOn fun later since before => by omega
  | succ left ih =>
    have asks : Notice.readable.asks s.toConnection =
        (true, !(s.recount polls).writeBuffer.isEmpty) := rfl
    have goesOn {s : Socket P} (calm : s.Calm) (listening : Listening s) (polls : Nat) :
        Refines wait .readable turn (left + 1) s
          (nextTurn emit wait turn (readTurns emit wait (turn + 1) left) (s.recount polls)) := by
      rcases nextTurn_cases_of_calm calm turn left polls (readTurns emit wait (turn + 1) left)
        with late | ⟨inTime, same⟩
      · exact late
      · rw [same]
        exact .turnBefore inTime (ih (turn + 1) polls calm listening)
    rw [readTurns, get_bind_apply]
    rcases poll_cases wait calm asks polls with ⟨r, polled, -, asked⟩ | ⟨s', polled, noticed⟩
    · rw [bind_of_eq polled]
      by_cases readable : r.readable = true
      · obtain ⟨answer, s', ran, -, recounted⟩ := (unpolled_pumpRead unpolled).exists_ran calm
        obtain ⟨polls', recounted⟩ := recounted (polls + 1)
        have noticed := (notice_readable listening.connected listening.reading).trans ran
        simp only [if_pos readable, recounted]
        exact .ends (.single noticed polls')
      simp only [if_neg readable]
      by_cases writable : r.writable = true
      · have waiting : (s.recount polls).writeBuffer.isEmpty = false := by
          simpa using asked writable
        have writing := listening.notified.waits listening.connected waiting
        obtain ⟨answer, s₁, ran, calm₁, recounted⟩ :=
          (unpolled_completeWrite unpolled).exists_ran calm
        obtain ⟨polls₁, recounted⟩ := recounted (polls + 1)
        have noticed := (notice_writable listening.connected writing).trans ran
        rw [if_pos writable, bind_of_eq recounted]
        cases answer with
        | false => exact .ends (.single noticed polls₁)
        | true => exact .cons noticed (goesOn calm₁ (listening.of_completeWrite calm ran) polls₁)
      · rw [if_neg writable]
        exact goesOn calm listening (polls + 1)
    · rw [bind_of_eq polled]
      exact .ends noticed

/-- What a wait for a write finds at every turn: unless the socket waits to write there is nothing
to write. -/
structure Minded (c : Connection P) : Prop where
  connected : c.state = .connected
  waits : c.writeBuffer.isEmpty = false → c.wantsWrite = true

/-- The turns of a wait for a write come to what comes of notices, or else the wait succeeds on a
socket that does not wait to write. -/
theorem refines_or_succeeds (unpolled : P.Unpolled) (wait : Wait) (turn left polls : Nat)
    (calm : s.Calm) (minded : Minded s.toConnection) :
    Refines wait .writable turn left s (writeTurns emit wait turn left (s.recount polls)) ∨
      s.wantsWrite = false ∧
        ∃ s', writeTurns emit wait turn left (s.recount polls) = some (true, s') := by
  induction left generalizing turn polls s with
  | zero => exact .inl (.goesOn fun later since before => by omega)
  | succ left ih =>
    have asks : Notice.writable.asks s.toConnection = ((s.recount polls).wantsRead, true) := rfl
    rw [writeTurns, get_bind_apply]
    rcases poll_cases wait calm asks polls with ⟨r, polled, asked, -⟩ | ⟨s', polled, noticed⟩
    · rw [bind_of_eq polled]
      -- What is left of the turn is the same whether anything was read in it or not.
      let rest : SocketM P Bool :=
        if r.writable then completeWrite emit
        else nextTurn emit wait turn (writeTurns emit wait (turn + 1) left)
      have goesOn {s : Socket P} (calm : s.Calm) (minded : Minded s.toConnection) (polls : Nat) :
          Refines wait .writable turn (left + 1) s (rest (s.recount polls)) ∨
            s.wantsWrite = false ∧ ∃ s', rest (s.recount polls) = some (true, s') := by
        by_cases writable : r.writable = true
        · obtain ⟨answer, s', ran, -, recounted⟩ :=
            (unpolled_completeWrite unpolled).exists_ran calm
          obtain ⟨polls', recounted⟩ := recounted polls
          simp only [rest, if_pos writable, recounted]
          by_cases writing : s.wantsWrite = true
          · have noticed := (notice_writable minded.connected writing).trans ran
            exact .inl (.ends (.single noticed polls'))
          · have isEmpty : s.writeBuffer.isEmpty = true := by
              by_contra waiting
              exact writing (minded.waits (Bool.eq_false_iff.mpr waiting))
            obtain rfl := answer_of_completeWrite (.inr ⟨rfl, calm.handler⟩) isEmpty ran
            exact .inr ⟨Bool.eq_false_iff.mpr writing, _, rfl⟩
        · simp only [rest, if_neg writable]
          rcases nextTurn_cases_of_calm calm turn left polls (writeTurns emit wait (turn + 1) left)
            with late | ⟨inTime, same⟩
          · exact .inl late
          · rw [same]
            exact (ih (turn + 1) polls calm minded).imp_left (.turnBefore inTime)
      by_cases readable : r.readable = true
      · obtain ⟨answer, s₁, ran, calm₁, recounted⟩ := (unpolled_pumpRead unpolled).exists_ran calm
        obtain ⟨polls₁, recounted⟩ := recounted (polls + 1)
        have noticed := (notice_readable minded.connected (asked readable)).trans ran
        simp only [if_pos readable]
        rw [bind_of_eq recounted]
        cases answer with
        | false => exact .inl (.ends (.single noticed polls₁))
        | true =>
          have same := (Unwritten.of_pumpRead (.inr ⟨rfl, calm.handler⟩) ran).view_eq
          simp only [Prod.mk.injEq] at same
          obtain ⟨sameState, sameBuffer, -, -, sameWants⟩ := same
          have minded₁ : Minded s₁.toConnection := by
            refine ⟨sameState.trans minded.connected, ?_⟩
            rw [sameBuffer, sameWants]
            exact minded.waits
          rcases goesOn calm₁ minded₁ polls₁ with refines | ⟨idle, succeeds⟩
          · exact .inl (.cons noticed refines)
          · exact .inr ⟨sameWants.symm.trans idle, succeeds⟩
      · simp only [if_neg readable]
        exact goesOn calm minded (polls + 1)
    · rw [bind_of_eq polled]
      exact .inl (.ends noticed)

end Socket

open Socket

/-- After any run, a wait of a passive connected socket that waits for data comes to what comes of
notices, but for the number of polls: the last of them gave its answer, or the error of a poll
follows. Otherwise it goes on for as long as it is followed, its time never over. A wait for a write
only begins with something to write or to report. It does not come to what comes of notices just if
it succeeds and the socket did not wait to write. There was nothing to write then, and the wait told
of stranded bytes as no notices make the socket do. -/
theorem refines_iff_of_waits (unpolled : P.Unpolled) {protocol : P.State} {endpoint : Endpoint}
    {readChunk writeChunk : Nat} {actions : List (Action P)} {s : Socket P}
    (ran : run actions (fresh protocol endpoint readChunk writeChunk) = some ((), s))
    (passive : s.Passive) (connected : s.state = .connected) (reading : s.wantsRead = true)
    (unscripted : s.endpoint.pollAnswers = []) (wait : Wait) :
    Refines wait .readable 0 wait.turns s (perform (.waitForReadyRead wait) s) ∧
      (s.writeBuffer.isEmpty = false ∨ 0 < s.pending →
        (Refines wait .writable 0 wait.turns s (perform (.waitForBytesWritten wait) s) ↔
          s.wantsWrite = true ∨ ∀ s', perform (.waitForBytesWritten wait) s ≠ some (true, s')) ∧
        (s.wantsWrite = false → ∀ s', perform (.waitForBytesWritten wait) s = some (true, s') →
          s.writeBuffer.isEmpty = true ∧ Stranded s.journal ∧ Exceeds s s')) := by
  obtain ⟨notified, quiet⟩ := notified_of_run ran
  have calm : s.Calm := ⟨passive, unscripted⟩
  have entered : s.state ≠ .unconnected := by simp [connected]
  constructor
  · have turns := refines_readTurns unpolled wait 0 wait.turns s.endpoint.polls calm
      ⟨notified, connected, reading⟩
    have waits : perform (.waitForReadyRead wait) s = waitForReadyRead emit wait s := rfl
    rw [waits, waitForReadyRead, get_bind_apply, if_neg entered]
    exact turns
  · intro due
    have exceeds (idle : s.wantsWrite = false) (s' : Socket P)
        (succeeds : perform (.waitForBytesWritten wait) s = some (true, s')) :
        s.writeBuffer.isEmpty = true ∧ Stranded s.journal ∧ Exceeds s s' := by
      have isEmpty : s.writeBuffer.isEmpty = true := by
        by_contra waiting
        rw [notified.waits connected (Bool.eq_false_iff.mpr waiting)] at idle
        cases idle
      have pending : 0 < s.pending := due.resolve_left (by simp [isEmpty])
      exact ⟨isEmpty, (notified.pending quiet isEmpty pending).mp idle,
        exceeds_of_waitForBytesWritten (.inr ⟨rfl, passive⟩) idle isEmpty quiet succeeds⟩
    refine ⟨⟨fun refines => ?_, fun condition => ?_⟩, exceeds⟩
    · by_contra stray
      obtain ⟨idle, succeeds⟩ := not_or.mp stray
      obtain ⟨s', succeeds⟩ := not_forall.mp succeeds
      rw [not_not] at succeeds
      obtain ⟨-, -, exceeds⟩ := exceeds (Bool.eq_false_iff.mpr idle) s' succeeds
      rw [succeeds] at refines
      exact exceeds.not_refines refines
    · have turns := refines_or_succeeds unpolled wait 0 wait.turns s.endpoint.polls calm
        ⟨connected, notified.waits connected⟩
      have waits : perform (.waitForBytesWritten wait) s =
          writeTurns emit wait 0 wait.turns (s.recount s.endpoint.polls) := by
        have asks : perform (.waitForBytesWritten wait) s = waitForBytesWritten emit wait s := rfl
        have task : ¬(s.writeBuffer.isEmpty && s.pending == 0) = true := by
          rcases due with waiting | pending
          · simp [waiting]
          · simp [Nat.ne_of_gt pending]
        rw [asks, waitForBytesWritten, get_bind_apply, if_neg entered, if_neg task]
        rfl
      rw [waits] at condition ⊢
      rcases turns with refines | ⟨idle, s', succeeds⟩
      · exact refines
      · rcases condition with writing | fails
        · rw [idle] at writing
          cases writing
        · exact absurd succeeds (fails s')

def Handler.isSilent : Handler P → Bool
  | silent _ => true
  | on _ _ _ => false

/-- A handler that hears nothing asks for nothing. -/
theorem Socket.passive_of_silent {s : Socket P} (silent : s.handler.all Handler.isSilent = true) :
    s.Passive := by
  intro h installed
  rw [Option.all_eq_true] at silent
  cases h with
  | silent label => exact trivial
  | on label hears react => cases silent _ installed

/-- A handler that answers the first report of a write with another write. -/
def Raw.writeAgain : Handler Raw.protocol :=
  .on none (fun e => e matches .bytesWritten _) fun _ =>
    .call (.writeFrame (Frame.empty.withKind .data)) fun _ =>
      .call .flush fun _ => .done (.silent none)

/-- A run in which the answer to a report is written at once. In the end the handler asks for
nothing any more. -/
def Raw.strandingRun : List (Action Raw.protocol) :=
  [.ask (.connect "" .readWrite), .install Raw.writeAgain,
    .ask (.writeFrame (Frame.empty.withKind .data)), .ask .flush, .ask .writeReady,
    .install (.silent none)]

/-- The run ends with a frame to report and nobody waiting for the descriptor to become writable,
and the wait for a write succeeds. -/
theorem Raw.exists_strandingRun :
    ∃ s s', run Raw.strandingRun (fresh .initial .blank 20 20) = some ((), s) ∧
      perform (.waitForBytesWritten .momentary) s = some (true, s') ∧ s.Passive ∧
      s.state = .connected ∧ s.wantsRead = true ∧ s.endpoint.pollAnswers = [] ∧
      s.writeBuffer.isEmpty = true ∧ s.pending = 16 ∧ s.wantsWrite = false := by
  obtain ⟨s, answer, s', ran, waited, outcome⟩ : ∃ s answer s',
      run Raw.strandingRun (fresh .initial .blank 20 20) = some ((), s) ∧
        waitForBytesWritten emit .momentary s = some (answer, s') ∧
        (answer, s.handler.all Handler.isSilent, s.endpoint.pollAnswers, s.state, s.pending,
          s.wantsRead && s.writeBuffer.isEmpty && !s.wantsWrite) =
          (true, true, [], .connected, 16, true) :=
    exists_asked (by decide +kernel)
  simp only [Prod.mk.injEq, Bool.and_eq_true, Bool.not_eq_true'] at outcome
  obtain ⟨rfl, silent, unscripted, connected, pending, ⟨reading, isEmpty⟩, idle⟩ := outcome
  exact ⟨s, s', ran, waited, passive_of_silent silent, connected, reading, unscripted, isEmpty,
    pending, idle⟩

/-- Not every wait for a write comes to what comes of notices. -/
theorem not_always_refines :
    ¬∀ (P : Protocol) (protocol : P.State) (endpoint : Endpoint) (readChunk writeChunk : Nat)
      (actions : List (Action P)) (s s' : Socket P) (wait : Wait) (answer : Bool),
      run actions (fresh protocol endpoint readChunk writeChunk) = some ((), s) →
      s.Passive → s.state = .connected → s.wantsRead = true → s.endpoint.pollAnswers = [] →
      perform (.waitForBytesWritten wait) s = some (answer, s') →
      s.writeBuffer.isEmpty = false ∨ 0 < s.pending → Noticed wait .writable s answer s' := by
  intro always
  obtain ⟨s, s', ran, waited, passive, connected, reading, unscripted, isEmpty, pending, idle⟩ :=
    Raw.exists_strandingRun
  have noticed := always _ _ _ _ _ _ s s' _ _ ran passive connected reading unscripted waited
    (.inr (by omega))
  have exceeds := exceeds_of_waitForBytesWritten (.inr ⟨rfl, passive⟩) idle isEmpty
    (notified_of_run ran).2 waited
  have refines : Refines .momentary .writable 0 1 s (some (true, s')) := .ends noticed
  exact exceeds.not_refines refines

/-- A run after which one frame waits to be written and another one to be read. -/
def Raw.pendingRun : List (Action Raw.protocol) :=
  [.ask (.connect "" .readWrite), .ask (.writeFrame (Frame.empty.withKind .data)),
    .ask (.cue (.pushRead (List.replicate 16 1))), .install (.silent none)]

/-- After the one run the socket waits to write, and every wait comes to what comes of notices.
After the other one a wait for a write does not. -/
theorem refines_iff_of_waits_runs :
    (∃ s, run Raw.pendingRun (fresh .initial .blank 20 20) = some ((), s) ∧ s.Passive ∧
      s.state = .connected ∧ s.wantsRead = true ∧ s.endpoint.pollAnswers = [] ∧
      s.writeBuffer.isEmpty = false ∧
      ∀ wait, Refines wait .readable 0 wait.turns s (perform (.waitForReadyRead wait) s) ∧
        Refines wait .writable 0 wait.turns s (perform (.waitForBytesWritten wait) s)) ∧
    ∃ s s', run Raw.strandingRun (fresh .initial .blank 20 20) = some ((), s) ∧ s.Passive ∧
      s.state = .connected ∧ s.wantsRead = true ∧ s.endpoint.pollAnswers = [] ∧ 0 < s.pending ∧
      perform (.waitForBytesWritten .momentary) s = some (true, s') ∧ Exceeds s s' ∧
      ¬Refines .momentary .writable 0 1 s (some (true, s')) := by
  constructor
  · obtain ⟨s, ran, outcome⟩ : ∃ s, run Raw.pendingRun (fresh .initial .blank 20 20) =
        some ((), s) ∧ (s.handler.all Handler.isSilent, s.endpoint.pollAnswers, s.state,
          s.wantsRead && s.wantsWrite && !s.writeBuffer.isEmpty) = (true, [], .connected, true) :=
      exists_run (by decide +kernel)
    simp only [Prod.mk.injEq, Bool.and_eq_true, Bool.not_eq_true'] at outcome
    obtain ⟨silent, unscripted, connected, ⟨reading, writing⟩, nonempty⟩ := outcome
    have passive := passive_of_silent silent
    refine ⟨s, ran, passive, connected, reading, unscripted, nonempty, fun wait => ?_⟩
    obtain ⟨reads, writes⟩ :=
      refines_iff_of_waits Raw.unpolled ran passive connected reading unscripted wait
    exact ⟨reads, (writes (.inl nonempty)).1.mpr (.inl writing)⟩
  · obtain ⟨s, s', ran, waited, passive, connected, reading, unscripted, -, pending, idle⟩ :=
      Raw.exists_strandingRun
    have due : 0 < s.pending := by omega
    obtain ⟨-, writes⟩ :=
      refines_iff_of_waits Raw.unpolled ran passive connected reading unscripted .momentary
    obtain ⟨refines, exceeds⟩ := writes (.inr due)
    refine ⟨s, s', ran, passive, connected, reading, unscripted, due, waited,
      (exceeds idle s' waited).2.2, fun refined => ?_⟩
    rcases refines.mp (waited ▸ refined) with writing | fails
    · rw [idle] at writing
      cases writing
    · exact fails s' waited

end CanStream
