import CanStream.Proofs.Socket.Outline
import CanStream.Proofs.Socket.Waits
import CanStream.Proofs.Socket.After
import Mathlib.Logic.Basic
import Mathlib.Tactic.ByContra

/-!
# How pumps and waits end

A wait is made of polls and of the two pumps, and each of these ends in one of a few ways. They are
told here once, with the socket in which it comes to raise its event. A wait that returned is then a
finite sequence of turns, of which only the last one gives the answer.
-/

namespace CanStream

variable {P : Protocol} {α : Type}

namespace Socket

variable {emit : Emit P} {s s' : Socket P}

theorem announceRead_cases {available : Nat}
    (ran : announceRead emit available s = some ((), s')) :
    (available < s.available ∧ s.reportingRead = false ∧
      ∃ s₁, emit .readyRead (s.change fun c => { c with reportingRead := true }) =
          some ((), s₁) ∧ s' = s₁.change fun c => { c with reportingRead := false }) ∨
      ¬(available < s.available ∧ s.reportingRead = false) ∧ s' = s := by
  rw [announceRead, get_bind_apply] at ran
  by_cases grown : available < s.available ∧ s.reportingRead = false
  · rw [if_pos grown, update_bind_apply] at ran
    obtain ⟨⟨⟩, s₁, raised, ended⟩ := bind_eq_some.mp ran
    obtain ⟨-, rfl⟩ := Prod.mk.inj (Option.some.inj ended)
    exact .inl ⟨grown.1, grown.2, s₁, raised, rfl⟩
  · rw [if_neg grown] at ran
    obtain ⟨-, rfl⟩ := Prod.mk.inj (Option.some.inj ran)
    exact .inr ⟨grown, rfl⟩

theorem reportWritten_cases (ran : reportWritten emit s = some ((), s')) :
    (0 < s.pending ∧ s.reportingWrite = false ∧
      ∃ s₁, emit (.bytesWritten s.pending) (s.change Connection.report) = some ((), s₁) ∧
        s' = s₁.change fun c => { c with reportingWrite := false }) ∨
      (s.pending = 0 ∨ s.reportingWrite = true) ∧ s' = s := by
  rw [reportWritten, get_bind_apply] at ran
  by_cases due : 0 < s.pending ∧ s.reportingWrite = false
  · rw [if_pos due, update_bind_apply] at ran
    obtain ⟨⟨⟩, s₁, raised, ended⟩ := bind_eq_some.mp ran
    obtain ⟨-, rfl⟩ := Prod.mk.inj (Option.some.inj ended)
    exact .inl ⟨due.1, due.2, s₁, raised, rfl⟩
  · rw [if_neg due] at ran
    obtain ⟨-, rfl⟩ := Prod.mk.inj (Option.some.inj ran)
    rw [not_and_or, Nat.not_lt, Nat.le_zero, Bool.not_eq_false] at due
    exact .inr ⟨due, rfl⟩

/-- The socket after a poll. -/
def polled (s : Socket P) (read write : Bool) : Socket P :=
  s.called (Endpoint.poll read write s.endpoint).2

/-- How a poll ends. -/
inductive PollOutcome (emit : Emit P) (read write : Bool) (s : Socket P) :
    Option Readiness → Socket P → Prop
  | ready {r} (answered : (Endpoint.poll read write s.endpoint).1 = .ok (some r)) :
      PollOutcome emit read write s (some r) (s.polled read write)
  | failed {error s'} (raised : setError emit error (s.polled read write) = some ((), s')) :
      PollOutcome emit read write s none s'

theorem outcome_of_poll {read write : Bool} {answer : Option Readiness}
    (ran : poll emit read write s = some (answer, s')) :
    PollOutcome emit read write s answer s' := by
  rcases called : Endpoint.poll read write s.endpoint with ⟨result, e⟩
  have went : s.polled read write = s.called e := by rw [polled, called]
  have asked : callEndpoint (Endpoint.poll read write) s = some (result, s.polled read write) := by
    rw [callEndpoint, called, went]
  rw [poll, bind_of_eq asked] at ran
  rcases result with cause | ⟨⟨⟩ | r⟩
  · obtain ⟨rfl, ⟨⟩, raised⟩ := eq_of_bind_pure ran
    exact .failed raised
  · obtain ⟨rfl, ⟨⟩, raised⟩ := eq_of_bind_pure ran
    exact .failed raised
  · obtain ⟨rfl, rfl⟩ := Prod.mk.inj (Option.some.inj ran)
    exact .ready (congrArg Prod.fst called)

/-- The socket with what came of a read, before it is reported. -/
def settled (s : Socket P) (window : Nat) (result : Except IoError (List UInt8))
    (after : P.State × Endpoint) : Socket P :=
  ((s.hooked after).log (s.toConnection.readEntry after result)).change
    (·.settleRead s.toConnection window result)

/-- The socket with what came of a read that did not fail, before it is announced. -/
def received (s : Socket P) (window : Nat) (result : Except IoError (List UInt8))
    (after : P.State × Endpoint) : Socket P :=
  (s.settled window result after).log
    (.received s.available (s.settled window result after).available)

/-- How a read pump ends. -/
inductive ReadOutcome (emit : Emit P) (s : Socket P) : Bool → Socket P → Prop
  /-- There is no room for another unit. -/
  | full (full : s.readWindow? = none) : ReadOutcome emit s false s
  /-- What was read is in the buffer. -/
  | passed {window result after s'} (asked : s.readWindow? = some window)
      (ran : (P.read window).exec (s.protocol, s.endpoint) = (result, after))
      (passed : Passed result)
      (announced : announceRead emit s.available (s.received window result after) =
        some ((), s')) : ReadOutcome emit s true s'
  /-- The read failed. -/
  | failed {window cause after s'} (asked : s.readWindow? = some window)
      (ran : (P.read window).exec (s.protocol, s.endpoint) = (.error cause, after))
      (noRetry : cause.shouldRetry = false)
      (raised : setError emit (SocketError.ofTransfer .readError cause)
        (s.settled window (.error cause) after) = some ((), s')) :
      ReadOutcome emit s false s'

theorem outcome_of_pumpRead {answer : Bool} (ran : pumpRead emit s = some (answer, s')) :
    ReadOutcome emit s answer s' := by
  rw [pumpRead, get_bind_apply] at ran
  cases asked : s.readWindow? with
  | none =>
    rw [asked] at ran
    obtain ⟨rfl, rfl⟩ := Prod.mk.inj (Option.some.inj ran)
    exact .full asked
  | some window =>
    rcases hook : (P.read window).exec (s.protocol, s.endpoint) with ⟨result, after⟩
    simp only [asked, runHook_bind_apply, get_bind_apply, record_bind_apply, hook] at ran
    have takes (bytes : List UInt8)
        (ran : takeIn emit s.toConnection window bytes
            ((s.hooked after).log (s.toConnection.readEntry after result)) = some (answer, s'))
        (settles : (s.toConnection.hooked after).settleRead s.toConnection window result =
          (s.toConnection.hooked after).takeIn s.toConnection window bytes)
        (passed : Passed result) : ReadOutcome emit s answer s' := by
      have same : ((s.hooked after).log (s.toConnection.readEntry after result)).change
          (·.takeIn s.toConnection window bytes) = s.settled window result after := by
        rw [settled, change, change]
        exact congrArg (fun c => { (s.hooked after).log (s.toConnection.readEntry after result)
          with toConnection := c }) settles.symm
      rw [takeIn, update_bind_apply, get_bind_apply, record_bind_apply, same] at ran
      obtain ⟨rfl, ⟨⟩, announced⟩ := eq_of_bind_pure ran
      exact .passed asked hook passed announced
    cases result with
    | ok bytes => exact takes bytes ran rfl nofun
    | error cause =>
      by_cases retry : cause.shouldRetry = true
      · refine takes [] ?_ (if_pos retry) ?_
        · rw [← ran]
          exact congrFun (if_pos retry).symm _
        · rintro _ ⟨⟩
          exact retry
      · simp only [if_neg retry, refuseRead, update_bind_apply] at ran
        obtain ⟨rfl, ⟨⟩, raised⟩ := eq_of_bind_pure ran
        refine .failed asked hook (Bool.eq_false_iff.mpr retry) ?_
        rw [← raised]
        refine congrArg _ ?_
        rw [settled, change, change]
        exact congrArg (fun c => { (s.hooked after).log (s.toConnection.readEntry after _) with
          toConnection := c }) (if_neg retry)

/-- The socket with what came of a write that was offered what is at the head of the write buffer,
before a failure is reported. -/
def handed (s : Socket P) (result : Except IoError Nat) (after : P.State × Endpoint) : Socket P :=
  (((s.change Connection.align).hooked after).log
    (.writeHook s.reportingWrite s.align.writeBuffer.head (s.endpoint.writesTried after.2)
      (s.endpoint.writesMade after.2) result)).change (·.settleWrite result)

theorem startWrite_cases {answer : Bool} (nonempty : s.writeBuffer.isEmpty = false)
    (fresh : s.writeStarted = false) (ran : startWrite emit s = some (answer, s')) :
    ∃ result after, (P.write s.align.writeBuffer.head).exec (s.protocol, s.endpoint) =
        (result, after) ∧
      ((∃ n, result = .ok n ∧ answer = true ∧ s' = s.handed result after) ∨
        ∃ cause, result = .error cause ∧ answer = false ∧
          setError emit (SocketError.ofTransfer .writeError cause) (s.handed result after) =
            some ((), s')) := by
  have idle : ¬(s.writeBuffer.isEmpty || s.writeStarted) = true := by simp [nonempty, fresh]
  rw [startWrite, get_bind_apply, if_neg idle, update_bind_apply] at ran
  rcases hook : (P.write s.align.writeBuffer.head).exec (s.protocol, s.endpoint) with
    ⟨result, after⟩
  refine ⟨result, after, rfl, ?_⟩
  have same : (P.write (s.change Connection.align).writeBuffer.head).exec
      ((s.change Connection.align).protocol, (s.change Connection.align).endpoint) =
        (result, after) := hook
  simp only [get_bind_apply, runHook_bind_apply, record_bind_apply, same] at ran
  cases result with
  | ok n =>
    obtain ⟨rfl, ⟨⟩, updated⟩ := eq_of_bind_pure ran
    obtain ⟨-, rfl⟩ := Prod.mk.inj (Option.some.inj updated)
    exact .inl ⟨n, rfl, rfl, rfl⟩
  | error cause =>
    simp only [refuseWrite, update_bind_apply] at ran
    obtain ⟨rfl, ⟨⟩, raised⟩ := eq_of_bind_pure ran
    exact .inr ⟨cause, rfl, rfl, raised⟩

/-- The socket with no write under way. -/
def unstarted (s : Socket P) : Socket P := s.change fun c => { c with writeStarted := false }

/-- How a write pump ends, once it has reported what was written before. -/
inductive WriteOutcome (emit : Emit P) (s : Socket P) : Bool → Socket P → Prop
  /-- There is nothing to write. -/
  | idle {s₁} (reported : reportWritten emit s = some ((), s₁))
      (isEmpty : s₁.writeBuffer.isEmpty = true) :
      WriteOutcome emit s true (s₁.unstarted.change fun c => { c with wantsWrite := false })
  /-- Something was written, or could have been. -/
  | passed {s₁ n after} (reported : reportWritten emit s = some ((), s₁))
      (nonempty : s₁.writeBuffer.isEmpty = false)
      (ran : (P.write s₁.align.writeBuffer.head).exec (s₁.protocol, s₁.endpoint) =
        (.ok n, after)) : WriteOutcome emit s true (s₁.unstarted.handed (.ok n) after)
  /-- The write failed. -/
  | failed {s₁ cause after s'} (reported : reportWritten emit s = some ((), s₁))
      (nonempty : s₁.writeBuffer.isEmpty = false)
      (ran : (P.write s₁.align.writeBuffer.head).exec (s₁.protocol, s₁.endpoint) =
        (.error cause, after))
      (raised : setError emit (SocketError.ofTransfer .writeError cause)
        (s₁.unstarted.handed (.error cause) after) = some ((), s')) :
      WriteOutcome emit s false s'

theorem outcome_of_completeWrite {answer : Bool}
    (ran : completeWrite emit s = some (answer, s')) : WriteOutcome emit s answer s' := by
  obtain ⟨⟨⟩, s₁, reported, ran⟩ := bind_eq_some.mp ran
  rw [update_bind_apply, get_bind_apply] at ran
  cases isEmpty : s₁.writeBuffer.isEmpty with
  | true =>
    have nothing : s₁.unstarted.writeBuffer.isEmpty = true := isEmpty
    obtain ⟨rfl, ⟨⟩, updated⟩ := eq_of_bind_pure ((congrFun (if_pos nothing) _).symm.trans ran)
    obtain ⟨-, rfl⟩ := Prod.mk.inj (Option.some.inj updated)
    exact WriteOutcome.idle reported isEmpty
  | false =>
    have waiting : s₁.unstarted.writeBuffer.isEmpty = false := isEmpty
    have started : startWrite emit s₁.unstarted = some (answer, s') :=
      (congrFun (if_neg (Bool.eq_false_iff.mp waiting)) _).symm.trans ran
    obtain ⟨result, after, hook, ⟨n, rfl, rfl, rfl⟩ | ⟨cause, rfl, rfl, raised⟩⟩ :=
      startWrite_cases waiting rfl started
    · exact .passed reported isEmpty hook
    · exact .failed reported isEmpty hook raised

/-! ## Waits -/

/-- A turn that found its descriptor not readable leads from the one socket to the other before it
looks at the time: it pushed out what could be written. -/
def Pushed (emit : Emit P) (r : Readiness) (s s' : Socket P) : Prop :=
  if r.writable then completeWrite emit s = some (true, s') else s' = s

/-- A wait for data that reads by the given pump went from the one socket to the other. -/
inductive ReadWait (emit : Emit P) (pump : SocketM P Bool) : Socket P → Bool → Socket P → Prop
  /-- Nothing was ready, or the poll failed. -/
  | unready {s s' : Socket P}
      (polled : poll emit true (!s.writeBuffer.isEmpty) s = some (none, s')) :
      ReadWait emit pump s false s'
  /-- The descriptor was readable. -/
  | read {s s₁ s' : Socket P} {r answer}
      (polled : poll emit true (!s.writeBuffer.isEmpty) s = some (some r, s₁))
      (readable : r.readable = true) (pumped : pump s₁ = some (answer, s')) :
      ReadWait emit pump s answer s'
  /-- What waits could not be written. -/
  | refused {s s₁ s' : Socket P} {r}
      (polled : poll emit true (!s.writeBuffer.isEmpty) s = some (some r, s₁))
      (unreadable : r.readable = false) (writable : r.writable = true)
      (failed : completeWrite emit s₁ = some (false, s')) :
      ReadWait emit pump s false s'
  /-- The time was over. -/
  | late {s s₁ s₂ s' : Socket P} {r}
      (polled : poll emit true (!s.writeBuffer.isEmpty) s = some (some r, s₁))
      (unreadable : r.readable = false) (pushed : Pushed emit r s₁ s₂)
      (raised : setError emit (SocketError.ofKind .timeout) s₂ = some ((), s')) :
      ReadWait emit pump s false s'
  /-- The wait went on. -/
  | next {s s₁ s₂ s' : Socket P} {r answer}
      (polled : poll emit true (!s.writeBuffer.isEmpty) s = some (some r, s₁))
      (unreadable : r.readable = false) (pushed : Pushed emit r s₁ s₂)
      (rest : ReadWait emit pump s₂ answer s') : ReadWait emit pump s answer s'

/-- A turn that reads by the given pump, if it found its descriptor readable, leads from the one
socket to the other with the answer. -/
def Pumped (pump : SocketM P Bool) (r : Readiness) (s : Socket P) (answer : Bool) (s' : Socket P) :
    Prop :=
  if r.readable then pump s = some (answer, s') else answer = true ∧ s' = s

/-- A wait for a write that reads by the given pump went from the one socket to the other. -/
inductive WriteWait (emit : Emit P) (pump : SocketM P Bool) : Socket P → Bool → Socket P → Prop
  /-- Nothing was ready, or the poll failed. -/
  | unready {s s' : Socket P} (polled : poll emit s.wantsRead true s = some (none, s')) :
      WriteWait emit pump s false s'
  /-- The pump did not succeed. -/
  | unread {s s₁ s' : Socket P} {r}
      (polled : poll emit s.wantsRead true s = some (some r, s₁))
      (pumped : Pumped pump r s₁ false s') : WriteWait emit pump s false s'
  /-- The descriptor was writable. -/
  | wrote {s s₁ s₂ s' : Socket P} {r answer}
      (polled : poll emit s.wantsRead true s = some (some r, s₁))
      (pumped : Pumped pump r s₁ true s₂) (writable : r.writable = true)
      (pushed : completeWrite emit s₂ = some (answer, s')) : WriteWait emit pump s answer s'
  /-- The time was over. -/
  | late {s s₁ s₂ s' : Socket P} {r}
      (polled : poll emit s.wantsRead true s = some (some r, s₁))
      (pumped : Pumped pump r s₁ true s₂) (unwritable : r.writable = false)
      (raised : setError emit (SocketError.ofKind .timeout) s₂ = some ((), s')) :
      WriteWait emit pump s false s'
  /-- The wait went on. -/
  | next {s s₁ s₂ s' : Socket P} {r answer}
      (polled : poll emit s.wantsRead true s = some (some r, s₁))
      (pumped : Pumped pump r s₁ true s₂) (unwritable : r.writable = false)
      (rest : WriteWait emit pump s₂ answer s') : WriteWait emit pump s answer s'

/-- What is so of the socket when a wait for a write begins, and stays so in polls and reads, is so
when it writes in the end, if it succeeds. -/
theorem WriteWait.exists_push {motive : Socket P → Prop} {pump : SocketM P Bool} {answer : Bool}
    (wait : WriteWait emit pump s answer s') (start : motive s) (done : answer = true)
    (polls : ∀ {s s' read write r}, motive s → poll emit read write s = some (some r, s') →
      motive s')
    (pumps : ∀ {s s'}, motive s → pump s = some (true, s') → motive s') :
    ∃ s₁, motive s₁ ∧ completeWrite emit s₁ = some (true, s') := by
  have reads {r s s'} (h : motive s) (pumped : Pumped pump r s true s') : motive s' := by
    unfold Pumped at pumped
    split at pumped
    · exact pumps h pumped
    · rw [pumped.2]
      exact h
  induction wait with
  | unready polled => cases done
  | unread polled pumped => cases done
  | wrote polled pumped writable pushed =>
    subst done
    exact ⟨_, reads (polls start polled) pumped, pushed⟩
  | late polled pumped unwritable raised => cases done
  | next polled pumped unwritable rest ih => exact ih (reads (polls start polled) pumped) done

section

variable {pump : SocketM P Bool} {wait : Wait} {answer : Bool}

/-- After a turn the time is over, or the wait goes on. -/
theorem nextTurn_cases {turn : Nat} {go : SocketM P Bool}
    (ran : nextTurn emit wait turn go s = some (answer, s')) :
    (answer = false ∧ setError emit (SocketError.ofKind .timeout) s = some ((), s')) ∨
      go s = some (answer, s') := by
  rw [nextTurn] at ran
  by_cases isOver : wait.isOver turn = true
  · rw [if_pos isOver] at ran
    obtain ⟨rfl, ⟨⟩, raised⟩ := eq_of_bind_pure ran
    exact .inl ⟨rfl, raised⟩
  · rw [if_neg isOver] at ran
    exact .inr ran

theorem readWait_of_readTurnsBy {left : Nat} : ∀ {turn : Nat} {s : Socket P},
    readTurnsBy emit pump wait turn left s = some (answer, s') →
    ReadWait emit pump s answer s' := by
  induction left with
  | zero =>
    intro turn s ran
    cases ran
  | succ left ih =>
    intro turn s ran
    rw [readTurnsBy, get_bind_apply] at ran
    obtain ⟨found, s₁, polled, ran⟩ := bind_eq_some.mp ran
    cases found with
    | none =>
      obtain ⟨rfl, rfl⟩ := Prod.mk.inj (Option.some.inj ran)
      exact .unready polled
    | some r =>
      have goOn {s₂ : Socket P} (unreadable : r.readable = false) (pushed : Pushed emit r s₁ s₂)
          (ran : nextTurn emit wait turn (readTurnsBy emit pump wait (turn + 1) left) s₂ =
            some (answer, s')) : ReadWait emit pump s answer s' := by
        rcases nextTurn_cases ran with ⟨rfl, raised⟩ | rest
        · exact .late polled unreadable pushed raised
        · exact .next polled unreadable pushed (ih rest)
      cases readable : r.readable with
      | true =>
        simp only [readable, if_true] at ran
        exact .read polled readable ran
      | false =>
        cases writable : r.writable with
        | true =>
          simp only [readable, writable, if_true, Bool.false_eq_true, if_false] at ran
          obtain ⟨went, s₂, pushed, ran⟩ := bind_eq_some.mp ran
          cases went with
          | true =>
            refine goOn readable ?_ ran
            rw [Pushed, if_pos writable]
            exact pushed
          | false =>
            obtain ⟨rfl, rfl⟩ := Prod.mk.inj (Option.some.inj ran)
            exact .refused polled readable writable pushed
        | false =>
          simp only [readable, writable, Bool.false_eq_true, if_false] at ran
          refine goOn readable ?_ ran
          rw [Pushed, if_neg (Bool.eq_false_iff.mp writable)]

theorem writeWait_of_writeTurnsBy {left : Nat} : ∀ {turn : Nat} {s : Socket P},
    writeTurnsBy emit pump wait turn left s = some (answer, s') →
    WriteWait emit pump s answer s' := by
  induction left with
  | zero =>
    intro turn s ran
    cases ran
  | succ left ih =>
    intro turn s ran
    rw [writeTurnsBy, get_bind_apply] at ran
    obtain ⟨found, s₁, polled, ran⟩ := bind_eq_some.mp ran
    cases found with
    | none =>
      obtain ⟨rfl, rfl⟩ := Prod.mk.inj (Option.some.inj ran)
      exact .unready polled
    | some r =>
      -- What is left of the turn is the same whether anything was read in it or not.
      have goOn (read : Bool) {s₂ : Socket P} (pumped : Pumped pump r s₁ read s₂)
          (ran : (if !read then pure false
              else if r.writable then completeWrite emit
              else nextTurn emit wait turn (writeTurnsBy emit pump wait (turn + 1) left)
              : SocketM P Bool) s₂ = some (answer, s')) : WriteWait emit pump s answer s' := by
        cases read with
        | false =>
          obtain ⟨rfl, rfl⟩ := Prod.mk.inj (Option.some.inj ran)
          exact .unread polled pumped
        | true =>
          cases writable : r.writable with
          | true =>
            simp only [writable, Bool.not_true, Bool.false_eq_true, if_false, if_true] at ran
            exact .wrote polled pumped writable ran
          | false =>
            simp only [writable, Bool.not_true, Bool.false_eq_true, if_false] at ran
            rcases nextTurn_cases ran with ⟨rfl, raised⟩ | rest
            · exact .late polled pumped writable raised
            · exact .next polled pumped writable (ih rest)
      cases readable : r.readable with
      | true =>
        simp only [readable, if_true] at ran
        obtain ⟨read, s₂, pumped, ran⟩ := bind_eq_some.mp ran
        refine goOn read ?_ ran
        rw [Pumped, if_pos readable]
        exact pumped
      | false =>
        simp only [readable, Bool.false_eq_true, if_false] at ran
        refine goOn true ?_ ran
        rw [Pumped, if_neg (Bool.eq_false_iff.mp readable)]
        exact ⟨rfl, rfl⟩

/-- A wait for data fails at once on an unconnected socket. -/
theorem readWait_of_waitForReadyReadBy
    (ran : waitForReadyReadBy emit pump wait s = some (answer, s')) :
    (s.state = .unconnected ∧ answer = false ∧ s' = s) ∨ ReadWait emit pump s answer s' := by
  rw [waitForReadyReadBy, get_bind_apply] at ran
  by_cases unconnected : s.state = .unconnected
  · rw [if_pos unconnected] at ran
    obtain ⟨rfl, rfl⟩ := Prod.mk.inj (Option.some.inj ran)
    exact .inl ⟨unconnected, rfl, rfl⟩
  · rw [if_neg unconnected] at ran
    exact .inr (readWait_of_readTurnsBy ran)

/-- So does a wait for a write, also when there is nothing to write or to report. -/
theorem writeWait_of_waitForBytesWrittenBy
    (ran : waitForBytesWrittenBy emit pump wait s = some (answer, s')) :
    ((s.state = .unconnected ∨ s.writeBuffer.isEmpty = true ∧ s.pending = 0) ∧ answer = false ∧
      s' = s) ∨
      (s.writeBuffer.isEmpty = false ∨ s.pending ≠ 0) ∧ WriteWait emit pump s answer s' := by
  rw [waitForBytesWrittenBy, get_bind_apply] at ran
  by_cases unconnected : s.state = .unconnected
  · rw [if_pos unconnected] at ran
    obtain ⟨rfl, rfl⟩ := Prod.mk.inj (Option.some.inj ran)
    exact .inl ⟨.inl unconnected, rfl, rfl⟩
  rw [if_neg unconnected] at ran
  by_cases nothing : (s.writeBuffer.isEmpty && s.pending == 0) = true
  · rw [if_pos nothing] at ran
    obtain ⟨rfl, rfl⟩ := Prod.mk.inj (Option.some.inj ran)
    exact .inl ⟨.inr (by simpa using nothing), rfl, rfl⟩
  · rw [if_neg nothing] at ran
    refine .inr ⟨?_, writeWait_of_writeTurnsBy ran⟩
    by_contra neither
    exact nothing (by simpa [not_or] using neither)

end

end Socket

end CanStream
