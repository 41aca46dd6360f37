import CanStream.Proofs.Socket.Pump
import CanStream.Proofs.Socket.Undisturbed

/-!
# Why a wait fails

A wait that fails reports an error: that of a poll, of a read or of a write, or that its time is
over. There is one more way to fail. A wait that finds its descriptor readable reads, and if the
read buffer is full then this read fails and no error is reported. To tell when this happens a pump
is put in the place of the read pump that has no result for want of room.
-/

namespace CanStream

variable {P : Protocol} {α : Type}

/-- Whether an error was reported. -/
def Entry.isError : Entry P → Bool
  | raised (.error _) => true
  | _ => false

namespace Socket

variable {emit : Emit P} {s s₁ s' : Socket P} {answer : Bool}

/-- The read pump of a wait that is patient. It has no result as long as there is no room. -/
def patientPump (emit : Emit P) : SocketM P Bool := do
  let s ← get
  if s.readWindow?.isNone then never else pumpRead emit

theorem pumpRead_of_patientPump (ran : patientPump emit s = some (answer, s')) :
    s.readWindow?.isNone = false ∧ pumpRead emit s = some (answer, s') := by
  rw [patientPump, get_bind_apply] at ran
  split at ran
  case isTrue full => cases ran
  case isFalse room => exact ⟨Bool.eq_false_iff.mpr room, ran⟩

section

variable (raises : Raises emit)

include raises

theorem Raises.emits_isPrefix (j₀ : List (Entry P)) :
    Emits Scope.all (fun _ j => j₀ <+: j) emit :=
  fun e _ => raises.upholds (lasting_isPrefix j₀) e

omit raises in
theorem enduring_isPrefix (j₀ : List (Entry P)) : Enduring fun (_ : Connection P) j => j₀ <+: j :=
  Lasting.enduring (lasting_isPrefix j₀)

theorem Raises.isPrefix_of_poll {read write : Bool} {r : Option Readiness}
    (ran : poll emit read write s = some (r, s')) : s.journal <+: s'.journal := by
  have steps := (enduring_isPrefix s.journal).steps
  have upholds := upholds_poll steps.toCarrySteps (raises.emits_isPrefix _) read write
  exact upholds.holds List.prefix_rfl ran

theorem Raises.isPrefix_of_pumpRead (ran : pumpRead emit s = some (answer, s')) :
    s.journal <+: s'.journal := by
  obtain ⟨steps, reads, -, -⟩ := enduring_isPrefix s.journal
  have upholds := upholds_pumpRead steps.toBasicSteps reads.toPumpSteps (raises.emits_isPrefix _)
    (raises.upholds (lasting_isPrefix _) .readyRead)
  exact upholds.holds List.prefix_rfl ran

theorem Raises.isPrefix_of_reportWritten (ran : reportWritten emit s = some ((), s')) :
    s.journal <+: s'.journal := by
  have steps := (enduring_isPrefix s.journal).steps
  have upholds := upholds_reportWritten (raises.emits_isPrefix _) steps.toTransferSteps
  exact upholds.holds List.prefix_rfl ran

theorem Raises.isPrefix_of_completeWrite (ran : completeWrite emit s = some (answer, s')) :
    s.journal <+: s'.journal := by
  have steps := (enduring_isPrefix s.journal).steps
  have upholds := upholds_completeWrite (raises.emits_isPrefix _) steps.toTransferSteps
  exact upholds.holds List.prefix_rfl ran

theorem Raises.isPrefix_of_pushed {r : Readiness} (pushed : Pushed emit r s s') :
    s.journal <+: s'.journal := by
  unfold Pushed at pushed
  split at pushed
  · exact raises.isPrefix_of_completeWrite pushed
  · rw [pushed]

end

/-- The first socket became the second one, and an error was reported meanwhile. -/
def Complained (s s' : Socket P) : Prop :=
  ∃ more kind, s.journal ++ more ++ [.raised (.error kind)] <+: s'.journal

theorem Complained.after (grown : s.journal <+: s₁.journal) (h : Complained s₁ s') :
    Complained s s' := by
  obtain ⟨before, begins⟩ := grown
  obtain ⟨more, kind, told⟩ := h
  rw [← begins, List.append_assoc s.journal] at told
  exact ⟨before ++ more, kind, told⟩

theorem Complained.exists_isError (h : Complained s s') :
    ∃ entry ∈ added s.journal s'.journal, entry.isError = true := by
  obtain ⟨more, kind, rest, told⟩ := h
  rw [List.append_assoc, List.append_assoc] at told
  refine ⟨.raised (.error kind), ?_, rfl⟩
  rw [added_of_eq told.symm]
  simp

section

variable (raises : Raises emit)

include raises

theorem complained_of_setError {error : SocketError}
    (ran : setError emit error s = some ((), s')) : Complained s s' := by
  refine ⟨[], error.kind, ?_⟩
  rw [List.append_nil]
  exact raises.isPrefix (s := s.change fun c => { c with error := error }) ran

theorem complained_of_poll {read write : Bool}
    (ran : poll emit read write s = some (none, s')) : Complained s s' := by
  cases outcome_of_poll ran with
  | failed raised => exact (complained_of_setError raises raised).after List.prefix_rfl

theorem complained_of_patientPump (ran : patientPump emit s = some (false, s')) :
    Complained s s' := by
  obtain ⟨room, ran⟩ := pumpRead_of_patientPump ran
  cases outcome_of_pumpRead ran with
  | full noWindow =>
    rw [noWindow] at room
    cases room
  | failed asked hook noRetry raised =>
    exact (complained_of_setError raises raised).after (List.prefix_append ..)

theorem complained_of_completeWrite (ran : completeWrite emit s = some (false, s')) :
    Complained s s' := by
  cases outcome_of_completeWrite ran with
  | failed reported nonempty hook raised =>
    exact ((complained_of_setError raises raised).after (List.prefix_append ..)).after
      (raises.isPrefix_of_reportWritten reported)

theorem isPrefix_of_pumped {r : Readiness} (pumped : Pumped (patientPump emit) r s answer s') :
    s.journal <+: s'.journal := by
  unfold Pumped at pumped
  split at pumped
  · exact raises.isPrefix_of_pumpRead (pumpRead_of_patientPump pumped).2
  · rw [pumped.2]

/-- A patient wait for data that fails tells why. -/
theorem complained_of_readWait (wait : ReadWait emit (patientPump emit) s answer s')
    (failed : answer = false) : Complained s s' := by
  induction wait with
  | unready polled => exact complained_of_poll raises polled
  | read polled readable pumped =>
    subst failed
    exact (complained_of_patientPump raises pumped).after (raises.isPrefix_of_poll polled)
  | refused polled unreadable writable pushed =>
    exact (complained_of_completeWrite raises pushed).after (raises.isPrefix_of_poll polled)
  | late polled unreadable pushed raised =>
    exact ((complained_of_setError raises raised).after (raises.isPrefix_of_pushed pushed)).after
      (raises.isPrefix_of_poll polled)
  | next polled unreadable pushed rest ih =>
    exact ((ih failed).after (raises.isPrefix_of_pushed pushed)).after
      (raises.isPrefix_of_poll polled)

/-- So does a patient wait for a write. -/
theorem complained_of_writeWait (wait : WriteWait emit (patientPump emit) s answer s')
    (failed : answer = false) : Complained s s' := by
  induction wait with
  | unready polled => exact complained_of_poll raises polled
  | unread polled pumped =>
    unfold Pumped at pumped
    split at pumped
    · exact (complained_of_patientPump raises pumped).after (raises.isPrefix_of_poll polled)
    · cases pumped.1
  | wrote polled pumped writable pushed =>
    subst failed
    exact ((complained_of_completeWrite raises pushed).after
      (isPrefix_of_pumped raises pumped)).after (raises.isPrefix_of_poll polled)
  | late polled pumped unwritable raised =>
    exact ((complained_of_setError raises raised).after (isPrefix_of_pumped raises pumped)).after
      (raises.isPrefix_of_poll polled)
  | next polled pumped unwritable rest ih =>
    exact ((ih failed).after (isPrefix_of_pumped raises pumped)).after
      (raises.isPrefix_of_poll polled)

end

/-- The outcome of an operation that failed for want of room, on a socket of which something is so.
-/
def Brimful (motive : Socket P → Prop) (answer : Bool) (s : Socket P) : Prop :=
  answer = false ∧ s.readWindow? = none ∧ motive s

theorem mayLose_patientPump {motive : Socket P → Prop} (h : motive s) :
    MayLose (Brimful motive) (pumpRead emit) (patientPump emit) s := by
  intro answer s' ran
  rw [patientPump, get_bind_apply]
  cases full : s.readWindow? with
  | none =>
    rw [pumpRead_of_full full] at ran
    obtain ⟨rfl, rfl⟩ := Prod.mk.inj (Option.some.inj ran)
    exact .inr ⟨rfl, rfl, full, h⟩
  | some window => exact .inl ran

/-- Undisturbed the first socket became the second one, and no error was reported meanwhile. -/
abbrev Unblamed (emit : Emit P) (s s' : Socket P) : Prop :=
  Retains emit (fun _ => ()) (fun entry => entry.isError = false) s s'

namespace Unblamed

theorem poll (h : Unblamed emit s s₁) {read write : Bool} {r : Readiness}
    (ran : Socket.poll emit read write s₁ = some (some r, s')) : Unblamed emit s s' :=
  h.trans (.of_poll h.undisturbed ran fun _ _ => rfl)

theorem pumpRead (h : Unblamed emit s s₁) (ran : Socket.pumpRead emit s₁ = some (true, s')) :
    Unblamed emit s s' :=
  h.trans (.of_pumpRead h.undisturbed ran (fun _ _ _ _ => rfl) (fun _ _ _ => rfl)
    (fun _ _ => rfl) rfl)

theorem completeWrite (h : Unblamed emit s s₁)
    (ran : Socket.completeWrite emit s₁ = some (true, s')) : Unblamed emit s s' :=
  h.trans (.of_completeWrite h.undisturbed ran (fun _ _ => rfl) (fun _ => rfl) (fun _ => rfl)
    (fun _ => rfl) fun _ _ _ _ _ => rfl)

theorem not_exists_isError (h : Unblamed emit s s') :
    ¬∃ entry ∈ added s.journal s'.journal, entry.isError = true := by
  obtain ⟨c, entries, comes, -, errorless⟩ := h
  have own (entry : Entry P) (isError : entry.isError = true) : entry.isHandling = false := by
    cases entry <;> first | rfl | cases isError
  rw [comes.exists_added_iff own]
  rintro ⟨entry, member, isError⟩
  rw [errorless entry member] at isError
  cases isError

end Unblamed

/-! ## Waits -/

/-- If the wait fails it reports an error, or else it found the read buffer full: then the patient
one has no result, and there is no room. Nobody interfering, it reports an error just if the patient
one has a result. -/
def Explains (emit : Emit P) (wait patient : SocketM P Bool) (s : Socket P) : Prop :=
  ∀ s', wait s = some (false, s') →
    ((∃ entry ∈ added s.journal s'.journal, entry.isError = true) ∨
      patient s = none ∧ s'.readWindow? = none) ∧
    (Undisturbed emit s →
      ((∃ entry ∈ added s.journal s'.journal, entry.isError = true) ↔ patient s ≠ none))

/-- A wait explains itself if nothing is lost but outcomes for want of room, and if the patient one
tells why it fails. -/
theorem explains_of_mayLose {wait patient : SocketM P Bool}
    (mayLose : MayLose (Brimful fun s' => Undisturbed emit s → Unblamed emit s s') wait patient s)
    (tells : ∀ s', patient s = some (false, s') → Complained s s') :
    Explains emit wait patient s := by
  intro s' failed
  rcases mayLose false s' failed with same | ⟨unended, -, full, unblamed⟩
  · have told := (tells s' same).exists_isError
    refine ⟨.inl told, fun _ => iff_of_true told fun unended => ?_⟩
    rw [same] at unended
    cases unended
  · exact ⟨.inr ⟨unended, full⟩, fun undisturbed =>
      iff_of_false (unblamed undisturbed).not_exists_isError fun ended => ended unended⟩

/-- A wait for data on a socket that is not unconnected tells why it fails, unless the read buffer
is full. So does a wait for a write, if there is something to write or to report. -/
theorem explains_of_waits (raises : Raises emit) (wait : Wait)
    (entered : s.state ≠ .unconnected) :
    Explains emit (waitForReadyRead emit wait)
        (waitForReadyReadBy emit (patientPump emit) wait) s ∧
      (s.writeBuffer.isEmpty = false ∨ s.pending ≠ 0 →
        Explains emit (waitForBytesWritten emit wait)
          (waitForBytesWrittenBy emit (patientPump emit) wait) s) := by
  let motive (s' : Socket P) : Prop := Undisturbed emit s → Unblamed emit s s'
  have start : motive s := fun undisturbed => .refl undisturbed
  have polls {s₁ s₂ : Socket P} {read write : Bool} {r : Readiness} (h : motive s₁)
      (polled : poll emit read write s₁ = some (some r, s₂)) : motive s₂ :=
    fun undisturbed => (h undisturbed).poll polled
  have pumps {s₁ s₂ : Socket P} (h : motive s₁) (pumped : patientPump emit s₁ = some (true, s₂)) :
      motive s₂ :=
    fun undisturbed => (h undisturbed).pumpRead (pumpRead_of_patientPump pumped).2
  constructor
  · rw [waitForReadyRead_eq]
    refine explains_of_mayLose ?_ fun s' failed => ?_
    · exact .get (.ite (.refl _) (mayLose_readTurnsBy polls mayLose_patientPump wait
        (fun h pushed undisturbed => (h undisturbed).completeWrite pushed) (Nat.le_refl _) _ start))
    · rcases readWait_of_waitForReadyReadBy failed with ⟨unconnected, -⟩ | waited
      · exact absurd unconnected entered
      · exact complained_of_readWait raises waited rfl
  · intro due
    rw [waitForBytesWritten_eq]
    refine explains_of_mayLose ?_ fun s' failed => ?_
    · exact .get (.ite (.refl _) (.ite (.refl _) (mayLose_writeTurnsBy polls mayLose_patientPump
        wait pumps (fun lost => by cases lost.1) (Nat.le_refl _) _ start)))
    · rcases writeWait_of_waitForBytesWrittenBy failed with ⟨nothing, -⟩ | ⟨-, waited⟩
      · rcases nothing with unconnected | ⟨isEmpty, unpending⟩
        · exact absurd unconnected entered
        · rcases due with waiting | unreported
          · rw [isEmpty] at waiting
            cases waiting
          · exact absurd unpending unreported
      · exact complained_of_writeWait raises waited rfl

end Socket

open Socket

/-- A run after which the read buffer is full and more data is there to be read. -/
def Raw.brimfulRun : List (Action Raw.protocol) :=
  [.ask (.connect "" .readWrite), .ask (.cue (.pushRead (List.replicate 16 1))), .ask .readReady,
    .ask (.setReadLimit 16), .ask (.cue (.pushRead (List.replicate 16 2)))]

/-- The wait for data fails, and nothing is reported. -/
theorem Raw.exists_brimfulRun :
    ∃ s s', run Raw.brimfulRun (fresh .initial .blank 20 20) = some ((), s) ∧
      perform (.waitForReadyRead .momentary) s = some (false, s') ∧ s.handler = none ∧
      s.state = .connected ∧ s.readLimit = 16 ∧
      ∀ entry ∈ added s.journal s'.journal, entry.isError = false := by
  obtain ⟨s, ready, s', ran, waited, outcome⟩ : ∃ s ready s',
      run Raw.brimfulRun (fresh .initial .blank 20 20) = some ((), s) ∧
        waitForReadyRead emit .momentary s = some (ready, s') ∧
        (ready, s.handler.isNone, s.state, s.readLimit,
          (added s.journal s'.journal).all fun entry => !entry.isError) =
          (false, true, .connected, 16, true) :=
    exists_asked (by decide +kernel)
  simp only [Prod.mk.injEq] at outcome
  obtain ⟨rfl, alone, connected, limit, errorless⟩ := outcome
  refine ⟨s, s', ran, waited, Option.isNone_iff_eq_none.mp alone, connected, limit,
    fun entry member => ?_⟩
  simpa using List.all_eq_true.mp errorless entry member

theorem not_always_explained :
    ¬∀ (P : Protocol) (protocol : P.State) (endpoint : Endpoint) (readChunk writeChunk : Nat)
      (actions : List (Action P)) (s s' : Socket P) (wait : Wait),
      run actions (fresh protocol endpoint readChunk writeChunk) = some ((), s) →
      s.state ≠ .unconnected → perform (.waitForReadyRead wait) s = some (false, s') →
      ∃ entry ∈ added s.journal s'.journal, entry.isError = true := by
  intro always
  obtain ⟨s, s', ran, waited, -, connected, -, errorless⟩ := Raw.exists_brimfulRun
  have entered : s.state ≠ .unconnected := by simp [connected]
  obtain ⟨entry, member, isError⟩ := always _ _ _ _ _ _ s s' _ ran entered waited
  rw [errorless entry member] at isError
  cases isError

/-- A patient wait would not end. -/
theorem explains_of_waits_brimfulRun :
    ∃ s s', run Raw.brimfulRun (fresh .initial .blank 20 20) = some ((), s) ∧
      waitForReadyRead emit .momentary s = some (false, s') ∧ s.state ≠ .unconnected ∧
      waitForReadyReadBy emit (patientPump emit) .momentary s = none ∧ s'.readWindow? = none := by
  obtain ⟨s, s', ran, waited, alone, connected, -, errorless⟩ := Raw.exists_brimfulRun
  have entered : s.state ≠ .unconnected := by simp [connected]
  refine ⟨s, s', ran, waited, entered, ?_⟩
  rcases ((explains_of_waits (.inl rfl) .momentary entered).1 s' waited).1 with told | lost
  · obtain ⟨entry, member, isError⟩ := told
    rw [errorless entry member] at isError
    cases isError
  · exact lost

end CanStream
