import CanStream.Proofs.ByteQueue.Contents
import CanStream.Proofs.Socket.Fields
import CanStream.Proofs.Socket.Upholds
import CanStream.Proofs.Socket.Waits
import Mathlib.Tactic.ByContra
import Mathlib.Logic.Basic

/-!
# Operations uphold what their steps uphold

Every operation of a socket leads from an assertion to itself, in whatever way it raises events, if
its steps do and raising an event does too.
-/

namespace CanStream.Socket

variable {P : Protocol} {α : Type} {scope : Scope P} {I B O W R N J : Assertion P}

section Operations

variable {emit : Emit P}

/-- An error that is reported leads from what holds before it to what holds after it. -/
theorem upholds_setError_of (error : SocketError) (emits : Emits scope I emit)
    (step : ∀ c j, J c j → I { c with error := error } (j ++ [.raised (.error error.kind)])) :
    Upholds scope J (setError emit error) I :=
  Upholds.bind (Upholds.update (fun _ => ⟨rfl, rfl⟩) step)
    fun _ => emits (.error error.kind) nofun

theorem upholds_setError (steps : BasicSteps I) (emits : Emits scope I emit)
    (error : SocketError) : Upholds scope I (setError emit error) I :=
  upholds_setError_of error emits fun _ _ h => steps.error error h

/-- A change of state that is reported leads from what holds before it to what holds after it. -/
theorem upholds_setState (state : SocketState) (emits : Emits scope J emit)
    (same : ∀ c j, I c j → c.state = state → J c j)
    (other : ∀ c j, I c j → c.state ≠ state →
      J { c with state := state } (j ++ [.raised (.stateChanged state)])) :
    Upholds scope I (setState emit state) J := by
  refine Upholds.get fun s₀ => Upholds.ite ?_ ?_
  · intro isSame
    refine Upholds.pure _ ?_
    rintro c j ⟨h, rfl⟩
    exact same _ j h isSame
  · intro isOther
    refine Upholds.bind (J := fun c j => J c (j ++ [.raised (.stateChanged state)]))
      (Upholds.update (fun _ => ⟨rfl, rfl⟩) ?_) fun _ => emits (.stateChanged state) nofun
    rintro c j ⟨h, rfl⟩
    exact other _ j h isOther

theorem upholds_reportFailure (result : Except IoError α) (emits : Emits scope I emit)
    (step : ∀ c j (error : SocketError), I c j →
      I { c with error := error } (j ++ [.raised (.error error.kind)])) :
    Upholds scope I (reportFailure emit result) I := by
  cases result with
  | ok a => exact Upholds.skip ()
  | error cause => exact upholds_setError_of _ emits fun c j h => step c j _ h

theorem upholds_close {S D : Assertion P} (steps : CloseSteps S W R D) (emits : Emits scope D emit)
    (emitsClosing : Emits scope W emit) (emitsReleased : Emits scope R emit) :
    Upholds scope S (close emit) D := by
  refine Upholds.get fun s₀ => Upholds.ite ?_ ?_
  · intro isUnconnected
    refine Upholds.pure _ ?_
    rintro c j ⟨h, rfl⟩
    exact steps.stay h isUnconnected
  intro isOpen
  refine Upholds.bind (J := W) (upholds_setState _ emitsClosing ?_ ?_) fun _ => ?_
  · rintro c j ⟨h, rfl⟩ isClosing
    exact steps.goOnClosing h isClosing
  · rintro c j ⟨h, rfl⟩ isOther
    exact steps.beginClose h isOpen isOther
  refine Upholds.bind (J := fun c j => ∃ c₀, W c₀ j ∧ c = c₀.hush)
    (Upholds.update (fun _ => ⟨rfl, rfl⟩) fun c _ h => ⟨c, h, rfl⟩) fun _ => ?_
  refine Upholds.bind (J := R) (Upholds.callEndpoint ?_) fun result => ?_
  · rintro _ j ⟨c, h, rfl⟩
    exact steps.release h
  refine Upholds.bind (upholds_reportFailure result emitsReleased
    fun _ _ error h => steps.releaseFailed error h) fun _ => ?_
  -- What holds of the socket in the last two steps is what they make of a released one.
  refine Upholds.bind (J := fun c j => ∃ c₀, R c₀ j ∧ c = c₀.discard)
    (Upholds.update (fun _ => ⟨rfl, rfl⟩) fun c _ h => ⟨c, h, rfl⟩) fun _ => ?_
  refine Upholds.bind
    (J := fun c j => ∃ c₀ j₀, R c₀ j₀ ∧ c = c₀.discard ∧ j = j₀ ++ [.discarded])
    (Upholds.record ?_) fun _ => upholds_setState _ emits ?_ ?_
  · rintro c j ⟨c₀, h, rfl⟩
    exact ⟨c₀, j, h, rfl, rfl⟩
  · rintro c j ⟨c₀, j₀, h, rfl, rfl⟩ isSame
    exact steps.discard h isSame
  · rintro c j ⟨c₀, j₀, h, rfl, rfl⟩ isOther
    exact steps.endClose h isOther

/-- What is left of a connect to an interface once the socket was prepared for it. -/
def establish (emit : Emit P) (ifname : String) (mode : OpenMode) : SocketM P Bool := do
  setState emit .connecting
  let result ← runHook (P.connect ifname)
  record (.setUp result)
  match result with
  | .error cause => do
      setError emit cause
      close emit
      pure false
  | .ok _ => do
      update fun c => { c with wantsRead := c.wantsRead || mode.reads }
      setState emit .connected
      pure true

section

variable {ifname : String} {mode : OpenMode} {s : Socket P}

theorem connect_of_busy (busy : s.state ≠ .unconnected) :
    connect emit ifname mode s =
      (do setError emit
            ⟨.operationError, "Trying to connect while connection is in progress"⟩
          pure false : SocketM P Bool) s := by
  rw [connect, get_bind_apply, if_pos busy]

theorem connect_of_unsupported (unconnected : s.state = .unconnected)
    (unsupported : mode.isSupported = false) :
    connect emit ifname mode s =
      (do setError emit ⟨.unsupportedOperation, "Unsupported open mode"⟩
          pure false : SocketM P Bool) s := by
  rw [connect, get_bind_apply, if_neg (not_not_intro unconnected), if_pos (by simp [unsupported])]

theorem connect_of_supported (unconnected : s.state = .unconnected)
    (supported : mode.isSupported = true) :
    connect emit ifname mode s =
      establish emit ifname mode
        ((s.change (·.prepare ifname mode)).log (.cleared ifname mode)) := by
  rw [connect, get_bind_apply, if_neg (not_not_intro unconnected), if_neg (by simp [supported])]
  rfl

/-- A socket that was prepared moves on to connecting, and from there as far as it gets. -/
theorem upholds_establish {S D : Assertion P} (steps : ConnectSteps ifname mode S O W R D)
    (emits : Emits scope D emit) (emitsOpening : Emits scope O emit)
    (emitsClosing : Emits scope W emit) (emitsReleased : Emits scope R emit)
    (goesOn : ∀ c j, I c j → c.state = .connecting → O c j)
    (begins : ∀ c j, I c j → c.state ≠ .connecting →
      O { c with state := .connecting } (j ++ [.raised (.stateChanged .connecting)])) :
    Upholds scope I (establish emit ifname mode) D := by
  refine Upholds.bind (J := O) (upholds_setState _ emitsOpening goesOn begins) fun _ => ?_
  refine Upholds.runHook fun result after => ?_
  refine Upholds.bind
    (J := fun c j => ∃ c₀ j₀, O c₀ j₀ ∧
      (P.connect ifname).exec (c₀.protocol, c₀.endpoint) = (result, after) ∧
      c = c₀.hooked after ∧ j = j₀ ++ [.setUp result])
    (Upholds.record ?_) fun _ => ?_
  · rintro c j ⟨c₀, h, ran, rfl⟩
    exact ⟨c₀, j, h, ran, rfl, rfl⟩
  cases result with
  | error cause =>
    refine Upholds.bind (upholds_setError_of cause emitsOpening ?_) fun _ =>
      Upholds.bind (upholds_close steps.giveUp emits emitsClosing emitsReleased) fun _ =>
        Upholds.skip false
    rintro c j ⟨c₀, j₀, h, ran, rfl, rfl⟩
    exact steps.connectFailed h ran
  | ok done =>
    refine Upholds.bind
      (J := fun c j => ∃ c₀ j₀, O c₀ j₀ ∧
        (P.connect ifname).exec (c₀.protocol, c₀.endpoint) = (.ok (), after) ∧
        c = { c₀.hooked after with wantsRead := c₀.wantsRead || mode.reads } ∧
        j = j₀ ++ [.setUp (.ok ())])
      (Upholds.update (fun _ => ⟨rfl, rfl⟩) ?_) fun _ =>
      Upholds.bind (upholds_setState _ emits ?_ ?_) fun _ => Upholds.skip true
    · rintro c j ⟨c₀, j₀, h, ran, rfl, rfl⟩
      exact ⟨c₀, j₀, h, ran, rfl, rfl⟩
    · rintro c j ⟨c₀, j₀, h, ran, rfl, rfl⟩ isConnected
      exact steps.reconnected h ran isConnected
    · rintro c j ⟨c₀, j₀, h, ran, rfl, rfl⟩ isOther
      exact steps.connected (c := c₀) h ran isOther

theorem upholds_connect {S D : Assertion P} (steps : ConnectSteps ifname mode S O W R D)
    (emits : Emits scope D emit) (emitsOpening : Emits scope O emit)
    (emitsClosing : Emits scope W emit) (emitsReleased : Emits scope R emit) :
    Upholds scope S (connect emit ifname mode) D := by
  intro s ready
  have error (e : SocketError) : Upholds scope S (do setError emit e; pure false) D :=
    Upholds.bind (upholds_setError_of e emits fun _ _ h => steps.refuse e h) fun _ =>
      Upholds.skip _
  by_cases unconnected : s.state = .unconnected
  · cases supported : mode.isSupported with
    | false =>
      unfold After
      rw [connect_of_unsupported unconnected supported]
      exact error _ s ready
    | true =>
      unfold After
      rw [connect_of_supported unconnected supported]
      let prepared := (s.change (·.prepare ifname mode)).log (.cleared ifname mode)
      have start : Ready scope (fun c j => ∃ c₀ j₀, S c₀ j₀ ∧ c₀.state = .unconnected ∧
          c = c₀.prepare ifname mode ∧ j = j₀ ++ [.cleared ifname mode]) prepared :=
        ⟨⟨_, _, ready.holds, unconnected, rfl, rfl⟩, ready.handler⟩
      refine upholds_establish steps emits emitsOpening emitsClosing emitsReleased ?_ ?_ prepared
        start
      · rintro c j ⟨c₀, j₀, h, unconnected, rfl, rfl⟩ isConnecting
        have impossible : c₀.state = .connecting := isConnecting
        rw [unconnected] at impossible
        cases impossible
      · rintro c j ⟨c₀, j₀, h, unconnected, rfl, rfl⟩ _
        exact steps.prepare h unconnected supported
  · unfold After
    rw [connect_of_busy unconnected]
    exact error _ s ready

end

/-! ## The pumps -/

section

variable {S : Assertion P} (basic : BasicSteps I) (pumps : PumpSteps S I N)
  (emits : Emits scope I emit) (announces : Announces scope N emit)

include pumps announces

/-- An arrival is reported if it is one and none is being reported. -/
theorem upholds_announceRead {available : Nat}
    (begins : ∀ c j, J c j → available < c.available → c.reportingRead = false →
      N { c with reportingRead := true } (j ++ [.raised .readyRead]))
    (skips : ∀ c j, J c j → ¬(available < c.available ∧ c.reportingRead = false) → I c j) :
    Upholds scope J (announceRead emit available) I := by
  intro s ready
  simp only [announceRead, after_bind, after_get]
  refine after_ite.mpr ⟨?_, ?_⟩
  · rintro ⟨grown, quiet⟩
    simp only [after_bind, after_update]
    have raising : Ready scope (fun c j => N c (j ++ [.raised .readyRead]))
        (s.change fun c => { c with reportingRead := true }) :=
      ⟨begins _ _ ready.holds grown quiet, ready.handler⟩
    refine (announces _ raising).mono ?_
    rintro _ s₁ ⟨ready₁, same⟩
    have announcing : s₁.reportingRead = true := congrArg Prod.fst same
    have sameWrite : s₁.reportingWrite = s.reportingWrite := congrArg Prod.snd same
    exact ⟨⟨pumps.endAnnounce ready₁.holds announcing, ready₁.handler⟩,
      Prod.ext quiet.symm sameWrite⟩
  · intro nothing
    rw [after_pure]
    exact ⟨⟨skips _ _ ready.holds nothing, ready.handler⟩, rfl⟩

/-- What came of a read that did not fail is taken in. -/
theorem upholds_takeIn {c : Connection P} {j : List (Entry P)} (holds : S c j) {window : Nat}
    {result : Except IoError (List UInt8)} {after : P.State × Endpoint} {bytes : List UInt8}
    (asked : c.readWindow? = some window)
    (ran : (P.read window).exec (c.protocol, c.endpoint) = (result, after))
    (passed : Passed result)
    (settled : (c.hooked after).settleRead c window result =
      (c.hooked after).takeIn c window bytes) :
    Upholds scope (fun c₁ j₁ => c₁ = c.hooked after ∧ j₁ = j ++ [c.readEntry after result])
      (takeIn emit c window bytes) I := by
  refine Upholds.bind (J := fun c₁ j₁ =>
      (c.hooked after).settleRead c window result = c₁ ∧ j₁ = j ++ [c.readEntry after result])
    (Upholds.update (fun _ => ⟨rfl, rfl⟩) ?_) fun _ => Upholds.get fun s₁ => ?_
  · rintro _ _ ⟨rfl, rfl⟩
    exact ⟨settled, rfl⟩
  refine Upholds.bind (J := fun c₁ j₁ => (c.hooked after).settleRead c window result = c₁ ∧
      j₁ = j ++ [c.readEntry after result] ++ [.received c.available c₁.available])
    (Upholds.record ?_) fun _ =>
    Upholds.bind (upholds_announceRead pumps announces ?_ ?_) fun _ => Upholds.skip true
  · rintro _ _ ⟨⟨same, rfl⟩, rfl⟩
    exact ⟨same, rfl⟩
  · rintro c₁ _ ⟨rfl, rfl⟩ grown quiet
    rw [Connection.reportingRead_settleRead] at quiet
    exact pumps.announce holds asked ran passed rfl grown quiet
  · rintro c₁ _ ⟨rfl, rfl⟩ nothing
    rw [Connection.reportingRead_settleRead] at nothing
    exact pumps.receive holds asked ran passed rfl nothing

omit pumps announces in
include basic emits in
theorem upholds_refuseRead {window : Nat} {cause : IoError}
    (settled : ∀ c j, J c j → I (c.refuseRead window cause) j) :
    Upholds scope J (refuseRead emit window cause) I :=
  Upholds.bind (Upholds.update (fun _ => ⟨rfl, rfl⟩) settled) fun _ =>
    Upholds.bind (upholds_setError basic emits _) fun _ => Upholds.skip false

include basic emits

theorem upholds_pumpRead : Upholds scope S (pumpRead emit) I := by
  intro s ready
  simp only [pumpRead, after_bind, after_get]
  cases asked : s.readWindow? with
  | none =>
    rw [after_pure]
    exact ⟨⟨pumps.full ready.holds asked, ready.handler⟩, rfl⟩
  | some window =>
    simp only [after_bind, after_runHook, after_get, after_record]
    rcases ran : (P.read window).exec (s.protocol, s.endpoint) with ⟨result, after⟩
    have hooked : Ready scope (fun c j => c = s.toConnection.hooked after ∧
        j = s.journal ++ [s.toConnection.readEntry after result])
        ((s.hooked after).log (s.toConnection.readEntry after result)) :=
      ⟨⟨rfl, rfl⟩, ready.handler⟩
    cases result with
    | ok bytes =>
      exact upholds_takeIn pumps announces ready.holds asked ran
        (fun _ failed => by cases failed) rfl
        _ hooked
    | error cause =>
      refine after_ite.mpr ⟨?_, ?_⟩
      · intro retry
        have passed : Passed (.error cause : Except IoError (List UInt8)) := by
          rintro _ ⟨⟩
          exact retry
        exact upholds_takeIn pumps announces ready.holds asked ran passed (if_pos retry) _ hooked
      · intro noRetry
        refine upholds_refuseRead basic emits ?_ _ hooked
        rintro _ _ ⟨rfl, rfl⟩
        have refused := pumps.refuseRead ready.holds asked ran (Bool.eq_false_iff.mpr noRetry)
        rw [Connection.settleRead, if_neg noRetry] at refused
        exact refused

/-- Whether the socket reads depends on its state and on whether it waits for data. -/
theorem upholds_readReady
    (gated : ∀ c j, J c j → c.state = .connected → c.wantsRead = true → S c j)
    (skips : ∀ c j, J c j → I c j) : Upholds scope J (readReady emit) I := by
  refine Upholds.get fun s₀ => Upholds.ite ?_ fun _ => Upholds.pure false fun _ _ h => skips _ _ h.1
  rintro ⟨connected, waits⟩
  refine (upholds_pumpRead basic pumps emits announces).before ?_
  rintro _ j ⟨h, rfl⟩
  exact gated _ j h connected waits

end

section

variable (steps : WriteSteps I B) (emits : Emits scope I emit)

include steps emits

theorem upholds_refuseWrite {cause : IoError}
    (settled : ∀ c j, J c j → I (c.refuseWrite cause) j) :
    Upholds scope J (refuseWrite emit cause) I := by
  refine Upholds.bind (Upholds.update (fun c => ?_) settled) fun _ =>
    Upholds.bind (upholds_setError steps.toBasicSteps emits _) fun _ => Upholds.skip false
  by_cases invalid : cause.kind = .invalidData
  · rw [c.refuseWrite_of_invalid invalid]
    exact ⟨rfl, rfl⟩
  · rw [c.refuseWrite_of_valid invalid]
    exact ⟨rfl, rfl⟩

/-- A write is only ever started with none under way. -/
theorem upholds_startWrite :
    Upholds scope (fun c j => B c j ∧ c.writeBuffer.isEmpty = false ∧ c.writeStarted = false)
      (startWrite emit) I := by
  rintro s ⟨⟨holds, nonempty, fresh⟩, inScope⟩
  simp only [startWrite, after_bind, after_get, after_update, after_runHook, after_record,
    after_ite]
  refine ⟨fun idle => ?_, fun _ => ?_⟩
  · simp [nonempty, fresh] at idle
  rcases ran : (P.write (s.change Connection.align).writeBuffer.head).exec
    ((s.change Connection.align).protocol, (s.change Connection.align).endpoint) with
    ⟨result, after⟩
  have settled := steps.write holds nonempty ran
  let J : Assertion P := fun c j => I (c.settleWrite result) j
  cases result with
  | ok n =>
    have ready₁ : Ready scope J (((s.change Connection.align).hooked after).log _) :=
      ⟨settled, inScope⟩
    exact Upholds.bind (Upholds.update (f := fun c => c.takeOver n) (fun _ => ⟨rfl, rfl⟩)
      fun _ _ h => h) (fun _ => Upholds.skip true) _ ready₁
  | error cause =>
    have ready₁ : Ready scope J (((s.change Connection.align).hooked after).log _) :=
      ⟨settled, inScope⟩
    exact upholds_refuseWrite steps emits (fun _ _ h => h) _ ready₁

omit steps in
/-- What is left of a write once its report, if any, is over. -/
theorem upholds_reportWritten (steps : TransferSteps scope I B) :
    Upholds scope I (reportWritten emit) fun c j => B { c with writeStarted := false } j := by
  intro s ready
  simp only [reportWritten, after_bind, after_get]
  refine after_ite.mpr ⟨?_, ?_⟩
  · rintro ⟨pending, quiet⟩
    simp only [after_bind, after_update]
    have raising : Ready scope (fun c j => I c (j ++ [.raised (.bytesWritten s.pending)]))
        (s.change Connection.report) :=
      ⟨steps.beginReport ready.holds pending quiet, ready.handler⟩
    refine (emits (.bytesWritten s.pending) (fun same => by cases same) _ raising).mono ?_
    rintro _ s₁ ⟨ready₁, same⟩
    have sameRead : s₁.reportingRead = s.reportingRead := congrArg Prod.fst same
    have reporting : s₁.reportingWrite = true := congrArg Prod.snd same
    exact ⟨⟨steps.endReport (c := s₁.toConnection) ready₁.holds reporting, ready₁.handler⟩,
      Prod.ext sameRead quiet.symm⟩
  · intro unreported
    rw [after_pure]
    refine ⟨⟨steps.skipReport ready.holds ?_, ready.handler⟩, rfl⟩
    rw [not_and_or, Nat.not_lt, Nat.le_zero, Bool.not_eq_false] at unreported
    exact unreported

theorem upholds_completeWrite_of_reports (reports : Upholds scope I (reportWritten emit)
      fun c j => B { c with writeStarted := false } j) :
    Upholds scope I (completeWrite emit) I := by
  refine Upholds.bind reports fun _ => ?_
  refine Upholds.bind (J := fun c j => B c j ∧ c.writeStarted = false)
    (Upholds.update (fun _ => ⟨rfl, rfl⟩) fun _ _ h => ⟨h, rfl⟩) fun _ => ?_
  refine Upholds.get fun s₀ => Upholds.ite ?_ ?_
  · intro isEmpty
    refine Upholds.bind (Upholds.update (fun _ => ⟨rfl, rfl⟩) ?_) fun _ => Upholds.skip true
    rintro c j ⟨⟨h, -⟩, rfl⟩
    exact steps.idle h isEmpty
  · intro nonempty
    refine (upholds_startWrite steps emits).before ?_
    rintro c j ⟨⟨h, fresh⟩, rfl⟩
    exact ⟨h, Bool.eq_false_iff.mpr nonempty, fresh⟩

omit steps in
theorem upholds_completeWrite (steps : TransferSteps scope I B) :
    Upholds scope I (completeWrite emit) I :=
  upholds_completeWrite_of_reports steps.toWriteSteps emits (upholds_reportWritten emits steps)

end

theorem upholds_writeReady (writes : Upholds scope I (completeWrite emit) I) :
    Upholds scope I (writeReady emit) I :=
  Upholds.get fun _ => Upholds.ite (fun _ => writes.before fun _ _ h => h.1)
    fun _ => Upholds.pure false fun _ _ h => h.1

/-! ## Options, waits and transfers -/

section

variable (steps : OptionSteps I) (emits : Emits scope I emit)

include steps emits

theorem upholds_setOption (option : P.Opt) (value : P.Value) :
    Upholds scope I (setOption emit option value) I := by
  refine Upholds.ite ?_ ?_
  · intro _
    exact Upholds.bind (upholds_setError steps.toBasicSteps emits _) fun _ => Upholds.skip false
  intro _ s ready
  simp only [after_bind, after_get, after_runHook]
  rcases ran : (P.applyOption s.state value).exec (s.protocol, s.endpoint) with
    ⟨cause | ⟨⟩, after⟩
  · have ready₁ : Ready scope I (s.hooked after) :=
      ⟨steps.refuseOption value ready.holds ran, ready.handler⟩
    exact Upholds.bind (upholds_setError steps.toBasicSteps emits cause)
      (fun _ => Upholds.skip false) _ ready₁
  · simp only [after_bind, after_get, after_update, after_record]
    have ready₁ := steps.keepOption value ready.holds ran
    refine (Upholds.ite (J := I) (fun _ => ?_) fun _ => Upholds.skip true)
      (((s.hooked after).change _).log _) ⟨ready₁, ready.handler⟩
    have changed := emits (.optionChanged option) fun same => by cases same
    exact Upholds.bind (changed.before fun _ _ h => steps.optionChanged option h) fun _ =>
      Upholds.skip true

theorem upholds_setOptions :
    (options : List (P.Opt × P.Value)) → Upholds scope I (setOptions emit options) I
  | [] => Upholds.skip true
  | (option, value) :: rest =>
      Upholds.bind (upholds_setOption steps emits option value) fun _ =>
        Upholds.ite (fun _ => upholds_setOptions rest) fun _ => Upholds.skip false

end

section

variable (steps : CarrySteps scope I B) (emits : Emits scope I emit)
  (writes : Upholds scope I (completeWrite emit) I) {pump : SocketM P Bool}
  (pumps : Upholds scope I pump I)

include steps emits

theorem upholds_poll (read write : Bool) : Upholds scope I (poll emit read write) I := by
  refine Upholds.bind (Upholds.callEndpoint fun _ _ h => steps.poll read write h) fun answer => ?_
  have error := fun e => Upholds.bind (upholds_setError steps.toBasicSteps emits e) fun _ =>
    Upholds.skip (none : Option Readiness)
  rcases answer with cause | ⟨⟨⟩ | ready⟩
  · exact error _
  · exact error _
  · exact Upholds.skip (some ready)

include writes pumps

theorem upholds_waitForReadyReadBy (wait : Wait) :
    Upholds scope I (waitForReadyReadBy emit pump wait) I :=
  Upholds.closed.waitForReadyReadBy (upholds_setError steps.toBasicSteps emits)
    (upholds_poll steps emits) pumps writes wait

theorem upholds_waitForBytesWrittenBy (wait : Wait) :
    Upholds scope I (waitForBytesWrittenBy emit pump wait) I :=
  Upholds.closed.waitForBytesWrittenBy (upholds_setError steps.toBasicSteps emits)
    (upholds_poll steps emits) pumps writes wait

end

section

variable (steps : CarrySteps scope I B)

include steps

theorem upholds_takeOut {f : ByteQueue → List UInt8 × ByteQueue}
    (reads : ∀ q, ∃ n, f q = q.read n) (inScope : scope.takesBytes) :
    Upholds scope I (takeOut f) I := by
  intro s ready
  obtain ⟨n, same⟩ := reads s.readBuffer
  have taken := steps.takeBytes n inScope ready.holds
  obtain ⟨on, resumed⟩ := Connection.exists_resumeReading
    { s.toConnection with readBuffer := (s.readBuffer.read n).2 }
  rw [resumed] at taken
  simp only [takeOut, same, after_bind, after_get, after_update, after_record, after_pure, change,
    resumed]
  exact ⟨⟨taken, ready.handler⟩, rfl⟩

omit steps in
/-- Another limit leads from what holds before it to what holds after it. -/
theorem upholds_setReadLimit (n : Nat) (same : ∀ c j, I c j → c.readLimit = n → J c j)
    (other : ∀ c j, I c j → c.readLimit ≠ n → J { c with readLimit := n }.resumeReading j) :
    Upholds scope I (setReadLimit n) J := by
  refine Upholds.update (fun c => ?_) fun c j h => ?_
  · split
    · exact ⟨rfl, rfl⟩
    · obtain ⟨on, resumed⟩ := Connection.exists_resumeReading { c with readLimit := n }
      rw [resumed]
      exact ⟨rfl, rfl⟩
  · split
    case isTrue unchanged => exact same c j h unchanged
    case isFalse changed => exact other c j h changed

theorem upholds_write {data : List UInt8} (inScope : scope.bytes data) :
    Upholds scope I (write data) I := by
  intro s ready
  simp only [write, after_bind, after_get, after_ite, after_pure, after_update, after_record]
  refine ⟨fun _ => ⟨ready, trivial⟩, fun connected => ⟨fun _ => ⟨ready, trivial⟩, fun writes => ?_⟩⟩
  rw [ne_eq, Decidable.not_not] at connected
  rw [Bool.not_eq_true', Bool.not_eq_false] at writes
  exact ⟨⟨steps.queueBytes inScope ready.holds connected writes, ready.handler⟩,
    Prod.ext (s.reportingRead_enqueue data) (s.reportingWrite_enqueue data)⟩

theorem upholds_streamRead (n : Nat) (inScope : scope.takesBytes) :
    Upholds scope I (streamRead n) I := by
  have takes : Upholds scope I (takeOut fun b => b.read n : SocketM P _) I :=
    upholds_takeOut steps (fun q => ⟨n, rfl⟩) inScope
  refine Upholds.get fun s => ?_
  refine Upholds.ite (fun _ => Upholds.pure _ fun _ _ h => h.1) fun _ => ?_
  refine Upholds.ite (fun _ => Upholds.pure _ fun _ _ h => h.1) fun _ => ?_
  exact Upholds.bind (takes.before fun _ _ h => h.1) fun _ => Upholds.skip _

theorem upholds_streamWrite {data : List UInt8} (inScope : scope.bytes data) :
    Upholds scope I (streamWrite data) I :=
  Upholds.bind (upholds_write steps inScope) fun _ => Upholds.skip _

theorem upholds_writeFrame {f : Frame} (inScope : scope.frames f) :
    Upholds scope I (writeFrame f) I := by
  intro s ready
  simp only [writeFrame, write, after_bind, after_get, after_ite, after_pure, after_update,
    after_record]
  refine ⟨fun _ => ⟨ready, trivial⟩, fun known => ⟨fun _ => ⟨ready, trivial⟩, fun carries => ?_⟩⟩
  refine ⟨fun _ => ⟨ready, trivial⟩, fun connected => ⟨fun _ => ⟨ready, trivial⟩, fun writes => ?_⟩⟩
  rw [ne_eq, Decidable.not_not] at connected
  rw [Bool.not_eq_true', Bool.not_eq_false] at writes
  have carriesFd (isFd : f.kind = .fd) : P.carriesFd s.protocol = true := by
    by_contra classic
    exact carries ⟨isFd, Bool.eq_false_iff.mpr classic⟩
  exact ⟨⟨steps.queueFrame inScope ready.holds connected writes known carriesFd, ready.handler⟩,
    Prod.ext (s.reportingRead_enqueue _) (s.reportingWrite_enqueue _)⟩

theorem upholds_readFrame : Upholds scope I (readFrame : SocketM P _) I := by
  intro s ready
  simp only [readFrame, takeOut, after_bind, after_get, after_ite, after_pure, after_update,
    after_record]
  refine ⟨fun _ => ⟨ready, trivial⟩, fun whole => ?_⟩
  rw [not_or, Nat.not_lt, Nat.not_lt] at whole
  obtain ⟨hasHeader, fits⟩ := whole
  have exact : (s.readBuffer.peek headerSize).length = headerSize := by
    refine Nat.le_antisymm ?_ hasHeader
    rw [ByteQueue.peek_eq]
    exact List.length_take_le _ _
  have taken := steps.takeFrame ready.holds rfl exact fits
  obtain ⟨on, resumed⟩ := Connection.exists_resumeReading { s.toConnection with
    readBuffer := (s.readBuffer.read (frameSize (s.readBuffer.peek headerSize))).2 }
  rw [resumed] at taken
  simp only [change, resumed]
  unfold frameEntry at taken
  split
  case h_1 f rest decoded =>
    simp only [decoded] at taken
    simp only [after_bind, after_record, after_pure]
    exact ⟨⟨taken, ready.handler⟩, rfl⟩
  case h_2 decoded =>
    simp only [decoded, List.append_nil] at taken
    rw [after_pure]
    exact ⟨⟨taken, ready.handler⟩, rfl⟩

theorem upholds_transmit (writes : Upholds scope I (completeWrite emit) I) {f : Frame}
    (inScope : scope.frames f) :
    Upholds scope I (transmit emit f) I := by
  refine Upholds.bind (upholds_writeFrame steps inScope) fun result => ?_
  cases result with
  | error cause => exact Upholds.skip _
  | ok sent => exact Upholds.bind writes fun _ => Upholds.skip _

end

theorem upholds_receive (steps : CarrySteps scope I B)
    (reading : Upholds scope I (readReady emit) I) : Upholds scope I (receive emit) I := by
  refine Upholds.get fun s₀ => Upholds.ite (fun _ => ?_) fun _ => ?_
  · refine Upholds.bind (reading.before fun _ _ h => h.1) fun _ =>
      Upholds.bind (upholds_readFrame steps) fun result => ?_
    rcases result with (_ | _ | _) | f <;> exact Upholds.skip _
  · refine Upholds.bind ((upholds_readFrame steps).before fun _ _ h => h.1)
      fun result => ?_
    rcases result with (_ | _ | _) | f <;> exact Upholds.skip _

end Operations

end CanStream.Socket
