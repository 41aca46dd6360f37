import CanStream.Proofs.Socket.Minding
import CanStream.Protocol.Plain

/-!
# Waits that heed the mode

A wait reads if it finds its descriptor readable, whatever the mode of the socket. To tell what
comes of that, waits that heed the mode are put in its place: where they would have to read in a
mode that does not read, they have no result. A run keeps to its modes if and only if it has the
same outcome with these.
-/

namespace CanStream

variable {P : Protocol} {α β : Type}

open Socket

/-- The read pump of a wait that heeds the mode. It has no result where it would have to ask the
protocol to read in a mode that does not read. -/
def Socket.heedingPump (emit : Emit P) : SocketM P Bool := do
  let s ← get
  if s.mode.reads = false ∧ s.readWindow?.isSome = true then never else pumpRead emit

/-- Performs the request, with waits that heed the mode. -/
def Request.heed (emit : Emit P) : (q : Request P) → SocketM P q.Answer
  | .waitForReadyRead wait => waitForReadyReadBy emit (heedingPump emit) wait
  | .waitForBytesWritten wait => waitForBytesWrittenBy emit (heedingPump emit) wait
  | q => q.perform emit

theorem Request.heed_eq_perform {emit : Emit P} {q : Request P} (waits : q.waits = false) :
    q.heed emit = q.perform emit := by
  cases q with
  | waitForReadyRead wait => cases waits
  | waitForBytesWritten wait => cases waits
  | _ => rfl

/-- Performs actions in order, with waits that heed the mode. -/
def Socket.heed : List (Action P) → SocketM P Unit
  | [] => pure ()
  | .ask q :: rest => do
      let _ ← q.heed Socket.emit
      heed rest
  | .install h :: rest => do
      install h
      heed rest

/-- An operation was supplanted, or the protocol was asked to read in a mode that does not read. -/
def Astray (counts : List (Entry P) → Prop) (j : List (Entry P)) : Prop :=
  Supplanted j ∨ Strayed counts j

theorem lasting_astray {counts : List (Entry P) → Prop} : Lasting (Astray counts) :=
  fun entry => .imp (lasting_supplanted entry) (lasting_strayed entry)

/-- Where the one operation has an outcome, the other has the same, or none; and none only if the
outcome is astray. -/
def Heeds (counts : List (Entry P) → Prop) (m m' : SocketM P α) (s : Socket P) : Prop :=
  ∀ a s', m s = some (a, s') →
    m' s = some (a, s') ∨ m' s = none ∧ Astray counts s'.journal

namespace Heeds

variable {counts : List (Entry P) → Prop} {s : Socket P}

theorem refl (m : SocketM P α) : Heeds counts m m s := MayLose.refl m

theorem ite {c : Prop} [Decidable c] {m m' n n' : SocketM P α} (yes : Heeds counts m m' s)
    (no : Heeds counts n n' s) :
    Heeds counts (if c then m else n) (if c then m' else n') s :=
  MayLose.ite yes no

/-- Operations that go on with one another heed, if what follows does not lead back from astray. -/
theorem bind {m m' : SocketM P α} {f f' : α → SocketM P β} (first : Heeds counts m m' s)
    (next : ∀ a s₁, m' s = some (a, s₁) → Heeds counts (f a) (f' a) s₁)
    (lasts : ∀ a, Upholds Scope.all (fun _ j => Astray counts j) (f a) fun _ j => Astray counts j) :
    Heeds counts (m >>= f) (m' >>= f') s :=
  MayLose.bind first next fun a _ astray _ _ ended => (lasts a).holds astray ended

/-- Operations with the same beginning. -/
theorem bind_same {m : SocketM P α} {f f' : α → SocketM P β}
    (next : ∀ a s₁, m s = some (a, s₁) → Heeds counts (f a) (f' a) s₁) :
    Heeds counts (m >>= f) (m >>= f') s :=
  MayLose.bind_same next

theorem get {f f' : Socket P → SocketM P β} (next : Heeds counts (f s) (f' s) s) :
    Heeds counts (MonadState.get >>= f) (MonadState.get >>= f') s :=
  next

end Heeds

section

variable {counts : List (Entry P) → Prop} {m : Moment P} {closing : Bool}
  {stage : Option OpenMode} {emit : Emit P}
  (raises : ∀ e, Upholds Scope.all (fun c j => Mindful counts m closing stage c (j ++ [.raised e]))
    (emit e) (Mindful counts m closing stage))

section

include raises

/-- A wait that heeds the mode reads only where it may. -/
theorem upholds_heedingPump :
    Upholds Scope.all (Mindful counts m closing stage) (heedingPump emit)
      (Mindful counts m closing stage) := by
  have steps : LocalSteps Scope.all (Mindful counts m closing stage)
      (Mindful counts m closing stage) := Mindful.localSteps
  refine .get fun s₀ => .ite (fun _ => .never) fun may => ?_
  refine (upholds_pumpRead steps.toBasicSteps Mindful.pumpSteps (fun e _ => raises e)
    (raises .readyRead)).before ?_
  rintro _ j ⟨h, rfl⟩
  refine ⟨h.1.imp_right fun minds => ⟨minds, fun isSome _ => ?_⟩, h.2⟩
  rw [← Bool.not_eq_false]
  exact fun mode => may ⟨mode, isSome⟩

/-- A socket that minds its mode takes notice of data only in a mode that reads. -/
theorem upholds_readReady_of_mindful :
    Upholds Scope.all (Mindful counts m closing stage) (readReady emit)
      (Mindful counts m closing stage) := by
  have steps : LocalSteps Scope.all (Mindful counts m closing stage)
      (Mindful counts m closing stage) := Mindful.localSteps
  refine upholds_readReady steps.toBasicSteps Mindful.pumpSteps (fun e _ => raises e)
    (raises .readyRead) (fun c j h _ waits => ?_) fun _ _ h => h
  exact ⟨h.1.imp_right fun minds => ⟨minds, fun _ _ => minds.reads waits⟩, h.2⟩

theorem upholds_heed (connects : ∀ ifname mode, Upholds Scope.all (Mindful counts m closing stage)
      (connect emit ifname mode) (Mindful counts m closing stage))
    (closes : Upholds Scope.all (Mindful counts m closing stage) (close emit)
      (Mindful counts m closing stage)) (q : Request P) :
    Upholds Scope.all (Mindful counts m closing stage) (q.heed emit)
      (Mindful counts m closing stage) := by
  have steps : LocalSteps Scope.all (Mindful counts m closing stage)
      (Mindful counts m closing stage) := Mindful.localSteps
  have emits : Emits Scope.all (Mindful counts m closing stage) emit := fun e _ => raises e
  have writes := upholds_completeWrite emits steps.toTransferSteps
  have pumps := upholds_heedingPump raises
  cases waits : q.waits with
  | true =>
    cases q with
    | waitForReadyRead wait =>
      exact upholds_waitForReadyReadBy steps.toCarrySteps emits writes pumps wait
    | waitForBytesWritten wait =>
      exact upholds_waitForBytesWrittenBy steps.toCarrySteps emits writes pumps wait
    | _ => cases waits
  | false =>
    rw [Request.heed_eq_perform waits]
    cases transfers : q.transfers with
    | true =>
      exact upholds_transfer_of_not_waits steps.toCarrySteps
        (upholds_readReady_of_mindful raises) writes q.within_all transfers waits
    | false =>
      exact upholds_of_not_transfers steps.toOptionSteps steps.setReadLimit emits connects closes
        transfers

end

section

variable (counted : ∀ j, m.holds j → counts j)
  (lasts : ∀ e, Upholds Scope.all (fun (_ : Connection P) j => Astray counts (j ++ [.raised e]))
    (emit e) fun _ j => Astray counts j)

include counted lasts

/-- A read in a mode that does not read goes astray. -/
theorem heeds_heedingPump {s : Socket P}
    (h : Mindful counts m closing stage s.toConnection s.journal) :
    Heeds counts (pumpRead emit) (heedingPump emit) s := by
  intro read s' ran
  by_cases strays : s.mode.reads = false ∧ s.readWindow?.isSome = true
  · refine .inr ⟨?_, ?_⟩
    · rw [heedingPump, get_bind_apply, if_pos strays]
      rfl
    let begins : Assertion P := fun c j =>
      Mindful counts m closing stage c j ∧ c.mode.reads = false ∧ c.readWindow?.isSome = true
    have here {c : Connection P} {j : List (Entry P)} {entry : Entry P} (h : begins c j)
        (isRead : entry.isRead = true) : Astray counts (j ++ [entry]) := by
      obtain ⟨⟨supplanted | minds, moment⟩, mode, -⟩ := h
      · exact .inl (lasting_supplanted _ supplanted)
      · exact .inr (strayed_append isRead (counted j moment) (by rw [← minds.mode]; exact mode))
    have pumps : PumpSteps begins (fun _ j => Astray counts j) fun _ j => Astray counts j := {
      full := fun h noWindow => by
        have isSome := h.2.2
        rw [noWindow] at isSome
        cases isSome
      refuseRead := fun h _ _ _ => here h rfl
      receive := fun h _ _ _ _ _ => lasting_astray _ (here h rfl)
      announce := fun h _ _ _ _ _ _ => lasting_astray _ (lasting_astray _ (here h rfl))
      endAnnounce := fun h _ => h }
    have basic : BasicSteps (P := P) fun _ j => Astray counts j := ⟨fun _ h => lasting_astray _ h⟩
    exact (upholds_pumpRead basic pumps (fun e _ => lasts e) (lasts .readyRead)).holds
      ⟨h, strays⟩ ran
  · refine .inl ?_
    rw [heedingPump, get_bind_apply, if_neg strays]
    exact ran

include raises

theorem heeds_readTurns (wait : Wait) (left : Nat) : ∀ (turn : Nat) (s : Socket P),
    Mindful counts m closing stage s.toConnection s.journal →
    Heeds counts (readTurnsBy emit (pumpRead emit) wait turn left)
      (readTurnsBy emit (heedingPump emit) wait turn left) s := by
  have steps : TransferSteps Scope.all (Mindful counts m closing stage)
      (Mindful counts m closing stage) := Mindful.localSteps.toTransferSteps
  have emits : Emits Scope.all (Mindful counts m closing stage) emit := fun e _ => raises e
  intro turn s h
  exact mayLose_readTurnsBy
    (motive := fun s => Mindful counts m closing stage s.toConnection s.journal)
    (fun h polled => (upholds_poll steps.toCarrySteps emits _ _).holds h polled)
    (heeds_heedingPump counted lasts) wait
    (fun h pushed => (upholds_completeWrite emits steps).holds h pushed) (Nat.le_refl left) turn h

theorem heeds_writeTurns (wait : Wait) (left : Nat) : ∀ (turn : Nat) (s : Socket P),
    Mindful counts m closing stage s.toConnection s.journal →
    Heeds counts (writeTurnsBy emit (pumpRead emit) wait turn left)
      (writeTurnsBy emit (heedingPump emit) wait turn left) s := by
  have steps : TransferSteps Scope.all (Mindful counts m closing stage)
      (Mindful counts m closing stage) := Mindful.localSteps.toTransferSteps
  have emits : Emits Scope.all (Mindful counts m closing stage) emit := fun e _ => raises e
  have pumps := upholds_heedingPump raises
  have lasting : Lasting (Astray counts) := lasting_astray
  obtain ⟨lastingSteps, lastingReads, -, -⟩ := lasting.enduring
  have emitsAstray : Emits Scope.all (fun _ j => Astray counts j) emit := fun e _ => lasts e
  have lastingWrites := upholds_completeWrite emitsAstray lastingSteps.toTransferSteps
  have lastingPump := upholds_pumpRead lastingSteps.toBasicSteps lastingReads.toPumpSteps
    emitsAstray (lasts .readyRead)
  have polls := upholds_poll lastingSteps.toCarrySteps emitsAstray
  have fails := upholds_setError lastingSteps.toBasicSteps emitsAstray
  have rest (r : Readiness) (turn left : Nat) : Upholds Scope.all (fun _ j => Astray counts j)
      (if r.writable then completeWrite emit
        else nextTurn emit wait turn (writeTurnsBy emit (pumpRead emit) wait (turn + 1) left))
      fun _ j => Astray counts j :=
    .ite (fun _ => lastingWrites) fun _ =>
      Upholds.closed.nextTurn fails wait turn
        (Upholds.closed.writeTurnsBy fails polls lastingPump lastingWrites wait _ _)
  intro turn s h
  exact mayLose_writeTurnsBy
    (motive := fun s => Mindful counts m closing stage s.toConnection s.journal)
    (fun h polled => (upholds_poll steps.toCarrySteps emits _ _).holds h polled)
    (heeds_heedingPump counted lasts) wait (fun h pumped => pumps.holds h pumped)
    (fun astray _ _ ended => (rest _ _ _).holds astray ended) (Nat.le_refl left) turn h

/-- A request that keeps from reading in a mode that does not read has the same outcome if its waits
heed the mode. -/
theorem heeds_perform {s : Socket P}
    (h : Mindful counts m closing stage s.toConnection s.journal) (q : Request P) :
    Heeds counts (q.perform emit) (q.heed emit) s := by
  cases waits : q.waits with
  | false =>
    rw [Request.heed_eq_perform waits]
    exact .refl _
  | true =>
    cases q with
    | waitForReadyRead wait =>
      change Heeds counts (waitForReadyRead emit wait) _ s
      rw [waitForReadyRead_eq]
      exact .get (.ite (.refl _) (heeds_readTurns raises counted lasts wait _ _ _ h))
    | waitForBytesWritten wait =>
      change Heeds counts (waitForBytesWritten emit wait) _ s
      rw [waitForBytesWritten_eq]
      exact .get (.ite (.refl _)
        (.ite (.refl _) (heeds_writeTurns raises counted lasts wait _ _ _ h)))
    | _ => cases waits

end

end

/-! ## Runs -/

namespace Lasting

theorem endures_emit {fact : List (Entry P) → Prop} (lasting : Lasting fact) :
    Endures Scope.all Socket.emit fun (_ : Connection P) j => fact j := by
  have enduring := lasting.enduring
  exact endures_of_steps enduring.steps enduring.reads lasting.lifecycle
    (fun e _ => enduring.upholds_emit e) (enduring.upholds_emit .readyRead)
    (fun e _ => enduring.upholds_emit e) (fun e _ => enduring.upholds_emit e)
    fun e _ => enduring.upholds_emit e

end Lasting

/-- A socket at rest minds its mode. -/
def MindfulAtRest : Assertion P := Mindful Moment.atRest.holds Moment.atRest false none

theorem upholds_heed_emit (q : Request P) :
    Upholds Scope.all MindfulAtRest (q.heed Socket.emit) MindfulAtRest := by
  have emits (closing : Bool) (stage : Option OpenMode) : Emits Scope.all
      (Mindful (P := P) Moment.atRest.holds Moment.atRest closing stage) Socket.emit :=
    fun e _ => Mindful.upholds_emit e
  refine upholds_heed Mindful.upholds_emit (fun ifname mode => ?_) ?_ q
  · exact upholds_connect (Mindful.connectSteps ifname mode) (emits _ _) (emits _ _) (emits _ _)
      (emits _ _)
  · exact upholds_close (Mindful.closeSteps false false none none) (emits _ _) (emits _ _)
      (emits _ _)

theorem run_ask (q : Request P) (rest : List (Action P)) :
    run (.ask q :: rest) = (do let _ ← q.perform Socket.emit; run rest : SocketM P Unit) := by
  rw [run, Action.perform, bind_assoc]
  simp only [pure_bind]
  rfl

/-- With waits that heed the mode a run has the same outcome, or none if it goes astray. -/
theorem heeds_run (actions : List (Action P)) : ∀ s : Socket P,
    MindfulAtRest s.toConnection s.journal →
    Heeds Moment.atRest.holds (run actions) (heed actions) s := by
  have lasting : Lasting (Astray (P := P) Moment.atRest.holds) := lasting_astray
  have astray (rest : List (Action P)) := upholds_run lasting.endures_emit rest
    fun a _ => a.within_all
  induction actions with
  | nil => exact fun _ _ => .refl _
  | cons a rest ih =>
    intro s h
    cases a with
    | ask q =>
      rw [run_ask]
      have heeds := heeds_perform Mindful.upholds_emit (fun _ h => h)
        lasting.enduring.upholds_emit h q
      exact .bind heeds (fun answer s₁ asked => ih s₁ ((upholds_heed_emit q).holds h asked))
        fun _ => astray rest
    | install handler =>
      refine .bind_same fun done s₁ installed => ih s₁ ?_
      obtain ⟨-, rfl⟩ := Prod.mk.inj (Option.some.inj installed)
      exact h

theorem mindful_of_heed (actions : List (Action P)) : ∀ {s s' : Socket P},
    MindfulAtRest s.toConnection s.journal → heed actions s = some ((), s') →
    MindfulAtRest s'.toConnection s'.journal := by
  induction actions with
  | nil =>
    intro s s' h ran
    obtain ⟨-, rfl⟩ := Prod.mk.inj (Option.some.inj ran)
    exact h
  | cons a rest ih =>
    intro s s' h ran
    cases a with
    | ask q =>
      obtain ⟨answer, s₁, asked, ran⟩ := bind_eq_some.mp ran
      exact ih ((upholds_heed_emit q).holds h asked) ran
    | install handler =>
      obtain ⟨⟨⟩, s₁, installed, ran⟩ := bind_eq_some.mp ran
      obtain ⟨-, rfl⟩ := Prod.mk.inj (Option.some.inj installed)
      refine ih ?_ ran
      exact h

theorem mindfulAtRest_fresh (protocol : P.State) (endpoint : Endpoint)
    (readChunk writeChunk : Nat) :
    MindfulAtRest (fresh protocol endpoint readChunk writeChunk).toConnection [] := by
  refine ⟨.inr ⟨rfl, rfl, fun _ => rfl, nofun, nofun, nofun, ?_⟩, rfl⟩
  rintro ⟨before, entry, after, split, -⟩
  simp at split

/-- Unless an operation went astray, nothing is lost by heeding the mode. -/
theorem not_strayed_iff_heed {counts : List (Entry P) → Prop} {m m' : SocketM P α}
    {s s' : Socket P} {a : α} (heeds : Heeds counts m m' s) (ran : m s = some (a, s'))
    (keeps : m' s = some (a, s') → Supplanted s'.journal ∨ ¬Strayed counts s'.journal)
    (own : ¬Supplanted s'.journal) :
    ¬Strayed counts s'.journal ↔ m' s = some (a, s') := by
  constructor
  · intro straight
    rcases heeds a s' ran with same | ⟨-, supplanted | strayed⟩
    · exact same
    · exact absurd supplanted own
    · exact absurd strayed straight
  · exact fun same => (keeps same).resolve_left own

theorem not_strayed_iff {counts : List (Entry P) → Prop} {j : List (Entry P)} :
    ¬Strayed counts j ↔ ∀ before entry after, j = before ++ entry :: after →
      entry.isRead = true → counts before → (modeAt before).reads = true := by
  constructor
  · intro straight before entry after split isRead counted
    rw [← Bool.not_eq_false]
    exact fun mode => straight ⟨before, entry, after, split, isRead, counted, mode⟩
  · rintro always ⟨before, entry, after, split, isRead, counted, mode⟩
    rw [always before entry after split isRead counted] at mode
    cases mode

/-- The moments behind some journal. -/
def Moment.since (start : List (Entry P)) : Moment P where
  holds := fun j => start <+: j
  stays := fun _ h => h.trans (List.prefix_append _ _)

/-- While a handler makes a request of a socket that minds its mode, the protocol is only asked to
read in a mode that reads if and only if the request has the same outcome with waits that heed the
mode. -/
theorem not_strayed_iff_heed_of_handler {closing : Bool} {stage : Option OpenMode} {q : Request P}
    {s s' : Socket P} {a : q.Answer}
    (minds : Minds (fun _ => False) closing stage s.toConnection s.journal)
    (ran : q.perform enqueue s = some (a, s')) (own : ¬Supplanted s'.journal) :
    ¬Strayed (s.journal <+: ·) s'.journal ↔ q.heed enqueue s = some (a, s') := by
  let m := Moment.since s.journal
  have h : Mindful m.holds m closing stage s.toConnection s.journal := by
    refine ⟨.inr ⟨minds.state, minds.mode, minds.unconnected, minds.connecting, minds.reads,
      minds.waits, ?_⟩, List.prefix_refl _⟩
    rintro ⟨before, entry, after, split, -, behind, -⟩
    have longer := behind.length_le
    rw [split, List.length_append, List.length_cons] at longer
    omega
  have emits (K : Assertion P) : Emits Scope.all K enqueue := fun e _ => upholds_enqueue K e
  have keeps : Upholds Scope.all (Mindful m.holds m closing stage) (q.heed enqueue)
      (Mindful m.holds m closing stage) := by
    refine upholds_heed (upholds_enqueue _) (fun ifname mode => ?_) ?_ q
    · exact upholds_connect (Mindful.connectSteps ifname mode) (emits _) (emits _) (emits _)
        (emits _)
    · exact upholds_close (Mindful.closeSteps closing closing stage stage) (emits _) (emits _)
        (emits _)
  have heeds := heeds_perform (upholds_enqueue _) (fun _ here => here) (upholds_enqueue _) h q
  exact not_strayed_iff_heed heeds ran
    (fun same => (keeps.holds h same).1.imp_right Minds.straight) own

/-- The protocol is only ever asked to write in a mode that writes, and what is in the read buffer
was read in the mode that the socket is in. Unless an operation was supplanted, with no handler at
work the protocol is only ever asked to read in a mode that reads if and only if the run has the
same outcome with waits that heed the mode. So it is of every request that a handler makes of a
socket that minds its mode. -/
theorem modes_kept_iff_heed {protocol : P.State} {endpoint : Endpoint} {readChunk writeChunk : Nat}
    {actions : List (Action P)} {s : Socket P}
    (ran : run actions (fresh protocol endpoint readChunk writeChunk) = some ((), s)) :
    (∀ before entry after, s.journal = before ++ entry :: after → entry.isWrite = true →
        (modeAt before).writes = true) ∧
      (s.available ≠ 0 → ReadIn s.mode s.journal) ∧
      (¬Supplanted s.journal →
        ((∀ before entry after, s.journal = before ++ entry :: after → entry.isRead = true →
            (turn before).answering = none → (modeAt before).reads = true) ↔
          heed actions (fresh protocol endpoint readChunk writeChunk) = some ((), s))) ∧
      ∀ (closing : Bool) (stage : Option OpenMode) (q : Request P) (a : q.Answer)
        (s₁ s₂ : Socket P), Minds (fun _ => False) closing stage s₁.toConnection s₁.journal →
        q.perform enqueue s₁ = some (a, s₂) → ¬Supplanted s₂.journal →
        ((∀ before entry after, s₂.journal = before ++ entry :: after → entry.isRead = true →
            s₁.journal <+: before → (modeAt before).reads = true) ↔
          q.heed enqueue s₁ = some (a, s₂)) := by
  have admitted := admitted_of_run ran
  refine ⟨admitted.lawful, admitted.reads, fun own => ?_,
    fun closing stage q a s₁ s₂ minds asked own => ?_⟩
  · have start := mindfulAtRest_fresh protocol endpoint readChunk writeChunk
    rw [← not_strayed_iff_heed (heeds_run actions _ start) ran
      (fun same => (mindful_of_heed actions start same).1.imp_right Minds.straight) own]
    exact not_strayed_iff.symm
  · rw [← not_strayed_iff_heed_of_handler minds asked own]
    exact not_strayed_iff.symm

/-- A run in which a socket that is only to write waits for data. -/
def overreachingRun : List (Action Plain.protocol) :=
  [.ask (.cue (.addInterface ⟨"vcan0", 3, 16⟩)), .ask (.connect "vcan0" ⟨writeBit⟩),
    .ask (.cue (.pushRead [1, 2, 3])), .ask (.waitForReadyRead ⟨some 0, id, 1⟩)]

/-- The socket reads, in a mode that does not read. -/
theorem exists_overreachingRun :
    ∃ s, run overreachingRun (fresh ⟨0, 64, 64, none⟩ .blank 64 64) = some ((), s) ∧
      (s.available, (s.journal[4]?).any Entry.isRead, (modeAt (s.journal.take 4)).reads) =
        (3, true, false) :=
  Socket.exists_run (by decide +kernel)

theorem not_always_modes_kept :
    ¬∀ (P : Protocol) (protocol : P.State) (endpoint : Endpoint) (readChunk writeChunk : Nat)
      (actions : List (Action P)) (s : Socket P),
      run actions (fresh protocol endpoint readChunk writeChunk) = some ((), s) →
      ∀ before entry after, s.journal = before ++ entry :: after → entry.isRead = true →
        (modeAt before).reads = true := by
  intro always
  obtain ⟨s, ran, outcome⟩ := exists_overreachingRun
  simp only [Prod.mk.injEq] at outcome
  obtain ⟨-, reads, mode⟩ := outcome
  obtain ⟨entry, found, isRead⟩ := (Option.any_eq_true _ _).mp reads
  rw [always _ _ _ _ _ _ s ran _ entry _ (eq_take_append_cons found) isRead] at mode
  cases mode

theorem modes_kept_iff_heed_overreachingRun :
    ∃ s, run overreachingRun (fresh ⟨0, 64, 64, none⟩ .blank 64 64) = some ((), s) ∧
      (heed overreachingRun (fresh ⟨0, 64, 64, none⟩ .blank 64 64)).isNone = true ∧
      (¬Supplanted s.journal →
        ((∀ before entry after, s.journal = before ++ entry :: after → entry.isRead = true →
            (turn before).answering = none → (modeAt before).reads = true) ↔
          heed overreachingRun (fresh ⟨0, 64, 64, none⟩ .blank 64 64) = some ((), s))) := by
  obtain ⟨s, ran, -⟩ := exists_overreachingRun
  exact ⟨s, ran, by decide +kernel, (modes_kept_iff_heed ran).2.2.1⟩

end CanStream
