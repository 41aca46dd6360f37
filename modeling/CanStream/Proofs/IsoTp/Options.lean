import CanStream.Proofs.Endpoint.Options
import CanStream.Proofs.IsoTp.Transmit
import CanStream.Proofs.Socket.Coherence
import CanStream.Proofs.Socket.States
import Mathlib.Data.List.Induction

/-!
# The settings of a transport connection

The identifiers and options of a transport connection can only be set while the socket is
unconnected; otherwise they are frozen. A set-up that goes through gives all of them to the kernel:
the identifiers go into the address, and the others are put on record. So the kernel has what is
kept, whenever a socket is connected.
-/

namespace CanStream.IsoTp

/-- The identifiers and options, without what is queued. -/
def State.settings (s : State) : State := { s with queued := [] }

theorem kernelOptions_congr {s s' : State} (same : s'.settings = s.settings) :
    s'.kernelOptions = s.kernelOptions := by
  have options := congrArg State.kernelOptions same
  exact options

theorem settings_put (s : State) (v : Value) : (s.put v).settings = s.settings.put v := by
  cases v <;> rfl

theorem nodup_kernelOptions (s : State) : (s.kernelOptions.map Prod.fst).Nodup := by
  unfold State.kernelOptions
  cases s.txSeparation <;> cases s.rxSeparation <;> simp [level]

/-- The options are put on record in order. -/
theorem pushAll_ok {options : List (OptionName × List UInt8)} {s after : State × Endpoint}
    (ran : (pushAll options).exec s = (.ok (), after)) :
    after.1 = s.1 ∧ after.2.options = s.2.options ++ options := by
  have recorded := Endpoint.recorded_of_forM (fun _ option => option)
    (fun {option s after} ran => by
      obtain ⟨taken, kept⟩ := Hook.eq_of_call_ok ran
      exact ⟨kept, by rw [Endpoint.setOption_ok taken]⟩) ran
  rwa [List.map_id'] at recorded

theorem settings_connect (ifname : String) :
    Hook.Keeps (fun s => State.settings s.1) (connect ifname) := by
  intro s
  have kept := keeps_connect (Endpoint.setUpSpares_const ()) State.settings (fun _ => rfl) ifname s
  exact congrArg Prod.fst kept

/-- A set-up that goes through puts the options on record and binds the descriptor to the
identifiers. -/
theorem connect_ok {ifname : String} {s after : State × Endpoint}
    (ran : (connect ifname).exec s = (.ok (), after)) :
    ∃ tx rx i, after.1.txId = some tx ∧ after.1.rxId = some rx ∧ after.2.isOpen = true ∧
      after.2.bound = some (Address.ofIds i rx tx) ∧
      ∃ before, after.2.options = before ++ after.1.kernelOptions := by
  have settings : after.1.settings = s.1.settings := (settings_connect ifname).of_exec ran
  rw [connect, Hook.exec_state_bind] at ran
  split at ran
  case h_1 tx rx hasTx hasRx =>
    split at ran
    · cases ran
    · obtain ⟨⟨⟩, s₁, -, ran⟩ := Hook.exists_of_bind_ok ran
      obtain ⟨⟨⟩, s₂, -, ran⟩ := Hook.exists_of_bind_ok ran
      obtain ⟨⟨⟩, s₃, -, ran⟩ := Hook.exists_of_bind_ok ran
      obtain ⟨i, s₄, -, ran⟩ := Hook.exists_of_bind_ok ran
      obtain ⟨⟨⟩, s₅, pushed, ran⟩ := Hook.exists_of_bind_ok ran
      obtain ⟨-, grown⟩ := pushAll_ok pushed
      obtain ⟨bound, -⟩ := Hook.eq_of_call_ok ran
      obtain ⟨isOpen, same⟩ := Endpoint.bindTo_ok bound
      refine ⟨tx, rx, i.index, ?_, ?_, ?_, ?_, s₄.2.options, ?_⟩
      · exact (congrArg State.txId settings).trans hasTx
      · exact (congrArg State.rxId settings).trans hasRx
      · rw [same]
        exact isOpen
      · rw [same]
      · rw [kernelOptions_congr settings, same]
        exact grown
  case h_2 => cases ran

theorem applyOption_ok {state : SocketState} {v : Value} {s after : State × Endpoint}
    (ran : (applyOption state v).exec s = (.ok (), after)) :
    state = .unconnected ∧ after = s := by
  unfold applyOption at ran
  split at ran
  case isTrue unconnected => exact ⟨unconnected, (Prod.mk.inj ran).2.symm⟩
  case isFalse => cases ran

theorem restores : protocol.Restores := fun _ _ => .ite (.pure ()) (.fail _)

/-- Transfers leave alone the settings and how the descriptor is set up. -/
theorem spares : protocol.Spares fun s => (State.settings s.1, s.2.setting) where
  read := fun n => by
    refine .bind (.attempt fun s e => congrArg (s.settings, ·) (e.setting_read n)) fun result => ?_
    cases result with
    | ok bytes => exact .pure bytes
    | error cause => exact .ite (.pure []) (.fail cause)
  write := fun bytes => by
    refine .bind .state fun s =>
      .bind (.attempt fun s e => congrArg (s.settings, ·) (e.setting_write _)) fun result => ?_
    cases result with
    | ok n => exact .bind (.modifyState fun _ _ => rfl) fun _ => .pure n
    | error cause => exact .ite (.pure 0) (.fail cause)
  messageQueued := fun _ _ _ => rfl
  cue := fun q s e => congrArg (s.settings, ·) (e.setting_cue q)
  poll := fun read write s e => congrArg (s.settings, ·) (e.setting_poll read write)
  takeWritten := fun _ _ => rfl

/-- The identifiers are set, and the descriptor is open and bound to them, unless somebody else
closed it. The other options were set last to what is kept. -/
structure Configured (tx rx : CanId) (s : State × Endpoint) (j : List (Entry protocol)) :
    Prop where
  txId : s.1.txId = some tx
  rxId : s.1.rxId = some rx
  bound : (s.2.isOpen = true ∧ ∃ i, s.2.bound = some (Address.ofIds i rx tx)) ∨
    s.2.bound = none ∧ Severed j
  options : ∀ option ∈ s.1.kernelOptions, s.2.option? option.1 = some option.2

theorem coherent : Coherent (P := protocol) (fun s => (State.settings s.1, s.2.setting))
    fun s j => ∃ tx rx, Configured tx rx s j where
  spares := spares
  congr := by
    rintro s s' j ⟨tx, rx, h⟩ same
    obtain ⟨settings, set⟩ := Prod.mk.inj same
    obtain ⟨opened, bound, options⟩ : s'.2.opened = s.2.opened ∧ s'.2.bound = s.2.bound ∧
        s'.2.options = s.2.options := by
      simpa [Endpoint.setting] using set
    refine ⟨tx, rx, (congrArg State.txId settings).trans h.txId,
      (congrArg State.rxId settings).trans h.rxId, ?_, ?_⟩
    · rw [Endpoint.isOpen, opened, bound]
      exact h.bound
    · intro option member
      rw [kernelOptions_congr settings] at member
      rw [Endpoint.option?_congr options]
      exact h.options option member
  append := by
    rintro s j entry other ⟨tx, rx, h⟩
    refine ⟨tx, rx, h.txId, h.rxId, ?_, h.options⟩
    rcases h.bound with bound | ⟨unbound, severed⟩
    · exact .inl bound
    · exact .inr ⟨unbound, severed.append other⟩
  sever := by
    rintro s j ⟨tx, rx, h⟩
    refine ⟨tx, rx, h.txId, h.rxId, .inr ⟨?_, severed_append j⟩, fun option member => ?_⟩
    · cases isOpen : s.2.isOpen with
      | true => exact Endpoint.bound_close isOpen
      | false =>
        rcases h.bound with ⟨other, -⟩ | ⟨unbound, -⟩
        · rw [isOpen] at other
          cases other
        · rw [Endpoint.close_of_shut isOpen]
          exact unbound
    · rw [Endpoint.option?_congr (Endpoint.options_close s.2)]
      exact h.options option member
  refuse := by
    intro s after j cause value h ran
    rw [(restores .connected value).of_exec ran]
    exact h
  keep := by
    intro s after j value h ran
    have ran : (applyOption .connected value).exec s = (.ok (), after) := ran
    cases (applyOption_ok ran).1
  connect := by
    intro s after j ifname ran
    obtain ⟨tx, rx, i, hasTx, hasRx, isOpen, bound, before, grown⟩ := connect_ok ran
    refine ⟨tx, rx, hasTx, hasRx, .inl ⟨isOpen, i, bound⟩, fun option member => ?_⟩
    exact Endpoint.option?_of_grown grown (nodup_kernelOptions after.1) member

/-! ## The settings are frozen -/

/-- The settings after an entry. -/
def settingsNext (s : State) : Entry protocol → State
  | .kept v => s.put v
  | _ => s

/-- The settings that a journal leads to. -/
def settingsAfter (start : State) (j : List (Entry protocol)) : State :=
  j.foldl settingsNext start

/-- Settings are only kept while the socket is unconnected, and whoever looks at it finds the state
that was reported last and the settings that were kept last. -/
def KeptInTime (start : State) (before : List (Entry protocol)) : Entry protocol → Prop
  | .kept _ => (course before).state = .unconnected
  | .inspected c => c.state = (course before).state ∧
      State.settings c.protocol = settingsAfter start before
  | _ => True

section

variable {start : State} {j : List (Entry protocol)}

theorem settingsAfter_append (j : List (Entry protocol)) (entry : Entry protocol) :
    settingsAfter start (j ++ [entry]) = settingsNext (settingsAfter start j) entry := by
  rw [settingsAfter, List.foldl_append]
  rfl

/-- Until the socket is unconnected again, the settings stay as they are. -/
theorem settingsAfter_eq_of_busy {since : List (Entry protocol)}
    (lawful : Lawful (KeptInTime start) (j ++ since))
    (busy : (course j).state ≠ .unconnected)
    (still : .raised (.stateChanged .unconnected) ∉ since) :
    (course (j ++ since)).state ≠ .unconnected ∧
      settingsAfter start (j ++ since) = settingsAfter start j := by
  induction since using List.reverseRecOn with
  | nil =>
    rw [List.append_nil]
    exact ⟨busy, rfl⟩
  | append_singleton earlier entry ih =>
    rw [← List.append_assoc] at lawful ⊢
    have earlierStill : .raised (.stateChanged .unconnected) ∉ earlier :=
      fun member => still (List.mem_append_left _ member)
    obtain ⟨busy', same⟩ := ih lawful.of_append earlierStill
    have here : KeptInTime start (j ++ earlier) entry := lawful (j ++ earlier) entry [] rfl
    rw [settingsAfter_append, ← same, course_append]
    cases entry with
    | raised e =>
      cases e with
      | stateChanged state =>
        refine ⟨?_, rfl⟩
        rintro rfl
        exact still (List.mem_append_right _ (List.mem_singleton_self _))
      | _ => exact ⟨busy', rfl⟩
    | kept v => exact absurd here busy'
    | _ => exact ⟨busy', rfl⟩

/-- Two looks find the same settings, if the socket is not unconnected at the first and does not
become unconnected in between. -/
theorem settings_eq_of_looks {c c' : Connection protocol} {since after : List (Entry protocol)}
    (lawful : Lawful (KeptInTime start) (j ++ .inspected c :: since ++ .inspected c' :: after))
    (busy : c.state ≠ .unconnected)
    (still : .raised (.stateChanged .unconnected) ∉ since) :
    State.settings c'.protocol = State.settings c.protocol := by
  have first : KeptInTime start j (.inspected c) :=
    lawful j _ (since ++ .inspected c' :: after) (by simp)
  have second : KeptInTime start (j ++ .inspected c :: since) (.inspected c') :=
    lawful _ _ after rfl
  have busy' : (course (j ++ [.inspected c])).state ≠ .unconnected := by
    rw [course_append_of_not_changed rfl, ← first.1]
    exact busy
  have lawful' : Lawful (KeptInTime start) (j ++ [.inspected c] ++ since) := by
    rw [List.append_assoc]
    exact lawful.of_append
  have same := (settingsAfter_eq_of_busy lawful' busy' still).2
  rw [settingsAfter_append, List.append_assoc] at same
  exact second.2.trans (same.trans first.2.symm)

end

/-- The state of a connection and its settings are those that the journal tells. -/
structure Frozen (start : State) (c : Connection protocol) (j : List (Entry protocol)) : Prop where
  state : c.state = (course j).state
  settings : State.settings c.protocol = settingsAfter start j
  lawful : Lawful (KeptInTime start) j

namespace Frozen

variable {start : State} {c c' : Connection protocol} {j : List (Entry protocol)}

theorem congr (h : Frozen start c j) (state : c'.state = c.state)
    (settings : State.settings c'.protocol = State.settings c.protocol) : Frozen start c' j where
  state := state.trans h.state
  settings := settings.trans h.settings
  lawful := h.lawful

/-- An entry that changes neither the state nor the settings. -/
theorem append {entry : Entry protocol} (h : Frozen start c j) (same : entry.newState? = none)
    (keeps : ∀ s, settingsNext s entry = s) (here : KeptInTime start j entry) :
    Frozen start c (j ++ [entry]) where
  state := by
    rw [course_append_of_not_changed same]
    exact h.state
  settings := by
    rw [settingsAfter_append, keeps]
    exact h.settings
  lawful := h.lawful.append here

theorem change (h : Frozen start c j) (state : SocketState) :
    Frozen start { c with state := state } (j ++ [.raised (.stateChanged state)]) where
  state := by
    rw [course_append]
    rfl
  settings := by
    rw [settingsAfter_append]
    exact h.settings
  lawful := h.lawful.append trivial

theorem settled : Settled (fun s => (State.settings s.1, s.2.setting)) (Frozen start) where
  congr := fun h state _ _ same => h.congr state (Prod.mk.inj same).1
  append := by
    intro c j entry other h
    cases entry with
    | raised e =>
      cases e with
      | stateChanged state => cases other
      | _ => exact h.append rfl (fun _ => rfl) trivial
    | kept v => cases other
    | inspected c => cases other
    | _ => exact h.append rfl (fun _ => rfl) trivial
  inspected := fun h => h.append rfl (fun _ => rfl) ⟨h.state, h.settings⟩
  sever := fun {c j} h => by
    have severed : Frozen start c (j ++ [.severed]) := h.append rfl (fun _ => rfl) trivial
    exact severed.congr rfl rfl

theorem optionSteps : OptionSteps (Frozen start) where
  error := fun e h => settled.error h e
  refuseOption := by
    intro c j cause after value h ran
    have same := (restores c.state value).of_exec ran
    exact h.congr rfl (congrArg (fun s => State.settings s.1) same)
  keepOption := by
    intro c j after value h ran
    have ran : (applyOption c.state value).exec (c.protocol, c.endpoint) = (.ok (), after) := ran
    obtain ⟨unconnected, rfl⟩ := applyOption_ok ran
    refine ⟨?_, ?_, h.lawful.append (h.state.symm.trans unconnected)⟩
    · rw [course_append_of_not_changed rfl]
      exact h.state
    · rw [settingsAfter_append, ← h.settings]
      exact settings_put _ value
  optionChanged := fun _ h => h.append rfl (fun _ => rfl) trivial

theorem discard (h : Frozen start c j) : Frozen start c.discard (j ++ [.discarded]) := by
  have discarded : Frozen start c (j ++ [.discarded]) := h.append rfl (fun _ => rfl) trivial
  exact discarded.congr rfl rfl

theorem prepare (h : Frozen start c j) (ifname : String) (mode : OpenMode) :
    Frozen start (c.prepare ifname mode) (j ++ [.cleared ifname mode]) := by
  have cleared : Frozen start c (j ++ [.cleared ifname mode]) :=
    h.append rfl (fun _ => rfl) trivial
  exact cleared.congr rfl rfl

theorem setUp (h : Frozen start c j) {ifname : String} {result : Except SocketError Unit}
    {after : State × Endpoint}
    (ran : (connect ifname).exec (c.protocol, c.endpoint) = (result, after)) :
    Frozen start (c.hooked after) (j ++ [.setUp result]) := by
  have same : after.1.settings = State.settings c.protocol := (settings_connect ifname).of_exec ran
  have setUp : Frozen start c (j ++ [.setUp result]) := h.append rfl (fun _ => rfl) trivial
  exact setUp.congr rfl same

theorem closeSteps :
    CloseSteps (Frozen start) (Frozen start) (Frozen start) (Frozen start) where
  stay := fun h _ => h
  beginClose := fun h _ _ => h.change .closing
  goOnClosing := fun h _ => h
  release := fun h => h.congr rfl rfl
  releaseFailed := fun e h => settled.error h e
  discard := fun h _ => h.discard
  endClose := fun h _ => h.discard.change .unconnected

/-- Neither connecting nor closing touches the settings, whatever handlers do meanwhile. -/
theorem lifecycle : Lifecycle (Frozen start) (Frozen start) (Frozen start) (Frozen start) where
  prepare := fun ifname mode h _ _ => (h.prepare ifname mode).change .connecting
  connectFailed := fun ifname h ran => settled.error (h.setUp ran) _
  reconnected := fun ifname mode h ran _ => (h.setUp ran).congr rfl rfl
  connected := fun ifname mode h ran _ => by
    have connected := (h.setUp ran).change .connected
    exact connected.congr rfl rfl
  giveUp := closeSteps
  close := closeSteps

theorem enduring : Enduring (Frozen start) where
  steps := settled.localSteps spares optionSteps
  reads := settled.readSteps spares
  turns := settled.turns
  life := ⟨_, _, _, lifecycle⟩

end Frozen

section

variable {protocol₀ : State} {endpoint : Endpoint} {readChunk writeChunk : Nat}
  {actions : List (Action protocol)} {s : Socket protocol}

theorem frozen_of_run
    (ran : Socket.run actions (Socket.fresh protocol₀ endpoint readChunk writeChunk) =
      some ((), s)) : Frozen protocol₀.settings s.toConnection s.journal := by
  have start : Frozen protocol₀.settings
      (Socket.fresh (P := protocol) protocol₀ endpoint readChunk writeChunk).toConnection [] :=
    ⟨rfl, rfl, lawful_nil⟩
  have enduring : Enduring (Frozen protocol₀.settings) := Frozen.enduring
  exact enduring.holds_after_run enduring enduring enduring Frozen.lifecycle start ran

/-- Between two looks at a socket its settings are the same, unless it was or became unconnected. An
option that is refused leaves all as it was but the error, up to what is done about the error. And
whenever an application is back in control of a connected socket, the descriptor is bound to the
identifiers that are kept, unless somebody else closed it, and the kernel was given the other
options that are kept last. -/
theorem configured_of_run
    (ran : Socket.run actions (Socket.fresh protocol₀ endpoint readChunk writeChunk) =
      some ((), s)) :
    (∀ (before since after : List (Entry protocol)) (c c' : Connection protocol),
      s.journal ++ [.inspected s.toConnection] =
        before ++ .inspected c :: since ++ .inspected c' :: after →
      c.state ≠ .unconnected → .raised (.stateChanged .unconnected) ∉ since →
      State.settings c'.protocol = State.settings c.protocol) ∧
    (∀ (emit : Emit protocol) (o : Opt) (v : Value) (t t' : Socket protocol),
      (Request.setOption o v).perform emit t = some (false, t') →
      ∃ e : SocketError, emit (.error e.kind) (t.withError e) = some ((), t')) ∧
    (s.state = .connected → ∃ tx rx,
      State.txId s.protocol = some tx ∧ State.rxId s.protocol = some rx ∧
      ((∃ i, s.endpoint.bound = some (Address.ofIds i rx tx)) ∨
        s.endpoint.bound = none ∧ Severed s.journal) ∧
      ∀ option ∈ State.kernelOptions s.protocol,
        s.endpoint.option? option.1 = some option.2) := by
  refine ⟨fun before since after c c' split busy still => ?_, fun emit o v t t' refused => ?_,
    fun connected => ?_⟩
  · have frozen := frozen_of_run ran
    have lawful : Lawful (KeptInTime protocol₀.settings)
        (s.journal ++ [.inspected s.toConnection]) :=
      frozen.lawful.append ⟨frozen.state, frozen.settings⟩
    rw [split] at lawful
    exact settings_eq_of_looks lawful busy still
  · exact Socket.setOption_refused restores refused
  · obtain ⟨tx, rx, configured⟩ := coherent.of_run ran connected
    refine ⟨tx, rx, configured.txId, configured.rxId, ?_, configured.options⟩
    rcases configured.bound with ⟨-, bound⟩ | severed
    · exact .inl bound
    · exact .inr severed

end

/-- A handler that answers the first event by looking at the socket and trying to set an option. -/
def lookAround : Handler protocol :=
  .on none (fun _ => true) fun _ =>
    .call .inspect fun _ => .call (.toSet (.txSeparation 7)) fun _ => .done (.silent none)

/-- A run in which the descriptor cannot be bound at first. Then another option is set, and the
socket is looked at while it is connecting. -/
def retriedRun : List (Action protocol) :=
  [.ask (.cue (.addInterface ⟨"vcan0", 3, 16⟩)), .ask (.cue (.failBind 98)),
    .ask (.connectWith exampleIds "vcan0" .readWrite), .ask (.toSet (.txSeparation 5)),
    .install lookAround, .ask (.connect "vcan0" .readWrite)]

/-- The state in which the socket is seen. -/
def stateSeen? : Entry protocol → Option SocketState
  | .inspected c => some c.state
  | _ => none

theorem configured_of_run_retriedRun :
    ∃ (s t : Socket protocol) (c : Connection protocol) (e : SocketError) (tx rx : CanId),
      Socket.run retriedRun (Socket.fresh .initial .blank 20 20) = some ((), s) ∧
      c.state = .connecting ∧ State.settings s.protocol = State.settings c.protocol ∧
      Socket.perform (P := protocol) (.toSet (.rxId (.standard 9))) s = some (false, t) ∧
      Socket.emit (.error e.kind) (s.withError e) = some ((), t) ∧
      State.txId s.protocol = some tx ∧ State.rxId s.protocol = some rx ∧
      (∃ i, s.endpoint.bound = some (Address.ofIds i rx tx)) ∧
      ∀ option ∈ State.kernelOptions s.protocol,
        s.endpoint.option? option.1 = some option.2 := by
  obtain ⟨s, ran, outcome⟩ : ∃ s : Socket protocol,
      Socket.run retriedRun (Socket.fresh .initial .blank 20 20) = some ((), s) ∧
      (s.state, s.endpoint.bound.isSome, (s.journal[16]?).bind stateSeen?,
        (s.journal.drop 17).all (fun entry => entry.newState? != some .unconnected),
        (Socket.perform (P := protocol) (.toSet (.rxId (.standard 9))) s).map
          fun r => (r.1 : Bool)) =
        (.connected, true, some .connecting, true, some false) :=
    Socket.exists_run (by decide +kernel)
  simp only [Prod.mk.injEq] at outcome
  obtain ⟨connected, isBound, looked, quiet, answer⟩ := outcome
  obtain ⟨⟨_, t⟩, refused, rfl⟩ := Option.map_eq_some_iff.mp answer
  obtain ⟨entry, seen, moment⟩ := exists_moment looked
  have still : .raised (.stateChanged .unconnected) ∉ s.journal.drop 17 := by
    intro member
    have other := List.all_eq_true.mp quiet _ member
    cases other
  obtain ⟨looks, refuses, configured⟩ := configured_of_run ran
  obtain ⟨e, raised⟩ := refuses _ _ _ _ _ refused
  obtain ⟨tx, rx, hasTx, hasRx, bound, options⟩ := configured connected
  cases entry with
  | inspected c =>
    have connecting : c.state = .connecting := Option.some.inj seen
    have same := looks _ _ [] c s.toConnection
      (congrArg (· ++ [.inspected s.toConnection]) moment)
      (by rw [connecting]; exact nofun) still
    rcases bound with bound | ⟨unbound, -⟩
    · exact ⟨s, t, c, e, tx, rx, ran, connecting, same, refused, raised, hasTx, hasRx, bound,
        options⟩
    · rw [unbound] at isBound
      cases isBound
  | _ => cases seen

end CanStream.IsoTp
