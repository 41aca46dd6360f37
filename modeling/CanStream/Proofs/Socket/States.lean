import CanStream.Proofs.Socket.History
import CanStream.Proofs.Socket.Reentry
import CanStream.Protocol.Plain

/-!
# The states that a socket goes through

A socket goes from one state to the next in order, except where a handler overtakes an operation
that is connecting or closing it. A connect that ends although a handler closed the socket meanwhile
makes it connected, without an interface and with an empty mode. A close that ends although a
handler connected the socket meanwhile makes it unconnected.
-/

namespace CanStream

variable {P : Protocol}

/-- The changes of state in the order of a connection's life. -/
def SocketState.leadsTo : SocketState → SocketState → Bool
  | .unconnected, .connecting => true
  | .connecting, .connected => true
  | .connecting, .closing => true
  | .connected, .closing => true
  | .closing, .unconnected => true
  | _, _ => false

/-- The state that was reported last, and the one before it. -/
structure Course where
  state : SocketState
  previous : SocketState

/-- The course after one more entry. -/
def Course.next (k : Course) : Entry P → Course
  | .raised (.stateChanged state) => ⟨state, k.state⟩
  | _ => k

def course (j : List (Entry P)) : Course := j.foldl Course.next ⟨.unconnected, .unconnected⟩

/-- The state that is reported. -/
def Entry.newState? : Entry P → Option SocketState
  | raised (.stateChanged state) => some state
  | _ => none

/-- The descriptor was just set up for a socket that was closed meanwhile, or what was buffered was
just given up for one that was connected meanwhile. -/
def Overtaken (j : List (Entry P)) : Prop :=
  j.getLast? = some (.setUp (.ok ())) ∧ (course j).state = .unconnected ∨
    j.getLast? = some .discarded ∧ (course j).state = .connected

/-- The interface and the mode are those that the socket was asked to connect to, and the mode is
not empty; without any there is no interface, and the mode is empty. -/
def Connection.Names (c : Connection P) : Option (String × OpenMode) → Prop
  | some (ifname, mode) => c.interfaceName = ifname ∧ c.mode = mode ∧ c.mode.isEmpty = false
  | none => c.interfaceName = "" ∧ c.mode = FlagSet.empty

/-- Whether the socket was asked to connect to anything goes with the state that it is in. -/
def Course.Fits (k : Course) (target : Option (String × OpenMode)) : Prop :=
  match k.state with
  | .unconnected => target = none
  | .connecting => target.isSome = true
  | .connected => target.isSome = true ↔ k.previous = .connecting
  | .closing => True

/-- What is seen of a connection agrees with its journal. -/
structure Seen (c : Connection P) (j : List (Entry P)) : Prop where
  state : c.state = (course j).state
  names : c.Names (target j)
  fits : (course j).Fits (target j)

/-- A change of state is in order unless an operation was overtaken, and a look agrees with the
journal. -/
def InOrder (before : List (Entry P)) : Entry P → Prop
  | .raised (.stateChanged state) =>
      (course before).state.leadsTo state = true ↔ ¬Overtaken before
  | .inspected c => Seen c before
  | _ => True

section

variable {j : List (Entry P)} {entry : Entry P}

theorem course_append (j : List (Entry P)) (entry : Entry P) :
    course (j ++ [entry]) = (course j).next entry := by
  rw [course, List.foldl_append]
  rfl

theorem course_append_of_not_changed (same : entry.newState? = none) :
    course (j ++ [entry]) = course j := by
  rw [course_append]
  cases entry with
  | raised e =>
    cases e with
    | stateChanged state => cases same
    | _ => rfl
  | _ => rfl

/-- Only behind a set-up or a close can an operation have been overtaken. -/
theorem not_overtaken_append (notSetUp : entry ≠ .setUp (.ok ()))
    (notDiscarded : entry ≠ .discarded) : ¬Overtaken (j ++ [entry]) := by
  rw [Overtaken, List.getLast?_concat]
  rintro (⟨last, -⟩ | ⟨last, -⟩)
  · exact notSetUp (Option.some.inj last)
  · exact notDiscarded (Option.some.inj last)

theorem overtaken_setUp_iff :
    Overtaken (j ++ [.setUp (.ok ())]) ↔ (course j).state = .unconnected := by
  rw [Overtaken, List.getLast?_concat, course_append_of_not_changed rfl]
  simp

theorem overtaken_discarded_iff :
    Overtaken (j ++ [.discarded]) ↔ (course j).state = .connected := by
  rw [Overtaken, List.getLast?_concat, course_append_of_not_changed rfl]
  simp

/-- The moment of a change of state, told from its index. -/
theorem eq_take_append_stateChanged {k : Nat} {state : SocketState}
    (found : (j[k]?).bind Entry.newState? = some state) :
    j = j.take k ++ .raised (.stateChanged state) :: j.drop (k + 1) := by
  obtain ⟨entry, changed, moment⟩ := exists_moment found
  cases entry with
  | raised e =>
    cases e with
    | stateChanged state' =>
      cases changed
      exact moment
    | _ => cases changed
  | _ => cases changed

end

/-! ## The invariant -/

/-- A connection agrees with its journal in the midst of a step. -/
structure Tracked (c : Connection P) (j : List (Entry P)) : Prop where
  state : c.state = (course j).state
  names : c.Names (target j)
  lawful : Lawful InOrder j

/-- A connection agrees with its journal and is in one of some states, and no operation is about to
end that was overtaken. -/
structure Sequenced (places : SocketState → Prop) (c : Connection P) (j : List (Entry P)) : Prop
    extends Tracked c j where
  place : places c.state
  fits : (course j).Fits (target j)
  settled : ¬Overtaken j

namespace Tracked

variable {c c' : Connection P} {j : List (Entry P)}

theorem congr (h : Tracked c j) (state : c'.state = c.state)
    (interfaceName : c'.interfaceName = c.interfaceName) (mode : c'.mode = c.mode) :
    Tracked c' j where
  state := state.trans h.state
  names := by
    have names := h.names
    unfold Connection.Names at names ⊢
    rw [interfaceName, mode]
    exact names
  lawful := h.lawful

/-- An entry that does not change the state or the target. -/
theorem append {entry : Entry P} (h : Tracked c j) (same : entry.newState? = none)
    (keeps : entry.target (target j) = target j) (here : InOrder j entry) :
    Tracked c (j ++ [entry]) where
  state := by
    rw [course_append_of_not_changed same]
    exact h.state
  names := by
    rw [target_append, keeps]
    exact h.names
  lawful := h.lawful.append here

theorem change (h : Tracked c j) {state : SocketState}
    (inOrder : (course j).state.leadsTo state = true ↔ ¬Overtaken j) :
    Tracked { c with state := state } (j ++ [.raised (.stateChanged state)]) where
  state := by
    rw [course_append]
    rfl
  names := by
    rw [target_append]
    exact h.names
  lawful := h.lawful.append inOrder

theorem prepare (h : Tracked c j) (ifname : String) {mode : OpenMode}
    (supported : mode.isSupported = true) :
    Tracked (c.prepare ifname mode) (j ++ [.cleared ifname mode]) where
  state := by
    rw [course_append_of_not_changed rfl]
    exact h.state
  names := by
    rw [target_append]
    rw [OpenMode.isSupported, Bool.and_eq_true, Bool.not_eq_true'] at supported
    exact ⟨rfl, rfl, supported.1⟩
  lawful := h.lawful.append trivial

theorem discard (h : Tracked c j) : Tracked c.discard (j ++ [.discarded]) where
  state := by
    rw [course_append_of_not_changed rfl]
    exact h.state
  names := by
    rw [target_append]
    exact ⟨rfl, rfl⟩
  lawful := h.lawful.append trivial

theorem setUp (h : Tracked c j) (after : P.State × Endpoint) (result : Except SocketError Unit) :
    Tracked (c.hooked after) (j ++ [.setUp result]) := by
  have same : Tracked c (j ++ [.setUp result]) := h.append rfl rfl trivial
  exact same.congr rfl rfl rfl

end Tracked

namespace Sequenced

variable {places places' : SocketState → Prop} {c c' : Connection P} {j : List (Entry P)}

theorem seen (h : Sequenced places c j) : Seen c j := ⟨h.state, h.names, h.fits⟩

theorem steady (places : SocketState → Prop) :
    Steady (fun _ => ()) (Sequenced (P := P) places) where
  congr := fun h state mode interfaceName _ =>
    ⟨h.toTracked.congr state interfaceName mode, state ▸ h.place, h.fits, h.settled⟩
  append := by
    intro c j entry other h
    have same : entry.newState? = none ∧ entry.target (target j) = target j ∧ InOrder j entry ∧
        entry ≠ .setUp (.ok ()) ∧ entry ≠ .discarded := by
      cases entry with
      | raised e =>
        cases e with
        | stateChanged state => cases other
        | _ => exact ⟨rfl, rfl, trivial, nofun, nofun⟩
      | setUp _ => cases other
      | cleared _ _ => cases other
      | discarded => cases other
      | inspected _ => cases other
      | _ => exact ⟨rfl, rfl, trivial, nofun, nofun⟩
    obtain ⟨same, keeps, here, notSetUp, notDiscarded⟩ := same
    refine ⟨h.toTracked.append same keeps here, h.place, ?_,
      not_overtaken_append notSetUp notDiscarded⟩
    rw [course_append_of_not_changed same, target_append, keeps]
    exact h.fits
  inspected := fun {c j} h => by
    refine ⟨h.toTracked.append rfl rfl h.seen, h.place, ?_, not_overtaken_append nofun nofun⟩
    rw [course_append_of_not_changed rfl, target_append]
    exact h.fits
  closeEndpoint := fun h => ⟨h.toTracked.congr rfl rfl rfl, h.place, h.fits, h.settled⟩

/-- A close begins in order, and ends in order unless a handler connected the socket meanwhile. -/
theorem closeSteps {start closing done : SocketState → Prop} (isClosing : closing .closing)
    (notConnecting : ¬closing .connecting) (isDone : done .unconnected) :
    CloseSteps (Sequenced (P := P) start) (Sequenced closing) (Sequenced closing)
      (Sequenced done) where
  stay := fun h unconnected =>
    ⟨h.toTracked, by rw [unconnected]; exact isDone, h.fits, h.settled⟩
  beginClose := by
    intro c j h isOpen other
    have inOrder : (course j).state.leadsTo .closing = true := by
      rw [← h.state]
      cases state : c.state with
      | unconnected => exact absurd state isOpen
      | closing => exact absurd state other
      | _ => rfl
    refine ⟨h.toTracked.change (iff_of_true inOrder h.settled), isClosing, ?_,
      not_overtaken_append nofun nofun⟩
    rw [course_append]
    exact trivial
  goOnClosing := fun h closing =>
    ⟨h.toTracked, by rw [closing]; exact isClosing, h.fits, h.settled⟩
  release := fun h => ⟨h.toTracked.congr rfl rfl rfl, h.place, h.fits, h.settled⟩
  releaseFailed := fun {c j} e h => by
    have raised : Sequenced closing c (j ++ [.raised (.error e.kind)]) :=
      (steady closing).append rfl h
    exact (steady closing).congr raised rfl rfl rfl rfl
  discard := by
    intro c j h unconnected
    refine ⟨h.toTracked.discard, ?_, ?_, ?_⟩
    · rw [show c.discard.state = c.state from rfl, unconnected]
      exact isDone
    · rw [course_append_of_not_changed rfl, target_append, Course.Fits, ← h.state, unconnected]
      rfl
    · rw [overtaken_discarded_iff, ← h.state, unconnected]
      exact nofun
  endClose := by
    intro c j h isOpen
    refine ⟨h.toTracked.discard.change ?_, isDone, ?_, not_overtaken_append nofun nofun⟩
    · rw [overtaken_discarded_iff, course_append_of_not_changed rfl, ← h.state]
      cases state : c.state with
      | unconnected => exact absurd state isOpen
      | connecting => exact absurd (state ▸ h.place) notConnecting
      | _ => simp [SocketState.leadsTo]
    · rw [target_append, target_append, course_append]
      exact rfl

/-- A connect begins in order, and ends in order unless a handler closed the socket meanwhile. -/
theorem lifecycle {opening closing : SocketState → Prop} (unconnected : places .unconnected)
    (connected : places .connected) (isConnecting : opening .connecting)
    (notClosing : ¬opening .closing) (isClosing : closing .closing)
    (notConnecting : ¬closing .connecting) :
    Lifecycle (Sequenced (P := P) places) (Sequenced opening) (Sequenced closing)
      (Sequenced closing) where
  prepare := by
    intro c j ifname mode h isUnconnected supported
    refine ⟨(h.toTracked.prepare ifname supported).change ?_, isConnecting, ?_,
      not_overtaken_append nofun nofun⟩
    · rw [course_append_of_not_changed rfl, ← h.state, isUnconnected]
      exact iff_of_true rfl (not_overtaken_append nofun nofun)
    · rw [target_append, target_append, course_append]
      exact rfl
  connectFailed := by
    intro c j cause after ifname h ran
    have failed : Sequenced opening (c.hooked after) (j ++ [.setUp (.error cause)]) := by
      refine ⟨h.toTracked.setUp after _, h.place, ?_, not_overtaken_append nofun nofun⟩
      rw [course_append_of_not_changed rfl, target_append]
      exact h.fits
    exact (steady opening).congr ((steady opening).append rfl failed) rfl rfl rfl rfl
  reconnected := by
    intro c j after ifname mode h ran isConnected
    refine ⟨(h.toTracked.setUp after _).congr rfl rfl rfl, ?_, ?_, ?_⟩
    · rw [show ({ c.hooked after with
        wantsRead := c.wantsRead || mode.reads } : Connection P).state = c.state from rfl,
        isConnected]
      exact connected
    · rw [course_append_of_not_changed rfl, target_append]
      exact h.fits
    · rw [overtaken_setUp_iff, ← h.state, isConnected]
      exact nofun
  connected := by
    intro c j after ifname mode h ran other
    have tracked : Tracked (P := P)
        { c.hooked after with wantsRead := c.wantsRead || mode.reads } (j ++ [.setUp (.ok ())]) :=
      (h.toTracked.setUp after _).congr rfl rfl rfl
    have fits := h.fits
    refine ⟨tracked.change ?_, connected, ?_, not_overtaken_append nofun nofun⟩
    · rw [overtaken_setUp_iff, course_append_of_not_changed rfl, ← h.state]
      cases state : c.state with
      | connected => exact absurd state other
      | closing => exact absurd (state ▸ h.place) notClosing
      | _ => simp [SocketState.leadsTo]
    · rw [target_append, target_append, course_append, course_append_of_not_changed rfl]
      have state := h.state
      rw [Course.Fits] at fits ⊢
      cases before : (course j).state with
      | connected => exact absurd (state.trans before) other
      | closing => exact absurd ((state.trans before) ▸ h.place) notClosing
      | unconnected =>
        rw [before] at fits
        simp [Course.next, before, show target j = none from fits, Entry.target]
      | connecting =>
        rw [before] at fits
        simp [Course.next, before, show (target j).isSome = true from fits, Entry.target]
  giveUp := closeSteps isClosing notConnecting unconnected
  close := closeSteps isClosing notConnecting unconnected

/-- Within a handler the events of a connect or a close wait, so nothing comes in between. -/
theorem hosts (unconnected : places .unconnected) (connected : places .connected) :
    Hosts (fun _ => ()) (Sequenced (P := P) places) where
  steady := steady places
  life := by
    have life : Lifecycle (Sequenced (P := P) places) (Sequenced (· = .connecting))
        (Sequenced (· = .closing)) (Sequenced (· = .closing)) :=
      lifecycle unconnected connected rfl nofun rfl nofun
    exact ⟨_, _, _, life⟩

end Sequenced

theorem leaves_unit : P.Leaves fun _ => () where
  read := fun _ _ => rfl
  write := fun _ _ => rfl
  applyOption := fun _ _ _ => rfl
  cue := fun _ _ => rfl
  poll := fun _ _ _ => rfl
  takeWritten := fun _ => rfl

section

variable {protocol : P.State} {endpoint : Endpoint} {readChunk writeChunk : Nat}
  {actions : List (Action P)} {s : Socket P}

/-- After every run the socket is unconnected or connected, and its states came in order unless an
operation was overtaken. -/
theorem sequenced_of_run
    (ran : Socket.run actions (Socket.fresh protocol endpoint readChunk writeChunk) =
      some ((), s)) :
    Sequenced (fun state => state = .unconnected ∨ state = .connected) s.toConnection
      s.journal := by
  have life : Lifecycle (Sequenced (P := P) fun state => state = .unconnected ∨ state = .connected)
      (Sequenced (· ≠ .closing)) (Sequenced (· ≠ .connecting)) (Sequenced (· ≠ .connecting)) :=
    Sequenced.lifecycle (.inl rfl) (.inr rfl) nofun (fun other => other rfl) nofun
      fun other => other rfl
  have opening : Hosts (fun _ => ()) (Sequenced (P := P) (· ≠ .closing)) :=
    Sequenced.hosts nofun nofun
  have closing : Hosts (fun _ => ()) (Sequenced (P := P) (· ≠ .connecting)) :=
    Sequenced.hosts nofun nofun
  have start : Sequenced (P := P) (fun state => state = .unconnected ∨ state = .connected)
      (Socket.fresh protocol endpoint readChunk writeChunk).toConnection [] :=
    ⟨⟨rfl, ⟨rfl, rfl⟩, lawful_nil⟩, .inl rfl, rfl, by simp [Overtaken]⟩
  exact life.holds_after_run leaves_unit (Sequenced.hosts (.inl rfl) (.inr rfl)) opening closing
    closing start ran

/-- What is seen of a connected socket is what it was asked to connect to, if it was connecting
before, and nothing otherwise. -/
theorem Seen.target_iff {c : Connection P} {j : List (Entry P)} (seen : Seen c j)
    (connected : c.state = .connected) :
    c.mode.isEmpty = false ∧ target j = some (c.interfaceName, c.mode) ↔
      (course j).previous = .connecting := by
  have names := seen.names
  have fits : (target j).isSome = true ↔ (course j).previous = .connecting := by
    have fits := seen.fits
    rw [Course.Fits, ← seen.state, connected] at fits
    exact fits
  rw [← fits]
  cases asked : target j with
  | none => simp
  | some given =>
    rw [asked] at names
    obtain ⟨ifname, mode⟩ := given
    obtain ⟨rfl, rfl, nonempty⟩ := names
    simp [nonempty]

/-- A change of state is one of those in order if and only if no operation was overtaken that ends
with it. Whoever looks at the socket finds it in the state that was reported last, and if that is
connected, finds the interface and the mode that it was asked to connect to, which is not empty, if
and only if it was connecting before. -/
theorem leadsTo_iff_not_overtaken
    (ran : Socket.run actions (Socket.fresh protocol endpoint readChunk writeChunk) =
      some ((), s)) :
    (∀ before state after, s.journal = before ++ .raised (.stateChanged state) :: after →
      ((course before).state.leadsTo state = true ↔ ¬Overtaken before)) ∧
      ∀ before c after,
        s.journal ++ [.inspected s.toConnection] = before ++ .inspected c :: after →
        c.state = (course before).state ∧
          (c.state = .connected →
            (c.mode.isEmpty = false ∧ target before = some (c.interfaceName, c.mode) ↔
              (course before).previous = .connecting)) := by
  have sequenced := sequenced_of_run ran
  refine ⟨fun before state after split => ?_, fun before c after split => ?_⟩
  · exact sequenced.lawful before (.raised (.stateChanged state)) after split
  · have lawful : Lawful InOrder (s.journal ++ [.inspected s.toConnection]) :=
      sequenced.lawful.append sequenced.seen
    have seen : Seen c before := lawful before (.inspected c) after split
    exact ⟨seen.state, seen.target_iff⟩

end

/-- A handler that answers the news that the socket is connecting by closing it. -/
def closeMeanwhile : Handler P :=
  .on none (fun e => e matches .stateChanged .connecting) fun _ =>
    .call .close fun _ => .done (.silent none)

/-- A run in which the socket is closed while it is connecting. -/
def overtakenRun : List (Action Plain.protocol) :=
  [.ask (.cue (.addInterface ⟨"vcan0", 3, 16⟩)), .install closeMeanwhile,
    .ask (.connect "vcan0" .readWrite)]

/-- The socket goes from unconnected to connected, in an empty mode. -/
theorem exists_overtakenRun :
    ∃ s, Socket.run overtakenRun (Socket.fresh ⟨0, 64, 64, none⟩ .blank 64 64) = some ((), s) ∧
      ((s.journal[12]?).bind Entry.newState?, (course (s.journal.take 12)).state, s.state,
        s.mode.isEmpty) = (some .connected, .unconnected, .connected, true) :=
  Socket.exists_run (by decide +kernel)

theorem not_always_leadsTo :
    ¬∀ (P : Protocol) (protocol : P.State) (endpoint : Endpoint) (readChunk writeChunk : Nat)
      (actions : List (Action P)) (s : Socket P),
      Socket.run actions (Socket.fresh protocol endpoint readChunk writeChunk) = some ((), s) →
      (∀ before state after, s.journal = before ++ .raised (.stateChanged state) :: after →
        (course before).state.leadsTo state = true) ∧
        ∀ before c after,
          s.journal ++ [.inspected s.toConnection] = before ++ .inspected c :: after →
          c.state = .connected →
          c.mode.isEmpty = false ∧ target before = some (c.interfaceName, c.mode) := by
  intro always
  obtain ⟨s, ran, outcome⟩ := exists_overtakenRun
  simp only [Prod.mk.injEq] at outcome
  obtain ⟨changed, unconnected, -⟩ := outcome
  have inOrder := (always _ _ _ _ _ _ s ran).1 _ _ _ (eq_take_append_stateChanged changed)
  rw [unconnected] at inOrder
  cases inOrder

theorem leadsTo_iff_not_overtaken_overtakenRun :
    ∃ s before after,
      Socket.run overtakenRun (Socket.fresh ⟨0, 64, 64, none⟩ .blank 64 64) = some ((), s) ∧
      s.journal = before ++ .raised (.stateChanged .connected) :: after ∧
      (course before).state = .unconnected ∧
      ((course before).state.leadsTo .connected = true ↔ ¬Overtaken before) ∧
      (s.mode.isEmpty = false ∧ target s.journal = some (s.interfaceName, s.mode) ↔
        (course s.journal).previous = .connecting) := by
  obtain ⟨s, ran, outcome⟩ := exists_overtakenRun
  simp only [Prod.mk.injEq] at outcome
  obtain ⟨changed, unconnected, connected, -⟩ := outcome
  have moment := eq_take_append_stateChanged changed
  obtain ⟨changes, looks⟩ := leadsTo_iff_not_overtaken ran
  exact ⟨s, _, _, ran, moment, unconnected, changes _ _ _ moment,
    (looks s.journal s.toConnection [] rfl).2 connected⟩

end CanStream
