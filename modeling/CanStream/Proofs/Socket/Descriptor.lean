import CanStream.Proofs.Protocol.Transfers
import CanStream.Proofs.Socket.States

/-!
# The descriptor of an unconnected socket

A socket that fails to connect is closed, and closing it gives up its descriptor. There are two ways
in which an unconnected socket still has one. A handler closes the socket while it is connecting,
and the set-up fails after the descriptor was opened: then closing it once more does nothing. Or a
handler connects the socket while the failure to give up its descriptor is reported: then the close
goes on, and leaves the new descriptor open.
-/

namespace CanStream

variable {P : Protocol}

/-- Whether the descriptor was set up, or what was buffered was given up. -/
def Entry.settles : Entry P → Bool
  | setUp _ => true
  | discarded => true
  | _ => false

/-- The entry ends a set-up that failed for a socket that was closed meanwhile, or a close of a
socket that was connected meanwhile. -/
def Entry.StrandsDescriptor (before : List (Entry P)) : Entry P → Prop
  | setUp (.error _) => (course before).state = .unconnected
  | discarded => (course before).state = .connected
  | _ => False

/-- The last set-up failed for a socket that was closed meanwhile, and the socket was not closed
since; or the last close was of a socket that was connected meanwhile, and no descriptor was set up
since. -/
def Adrift (j : List (Entry P)) : Prop :=
  ∃ before entry after, j = before ++ entry :: after ∧ entry.StrandsDescriptor before ∧
    ∀ e ∈ after, e.settles = false

section

variable {j : List (Entry P)} {entry : Entry P}

theorem adrift_append_of_strands (strands : entry.StrandsDescriptor j) : Adrift (j ++ [entry]) :=
  ⟨j, entry, [], rfl, strands, by simp⟩

theorem Adrift.append (h : Adrift j) (other : entry.settles = false) : Adrift (j ++ [entry]) := by
  obtain ⟨before, last, after, rfl, strands, since⟩ := h
  refine ⟨before, last, after ++ [entry], by simp, strands, ?_⟩
  exact List.forall_mem_append.mpr ⟨since, List.forall_mem_singleton.mpr other⟩

end

/-- An unconnected socket has a descriptor only if it is adrift. Where the descriptor was
`released`, only a connected socket has one. -/
structure Moored (released : Bool) (places : SocketState → Prop) (c : Connection P)
    (j : List (Entry P)) : Prop where
  place : places c.state
  state : c.state = (course j).state
  adrift : c.state = .unconnected → c.endpoint.isOpen = true → Adrift j
  shut : released = true → c.state ≠ .connected → c.endpoint.isOpen = false

namespace Moored

variable {released released' : Bool} {places : SocketState → Prop} {c c' : Connection P}
  {j : List (Entry P)}

/-- A connected socket may have a descriptor. -/
theorem of_connected (place : places c.state) (state : c.state = (course j).state)
    (connected : c.state = .connected) : Moored released places c j where
  place := place
  state := state
  adrift := fun unconnected => by rw [connected] at unconnected; cases unconnected
  shut := fun _ other => absurd connected other

/-- A socket without a descriptor. -/
theorem of_shut (place : places c.state) (state : c.state = (course j).state)
    (shut : c.endpoint.isOpen = false) : Moored released places c j where
  place := place
  state := state
  adrift := fun _ isOpen => by rw [shut] at isOpen; cases isOpen
  shut := fun _ _ => shut

/-- A socket that is on its way may have a descriptor. -/
theorem of_ne_unconnected (place : places c.state) (state : c.state = (course j).state)
    (other : c.state ≠ .unconnected) : Moored false places c j where
  place := place
  state := state
  adrift := fun unconnected => absurd unconnected other
  shut := nofun

theorem steady (released : Bool) (places : SocketState → Prop) :
    Steady Endpoint.isOpen (Moored (P := P) released places) where
  congr := fun {c c' j} h state _ _ isOpen =>
    ⟨state ▸ h.place, state.trans h.state, by rw [state, isOpen]; exact h.adrift,
      by rw [state, isOpen]; exact h.shut⟩
  append := by
    intro c j entry other h
    have same : entry.newState? = none ∧ entry.settles = false := by
      cases entry with
      | raised e =>
        cases e with
        | stateChanged state => cases other
        | _ => exact ⟨rfl, rfl⟩
      | setUp _ => cases other
      | discarded => cases other
      | _ => exact ⟨rfl, rfl⟩
    refine ⟨h.place, ?_, fun unconnected isOpen => (h.adrift unconnected isOpen).append same.2,
      h.shut⟩
    rw [course_append_of_not_changed same.1]
    exact h.state
  inspected := fun {c j} h => by
    refine ⟨h.place, ?_, fun unconnected isOpen => (h.adrift unconnected isOpen).append rfl, h.shut⟩
    rw [course_append_of_not_changed rfl]
    exact h.state
  closeEndpoint := fun h => of_shut h.place h.state (Endpoint.isOpen_close _)

/-- A close gives the descriptor up, unless a handler connected the socket meanwhile. -/
theorem closeSteps {start closing done : SocketState → Prop} (isClosing : closing .closing)
    (isDone : done .unconnected)
    (stays : released = true → released' = true ∨ ¬start .unconnected)
    (notConnected : released = true → ¬closing .connected) :
    CloseSteps (Moored (P := P) released' start) (Moored false closing) (Moored true closing)
      (Moored released done) where
  stay := fun h unconnected =>
    ⟨by rw [unconnected]; exact isDone, h.state, h.adrift, fun isReleased =>
      h.shut ((stays isReleased).resolve_right fun other => other (unconnected ▸ h.place))⟩
  beginClose := fun h _ _ => by
    refine of_ne_unconnected isClosing ?_ nofun
    rw [course_append]
    rfl
  goOnClosing := fun h closing => by
    refine of_ne_unconnected ?_ h.state ?_
    · rw [closing]
      exact isClosing
    · rw [closing]
      exact nofun
  release := fun {c _} h =>
    of_shut (c := { c.hush with endpoint := _ }) h.place h.state (Endpoint.isOpen_close _)
  releaseFailed := fun {c j} e h => by
    have raised : Moored true closing c (j ++ [.raised (.error e.kind)]) :=
      (steady true closing).append rfl h
    exact (steady true closing).congr raised rfl rfl rfl rfl
  discard := fun {c j} h unconnected => by
    refine of_shut (c := c.discard) ?_ ?_ (h.shut rfl (by rw [unconnected]; exact nofun))
    · rw [show c.discard.state = c.state from rfl, unconnected]
      exact isDone
    · rw [course_append_of_not_changed rfl]
      exact h.state
  endClose := fun {c j} h _ => by
    have state : SocketState.unconnected =
        (course (j ++ [.discarded] ++ [.raised (.stateChanged .unconnected)])).state := by
      rw [course_append]
      rfl
    by_cases connected : c.state = .connected
    · refine ⟨isDone, state, fun _ _ => ?_, fun isReleased => ?_⟩
      · refine (adrift_append_of_strands ?_).append rfl
        exact h.state.symm.trans connected
      · exact absurd (connected ▸ h.place) (notConnected isReleased)
    · exact of_shut (c := { c.discard with state := .unconnected }) isDone state
        (h.shut rfl connected)

/-- A set-up that fails leaves a descriptor behind only for a socket that is closed in the end, or
was closed meanwhile. -/
theorem lifecycle {opening closing : SocketState → Prop} (unconnected : places .unconnected)
    (connected : places .connected) (isConnecting : opening .connecting)
    (isClosing : closing .closing) (opens : released = true → ¬opening .unconnected)
    (notConnected : released = true → ¬closing .connected) :
    Lifecycle (Moored (P := P) released places) (Moored false opening) (Moored false closing)
      (Moored true closing) where
  prepare := fun ifname mode h isUnconnected _ => by
    refine of_ne_unconnected isConnecting ?_ nofun
    rw [course_append]
    rfl
  connectFailed := fun {c j cause after} ifname h ran => by
    have failed : Moored false opening (c.hooked after) (j ++ [.setUp (.error cause)]) := by
      refine ⟨h.place, ?_, fun isUnconnected _ => ?_, nofun⟩
      · rw [course_append_of_not_changed rfl]
        exact h.state
      · exact adrift_append_of_strands (h.state.symm.trans isUnconnected)
    exact (steady false opening).congr ((steady false opening).append rfl failed) rfl rfl rfl rfl
  reconnected := fun {c j after} ifname mode h ran isConnected => by
    refine of_connected (c := { c.hooked after with
      wantsRead := c.wantsRead || mode.reads }) ?_ ?_ isConnected
    · rw [show (c.hooked after).state = c.state from rfl, isConnected]
      exact connected
    · rw [course_append_of_not_changed rfl]
      exact h.state
  connected := fun {c j after} ifname mode h ran other => by
    refine of_connected connected ?_ rfl
    rw [course_append]
    rfl
  giveUp :=
    closeSteps isClosing unconnected (fun isReleased => .inr (opens isReleased)) notConnected
  close := closeSteps isClosing unconnected (fun isReleased => .inl isReleased) notConnected

/-- Within a handler the events of a connect or a close wait, so nothing comes in between. -/
theorem hosts (unconnected : places .unconnected) (connected : places .connected) :
    Hosts Endpoint.isOpen (Moored (P := P) released places) where
  steady := steady released places
  life := by
    have life : Lifecycle (Moored (P := P) released places) (Moored false (· = .connecting))
        (Moored false (· = .closing)) (Moored true (· = .closing)) :=
      lifecycle unconnected connected rfl rfl (fun _ => nofun) fun _ => nofun
    exact ⟨_, _, _, life⟩

end Moored

section

variable {protocol : P.State} {endpoint : Endpoint} {readChunk writeChunk : Nat}
  {actions : List (Action P)} {s : Socket P}

/-- Between two actions of an application, an unconnected socket has a descriptor only if the last
set-up failed for a socket that a handler had closed meanwhile, or the last close was of a socket
that a handler had connected meanwhile. -/
theorem adrift_of_isOpen (leaves : P.Leaves Endpoint.isOpen) (shut : endpoint.isOpen = false)
    (ran : Socket.run actions (Socket.fresh protocol endpoint readChunk writeChunk) =
      some ((), s))
    (unconnected : s.state = .unconnected) (isOpen : s.endpoint.isOpen = true) :
    Adrift s.journal := by
  have life : Lifecycle
      (Moored (P := P) false fun state => state = .unconnected ∨ state = .connected)
      (Moored false fun _ => True) (Moored false fun _ => True) (Moored true fun _ => True) :=
    Moored.lifecycle (.inl rfl) (.inr rfl) trivial trivial nofun nofun
  have hosts (released : Bool) :
      Hosts Endpoint.isOpen (Moored (P := P) released fun _ => True) :=
    Moored.hosts trivial trivial
  have start : Moored (P := P) false (fun state => state = .unconnected ∨ state = .connected)
      (Socket.fresh protocol endpoint readChunk writeChunk).toConnection [] :=
    .of_shut (.inl rfl) rfl shut
  have moored := life.holds_after_run leaves (Moored.hosts (.inl rfl) (.inr rfl)) (hosts false)
    (hosts false) (hosts true) start ran
  exact moored.adrift unconnected isOpen

end

/-- A run in which the socket is closed while it is connecting, and the set-up fails with the
descriptor open. -/
def leakingRun : List (Action Plain.protocol) :=
  [.install closeMeanwhile, .ask (.connect "nowhere" .readWrite)]

theorem not_always_shut :
    ¬∀ (P : Protocol) (protocol : P.State) (endpoint : Endpoint) (readChunk writeChunk : Nat)
      (actions : List (Action P)) (s : Socket P), endpoint.isOpen = false →
      Socket.run actions (Socket.fresh protocol endpoint readChunk writeChunk) = some ((), s) →
      s.state = .unconnected → s.endpoint.isOpen = false := by
  intro always
  obtain ⟨s, ran, outcome⟩ : ∃ s,
      Socket.run leakingRun (Socket.fresh ⟨0, 64, 64, none⟩ .blank 64 64) = some ((), s) ∧
      (s.state, s.endpoint.isOpen) = (.unconnected, true) :=
    Socket.exists_run (by decide +kernel)
  obtain ⟨unconnected, isOpen⟩ := Prod.mk.inj outcome
  have shut := always _ _ _ _ _ _ s rfl ran unconnected
  rw [isOpen] at shut
  cases shut

/-- A handler that answers an error by closing the socket and connecting it again. -/
def connectAgain : Handler P :=
  .on none (fun e => e matches .error _) fun _ =>
    .call .close fun _ => .call (.connect "vcan0" .readWrite) fun _ => .done (.silent none)

/-- A run in which the socket is connected again while the failure to close it is reported. -/
def reopenedRun : List (Action Plain.protocol) :=
  [.ask (.cue (.addInterface ⟨"vcan0", 3, 16⟩)), .ask (.connect "vcan0" .readWrite),
    .ask (.cue (.failClose 5)), .install connectAgain, .ask .close]

theorem adrift_of_isOpen_reopenedRun :
    ∃ s, Socket.run reopenedRun (Socket.fresh ⟨0, 64, 64, none⟩ .blank 64 64) = some ((), s) ∧
      s.state = .unconnected ∧ s.endpoint.isOpen = true ∧ Adrift s.journal := by
  obtain ⟨s, ran, outcome⟩ : ∃ s,
      Socket.run reopenedRun (Socket.fresh ⟨0, 64, 64, none⟩ .blank 64 64) = some ((), s) ∧
      (s.state, s.endpoint.isOpen) = (.unconnected, true) :=
    Socket.exists_run (by decide +kernel)
  obtain ⟨unconnected, isOpen⟩ := Prod.mk.inj outcome
  exact ⟨s, ran, unconnected, isOpen,
    adrift_of_isOpen Plain.leaves_isOpen rfl ran unconnected isOpen⟩

end CanStream
