import CanStream.Proofs.Frame.Kinds
import CanStream.Proofs.Socket.Coherence
import CanStream.Proofs.Socket.Passive
import CanStream.Protocol.Plain

/-!
# Which connects go on

A connect goes on past its checks only on an unconnected socket, and if the mode asks for nothing
but to read and write. The modes that are refused are told by the ways of opening a file that they
ask for, so one that has bits without a name is not refused for them. A connect that does not go on
is refused with an error, and nothing else comes of it.
-/

namespace CanStream

variable {P : Protocol}

namespace OpenMode

/-- The mode asks to read or to write, and for nothing else. -/
def Transfers (m : OpenMode) : Prop := m.bits ≠ 0 ∧ m.bits &&& ~~~(readBit ||| writeBit) = 0

/-- The mode has a bit without a name, and none of the ways of opening that a socket does not have.
-/
def Strange (m : OpenMode) : Prop :=
  m.bits &&& ~~~openModeFamily.known ≠ 0 ∧ m.bits &&& unsupportedBits = 0

theorem isSupported_iff (m : OpenMode) : m.isSupported = true ↔ m.Transfers ∨ m.Strange := by
  have others : ~~~(readBit ||| writeBit) = ~~~openModeFamily.known ||| unsupportedBits := by
    decide +kernel
  have split : m.bits &&& ~~~(readBit ||| writeBit) =
      m.bits &&& ~~~openModeFamily.known ||| m.bits &&& unsupportedBits := by
    rw [others, UInt32.and_comm, word_or_and, UInt32.and_comm, UInt32.and_comm unsupportedBits]
  have supported : m.isSupported = true ↔ m.bits ≠ 0 ∧ m.bits &&& unsupportedBits = 0 := by
    simp [isSupported, FlagSet.isEmpty, FlagSet.intersects]
  rw [supported, Transfers, Strange, split, UInt32.or_eq_zero_iff]
  constructor
  · rintro ⟨nonzero, known⟩
    by_cases named : m.bits &&& ~~~openModeFamily.known = 0
    · exact .inl ⟨nonzero, named, known⟩
    · exact .inr ⟨named, known⟩
  · rintro (⟨nonzero, -, known⟩ | ⟨unnamed, known⟩)
    · exact ⟨nonzero, known⟩
    · refine ⟨fun zero => unnamed ?_, known⟩
      rw [zero, UInt32.zero_and]

end OpenMode

namespace Socket

/-- Events are raised as outside of a handler, or as within one, where they wait. -/
def Raises (emit : Emit P) : Prop := emit = Socket.emit ∨ emit = enqueue

section

variable {emit : Emit P} (raises : Raises emit)

include raises

/-- What a journal says once and for all, it still says when an event was raised. -/
theorem Raises.upholds {fact : List (Entry P) → Prop} (lasting : Lasting fact) (e : P.Event) :
    Upholds Scope.all (fun _ j => fact (j ++ [.raised e])) (emit e) fun _ j => fact j := by
  rcases raises with rfl | rfl
  · exact lasting.enduring.upholds_emit e
  · exact upholds_enqueue (fun _ j => fact j) e

/-- An event that a passive socket raises leaves the connection as it was, and brings about no
other event. -/
theorem Raises.exists_of_passive {s : Socket P} (passive : s.Passive) (e : P.Event) :
    ∃ s', emit e s = some ((), s') ∧ s'.toConnection = s.toConnection ∧
      raisings s'.journal = raisings s.journal ++ [e] := by
  rcases raises with rfl | rfl
  · obtain ⟨s', ran, same, -, once⟩ := exists_emit_of_passive passive e
    exact ⟨s', ran, same, once⟩
  · exact ⟨{ s.log (.raised e) with queue := s.queue ++ [e] }, rfl, rfl, raisings_append ..⟩

omit raises in
theorem lasting_isPrefix (j₀ : List (Entry P)) : Lasting (j₀ <+: ·) :=
  fun _ h => h.trans (List.prefix_append ..)

/-- Whatever comes of an event comes after it. -/
theorem Raises.isPrefix {e : P.Event} {s s' : Socket P} (ran : emit e s = some ((), s')) :
    s.journal ++ [.raised e] <+: s'.journal :=
  (raises.upholds (lasting_isPrefix (s.journal ++ [.raised e])) e).holds List.prefix_rfl ran

theorem Raises.isPrefix_of_establish {ifname : String} {mode : OpenMode} {s s' : Socket P}
    {answer : Bool} (ran : establish emit ifname mode s = some (answer, s')) :
    s.journal <+: s'.journal := by
  have lasting : Lasting (s.journal <+: ·) := lasting_isPrefix _
  have emits : Emits Scope.all (fun (_ : Connection P) j => s.journal <+: j) emit :=
    fun e _ => raises.upholds lasting e
  have steps := lasting.lifecycle.connectSteps lasting.optionSteps.toBasicSteps ifname mode
  have upholds := upholds_establish steps emits emits emits emits (fun _ _ h _ => h)
    fun _ _ h _ => lasting _ h
  exact upholds.holds List.prefix_rfl ran

/-- A connect that goes on gives up what was buffered first. -/
theorem Raises.isPrefix_of_supported {ifname : String} {mode : OpenMode} {s s' : Socket P}
    {answer : Bool} (unconnected : s.state = .unconnected) (supported : mode.isSupported = true)
    (ran : connect emit ifname mode s = some (answer, s')) :
    s.journal ++ [.cleared ifname mode] <+: s'.journal := by
  rw [connect_of_supported unconnected supported] at ran
  exact raises.isPrefix_of_establish ran

end

/-- What is added to a journal begins with one entry only. -/
theorem eq_of_isPrefix {j₀ j : List (Entry P)} {entry entry' : Entry P} (h : j₀ ++ [entry] <+: j)
    (h' : j₀ ++ [entry'] <+: j) : entry = entry' := by
  have same := (List.prefix_of_prefix_length_le h h' (by simp)).eq_of_length (by simp)
  exact List.singleton_inj.mp (List.append_cancel_left same)

/-- The error with which the socket refuses to connect. -/
def refusal (s : Socket P) : SocketError :=
  if s.state = .unconnected then ⟨.unsupportedOperation, "Unsupported open mode"⟩
  else ⟨.operationError, "Trying to connect while connection is in progress"⟩

theorem connect_of_refused {emit : Emit P} {ifname : String} {mode : OpenMode} {s : Socket P}
    (refused : ¬(s.state = .unconnected ∧ mode.isSupported = true)) :
    connect emit ifname mode s =
      (do emit (.error s.refusal.kind); pure false : SocketM P Bool) (s.withError s.refusal) := by
  by_cases unconnected : s.state = .unconnected
  · have unsupported : mode.isSupported = false :=
      Bool.eq_false_iff.mpr fun supported => refused ⟨unconnected, supported⟩
    rw [connect_of_unsupported unconnected unsupported, refusal, if_pos unconnected]
    rfl
  · rw [connect_of_busy unconnected, refusal, if_neg unconnected]
    rfl

/-- The socket is unconnected, and the mode asks for nothing but to read and write, or has unnamed
bits and none of the ways of opening that are refused. -/
def Admits (s : Socket P) (mode : OpenMode) : Prop :=
  s.state = .unconnected ∧ (mode.Transfers ∨ mode.Strange)

/-- Within a handler and outside of one, a connect gives up what was buffered just if the socket
admits the mode. Otherwise it is refused with an error, which is reported, and all that comes of it
is what the handler does about it. If the handler asks for nothing there is no other event, and
nothing of the connection but its error changes. -/
theorem cleared_iff_admits {emit : Emit P} (raises : Raises emit) (s : Socket P) (ifname : String)
    (mode : OpenMode) :
    (∀ answer s', connect emit ifname mode s = some (answer, s') →
      (s.journal ++ [.cleared ifname mode] <+: s'.journal ↔ s.Admits mode)) ∧
      (¬s.Admits mode →
        connect emit ifname mode s =
            (do emit (.error s.refusal.kind); pure false : SocketM P Bool)
              (s.withError s.refusal) ∧
          (s.Passive → ∃ s', connect emit ifname mode s = some (false, s') ∧
            s'.toConnection = { s.toConnection with error := s.refusal } ∧
            raisings s'.journal = raisings s.journal ++ [.error s.refusal.kind])) := by
  rw [Admits, ← mode.isSupported_iff]
  refine ⟨fun answer s' ran => ?_, fun refused => ?_⟩
  · by_cases admitted : s.state = .unconnected ∧ mode.isSupported = true
    · exact iff_of_true (raises.isPrefix_of_supported admitted.1 admitted.2 ran) admitted
    · refine iff_of_false (fun cleared => ?_) admitted
      rw [connect_of_refused admitted] at ran
      obtain ⟨-, ⟨⟩, raised⟩ := eq_of_bind_pure ran
      have refused := raises.isPrefix raised
      change s.journal ++ _ <+: s'.journal at refused
      cases eq_of_isPrefix cleared refused
  · have went : connect emit ifname mode s =
        (do emit (.error s.refusal.kind); pure false : SocketM P Bool)
          (s.withError s.refusal) := connect_of_refused refused
    refine ⟨went, fun passive => ?_⟩
    have still : (s.withError s.refusal).Passive := passive
    obtain ⟨s', raised, same, once⟩ := raises.exists_of_passive still (.error s.refusal.kind)
    refine ⟨s', ?_, same, once⟩
    rw [went]
    exact bind_eq_some.mpr ⟨(), s', raised, rfl⟩

/-- A mode with no named bit. -/
def strangeMode : OpenMode := ⟨0x40⟩

/-- A run that leaves a socket unconnected, with an interface to connect to. -/
def unconnectedRun : List (Action Plain.protocol) :=
  [.ask (.cue (.addInterface ⟨"vcan0", 3, 16⟩))]

/-- The socket connects in the strange mode. -/
theorem exists_strange_connect :
    ∃ s s', run unconnectedRun (fresh ⟨0, 64, 64, none⟩ .blank 64 64) = some ((), s) ∧
      connect Socket.emit "vcan0" strangeMode s = some (true, s') ∧
      s.state = .unconnected ∧ s'.state = .connected ∧ s'.handler = none := by
  have outcome : ((run unconnectedRun (fresh ⟨0, 64, 64, none⟩ .blank 64 64)).bind fun r =>
      (connect Socket.emit "vcan0" strangeMode r.2).map fun t =>
        (t.1, r.2.state, t.2.state, t.2.handler.isNone)) =
      some (true, .unconnected, .connected, true) := by
    decide +kernel
  rw [Option.bind_eq_some_iff] at outcome
  obtain ⟨⟨⟨⟩, s⟩, ran, connected⟩ := outcome
  rw [Option.map_eq_some_iff] at connected
  obtain ⟨⟨answer, s'⟩, connected, values⟩ := connected
  simp only [Prod.mk.injEq] at values
  obtain ⟨rfl, before, after, alone⟩ := values
  exact ⟨s, s', ran, connected, before, after, Option.isNone_iff_eq_none.mp alone⟩

theorem not_always_transfers :
    ¬∀ (P : Protocol) (protocol : P.State) (endpoint : Endpoint) (readChunk writeChunk : Nat)
      (actions : List (Action P)) (s s' : Socket P) (ifname : String) (mode : OpenMode)
      (answer : Bool), run actions (fresh protocol endpoint readChunk writeChunk) = some ((), s) →
      connect Socket.emit ifname mode s = some (answer, s') →
      s.journal ++ [.cleared ifname mode] <+: s'.journal →
      s.state = .unconnected ∧ mode.Transfers := by
  intro always
  obtain ⟨s, s', ran, connected, unconnected, -, -⟩ := exists_strange_connect
  have raises : Raises (P := Plain.protocol) Socket.emit := .inl rfl
  obtain ⟨-, -, onlyTransfers⟩ := always _ _ _ _ _ _ s s' _ _ _ ran connected
    (raises.isPrefix_of_supported unconnected rfl connected)
  exact absurd onlyTransfers (by decide)

/-- The strange mode is admitted once, and the connected socket then refuses another mode. -/
theorem cleared_iff_admits_strangeMode :
    ∃ s s' s'', run unconnectedRun (fresh ⟨0, 64, 64, none⟩ .blank 64 64) = some ((), s) ∧
      connect Socket.emit "vcan0" strangeMode s = some (true, s') ∧ s.Admits strangeMode ∧
      connect Socket.emit "vcan0" .readWrite s' = some (false, s'') ∧
      s''.toConnection = { s'.toConnection with error := s'.refusal } ∧
      s'.refusal.kind = .operationError := by
  obtain ⟨s, s', ran, connected, unconnected, isConnected, alone⟩ := exists_strange_connect
  have raises : Raises (P := Plain.protocol) Socket.emit := .inl rfl
  have admits := ((cleared_iff_admits raises s "vcan0" strangeMode).1 true s' connected).mp
    (raises.isPrefix_of_supported unconnected rfl connected)
  have busy : s'.state ≠ .unconnected := by
    rw [isConnected]
    decide
  obtain ⟨-, refuses⟩ :=
    (cleared_iff_admits raises s' "vcan0" .readWrite).2 fun admitted => busy admitted.1
  obtain ⟨s'', refused, same, -⟩ := refuses (passive_of_alone alone)
  refine ⟨s, s', s'', ran, connected, admits, refused, same, ?_⟩
  rw [refusal, if_neg busy]

end Socket

end CanStream
