import CanStream.Proofs.Socket.Settled

/-!
# What is so of a connected socket

What a protocol keeps and what the endpoint has on record may agree whenever a socket is connected.
A set-up that goes through makes them agree, and a connected socket keeps to it. While a socket is
connecting or being closed nothing of the sort is so, even if a handler connects it meanwhile: the
operation that is under way then ends with a set-up that went through, or with an unconnected
socket.

Options are kept in one place only, so that what a request to set one does can be told in full.
-/

namespace CanStream

variable {P : Protocol} {γ : Type}

/-- Whether the descriptor was set up, or closed by somebody else. -/
def Entry.replaces : Entry P → Bool
  | setUp _ => true
  | severed => true
  | _ => false

theorem Entry.replaces_eq_false {entry : Entry P} (other : entry.configures = false) :
    entry.replaces = false := by
  cases entry with
  | setUp _ => cases other
  | severed => cases other
  | _ => rfl

/-- The descriptor was closed by somebody else, and not set up since. -/
def Severed (j : List (Entry P)) : Prop :=
  ∃ before after, j = before ++ .severed :: after ∧ ∀ entry ∈ after, entry.replaces = false

theorem severed_append (j : List (Entry P)) : Severed (j ++ [.severed]) :=
  ⟨j, [], rfl, by simp⟩

theorem Severed.append {j : List (Entry P)} {entry : Entry P} (h : Severed j)
    (other : entry.replaces = false) : Severed (j ++ [entry]) := by
  obtain ⟨before, after, rfl, since⟩ := h
  refine ⟨before, after ++ [entry], by simp, ?_⟩
  exact List.forall_mem_append.mpr ⟨since, List.forall_mem_singleton.mpr other⟩

/-- If the socket is connected, its protocol, its endpoint and its journal agree. -/
def WhenConnected (agree : P.State × Endpoint → List (Entry P) → Prop) : Assertion P :=
  fun c j => c.state = .connected → agree (c.protocol, c.endpoint) j

theorem whenConnected_of_unconnected {agree : P.State × Endpoint → List (Entry P) → Prop}
    {c : Connection P} {j : List (Entry P)} (unconnected : c.state = .unconnected) :
    WhenConnected agree c j := by
  intro connected
  rw [unconnected] at connected
  cases connected

/-- What a set-up makes agree, a connected socket keeps in agreement. -/
structure Coherent (view : P.State × Endpoint → γ)
    (agree : P.State × Endpoint → List (Entry P) → Prop) : Prop where
  spares : P.Spares view
  congr : ∀ {s s' j}, agree s j → view s' = view s → agree s' j
  append : ∀ {s j} {entry : Entry P}, entry.replaces = false → agree s j → agree s (j ++ [entry])
  sever : ∀ {s j}, agree s j → agree (s.1, (Endpoint.close s.2).2) (j ++ [.severed])
  refuse : ∀ {s after j cause} value, agree s j →
    (P.applyOption .connected value).exec s = (.error cause, after) → agree after j
  keep : ∀ {s after j} value, agree s j →
    (P.applyOption .connected value).exec s = (.ok (), after) →
    agree ((P.keepOption value after.1).2, after.2) (j ++ [.kept value])
  connect : ∀ {s after j} ifname, (P.connect ifname).exec s = (.ok (), after) →
    agree after (j ++ [.setUp (.ok ())])

/-- Nothing is said. -/
def Anything : Assertion P := fun _ _ => True

theorem lasting_true : Lasting fun _ : List (Entry P) => True := fun _ h => h

theorem Anything.enduring : Enduring (P := P) Anything := lasting_true.enduring

namespace Coherent

variable {view : P.State × Endpoint → γ} {agree : P.State × Endpoint → List (Entry P) → Prop}

theorem settled (coherent : Coherent view agree) : Settled view (WhenConnected agree) where
  congr := by
    intro c c' j h state _ _ same connected
    rw [state] at connected
    exact coherent.congr (h connected) same
  append := by
    intro c j entry other h connected
    exact coherent.append (Entry.replaces_eq_false other) (h connected)
  inspected := by
    intro c j h connected
    exact coherent.append rfl (h connected)
  sever := by
    intro c j h connected
    exact coherent.sever (h connected)

theorem optionSteps (coherent : Coherent view agree) : OptionSteps (WhenConnected agree) where
  error := fun e h => coherent.settled.error h e
  refuseOption := by
    intro c j cause after value h ran connected
    have isConnected : c.state = .connected := connected
    rw [isConnected] at ran
    exact coherent.refuse value (h isConnected) ran
  keepOption := by
    intro c j after value h ran connected
    have isConnected : c.state = .connected := connected
    rw [isConnected] at ran
    exact coherent.keep value (h isConnected) ran
  optionChanged := fun _ h => coherent.settled.append rfl h

/-- Whatever is so in the midst of a close, it ends with an unconnected socket. -/
theorem closeSteps (start : Assertion P) :
    CloseSteps start Anything Anything (WhenConnected agree) where
  stay := fun _ unconnected => whenConnected_of_unconnected unconnected
  beginClose := fun _ _ _ => trivial
  goOnClosing := fun _ _ => trivial
  release := fun _ => trivial
  releaseFailed := fun _ _ => trivial
  discard := fun {c _} _ unconnected => whenConnected_of_unconnected (c := c.discard) unconnected
  endClose := fun _ _ => whenConnected_of_unconnected rfl

theorem lifecycle (coherent : Coherent view agree) :
    Lifecycle (WhenConnected agree) Anything Anything Anything where
  prepare := fun _ _ _ _ _ => trivial
  connectFailed := fun _ _ _ => trivial
  reconnected := fun ifname _ _ ran _ _ => coherent.connect ifname ran
  connected := fun ifname _ _ ran _ _ => coherent.append rfl (coherent.connect ifname ran)
  giveUp := closeSteps Anything
  close := closeSteps (WhenConnected agree)

theorem enduring (coherent : Coherent view agree) : Enduring (WhenConnected agree) where
  steps := coherent.settled.localSteps coherent.spares coherent.optionSteps
  reads := coherent.settled.readSteps coherent.spares
  turns := coherent.settled.turns
  life := ⟨_, _, _, coherent.lifecycle⟩

/-- Whenever an application is back in control of a connected socket, all agree. -/
theorem of_run (coherent : Coherent view agree) {protocol : P.State} {endpoint : Endpoint}
    {readChunk writeChunk : Nat} {actions : List (Action P)} {s : Socket P}
    (ran : Socket.run actions (Socket.fresh protocol endpoint readChunk writeChunk) =
      some ((), s)) (connected : s.state = .connected) :
    agree (s.protocol, s.endpoint) s.journal := by
  have start : WhenConnected agree
      (Socket.fresh protocol endpoint readChunk writeChunk).toConnection [] := nofun
  have holds : WhenConnected agree s.toConnection s.journal :=
    coherent.enduring.holds_after_run Anything.enduring Anything.enduring Anything.enduring
      coherent.lifecycle start ran
  exact holds connected

end Coherent

/-- An option that is refused leaves the protocol's state and the endpoint as they were. -/
def Protocol.Restores (P : Protocol) : Prop :=
  ∀ state value, Hook.Restores (P.applyOption state value)

/-- The request to set the option that a value is for. -/
def Request.toSet (value : P.Value) : Request P := .setOption (P.optionOf value) value

namespace Socket

variable {emit : Emit P} {option : P.Opt} {value : P.Value} {s s' : Socket P}

/-- The socket with an error. -/
def withError (s : Socket P) (e : SocketError) : Socket P :=
  s.change fun c => { c with error := e }

/-- The socket with the value of an option kept, after the option was put into effect. -/
def keep (s : Socket P) (value : P.Value) (after : P.State × Endpoint) : Socket P :=
  ((s.hooked after).change fun c =>
    { c with protocol := (P.keepOption value after.1).2 }).log (.kept value)

theorem setOption_of_other (other : P.optionOf value ≠ option) :
    setOption emit option value s =
      (do setError emit ⟨.unsupportedOperation,
            "Invalid value for the " ++ P.optionName option ++ " option"⟩
          pure false : SocketM P Bool) s := by
  rw [setOption, if_pos other]

theorem setOption_of_error (same : P.optionOf value = option) {cause : SocketError}
    {after : P.State × Endpoint}
    (applied : (P.applyOption s.state value).exec (s.protocol, s.endpoint) =
      (.error cause, after)) :
    setOption emit option value s =
      (do setError emit cause; pure false : SocketM P Bool) (s.hooked after) := by
  rw [setOption, if_neg (not_not_intro same), get_bind_apply, runHook_bind_apply, applied]

theorem setOption_of_ok (same : P.optionOf value = option) {after : P.State × Endpoint}
    (applied : (P.applyOption s.state value).exec (s.protocol, s.endpoint) = (.ok (), after)) :
    setOption emit option value s =
      (if (P.keepOption value after.1).1 then do emit (.optionChanged option); pure true
        else pure true : SocketM P Bool) (s.keep value after) := by
  rw [setOption, if_neg (not_not_intro same), get_bind_apply, runHook_bind_apply, applied]
  rfl

/-- If an option is not set, nothing comes of it but an error, and what is done about the error. -/
theorem setOption_refused (restores : P.Restores)
    (ran : setOption emit option value s = some (false, s')) :
    ∃ e, emit (.error e.kind) (s.withError e) = some ((), s') := by
  by_cases same : P.optionOf value = option
  · rcases applied : (P.applyOption s.state value).exec (s.protocol, s.endpoint)
      with ⟨cause | ⟨⟩, after⟩
    · obtain rfl := (restores s.state value).of_exec applied
      rw [setOption_of_error same applied] at ran
      obtain ⟨-, ⟨⟩, raised⟩ := eq_of_bind_pure ran
      exact ⟨cause, raised⟩
    · rw [setOption_of_ok same applied] at ran
      split at ran
      · obtain ⟨⟨⟩, -⟩ := eq_of_bind_pure ran
      · cases ran
  · rw [setOption_of_other same] at ran
    obtain ⟨-, ⟨⟩, raised⟩ := eq_of_bind_pure ran
    exact ⟨_, raised⟩

/-- If an option is set, its value was put into effect and is kept, and a change is reported if it
is one. -/
theorem setOption_kept (ran : setOption emit option value s = some (true, s')) :
    P.optionOf value = option ∧ ∃ after,
      (P.applyOption s.state value).exec (s.protocol, s.endpoint) = (.ok (), after) ∧
      if (P.keepOption value after.1).1 then
        emit (.optionChanged option) (s.keep value after) = some ((), s')
      else s' = s.keep value after := by
  by_cases same : P.optionOf value = option
  · refine ⟨same, ?_⟩
    rcases applied : (P.applyOption s.state value).exec (s.protocol, s.endpoint)
      with ⟨cause | ⟨⟩, after⟩
    · rw [setOption_of_error same applied] at ran
      obtain ⟨⟨⟩, -⟩ := eq_of_bind_pure ran
    · refine ⟨after, rfl, ?_⟩
      rw [setOption_of_ok same applied] at ran
      split at ran
      case isTrue differs =>
        obtain ⟨-, ⟨⟩, raised⟩ := eq_of_bind_pure ran
        rw [if_pos differs]
        exact raised
      case isFalse unchanged =>
        rw [if_neg unchanged]
        exact (Prod.mk.inj (Option.some.inj ran)).2.symm
  · rw [setOption_of_other same] at ran
    obtain ⟨⟨⟩, -⟩ := eq_of_bind_pure ran

end Socket

end CanStream
