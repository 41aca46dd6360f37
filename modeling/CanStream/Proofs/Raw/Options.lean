import CanStream.Proofs.Endpoint.Options
import CanStream.Proofs.Raw.Reading
import CanStream.Proofs.Raw.Writing
import CanStream.Proofs.Socket.Coherence

/-!
# Raw options reach the kernel

The protocol keeps the options, and the kernel is given all of them when the socket connects. An
option that is set while the socket is connected is given to the kernel first, and kept only if the
kernel takes it. So what is kept is what the kernel was given last, whenever a socket is connected.
-/

namespace CanStream.Raw

theorem kernelName_injective {o o' : Opt} (same : o.kernelName = o'.kernelName) : o = o' := by
  cases o <;> cases o' <;> first | rfl | exact absurd same (by decide)

@[simp] theorem option_value (s : State) (o : Opt) : (s.value o).option = o := by
  cases o <;> rfl

theorem value_put (s : State) (v : Value) : (s.put v).value v.option = v := by
  cases v <;> rfl

theorem value_put_of_ne (s : State) {v : Value} {o : Opt} (other : o ≠ v.option) :
    (s.put v).value o = s.value o := by
  cases v <;> cases o <;> first | rfl | exact absurd rfl other

/-- The number and the value of an option, as the kernel is given them. -/
def Value.toKernel (v : Value) : OptionName × List UInt8 := (v.option.kernelName, v.encode)

/-- The endpoint with the value of an option on record. -/
def tell (e : Endpoint) (v : Value) : Endpoint := { e with options := e.options ++ [v.toKernel] }

theorem restores_push (v : Value) : Hook.Restores (push v) := by
  have set : Hook.Restores (σ := State) (Hook.call SocketError.ofIo
      (Endpoint.setOption v.option.kernelName v.encode)) := .call Endpoint.setOption_error
  refine .bind .state fun s => .ite (.bind (.call fun s e => ?_) fun i => ?_) set
  · rw [Endpoint.lookup_snd]
  · exact .ite (.fail _) set

theorem push_ok {v : Value} {s after : State × Endpoint}
    (ran : (push v).exec s = (.ok (), after)) : after = (s.1, tell s.2 v) := by
  have set {s₁ : State × Endpoint} (ran : (Hook.call SocketError.ofIo
      (Endpoint.setOption v.option.kernelName v.encode) : Hook State SocketError Unit).exec s₁ =
      (.ok (), after)) : after = (s₁.1, tell s₁.2 v) := by
    obtain ⟨taken, kept⟩ := Hook.eq_of_call_ok ran
    exact Prod.ext kept (Endpoint.setOption_ok taken)
  rw [push, Hook.exec_state_bind] at ran
  split at ran
  · obtain ⟨i, s₁, asked, ran⟩ := Hook.exists_of_bind_ok ran
    have same : s₁ = s := by
      obtain ⟨found, kept⟩ := Hook.eq_of_call_ok asked
      have untouched := Endpoint.lookup_snd s.1.interfaceName s.2
      rw [found] at untouched
      exact Prod.ext kept untouched
    rw [same] at ran
    split at ran
    · cases ran
    · exact set ran
  · exact set ran

/-- The options are put on record in order. -/
theorem pushAll_ok {options : List Opt} {s after : State × Endpoint}
    (ran : (pushAll options).exec s = (.ok (), after)) :
    after.1 = s.1 ∧
      after.2.options = s.2.options ++ options.map fun o => (s.1.value o).toKernel := by
  refine Endpoint.recorded_of_forM (fun s o => (s.value o).toKernel) (fun {o s after} ran => ?_) ran
  rw [Hook.exec_state_bind] at ran
  obtain rfl := push_ok ran
  exact ⟨rfl, rfl⟩

/-- The endpoint after the value of an option was put into effect. -/
def putInEffect (state : SocketState) (e : Endpoint) (v : Value) : Endpoint :=
  if state = .connected then tell e v else e

theorem applyOption_ok {state : SocketState} {v : Value} {s after : State × Endpoint}
    (ran : (applyOption state v).exec s = (.ok (), after)) :
    after = (s.1, putInEffect state s.2 v) := by
  unfold applyOption at ran
  unfold putInEffect
  split at ran
  case isTrue connected =>
    rw [if_pos connected]
    exact push_ok ran
  case isFalse other =>
    rw [if_neg other]
    exact (Prod.mk.inj ran).2.symm

theorem restores : protocol.Restores :=
  fun _ value => .ite (restores_push value) (.pure ())

/-! ## The agreement -/

/-- The kernel was given the value that is kept last, for each option. -/
def Agrees (s : State × Endpoint) : Prop :=
  ∀ o : Opt, s.2.option? o.kernelName = some (s.1.value o).encode

theorem Agrees.keep {s : State × Endpoint} (h : Agrees s) (v : Value) :
    Agrees (s.1.put v, tell s.2 v) := by
  intro o
  by_cases same : o = v.option
  · rw [same, value_put]
    exact Endpoint.option?_append_self ..
  · have ne : v.option.kernelName ≠ o.kernelName := by
      intro eq
      exact same (kernelName_injective eq).symm
    rw [value_put_of_ne s.1 same, ← h o]
    exact Endpoint.option?_append_of_ne s.2 v.encode ne

/-- A set-up that goes through gives the kernel every option. -/
theorem agrees_connect {ifname : String} {s after : State × Endpoint}
    (ran : (connect ifname).exec s = (.ok (), after)) : Agrees after := by
  obtain ⟨⟨⟩, s₁, -, ran⟩ := Hook.exists_of_bind_ok ran
  obtain ⟨⟨⟩, s₂, -, ran⟩ := Hook.exists_of_bind_ok ran
  obtain ⟨index, s₃, -, ran⟩ := Hook.exists_of_bind_ok ran
  obtain ⟨⟨⟩, s₄, -, ran⟩ := Hook.exists_of_bind_ok ran
  obtain ⟨⟨⟩, s₅, pushed, ran⟩ := Hook.exists_of_bind_ok ran
  obtain ⟨same, grown⟩ := pushAll_ok pushed
  obtain ⟨bound, kept⟩ := Hook.eq_of_call_ok ran
  have last : after.2.options = s₄.2.options ++ Opt.all.map fun o => (s₄.1.value o).toKernel := by
    rw [(Endpoint.bindTo_ok bound).2]
    exact grown
  intro o
  have member : (s₄.1.value o).toKernel ∈ Opt.all.map fun o => (s₄.1.value o).toKernel :=
    List.mem_map_of_mem (by cases o <;> decide)
  have distinct : ((Opt.all.map fun o => (s₄.1.value o).toKernel).map Prod.fst).Nodup := by
    rw [List.map_map]
    simp only [Function.comp_def, Value.toKernel, option_value]
    decide
  have found := Endpoint.option?_of_grown last distinct member
  rw [Value.toKernel, option_value] at found
  rw [kept, same]
  exact found

theorem coherent :
    Coherent (P := protocol) (fun s => (s.1, s.2.setting)) fun s _ => Agrees s where
  spares := {
    read := fun _ => .bind .state fun _ =>
      keeps_readFrames (fun n s e => congrArg (s, ·) (e.setting_read n)) _ _
    write := fun _ => .bind .state fun _ =>
      keeps_writeFrames (fun data s e => congrArg (s, ·) (e.setting_write data)) _ _ _
    messageQueued := fun _ _ _ => rfl
    cue := fun q s e => congrArg (s, ·) (e.setting_cue q)
    poll := fun read write s e => congrArg (s, ·) (e.setting_poll read write)
    takeWritten := fun _ _ => rfl }
  congr := by
    intro s s' j h same o
    obtain ⟨kept, set⟩ := Prod.mk.inj same
    rw [kept, Endpoint.option?_congr (Prod.mk.inj (Prod.mk.inj set).2).2]
    exact h o
  append := fun _ h => h
  sever := by
    intro s j h o
    rw [Endpoint.option?_congr (Endpoint.options_close s.2)]
    exact h o
  refuse := by
    intro s after j cause value h ran
    rw [(restores .connected value).of_exec ran]
    exact h
  keep := by
    intro s after j value h ran
    obtain rfl : after = (s.1, putInEffect .connected s.2 value) := applyOption_ok ran
    exact h.keep value
  connect := fun ifname ran => agrees_connect ran

/-- Whenever an application is back in control of a connected socket, the kernel was given the value
that is kept last, for each option. An option that is refused leaves all as it was but the error, up
to what is done about the error. One that is set is kept, after the kernel took it if the socket is
connected, and a change is reported if and only if the value is another one. -/
theorem agrees_of_run {protocol₀ : State} {endpoint : Endpoint} {readChunk writeChunk : Nat}
    {actions : List (Action protocol)} {s : Socket protocol}
    (ran : Socket.run actions (Socket.fresh protocol₀ endpoint readChunk writeChunk) =
      some ((), s)) :
    (s.state = .connected →
      ∀ o : Opt, s.endpoint.option? o.kernelName = some (State.value s.protocol o).encode) ∧
    (∀ (emit : Emit protocol) (o : Opt) (v : Value) (t t' : Socket protocol),
      (Request.setOption o v).perform emit t = some (false, t') →
      ∃ e : SocketError, emit (.error e.kind) (t.withError e) = some ((), t')) ∧
    ∀ (emit : Emit protocol) (o : Opt) (v : Value) (t t' : Socket protocol),
      (Request.setOption o v).perform emit t = some (true, t') →
      v.option = o ∧
        if State.value t.protocol o = v then
          t' = t.keep v (t.protocol, putInEffect t.state t.endpoint v)
        else
          emit (.optionChanged o) (t.keep v (t.protocol, putInEffect t.state t.endpoint v)) =
            some ((), t') := by
  refine ⟨fun connected => ?_, fun emit o v t t' refused => ?_, fun emit o v t t' set => ?_⟩
  · have agrees : Agrees (s.protocol, s.endpoint) := coherent.of_run ran connected
    exact agrees
  · exact Socket.setOption_refused restores refused
  · obtain ⟨isFor, after, applied, reported⟩ := Socket.setOption_kept set
    have isFor : v.option = o := isFor
    obtain rfl : after = (t.protocol, putInEffect t.state t.endpoint v) := applyOption_ok applied
    refine ⟨isFor, ?_⟩
    by_cases same : State.value t.protocol o = v
    · have unchanged : (protocol.keepOption v t.protocol).1 = false := by
        simp [protocol, isFor, same]
      rw [if_pos same]
      rw [unchanged] at reported
      exact reported
    · have differs : (protocol.keepOption v t.protocol).1 = true := by
        simp [protocol, isFor, same]
      rw [if_neg same]
      rw [differs] at reported
      exact reported

/-- A handler that answers the news that the socket is connecting by setting an option. -/
def whileConnecting : Handler protocol :=
  .on none (fun e => e matches .stateChanged .connecting) fun _ =>
    .call (.toSet (.ownMessages true)) fun _ => .done (.silent none)

/-- A run in which an option is set while the socket is connecting, another one is refused, and one
is given to the kernel at once. -/
def adjustedRun : List (Action protocol) :=
  [.ask (.cue (.addInterface ⟨"vcan0", 3, 16⟩)), .install whileConnecting,
    .ask (.connect "vcan0" .readWrite), .ask (.cue (.failOption Opt.filters.kernelName 22)),
    .ask (.toSet (.filters [])), .ask (.toSet (.loopback false))]

theorem agrees_of_run_adjustedRun :
    ∃ (s t t' : Socket protocol) (e : SocketError),
      Socket.run adjustedRun (Socket.fresh .initial .blank 20 20) = some ((), s) ∧
      (∀ o : Opt, s.endpoint.option? o.kernelName = some (State.value s.protocol o).encode) ∧
      Socket.perform (P := protocol) (.toSet (.fdFrames true)) s = some (false, t) ∧
      Socket.emit (.error e.kind) (s.withError e) = some ((), t) ∧
      Socket.perform (P := protocol) (.toSet (.loopback true)) s = some (true, t') ∧
      Socket.emit (.optionChanged Opt.loopback)
        (s.keep (.loopback true) (s.protocol, tell s.endpoint (.loopback true))) =
          some ((), t') := by
  obtain ⟨s, ran, outcome⟩ : ∃ s : Socket protocol,
      Socket.run adjustedRun (Socket.fresh .initial .blank 20 20) = some ((), s) ∧
      (s.state, State.value s.protocol .loopback,
        (Socket.perform (P := protocol) (.toSet (.fdFrames true)) s).map (fun r => (r.1 : Bool)),
        (Socket.perform (P := protocol) (.toSet (.loopback true)) s).map (fun r => (r.1 : Bool))) =
        (.connected, .loopback false, some false, some true) :=
    Socket.exists_run (by decide +kernel)
  simp only [Prod.mk.injEq] at outcome
  obtain ⟨connected, off, answer, answer'⟩ := outcome
  obtain ⟨⟨_, t⟩, refused, rfl⟩ := Option.map_eq_some_iff.mp answer
  obtain ⟨⟨_, t'⟩, set, rfl⟩ := Option.map_eq_some_iff.mp answer'
  obtain ⟨agrees, refuses, sets⟩ := agrees_of_run ran
  obtain ⟨e, raised⟩ := refuses _ _ _ _ _ refused
  obtain ⟨-, reported⟩ := sets _ .loopback _ _ _ set
  have differs : State.value s.protocol .loopback ≠ .loopback true := by
    rw [off]
    decide
  rw [if_neg differs, connected] at reported
  exact ⟨s, t, t', e, ran, agrees connected, refused, raised, set, reported⟩

end CanStream.Raw
