import CanStream.Proofs.IsoTp.Options
import CanStream.Proofs.Raw.Transmit
import CanStream.Proofs.Socket.Passive

/-!
# Connects that fail

When the protocol cannot set up the descriptor, the socket is closed again, whatever the step was at
which the set-up failed and whether the descriptor was open by then. The options are kept. The error
is that of the set-up, unless the descriptor cannot be closed properly either.
-/

namespace CanStream

variable {P : Protocol}

/-- The socket is unconnected, has nothing buffered or to be reported and waits for nothing, and its
descriptor is closed. -/
structure Socket.TornDown (s : Socket P) : Prop where
  state : s.state = .unconnected
  readBuffer : s.readBuffer.isEmpty = true ∧ s.readBuffer.toList = []
  writeBuffer : s.writeBuffer.isEmpty = true ∧ s.writeBuffer.toList = []
  pending : s.pending = 0
  wantsRead : s.wantsRead = false
  wantsWrite : s.wantsWrite = false
  mode : s.mode = FlagSet.empty
  interfaceName : s.interfaceName = ""
  shut : s.endpoint.isOpen = false

theorem Socket.tornDown_of_shut {s : Socket P} {c : Connection P} (same : s.toConnection = c.shut) :
    s.TornDown := by
  have field {α : Type} (f : Connection P → α) : f s.toConnection = f c.shut := congrArg f same
  refine ⟨field (·.state), ⟨field (·.readBuffer.isEmpty), ?_⟩, ⟨field (·.writeBuffer.isEmpty), ?_⟩,
    field (·.pending), field (·.wantsRead), field (·.wantsWrite), field (·.mode),
    field (·.interfaceName), ?_⟩
  · exact (field (·.readBuffer.toList)).trans (ByteQueue.toList_clear _)
  · exact (field (·.writeBuffer.toList)).trans (ByteQueue.toList_clear _)
  · exact (field (·.endpoint.isOpen)).trans (Endpoint.isOpen_close _)

/-- A connect whose set-up fails leaves nothing behind but the error, if the handler asks for
nothing. What a set-up and a close leave alone is as it was. -/
theorem Socket.exists_connect_of_failed {γ : Type} {view : P.State → γ} {ifname : String}
    (connects : Hook.Keeps (fun s => view s.1) (P.connect ifname))
    (disconnects : ∀ s, view (P.disconnect s) = view s) {mode : OpenMode}
    (supported : mode.isSupported = true) {s : Socket P} (passive : s.Passive)
    (unconnected : s.state = .unconnected) {cause : SocketError} {after : P.State × Endpoint}
    (failed : (P.connect ifname).exec (s.protocol, s.endpoint) = (.error cause, after)) :
    ∃ s', perform (.connect ifname mode) s = some (false, s') ∧ s'.TornDown ∧
      s'.error = errorAfter cause (Endpoint.close after.2).1 ∧
      view s'.protocol = view s.protocol := by
  obtain ⟨s', ran, same, -⟩ :=
    leads_connect_of_failed unconnected supported failed s rfl passive
  refine ⟨s', ran, tornDown_of_shut same, congrArg (·.error) same, ?_⟩
  have closed : s'.protocol = P.disconnect after.1 := congrArg (·.protocol) same
  rw [closed, disconnects]
  exact connects.of_exec failed

namespace Raw

/-- The options do not depend on the interface. -/
theorem value_of_interfaceName (s : State) (ifname : String) :
    State.value { s with interfaceName := ifname } = s.value := by
  funext o
  cases o <;> rfl

theorem keeps_value_connect (ifname : String) :
    Hook.Keeps (fun s => State.value s.1) (connect ifname) := by
  intro s
  have kept := keeps_connect (Endpoint.setUpSpares_const ()) State.value value_of_interfaceName
    ifname s
  exact congrArg Prod.fst kept

end Raw

namespace IsoTp

/-- The options do not depend on what is queued. -/
theorem value?_congr {s s' : State} (same : s'.settings = s.settings) : s'.value? = s.value? := by
  have settled (s : State) : s.value? = s.settings.value? := by
    funext o
    cases o <;> rfl
  rw [settled s', same, ← settled s]

theorem keeps_value_connect (ifname : String) :
    Hook.Keeps (fun s => State.value? s.1) (connect ifname) :=
  fun s => value?_congr (settings_connect ifname s)

end IsoTp

/-- On either protocol, a connect whose set-up fails is refused and the socket torn down. No option
changes, and the error is the failure, or that of closing the descriptor. -/
theorem tornDown_of_connect_failed {ifname : String} {mode : OpenMode}
    (supported : mode.isSupported = true) :
    (∀ (s : Socket Raw.protocol) (cause : SocketError) (after : Raw.State × Endpoint),
      s.Passive → s.state = .unconnected →
      (Raw.connect ifname).exec (s.protocol, s.endpoint) = (.error cause, after) →
      ∃ s', Socket.perform (.connect ifname mode) s = some (false, s') ∧ s'.TornDown ∧
        s'.error = Socket.errorAfter cause (Endpoint.close after.2).1 ∧
        ∀ o, Raw.State.value s'.protocol o = Raw.State.value s.protocol o) ∧
      ∀ (s : Socket IsoTp.protocol) (cause : SocketError) (after : IsoTp.State × Endpoint),
        s.Passive → s.state = .unconnected →
        (IsoTp.connect ifname).exec (s.protocol, s.endpoint) = (.error cause, after) →
        ∃ s', Socket.perform (.connect ifname mode) s = some (false, s') ∧ s'.TornDown ∧
          s'.error = Socket.errorAfter cause (Endpoint.close after.2).1 ∧
          ∀ o, IsoTp.State.value? s'.protocol o = IsoTp.State.value? s.protocol o := by
  refine ⟨fun s cause after passive unconnected failed => ?_,
    fun s cause after passive unconnected failed => ?_⟩
  · obtain ⟨s', ran, tornDown, error, same⟩ := Socket.exists_connect_of_failed (P := Raw.protocol)
      (Raw.keeps_value_connect ifname) (fun s => Raw.value_of_interfaceName s "") supported passive
      unconnected failed
    exact ⟨s', ran, tornDown, error, congrFun same⟩
  · obtain ⟨s', ran, tornDown, error, same⟩ := Socket.exists_connect_of_failed (P := IsoTp.protocol)
      (IsoTp.keeps_value_connect ifname) (fun _ => IsoTp.value?_congr rfl) supported passive
      unconnected failed
    exact ⟨s', ran, tornDown, error, congrFun same⟩

/-- An endpoint without interfaces, of which the descriptor cannot be closed properly. -/
def stuckEndpoint : Endpoint := { Endpoint.blank with closeError := some 5 }

/-- No interface is found, with the descriptor open already. -/
theorem Raw.exists_noDevice :
    ∃ after : State × Endpoint,
      (connect "vcan0").exec (State.initial, stuckEndpoint) =
        (.error (SocketError.ofIo (.os Errno.noDevice)), after) ∧
      (Endpoint.close after.2).1 = .error (.os 5) := by
  let ran := (connect "vcan0").exec (State.initial, stuckEndpoint)
  have outcome : ran.1 = .error (SocketError.ofIo (.os Errno.noDevice)) ∧
      (Endpoint.close ran.2.2).1 = .error (.os 5) := by
    decide +kernel
  exact ⟨_, Prod.ext outcome.1 rfl, outcome.2⟩

/-- The failure to close the descriptor takes the place of the failure before it. -/
theorem not_always_error_of_setUp :
    ¬∀ (ifname : String) (mode : OpenMode) (s : Socket Raw.protocol) (cause : SocketError)
      (after : Raw.State × Endpoint), mode.isSupported = true → s.Passive →
      s.state = .unconnected →
      (Raw.connect ifname).exec (s.protocol, s.endpoint) = (.error cause, after) →
      ∃ s', Socket.perform (.connect ifname mode) s = some (false, s') ∧ s'.error = cause := by
  intro always
  obtain ⟨after, failed, stuck⟩ := Raw.exists_noDevice
  let s : Socket Raw.protocol := Socket.initial Raw.State.initial stuckEndpoint
  have passive : s.Passive := Socket.passive_of_alone rfl
  have supported : OpenMode.readWrite.isSupported = true := rfl
  obtain ⟨s', ran, error⟩ := always "vcan0" .readWrite s _ after supported passive rfl failed
  obtain ⟨s₁, ran₁, -, error₁, -⟩ := Socket.exists_connect_of_failed (P := Raw.protocol)
    (Raw.keeps_value_connect "vcan0") (fun s => Raw.value_of_interfaceName s "") supported passive
    rfl failed
  obtain rfl : s' = s₁ := (Prod.mk.inj (Option.some.inj (ran.symm.trans ran₁))).2
  rw [error, stuck] at error₁
  exact absurd error₁ (by decide +kernel)

theorem tornDown_of_connect_failed_initial :
    (∃ s', Socket.perform (P := Raw.protocol) (.connect "vcan0" .readWrite)
        (Socket.initial Raw.State.initial stuckEndpoint) = some (false, s') ∧ s'.TornDown ∧
        s'.error = SocketError.ofIo (.os 5)) ∧
      ∃ s', Socket.perform (P := IsoTp.protocol) (.connect "vcan0" .readWrite)
        (Socket.initial IsoTp.State.initial .blank) = some (false, s') ∧ s'.TornDown ∧
        s'.error.kind = .unsupportedOperation := by
  have supported : OpenMode.readWrite.isSupported = true := rfl
  constructor
  · obtain ⟨after, failed, stuck⟩ := Raw.exists_noDevice
    obtain ⟨s', ran, tornDown, error, -⟩ := (tornDown_of_connect_failed supported).1
      (Socket.initial Raw.State.initial stuckEndpoint) _ after (Socket.passive_of_alone rfl) rfl
      failed
    rw [stuck] at error
    exact ⟨s', ran, tornDown, error⟩
  · obtain ⟨s', ran, tornDown, error, -⟩ := (tornDown_of_connect_failed supported).2
      (Socket.initial IsoTp.State.initial .blank) _ _ (Socket.passive_of_alone rfl) rfl rfl
    exact ⟨s', ran, tornDown, by rw [error]; rfl⟩

end CanStream
