import CanStream.Proofs.Socket.Settled

/-!
# Handlers that connect and close

While the news of a connect or a close is answered, a handler may connect and close the socket in
turn. What it does there is done at once, for its events wait, and then the operation goes on with
what it finds.

Other operations leave the state of a connection, its mode and its interface alone. An assertion
about these is steady, and all there is to say about it is what connecting and closing do.
-/

namespace CanStream

variable {P : Protocol} {γ : Type}

/-- Hooks other than the set-up, and calls other than those that open or close the descriptor, leave
a view of the endpoint as it was. -/
structure Protocol.Leaves (P : Protocol) (view : Endpoint → γ) : Prop where
  read : ∀ n, Hook.Keeps (fun s => view s.2) (P.read n)
  write : ∀ bytes, Hook.Keeps (fun s => view s.2) (P.write bytes)
  applyOption : ∀ state value, Hook.Keeps (fun s => view s.2) (P.applyOption state value)
  cue : ∀ q e, view (Endpoint.cue e q) = view e
  poll : ∀ read write e, view (Endpoint.poll read write e).2 = view e
  takeWritten : ∀ e : Endpoint, view { e with written := [] } = view e

theorem Protocol.Leaves.spares {view : Endpoint → γ} (leaves : P.Leaves view) :
    P.Spares fun s => view s.2 where
  read := leaves.read
  write := leaves.write
  messageQueued := fun _ _ _ => rfl
  cue := fun q _ e => leaves.cue q e
  poll := fun read write _ e => leaves.poll read write e
  takeWritten := fun _ e => leaves.takeWritten e

/-- The assertion is about the state, the mode and the interface of a connection and a view of its
endpoint, and about the entries that have to do with them. -/
structure Steady (view : Endpoint → γ) (K : Assertion P) : Prop where
  congr : ∀ {c c' j}, K c j → c'.state = c.state → c'.mode = c.mode →
    c'.interfaceName = c.interfaceName → view c'.endpoint = view c.endpoint → K c' j
  append : ∀ {c j} {entry : Entry P}, entry.steers = false → K c j → K c (j ++ [entry])
  inspected : ∀ {c j}, K c j → K c (j ++ [.inspected c])
  closeEndpoint : ∀ {c j}, K c j → K { c with endpoint := (Endpoint.close c.endpoint).2 } j

namespace Steady

variable {view : Endpoint → γ} {K : Assertion P}

theorem settled (steady : Steady view K) : Settled (fun s => view s.2) K where
  congr := fun h state mode interfaceName same => steady.congr h state mode interfaceName same
  append := fun other h => steady.append (Entry.steers_eq_false other) h
  inspected := fun h => steady.inspected h
  sever := fun h => steady.closeEndpoint (steady.append rfl h)

theorem optionSteps (steady : Steady view K) (leaves : P.Leaves view) : OptionSteps K where
  error := fun e h => steady.settled.error h e
  refuseOption := fun value h ran =>
    steady.congr h rfl rfl rfl ((leaves.applyOption _ value).of_exec ran)
  keepOption := fun value h ran =>
    steady.congr (steady.append rfl h) rfl rfl rfl ((leaves.applyOption _ value).of_exec ran)
  optionChanged := fun _ h => steady.append rfl h

end Steady

/-- A handler may be at work where the assertion holds, and connect and close the socket as well. -/
structure Hosts (view : Endpoint → γ) (K : Assertion P) : Prop where
  steady : Steady view K
  life : ∃ opening closing released, Lifecycle K opening closing released

section

variable {view : Endpoint → γ} {K : Assertion P}

theorem Hosts.enduring (hosts : Hosts view K) (leaves : P.Leaves view) : Enduring K where
  steps := hosts.steady.settled.localSteps leaves.spares (hosts.steady.optionSteps leaves)
  reads := hosts.steady.settled.readSteps leaves.spares
  turns := hosts.steady.settled.turns
  life := hosts.life

/-- What connecting and closing lead back to, with handlers at work in the midst of them, holds
after every run. -/
theorem Lifecycle.holds_after_run {opening closing released : Assertion P}
    (life : Lifecycle K opening closing released) (leaves : P.Leaves view) (rest : Hosts view K)
    (hostsOpening : Hosts view opening) (hostsClosing : Hosts view closing)
    (hostsReleased : Hosts view released) {protocol : P.State} {endpoint : Endpoint}
    {readChunk writeChunk : Nat} {actions : List (Action P)}
    (start : K (Socket.fresh protocol endpoint readChunk writeChunk).toConnection [])
    {s : Socket P}
    (ran : Socket.run actions (Socket.fresh protocol endpoint readChunk writeChunk) =
      some ((), s)) : K s.toConnection s.journal := by
  have enduring := rest.enduring leaves
  exact enduring.holds_after_run (hostsOpening.enduring leaves) (hostsClosing.enduring leaves)
    (hostsReleased.enduring leaves) life start ran

end

end CanStream
