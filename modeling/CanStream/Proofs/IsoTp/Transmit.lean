import CanStream.Proofs.Endpoint.Calls
import CanStream.Proofs.IsoTp.Pieces
import CanStream.Proofs.Protocol.Hook
import CanStream.Proofs.Socket.Buffers
import CanStream.Proofs.Socket.History

/-!
# Payloads keep their boundaries

The bytes that wait to be written are in the write buffer, and the lengths of the payloads that they
make up are kept by the protocol. As long as no payload waits when the protocol sets up the
descriptor, and the endpoint takes a payload whole or not at all, the two agree: what was written,
with the payloads in the buffer behind it, are the pieces of what was queued, in order.

A set-up makes the protocol forget its lengths. A handler that hears of the connecting can close the
socket, connect it again and queue payloads before the descriptor is set up for the first connect;
from then on the lengths fall short of what the buffer holds.
-/

namespace CanStream.IsoTp

/-- The lengths of the payloads that wait. -/
def lengths (s : State × Endpoint) : List Nat := s.1.queued

section

variable {γ δ : Type} {view : Endpoint → γ} (spares : Endpoint.SetUpSpares view)
  (kept : State → δ)

include spares

/-- Setting up the descriptor leaves alone what the calls that do so leave alone. -/
theorem keeps_setUp (ifname : String) (options : List (OptionName × List UInt8))
    (tx rx : CanId) : Hook.Keeps (fun s => (kept s.1, view s.2)) (do
      Hook.call SocketError.ofIo (Endpoint.openAs .isoTp)
      Hook.call SocketError.ofIo (Endpoint.setNonblocking true)
      let i ← Hook.call SocketError.ofIo (Endpoint.lookup ifname)
      pushAll options
      Hook.call SocketError.ofIo (Endpoint.bindTo (Address.ofIds i.index rx tx))) := by
  have pushes : Hook.Keeps (fun s => (kept s.1, view s.2)) (pushAll options) := by
    refine .forM (fun option => ?_) options
    exact .call fun s e => congrArg (kept s, ·) (spares.setOption option.1 option.2 e)
  refine .bind (.call fun s e => congrArg (kept s, ·) (spares.openAs _ e)) fun _ => ?_
  refine .bind (.call fun s e => congrArg (kept s, ·) (spares.setNonblocking _ e)) fun _ => ?_
  refine .bind (.call fun s e => congrArg (kept s, ·) (spares.lookup _ e)) fun i => ?_
  refine .bind pushes fun _ => ?_
  exact .call fun s e => congrArg (kept s, ·) (spares.bindTo _ e)

/-- A set-up leaves alone what does not depend on the lengths that wait. -/
theorem keeps_connect (forgets : ∀ s, kept { s with queued := [] } = kept s) (ifname : String) :
    Hook.Keeps (fun s => (kept s.1, view s.2)) (connect ifname) := by
  refine .bind .state fun s => ?_
  split
  · refine .ite (.fail _) ?_
    refine .bind (.modifyState fun s e => congrArg (·, view e) (forgets s)) fun _ => ?_
    exact keeps_setUp spares kept ifname s.kernelOptions _ _
  · exact .fail _

end

theorem keeps_read (window : Nat) : Hook.Keeps lengths (read window) := by
  refine .bind (.attempt fun _ _ => rfl) fun result => ?_
  cases result with
  | ok bytes => exact .pure bytes
  | error cause => exact .ite (.pure []) (.fail cause)

theorem keeps_applyOption (state : SocketState) (value : Value) :
    Hook.Keeps lengths (applyOption state value) :=
  .ite (.pure ()) (.fail _)

theorem queued_put (s : State) (value : Value) : (s.put value).queued = s.queued := by
  cases value <;> rfl

/-- A set-up forgets the lengths, unless it fails before it begins. -/
theorem queued_connect {ifname : String} {s after : State × Endpoint}
    {result : Except SocketError Unit} (ran : (connect ifname).exec s = (result, after)) :
    after.1.queued = [] ∨ after.1.queued = s.1.queued ∧ ∃ cause, result = .error cause := by
  rw [connect, Hook.exec_state_bind] at ran
  have fails {cause : SocketError}
      (failed : (Hook.fail cause : Hook State SocketError Unit).exec s = (result, after)) :
      after.1.queued = s.1.queued ∧ ∃ cause, result = .error cause := by
    obtain ⟨rfl, rfl⟩ := Prod.mk.inj failed
    exact ⟨rfl, cause, rfl⟩
  split at ran
  case h_1 tx rx _ _ =>
    split at ran
    case isTrue => exact .inr (fails ran)
    case isFalse =>
      rw [Hook.exec_bind_ok s (Hook.exec_modifyState s _)] at ran
      have kept := keeps_setUp (Endpoint.setUpSpares_const ()) State.queued ifname
        s.1.kernelOptions tx rx
      exact .inl (congrArg Prod.fst (kept.of_exec ran))
  case h_2 => exact .inr (fails ran)

/-- A writing tries the first payload that waits. It takes nothing and keeps the lengths, or it
takes a part of the payload off them. -/
theorem write_cases (bytes : List UInt8) (s : State) (e : Endpoint) :
    ∃ e', e'.tried = e.tried ++ [bytes.take (s.queued.headD maxPayload)] ∧
      ((∃ result, (write bytes).exec (s, e) = (result, (s, e')) ∧ e'.written = e.written ∧
          (result = .ok 0 ∨ ∃ code, result = .error (.os code))) ∨
        ∃ part, e'.written = e.written ++ [part] ∧ (write bytes).exec (s, e) =
          (.ok part.length, ({ s with queued := afterWrite part.length s.queued }, e'))) := by
  obtain ⟨rest, -, ⟨code, ran⟩ | ⟨part, -, ran⟩⟩ :=
    Endpoint.write_cases (bytes.take (s.queued.headD maxPayload)) e
  · refine ⟨{ e with tried := _, writeAnswers := rest }, rfl, .inl ?_⟩
    simp only [write, Hook.exec_state_bind, Hook.exec_attempt_bind, ran]
    split
    · exact ⟨_, rfl, trivial, .inl rfl⟩
    · exact ⟨_, rfl, trivial, .inr ⟨code, rfl⟩⟩
  · refine ⟨{ e with
        tried := _, writeAnswers := rest, written := e.written ++ [part], writes := e.writes + 1 },
      rfl, .inr ⟨part, rfl, ?_⟩⟩
    simp only [write, Hook.exec_state_bind, Hook.exec_attempt_bind, ran]
    rfl

/-- The payloads that were queued. -/
def entryPayloads : Entry protocol → List (List UInt8)
  | .queued data => pieces data
  | _ => []

/-- The payloads queued since the write buffer was emptied last. -/
def payloadsQueued (j : List (Entry protocol)) : List (List UInt8) := told entryPayloads j

/-- The payloads that wait to be written. -/
def payloadsWaiting (j : List (Entry protocol)) : List (List UInt8) :=
  (payloadsQueued j).drop (writesTaken j).length

/-- Whether each write that went through took all that it was given, or nothing. -/
def takesWhole : Entry protocol → Bool
  | .writeHook _ _ tried sent _ => sent.all fun part => part.isEmpty || tried.contains part
  | _ => true

/-- The endpoint took what it was given whole or not at all. -/
def TakesWhole (j : List (Entry protocol)) : Prop := ∀ entry ∈ j, takesWhole entry = true

instance (j : List (Entry protocol)) : Decidable (TakesWhole j) := List.decidableBAll _ j

/-- Whether the protocol was asked to set up the descriptor. -/
def setsUp : Entry protocol → Bool
  | .setUp _ => true
  | _ => false

/-- No payload waited when the descriptor was set up, since the buffers were emptied last. -/
def FreshSetUps (j : List (Entry protocol)) : Prop :=
  ∀ before entry after, j = before ++ entry :: after → setsUp entry = true →
    (after.all fun later => !later.clears) = true → payloadsWaiting before = []

instance (j : List (Entry protocol)) : Decidable (FreshSetUps j) := decidableForallMoment j

/-- Whether the protocol was asked to write. -/
def writes : Entry protocol → Bool
  | .writeHook .. => true
  | _ => false

/-- Some payload waited when the descriptor was set up, as none did at the set-ups before, and
nothing was given up or written after that. -/
def Drifted (j : List (Entry protocol)) : Prop :=
  ∃ before after, j = before ++ .setUp (.ok ()) :: after ∧ FreshSetUps before ∧
    payloadsWaiting before ≠ [] ∧ ∀ later ∈ after, later.clears = false ∧ writes later = false

section

variable {j more : List (Entry protocol)}

theorem TakesWhole.of_append (h : TakesWhole (j ++ more)) : TakesWhole j :=
  fun entry member => h entry (List.mem_append_left _ member)

theorem FreshSetUps.of_append {entry : Entry protocol} (h : FreshSetUps (j ++ [entry]))
    (keeps : entry.clears = false) : FreshSetUps j := by
  intro before entry' after split isSetUp kept
  refine h before entry' (after ++ [entry]) ?_ isSetUp ?_
  · rw [split, List.append_assoc, List.cons_append]
  · rw [List.all_append, kept, List.all_cons, keeps]
    rfl

theorem Drifted.of_append {entry : Entry protocol} (h : Drifted (j ++ [entry])) :
    entry = .setUp (.ok ()) ∧ FreshSetUps j ∧ payloadsWaiting j ≠ [] ∨
      Drifted j ∧ entry.clears = false ∧ writes entry = false := by
  obtain ⟨before, after, split, fresh, waiting, later⟩ := h
  rcases moment_of_append split with ⟨-, rfl, last⟩ | ⟨earlier, rfl, split'⟩
  · exact .inl ⟨last, fresh, waiting⟩
  · refine .inr ⟨⟨before, earlier, split', fresh, waiting, fun entry' member => ?_⟩, ?_⟩
    · exact later entry' (List.mem_append_left _ member)
    · exact later entry (List.mem_append_right _ (List.mem_singleton_self _))

theorem FreshSetUps.waiting_eq_nil {result : Except SocketError Unit}
    (h : FreshSetUps (j ++ [.setUp result])) : payloadsWaiting j = [] :=
  h j (.setUp result) [] rfl rfl rfl

end

/-- An entry that has nothing to do with payloads. -/
structure Unsegmented (entry : Entry protocol) : Prop where
  keeps : entry.clears = false
  unqueued : entryPayloads entry = []
  unwritten : entry.writesTaken = []
  unset : setsUp entry = false

/-! ## The invariant -/

/-- The payloads in the write buffer. -/
def payloadsHeld (c : Connection protocol) : List (List UInt8) :=
  cut (State.queued c.protocol) c.writeBuffer.toList

/-- The kept lengths measure the write buffer, and what was written, with the payloads in the
buffer behind it, are the payloads that were queued. -/
structure Aligned (c : Connection protocol) (j : List (Entry protocol)) : Prop where
  measures : Measures (State.queued c.protocol) c.writeBuffer.toList
  inOrder : writesTaken j ++ payloadsHeld c = payloadsQueued j

/-- What a connection knows of the payloads that it transmits. -/
structure Segmented (c : Connection protocol) (j : List (Entry protocol)) : Prop where
  whole : c.writeBuffer.WellFormed
  idle : c.state = .unconnected → State.queued c.protocol = []
  aligned : TakesWhole j → FreshSetUps j → Aligned c j
  drifted : TakesWhole j → Drifted j → total (State.queued c.protocol) < c.writeBuffer.size

namespace Aligned

variable {c c' : Connection protocol} {j j' : List (Entry protocol)}

theorem congr (h : Aligned c j) (queued : State.queued c'.protocol = State.queued c.protocol)
    (buffer : c'.writeBuffer.toList = c.writeBuffer.toList) : Aligned c' j := by
  refine ⟨?_, ?_⟩
  · rw [queued, buffer]
    exact h.measures
  · rw [payloadsHeld, queued, buffer]
    exact h.inOrder

theorem append {entry : Entry protocol} (h : Aligned c j) (keeps : entry.clears = false)
    (unqueued : entryPayloads entry = []) (unwritten : entry.writesTaken = []) :
    Aligned c (j ++ [entry]) := by
  refine ⟨h.measures, ?_⟩
  rw [writesTaken, payloadsQueued, told_append_silent keeps unwritten,
    told_append_silent keeps unqueued]
  exact h.inOrder

theorem payloadsWaiting_eq (h : Aligned c j) : payloadsWaiting j = payloadsHeld c := by
  rw [payloadsWaiting, ← h.inOrder, List.drop_left]

theorem waiting_eq_nil_iff (h : Aligned c j) :
    payloadsWaiting j = [] ↔ State.queued c.protocol = [] := by
  rw [h.payloadsWaiting_eq, payloadsHeld, cut_eq_nil_iff]

/-- Nothing is queued and nothing is held. -/
theorem of_nil (queued : State.queued c.protocol = []) (buffer : c.writeBuffer.toList = [])
    (told : writesTaken j = payloadsQueued j) : Aligned c j := by
  refine ⟨?_, ?_⟩
  · rw [queued, buffer]
    exact measures_nil
  · rw [payloadsHeld, queued, cut_nil, List.append_nil]
    exact told

/-- The first payload that waits was written, or nothing was. -/
theorem take (h : Aligned c j) {first : Nat} {rest : List Nat} {part : List UInt8}
    {entry : Entry protocol} (queued : State.queued c.protocol = first :: rest)
    (whole : part = [] ∨ part = c.writeBuffer.toList.take first)
    (queued' : State.queued c'.protocol = afterWrite part.length (State.queued c.protocol))
    (buffer : c'.writeBuffer.toList = c.writeBuffer.toList.drop part.length)
    (keeps : entry.clears = false) (unqueued : entryPayloads entry = [])
    (written : entry.writesTaken = [part].filter fun bytes => !bytes.isEmpty) :
    Aligned c' (j ++ [entry]) := by
  have measures := h.measures
  rw [queued] at measures
  have positive : 0 < first := measures.positive first (List.mem_cons_self ..)
  rcases whole with rfl | rfl
  · refine (h.append keeps unqueued written).congr ?_ buffer
    rw [queued', queued, afterWrite, List.length_nil, if_neg (Nat.not_le.mpr positive),
      Nat.sub_zero]
  · have length : (c.writeBuffer.toList.take first).length = first :=
      List.length_take_of_le measures.head_le
    have nonempty : (!(c.writeBuffer.toList.take first).isEmpty) = true := by
      rw [Bool.not_eq_true', List.isEmpty_eq_false_iff, ← List.length_pos_iff, length]
      exact positive
    rw [length] at queued' buffer
    rw [queued, afterWrite, if_pos (Nat.le_refl first)] at queued'
    rw [List.filter_cons, if_pos nonempty, List.filter_nil] at written
    refine ⟨?_, ?_⟩
    · rw [queued', buffer]
      exact measures.tail
    · have inOrder := h.inOrder
      rw [payloadsHeld, queued, cut_cons] at inOrder
      rw [payloadsHeld, queued', buffer, writesTaken, payloadsQueued, told_append keeps, written,
        told_append_silent keeps unqueued, List.append_assoc]
      exact inOrder

theorem enqueue (h : Aligned c j) {data : List UInt8} (nonempty : data ≠ []) :
    Aligned (c.enqueue data) (j ++ [.queued data]) := by
  have held : payloadsHeld (c.enqueue data) = payloadsHeld c ++ pieces data := by
    rw [c.enqueue_of_ne_nil nonempty, payloadsHeld, ByteQueue.toList_append, ← cut_payloadLengths]
    exact h.measures.cut_append
  refine ⟨?_, ?_⟩
  · rw [c.enqueue_of_ne_nil nonempty, ByteQueue.toList_append]
    exact h.measures.append (measures_payloadLengths data)
  · rw [writesTaken, payloadsQueued, told_append_silent rfl rfl, told_append rfl, held,
      ← List.append_assoc]
    exact congrArg (· ++ pieces data) h.inOrder

end Aligned

namespace Segmented

variable {c c' : Connection protocol} {j : List (Entry protocol)} {entry : Entry protocol}

/-- Only the write buffer, the kept lengths and whether the socket is unconnected matter. -/
theorem congr (h : Segmented c j) (buffer : c'.writeBuffer = c.writeBuffer)
    (queued : State.queued c'.protocol = State.queued c.protocol)
    (state : c'.state = .unconnected → c.state = .unconnected) : Segmented c' j where
  whole := by rw [buffer]; exact h.whole
  idle := fun unconnected => by rw [queued]; exact h.idle (state unconnected)
  aligned := fun whole fresh => (h.aligned whole fresh).congr queued (by rw [buffer])
  drifted := by rw [buffer, queued]; exact h.drifted

/-- If the lengths have to fall short behind an entry that is no set-up, they did before it, and it
neither gave anything up nor wrote. -/
theorem drifted_of_append (h : Segmented c j) (unset : setsUp entry = false)
    (whole : TakesWhole (j ++ [entry])) (drifted : Drifted (j ++ [entry])) :
    total (State.queued c.protocol) < c.writeBuffer.size ∧ entry.clears = false ∧
      writes entry = false := by
  rcases drifted.of_append with ⟨rfl, -⟩ | ⟨before, silent⟩
  · cases unset
  · exact ⟨h.drifted whole.of_append before, silent⟩

theorem append (h : Segmented c j) (silent : Unsegmented entry) : Segmented c (j ++ [entry]) where
  whole := h.whole
  idle := h.idle
  aligned := fun whole fresh =>
    (h.aligned whole.of_append (fresh.of_append silent.keeps)).append silent.keeps silent.unqueued
      silent.unwritten
  drifted := fun whole drifted => (h.drifted_of_append silent.unset whole drifted).1

/-- The buffers and the lengths are given up together. -/
theorem clear {q : ByteQueue} (buffer : c.writeBuffer = q.clear)
    (queued : State.queued c.protocol = []) (clears : entry.clears = true) :
    Segmented c (j ++ [entry]) where
  whole := by rw [buffer]; exact q.wellFormed_clear
  idle := fun _ => queued
  aligned := fun _ _ => by
    refine .of_nil queued (by rw [buffer, ByteQueue.toList_clear]) ?_
    rw [writesTaken, payloadsQueued, told_append_clear clears, told_append_clear clears]
  drifted := fun _ drifted => by
    rcases drifted.of_append with ⟨rfl, -⟩ | ⟨-, keeps, -⟩
    · cases clears
    · rw [clears] at keeps
      cases keeps

theorem resumeReading (h : Segmented c j) : Segmented c.resumeReading j := by
  obtain ⟨on, resumed⟩ := c.exists_resumeReading
  rw [resumed]
  exact h.congr rfl rfl id

theorem queue (h : Segmented c j) (data : List UInt8) (connected : c.state = .connected) :
    Segmented (c.enqueue data) (j ++ [.queued data]) := by
  by_cases empty : data = []
  · subst empty
    exact (h.append ⟨rfl, rfl, rfl, rfl⟩).congr rfl rfl id
  · refine ⟨?_, ?_, fun whole fresh => ?_, fun whole drifted => ?_⟩
    · rw [c.enqueue_of_ne_nil empty]
      exact h.whole.append data
    · rw [c.enqueue_of_ne_nil empty]
      intro unconnected
      exact absurd (connected.symm.trans unconnected) (by simp)
    · exact (h.aligned whole.of_append (fresh.of_append rfl)).enqueue empty
    · have short := (h.drifted_of_append rfl whole drifted).1
      have more := (measures_payloadLengths data).total
      rw [c.enqueue_of_ne_nil empty, ByteQueue.size_append]
      show total (State.queued c.protocol ++ payloadLengths data.length) < _
      rw [total_append, more]
      exact Nat.add_lt_add_right short _

/-- What is set up anew forgets its lengths, and nothing is lost as long as none were kept. -/
theorem setUp (h : Segmented c j) {ifname : String} {result : Except SocketError Unit}
    {after : State × Endpoint}
    (ran : (connect ifname).exec (c.protocol, c.endpoint) = (result, after)) :
    Segmented (c.hooked after) (j ++ [.setUp result]) := by
  have queued := queued_connect ran
  refine ⟨h.whole, fun unconnected => ?_, fun whole fresh => ?_, fun whole drifted => ?_⟩
  · rcases queued with isEmpty | ⟨same, -⟩
    · exact isEmpty
    · exact same.trans (h.idle unconnected)
  · have aligned := h.aligned whole.of_append (fresh.of_append rfl)
    have unqueued := aligned.waiting_eq_nil_iff.mp fresh.waiting_eq_nil
    have forgotten : after.1.queued = [] := by
      rcases queued with forgotten | ⟨same, -⟩
      · exact forgotten
      · exact same.trans unqueued
    exact (aligned.append rfl rfl rfl).congr (forgotten.trans unqueued.symm) rfl
  · have short : total (State.queued c.protocol) < c.writeBuffer.size ∨
        result = .ok () ∧ 0 < c.writeBuffer.size := by
      rcases drifted.of_append with ⟨isOk, fresh, waiting⟩ | ⟨before, -⟩
      · have aligned := h.aligned whole.of_append fresh
        have held : c.writeBuffer.toList ≠ [] := fun empty =>
          waiting (aligned.waiting_eq_nil_iff.mpr (aligned.measures.eq_nil_iff.mpr empty))
        exact .inr ⟨by simpa using isOk, h.whole.size_eq ▸ List.length_pos_iff.mpr held⟩
      · exact .inl (h.drifted whole.of_append before)
    rcases queued with forgotten | ⟨same, cause, failed⟩
    · rw [show State.queued (c.hooked after).protocol = [] from forgotten, total_nil]
      rcases short with short | ⟨-, positive⟩
      · exact Nat.zero_lt_of_lt short
      · exact positive
    · rw [show State.queued (c.hooked after).protocol = State.queued c.protocol from same]
      rcases short with short | ⟨isOk, -⟩
      · exact short
      · rw [failed] at isOk
        cases isOk

/-- What is offered to the endpoint is the first payload that waits, for the aligned buffer has it
in one piece at its head. -/
theorem exists_offered (h : Segmented c j) (aligned : Aligned c j)
    (nonempty : c.writeBuffer.isEmpty = false) :
    ∃ first rest, State.queued c.protocol = first :: rest ∧
      c.align.writeBuffer.head.take ((State.queued c.protocol).headD maxPayload) =
        c.writeBuffer.toList.take first := by
  have waits : State.queued c.protocol ≠ [] := fun empty => by
    rw [← Bool.not_eq_true, ByteQueue.isEmpty_iff, h.whole.size_eq,
      aligned.measures.eq_nil_iff.mp empty] at nonempty
    exact nonempty rfl
  obtain ⟨first, rest, queued⟩ := List.exists_cons_of_ne_nil waits
  have measures := aligned.measures
  rw [queued] at measures
  have unit : protocol.nextWriteSize c.protocol = first := congrArg (fun q => q.headD 0) queued
  obtain ⟨tail, split⟩ := c.align.writeBuffer.head_append_tail
  have same : c.align.writeBuffer.toList = c.writeBuffer.toList :=
    ByteQueue.toList_makeContiguous h.whole _
  have long : first ≤ c.align.writeBuffer.head.length := by
    have least := ByteQueue.length_head_makeContiguous h.whole (protocol.nextWriteSize c.protocol)
    rw [unit, Nat.min_eq_left (h.whole.size_eq ▸ measures.head_le)] at least
    exact unit ▸ least
  refine ⟨first, rest, queued, ?_⟩
  rw [queued, List.headD_cons, ← same, split, List.take_append_of_le_length long]

/-- Behind a write nothing is known of lengths that fell short before. -/
theorem of_write {reporting : Bool} {offered : List UInt8} {tried made : List (List UInt8)}
    {result : Except IoError Nat} (whole : c'.writeBuffer.WellFormed)
    (idle : c'.state = .unconnected → State.queued c'.protocol = [])
    (aligned : TakesWhole (j ++ [.writeHook reporting offered tried made result]) →
      FreshSetUps j → Aligned c' (j ++ [.writeHook reporting offered tried made result])) :
    Segmented c' (j ++ [.writeHook reporting offered tried made result]) where
  whole := whole
  idle := idle
  aligned := fun whole fresh => aligned whole (fresh.of_append rfl)
  drifted := fun _ drifted => by rcases drifted.of_append with ⟨⟨⟩, -⟩ | ⟨-, -, ⟨⟩⟩

theorem write (h : Segmented c j) (nonempty : c.writeBuffer.isEmpty = false)
    {result : Except IoError Nat} {after : State × Endpoint}
    (ran : (protocol.write c.align.writeBuffer.head).exec (c.protocol, c.endpoint) =
      (result, after)) :
    Segmented ((c.align.hooked after).settleWrite result)
      (j ++ [.writeHook c.reportingWrite c.align.writeBuffer.head
        (c.endpoint.writesTried after.2) (c.endpoint.writesMade after.2) result]) := by
  have contiguous : c.align.writeBuffer.WellFormed := h.whole.makeContiguous _
  have same : c.align.writeBuffer.toList = c.writeBuffer.toList :=
    ByteQueue.toList_makeContiguous h.whole _
  have settled := Connection.wellFormed_settleWrite contiguous after result
  obtain ⟨buffer, pending, started, on, form⟩ := (c.align.hooked after).exists_settleWrite result
  have state : ((c.align.hooked after).settleWrite result).state = c.state := by rw [form]; rfl
  have kept : State.queued ((c.align.hooked after).settleWrite result).protocol =
      after.1.queued := by
    rw [form]
    rfl
  obtain ⟨e', tried, ⟨result', ran', written, outcome⟩ | ⟨part, written, ran'⟩⟩ :=
    write_cases c.align.writeBuffer.head c.protocol c.endpoint
  · obtain ⟨rfl, rfl⟩ := Prod.mk.inj (ran.symm.trans ran')
    have made : c.endpoint.writesMade e' = [] :=
      Endpoint.writesMade_eq (by rw [written, List.append_nil])
    have holds : ((c.align.hooked (c.protocol, e')).settleWrite result).writeBuffer.toList =
        c.writeBuffer.toList := by
      rcases outcome with rfl | ⟨code, rfl⟩
      · exact (ByteQueue.toList_free contiguous.size_eq 0).trans same
      · rw [Connection.settleWrite,
          Connection.refuseWrite_of_valid _ (IoError.kind_os_ne_invalidData code)]
        exact same
    refine of_write settled (fun unconnected => ?_) fun whole fresh => ?_
    · rw [kept]
      exact h.idle (state ▸ unconnected)
    · have aligned := h.aligned whole.of_append fresh
      exact (aligned.append rfl rfl (by rw [Entry.writesTaken, made]; rfl)).congr kept holds
  · obtain ⟨rfl, rfl⟩ := Prod.mk.inj (ran.symm.trans ran')
    have made : c.endpoint.writesMade e' = [part] := Endpoint.writesMade_eq written
    have freed : (c.align.writeBuffer.free part.length).toList =
        c.writeBuffer.toList.drop part.length := by
      rw [ByteQueue.toList_free contiguous.size_eq, same]
    refine of_write settled (fun unconnected => ?_) fun whole fresh => ?_
    · rw [kept, h.idle (state ▸ unconnected)]
      rfl
    · have aligned := h.aligned whole.of_append fresh
      obtain ⟨first, rest, queued, offered⟩ := h.exists_offered aligned nonempty
      rw [offered] at tried
      have allOrNone : part = [] ∨ part = c.writeBuffer.toList.take first := by
        have last := whole _ (List.mem_append_right _ (List.mem_singleton_self _))
        rw [takesWhole, made, Endpoint.writesTried_eq tried] at last
        simpa using last
      refine aligned.take queued allOrNone kept freed rfl rfl ?_
      rw [Entry.writesTaken, made]

end Segmented

/-! ## Runs -/

theorem steps_segmented : Steps Scope.all Segmented Segmented Segmented where
  delivery := fun _ _ h => h.append ⟨rfl, rfl, rfl, rfl⟩
  returned := fun _ h => h.append ⟨rfl, rfl, rfl, rfl⟩
  noted := fun _ h => h.append ⟨rfl, rfl, rfl, rfl⟩
  error := fun _ h => (h.append ⟨rfl, rfl, rfl, rfl⟩).congr rfl rfl id
  clearError := fun h => h.congr rfl rfl id
  inspected := fun h => h.append ⟨rfl, rfl, rfl, rfl⟩
  beginClose := fun h _ _ => (h.append ⟨rfl, rfl, rfl, rfl⟩).congr rfl rfl nofun
  goOnClosing := fun h _ => h
  discard := fun _ _ => .clear rfl rfl rfl
  endClose := fun {c j} _ _ =>
    have emptied : Segmented { c.discard with state := .unconnected } (j ++ [.discarded]) :=
      .clear rfl rfl rfl
    emptied.append ⟨rfl, rfl, rfl, rfl⟩
  sever := fun h => (h.append ⟨rfl, rfl, rfl, rfl⟩).congr rfl rfl id
  prepare := fun {c j} ifname mode h unconnected =>
    have emptied : Segmented (c.prepare ifname mode) (j ++ [.cleared ifname mode]) :=
      .clear rfl (h.idle unconnected) rfl
    (emptied.append ⟨rfl, rfl, rfl, rfl⟩).congr rfl rfl nofun
  connectFailed := fun _ h ran => h.setUp ran
  reconnected := fun _ _ h ran _ => (h.setUp ran).congr rfl rfl id
  connected := fun _ _ h ran _ =>
    ((h.setUp ran).append ⟨rfl, rfl, rfl, rfl⟩).congr rfl rfl nofun
  read := fun {c _ window result after} h _ ran => by
    obtain ⟨buffer, on, settled⟩ := (c.hooked after).exists_settleRead c window result
    rw [settled]
    exact (h.append ⟨rfl, rfl, rfl, rfl⟩).congr rfl ((keeps_read window).of_exec ran) id
  received := fun _ h => h.append ⟨rfl, rfl, rfl, rfl⟩
  beginAnnounce := fun h _ => (h.append ⟨rfl, rfl, rfl, rfl⟩).congr rfl rfl id
  endAnnounce := fun h _ => h.congr rfl rfl id
  beginReport := fun h _ _ => (h.append ⟨rfl, rfl, rfl, rfl⟩).congr rfl rfl id
  endReport := fun h _ => h.congr rfl rfl id
  skipReport := fun h _ => h.congr rfl rfl id
  idle := fun h _ => h.congr rfl rfl id
  write := fun h nonempty ran => h.write nonempty ran
  refuseOption := fun value h ran => h.congr rfl ((keeps_applyOption _ value).of_exec ran) id
  keepOption := fun value h ran =>
    (h.append ⟨rfl, rfl, rfl, rfl⟩).congr rfl
      ((queued_put _ value).trans ((keeps_applyOption _ value).of_exec ran)) id
  optionChanged := fun _ h => h.append ⟨rfl, rfl, rfl, rfl⟩
  setReadLimit := fun {c _} n h _ =>
    Segmented.resumeReading (c := { c with readLimit := n }) (h.congr rfl rfl id)
  takeBytes := fun {c _} n _ h =>
    Segmented.resumeReading (c := { c with readBuffer := (c.readBuffer.read n).2 })
      ((h.append ⟨rfl, rfl, rfl, rfl⟩).congr rfl rfl id)
  takeFrame := fun {c j header} h _ _ _ => by
    refine Segmented.resumeReading (Segmented.congr (c := c) ?_ rfl rfl id)
    have taken : Segmented c (j ++ [.taken (c.readBuffer.read (Socket.frameSize header)).1]) :=
      h.append ⟨rfl, rfl, rfl, rfl⟩
    exact holds_append_frameEntry taken fun _ => taken.append ⟨rfl, rfl, rfl, rfl⟩
  queueBytes := fun {_ _ data} _ h connected _ => h.queue data connected
  queueFrame := fun {_ _ f} _ h connected _ _ _ =>
    (h.queue f.toKernel connected).append ⟨rfl, rfl, rfl, rfl⟩
  cue := fun _ h => h.congr rfl rfl id
  poll := fun _ _ h => h.congr rfl rfl id
  takeWritten := fun h => h.congr rfl rfl id

/-- Over an endpoint that takes payloads whole or not at all, and with no payload waiting when the
descriptor was set up, the kept lengths add up to what is buffered, and the payloads written since
the connect, with those that the buffer holds behind them, are the pieces of what was queued since.
Right after a set-up for which some payload waited, the lengths fall short. -/
theorem writesTaken_append_payloadsHeld {protocolState : State} {endpoint : Endpoint}
    {readChunk writeChunk : Nat} {actions : List (Action protocol)}
    (idle : protocolState.queued = []) {s : Socket protocol}
    (ran : Socket.run actions (Socket.fresh protocolState endpoint readChunk writeChunk) =
      some ((), s))
    (whole : TakesWhole s.journal) :
    (FreshSetUps s.journal →
      total (State.queued s.protocol) = s.writeBuffer.size ∧
        writesTaken s.journal ++ payloadsHeld s.toConnection = payloadsQueued s.journal) ∧
      (Drifted s.journal → total (State.queued s.protocol) < s.writeBuffer.size) := by
  have sound : Outline.Sound Scope.all ⟨Segmented, Segmented, Segmented⟩ :=
    ⟨steps_segmented, steps_segmented, fun h => h.congr rfl rfl id, fun h => h.congr rfl rfl id⟩
  have start :
      Segmented (Socket.fresh protocolState endpoint readChunk writeChunk).toConnection [] :=
    ⟨ByteQueue.wellFormed_empty _, fun _ => idle, fun _ _ => .of_nil idle rfl rfl,
      fun _ drifted => by obtain ⟨before, after, split, -⟩ := drifted; simp at split⟩
  obtain ⟨segmented, -⟩ := sound.holds_after_run (fun a _ => a.within_all) start ran
  have h : Segmented s.toConnection s.journal := segmented
  refine ⟨fun fresh => ?_, h.drifted whole⟩
  have aligned := h.aligned whole fresh
  exact ⟨by rw [h.whole.size_eq]; exact aligned.measures.total, aligned.inOrder⟩

def exampleIds : List (Opt × Value) :=
  [(.txId, .txId (.standard 1)), (.rxId, .rxId (.standard 2))]

/-- A run in which the kernel refuses a write twice, and of what was queued two payloads were
written and one waits. -/
def segmentedRun : List (Action protocol) :=
  [.ask (.cue (.addInterface ⟨"vcan0", 3, 16⟩)), .ask (.connectWith exampleIds "vcan0" .readWrite),
    .ask (.cue (.pushWriteError Errno.again)), .ask (.cue (.pushWriteError 105)),
    .ask (.write (List.replicate 4097 1)), .ask (.write []), .ask (.write [2, 3]),
    .ask .flush, .ask .flush, .ask .writeReady, .ask .writeReady]

theorem writesTaken_append_payloadsHeld_segmentedRun :
    ∃ s : Socket protocol,
      Socket.run segmentedRun (Socket.fresh .initial .blank 20 20) = some ((), s) ∧
      TakesWhole s.journal ∧ FreshSetUps s.journal ∧
      (writesTaken s.journal).map List.length = [4095, 2] ∧ s.writeBuffer.size = 2 ∧
      total (State.queued s.protocol) = s.writeBuffer.size ∧
      writesTaken s.journal ++ payloadsHeld s.toConnection = payloadsQueued s.journal := by
  obtain ⟨s, ran, outcome⟩ : ∃ s : Socket protocol,
      Socket.run segmentedRun (Socket.fresh .initial .blank 20 20) = some ((), s) ∧
      ((writesTaken s.journal).map List.length, s.writeBuffer.size, decide (TakesWhole s.journal),
        decide (FreshSetUps s.journal)) = ([4095, 2], 2, true, true) :=
    Socket.exists_run (by decide +kernel)
  simp only [Prod.mk.injEq, decide_eq_true_eq] at outcome
  obtain ⟨lengths, size, whole, fresh⟩ := outcome
  exact ⟨s, ran, whole, fresh, lengths, size,
    (writesTaken_append_payloadsHeld rfl ran whole).1 fresh⟩

/-- A handler that answers the news that the socket is connecting with a connection of its own, and
queues two payloads. -/
def connectInstead : Handler protocol :=
  .on none (fun e => e matches .stateChanged .connecting) fun _ =>
    .call .close fun _ => .call (.connect "vcan0" .readWrite) fun _ =>
      .call (.write [1]) fun _ => .call (.write [2]) fun _ => .done (.silent none)

/-- A run in which the descriptor is set up with two payloads waiting, which are written as one. -/
def mergingRun : List (Action protocol) :=
  [.ask (.cue (.addInterface ⟨"vcan0", 3, 16⟩)),
    .ask (.setOption .txId (.txId (.standard 1))), .ask (.setOption .rxId (.rxId (.standard 2))),
    .install connectInstead, .ask (.connect "vcan0" .readWrite), .ask .flush]

theorem not_always_writesTaken_append_payloadsHeld :
    ¬∀ (protocolState : State) (endpoint : Endpoint) (readChunk writeChunk : Nat)
      (actions : List (Action protocol)) (s : Socket protocol), protocolState.queued = [] →
      Socket.run actions (Socket.fresh protocolState endpoint readChunk writeChunk) =
        some ((), s) →
      s.state = .connected → TakesWhole s.journal →
      total (State.queued s.protocol) = s.writeBuffer.size ∧
        writesTaken s.journal ++ payloadsHeld s.toConnection = payloadsQueued s.journal := by
  intro always
  obtain ⟨s, ran, outcome⟩ : ∃ s : Socket protocol,
      Socket.run mergingRun (Socket.fresh .initial .blank 20 20) = some ((), s) ∧
      (s.state, decide (TakesWhole s.journal), writesTaken s.journal ++ payloadsHeld s.toConnection,
        payloadsQueued s.journal) = (.connected, true, [[1, 2]], [[1], [2]]) :=
    Socket.exists_run (by decide +kernel)
  simp only [Prod.mk.injEq, decide_eq_true_eq] at outcome
  obtain ⟨connected, whole, written, queued⟩ := outcome
  have inOrder := (always _ _ _ _ _ s rfl ran connected whole).2
  rw [written, queued] at inOrder
  cases inOrder

end CanStream.IsoTp
