import CanStream.Proofs.Socket.Buffers
import CanStream.Proofs.Socket.Coherence
import CanStream.Proofs.Socket.Intake

/-!
# What a socket took of what arrived

A socket without a handler that reads without a limit loses nothing, as long as no read fails: the
datagrams that it took are those that were used, and behind them those that wait in its read buffer.
-/

namespace CanStream

variable {P : Protocol}

/-- Only a wait that runs out of time says so. -/
theorem SocketError.kind_ofTransfer_ne_timeout {k : Kind} (other : k ≠ .timeout)
    (cause : IoError) : (ofTransfer k cause).kind ≠ .timeout := by
  rw [ofTransfer]
  split
  case isTrue exhausted =>
    rw [exhausted]
    decide
  case isFalse => exact other

/-- A read that came to an end puts what it took behind what is in the buffer. -/
theorem Gathers.toList_settleRead {form : List UInt8 → List UInt8}
    {Batch : List (List UInt8) → Prop} {window : Nat} {taken : List (List UInt8)}
    {result : Except IoError (List UInt8)} (gathers : Gathers form Batch window taken result)
    {c : Connection P} (whole : c.readBuffer.WellFormed) (before : Connection P)
    (passed : Passed result) :
    (c.settleRead before window result).readBuffer.toList =
      c.readBuffer.toList ++ taken.flatMap form := by
  cases result with
  | ok bytes =>
    obtain ⟨rfl, fits⟩ := gathers.ended bytes rfl
    exact Connection.toList_settleRead_ok whole before fits
  | error cause =>
    rw [Connection.toList_settleRead_error whole, gathers.lapsed cause rfl (passed cause rfl),
      List.flatMap_nil, List.append_nil]

namespace Socket

/-- Of the datagrams that the socket took from the endpoint, cut to a size, the first ones were used
and the others wait in its read buffer. -/
structure Holding (g : Gatherer P) (e : Endpoint) (cut : Nat) (used waiting : List (List UInt8))
    (s : Socket P) : Prop where
  alone : s.handler = none
  unlimited : s.readLimit = 0
  cutting : g.cut s.protocol = cut
  whole : s.readBuffer.WellFormed
  left : s.endpoint.arrivals <:+ e.arrivals
  taken : gathered cut (e.arrivalsTaken s.endpoint) = used ++ waiting
  holds : s.readBuffer.toList = waiting.flatMap g.form

namespace Holding

variable {g : Gatherer P} {e : Endpoint} {cut : Nat} {used waiting : List (List UInt8)}
  {s s' : Socket P}

theorem congr (h : Holding g e cut used waiting s) (alone : s'.handler = s.handler)
    (same : g.intake s'.toConnection.stock = g.intake s.toConnection.stock) :
    Holding g e cut used waiting s' := by
  obtain ⟨left, cutting, buffer, limit⟩ : s'.endpoint.arrivals = s.endpoint.arrivals ∧
      g.cut s'.protocol = g.cut s.protocol ∧ s'.readBuffer = s.readBuffer ∧
      s'.readLimit = s.readLimit := by
    simpa [Gatherer.intake, Connection.stock] using same
  refine ⟨alone.trans h.alone, limit.trans h.unlimited, cutting.trans h.cutting, ?_, ?_, ?_, ?_⟩
  · rw [buffer]
    exact h.whole
  · rw [left]
    exact h.left
  · rw [Endpoint.arrivalsTaken, left]
    exact h.taken
  · rw [buffer]
    exact h.holds

theorem split (h : Holding g e cut used waiting s) :
    e.arrivals = e.arrivalsTaken s.endpoint ++ s.endpoint.arrivals := by
  obtain ⟨taken, same⟩ := h.left
  rw [Endpoint.arrivalsTaken_eq same.symm, same]

theorem available_eq (h : Holding g e cut used waiting s) :
    s.available = (waiting.flatMap g.form).length := by
  rw [Connection.available, h.whole.size_eq, h.holds]

/-- While nothing waits, the read buffer can be emptied. -/
theorem prepare (h : Holding g e cut used [] s) {ifname : String} {mode : OpenMode} :
    Holding g e cut used [] (s.change (·.prepare ifname mode)) :=
  ⟨h.alone, h.unlimited, h.cutting, ByteQueue.wellFormed_clear _, h.left, h.taken,
    ByteQueue.toList_clear _⟩

/-- The socket after some of the datagrams that waited were used. -/
theorem use {more rest : List (List UInt8)} (h : Holding g e cut used (more ++ rest) s)
    (alone : s'.handler = s.handler) {buffer : ByteQueue} {on : Bool}
    (took : s'.toConnection = { s.toConnection with readBuffer := buffer, wantsRead := on })
    (whole : buffer.WellFormed) (holds : buffer.toList = rest.flatMap g.form) :
    Holding g e cut (used ++ more) rest s' := by
  have limit := congrArg Connection.readLimit took
  have protocol := congrArg Connection.protocol took
  have endpoint := congrArg Connection.endpoint took
  have same := congrArg Connection.readBuffer took
  refine ⟨alone.trans h.alone, limit.trans h.unlimited, ?_, ?_, ?_, ?_, ?_⟩
  · rw [protocol]
    exact h.cutting
  · rw [same]
    exact whole
  · rw [endpoint]
    exact h.left
  · rw [endpoint, h.taken, List.append_assoc]
  · rw [same]
    exact holds

/-- All that waits is taken at once, and then it is used. -/
theorem readAll (h : Holding g e cut used waiting s) :
    ∃ s', perform .readAll s = some (waiting.flatMap g.form, s') ∧
      Holding g e cut (used ++ waiting) [] s' := by
  obtain ⟨on, resumed⟩ := Connection.exists_resumeReading
    { s.toConnection with readBuffer := s.readBuffer.readAll.2 }
  have all : s.readBuffer.readAll.1 = waiting.flatMap g.form := by
    rw [ByteQueue.readAll, ByteQueue.read, ByteQueue.peek_eq, h.whole.size_eq, List.take_length,
      h.holds]
  have empty : s.readBuffer.readAll.2.toList = [] := by
    rw [ByteQueue.readAll, ByteQueue.toList_read h.whole.size_eq, h.whole.size_eq, List.drop_length]
  have ahead : Holding g e cut used (waiting ++ []) s := by
    rw [List.append_nil]
    exact h
  let s' := (s.change fun c => { c with readBuffer := s.readBuffer.readAll.2 }.resumeReading).log
    (.taken s.readBuffer.readAll.1)
  have took : perform .readAll s = some (s.readBuffer.readAll.1, s') := rfl
  exact ⟨s', by rw [took, all], ahead.use rfl resumed h.whole.readAll empty⟩

/-- A read puts one more batch of datagrams behind those that wait, or it fails. -/
theorem pump (h : Holding g e cut used waiting s) :
    After (pumpRead Socket.emit) s fun read s' =>
      (read = true → ∃ batch, g.Batch batch ∧ Holding g e cut used (waiting ++ batch) s') ∧
        (read = false → s'.error.kind ≠ .timeout) := by
  have asked : s.readWindow? = some (P.readChunkSize s.protocol) := by
    rw [Connection.readWindow?, if_pos (.inl h.unlimited)]
  obtain ⟨consumed, rest, result, split, ran, gathers⟩ := g.read s.protocol s.endpoint
  rw [h.cutting] at gathers
  let c := s.toConnection.hooked (s.protocol, { s.endpoint with arrivals := rest })
  by_cases passed : Passed result
  · obtain ⟨s', pumped, alone, settled⟩ := pumpRead_of_passed h.alone asked ran passed
    have filled := gathers.toList_settleRead (c := c) h.whole s.toConnection passed
    have whole := Connection.wellFormed_settleRead (c := c) h.whole s.toConnection
      (P.readChunkSize s.protocol) result
    obtain ⟨buffer, on, put⟩ := c.exists_settleRead s.toConnection
      (P.readChunkSize s.protocol) result
    rw [put] at filled whole
    have all : e.arrivals = e.arrivalsTaken s.endpoint ++ consumed ++ rest := by
      rw [List.append_assoc, ← split]
      exact h.split
    have arrived : s'.endpoint.arrivals = rest :=
      congrArg (fun c => c.endpoint.arrivals) (settled.trans put)
    refine (after_of_eq pumped).mpr ⟨fun _ => ⟨_, gathers.batch passed, alone, ?_, ?_, ?_, ?_, ?_,
      ?_⟩, fun failed => absurd failed.symm Bool.false_ne_true⟩
    · exact (congrArg Connection.readLimit (settled.trans put)).trans h.unlimited
    · exact (congrArg (fun c => g.cut c.protocol) (settled.trans put)).trans h.cutting
    · rw [settled, put]
      exact whole
    · rw [arrived]
      exact ⟨_, all.symm⟩
    · rw [Endpoint.arrivalsTaken_eq (all.trans (congrArg (_ ++ ·) arrived.symm)), gathered_append,
        h.taken, List.append_assoc]
    · rw [settled, put, filled, List.flatMap_append]
      exact congrArg (· ++ _) h.holds
  · obtain ⟨cause, rfl, noRetry⟩ : ∃ cause, result = .error cause ∧ cause.shouldRetry = false := by
      simpa [Passed] using passed
    obtain ⟨s', pumped, -, failed⟩ := pumpRead_of_failed h.alone asked ran rfl noRetry
    refine (after_of_eq pumped).mpr ⟨fun read => absurd read Bool.false_ne_true, fun _ => ?_⟩
    rw [congrArg Connection.error failed]
    exact SocketError.kind_ofTransfer_ne_timeout (by decide) cause

end Holding

/-- The datagrams that wait are like that. -/
def Holds (g : Gatherer P) (e : Endpoint) (cut : Nat) (used : List (List UInt8))
    (Like : List (List UInt8) → Prop) (s : Socket P) : Prop :=
  ∃ waiting, Like waiting ∧ Holding g e cut used waiting s

section

variable {g : Gatherer P} {e : Endpoint} {cut : Nat} {used : List (List UInt8)}
  {A B : List (List UInt8) → Prop}

theorem unheard_holding {waiting : List (List UInt8)} :
    Unheard g.intake (Holding g e cut used waiting) where
  alone := fun h => h.alone
  congr := fun h alone same => h.congr alone same

theorem unheard_holds : Unheard g.intake (Holds g e cut used A) where
  alone := fun ⟨_, _, h⟩ => h.alone
  congr := fun ⟨waiting, like, h⟩ alone same => ⟨waiting, like, h.congr alone same⟩

theorem gains_holds
    (grows : ∀ waiting batch, A waiting → g.Batch batch → B (waiting ++ batch)) :
    Gains g (Holds g e cut used A) (Holds g e cut used B) where
  toUnheard := unheard_holds
  pump := fun ⟨waiting, like, h⟩ => h.pump.mono fun _ _ ⟨gained, failed⟩ =>
    ⟨fun read => let ⟨batch, isBatch, h'⟩ := gained read
      ⟨waiting ++ batch, grows waiting batch like isBatch, h'⟩, failed⟩

end

section

variable {s s' : Socket P}

/-- Options that are set while nobody hears of it and nothing is connected are kept. -/
theorem setOption_of_alone (g : Gatherer P) (alone : s.handler = none)
    (idle : s.state = .unconnected) {option : P.Opt} {value : P.Value}
    (ran : setOption Socket.emit option value s = some (true, s')) :
    s'.handler = none ∧ s'.toConnection =
      { s.toConnection with protocol := (P.keepOption value s.protocol).2 } := by
  obtain ⟨-, after, applied, reported⟩ := setOption_kept ran
  have untouched : after = (s.protocol, s.endpoint) := by
    rw [idle] at applied
    exact (g.applyOption value).of_exec applied
  rw [untouched] at reported
  let kept := s.keep value (s.protocol, s.endpoint)
  split at reported
  · have raised := emit_of_alone (s := kept) alone (.optionChanged option)
    obtain rfl := (Prod.mk.inj (Option.some.inj (raised.symm.trans reported))).2
    exact ⟨(handler_unheard ..).trans alone, toConnection_unheard ..⟩
  · rw [reported]
    exact ⟨alone, rfl⟩

theorem setOptions_of_alone (g : Gatherer P) (options : List (P.Opt × P.Value))
    (alone : s.handler = none) (idle : s.state = .unconnected)
    (ran : setOptions Socket.emit options s = some (true, s')) :
    s'.handler = none ∧ s'.toConnection = { s.toConnection with
      protocol := options.foldl (fun kept o => (P.keepOption o.2 kept).2) s.protocol } := by
  induction options generalizing s with
  | nil =>
    obtain ⟨-, rfl⟩ := Prod.mk.inj (Option.some.inj ran)
    exact ⟨alone, rfl⟩
  | cons o rest ih =>
    obtain ⟨set, s₁, first, next⟩ := bind_eq_some.mp ran
    cases set with
    | false => cases next
    | true =>
      obtain ⟨still, same⟩ := setOption_of_alone g alone idle first
      obtain ⟨done, settled⟩ := ih still ((congrArg Connection.state same).trans idle) next
      refine ⟨done, settled.trans ?_⟩
      rw [same]
      rfl

/-- A socket that was connected by itself took nothing yet. -/
theorem holding_of_connectWith (g : Gatherer P) {protocol : P.State} {e : Endpoint}
    {options : List (P.Opt × P.Value)} {ifname : String} {mode : OpenMode}
    (ran : perform (.connectWith options ifname mode) (initial protocol e) = some (true, s')) :
    Holding g e (g.cut (options.foldl (fun kept o => (P.keepOption o.2 kept).2) protocol))
      [] [] s' := by
  obtain ⟨set, s₁, first, next⟩ := bind_eq_some.mp ran
  cases set with
  | false => cases next
  | true =>
    obtain ⟨alone, settled⟩ := setOptions_of_alone g options rfl rfl first
    have untouched : e.arrivalsTaken e = [] := Endpoint.arrivalsTaken_eq rfl
    have start : Holding g e (g.cut (options.foldl (fun kept o => (P.keepOption o.2 kept).2)
        protocol)) [] [] s₁ := by
      refine ⟨alone, ?_, ?_, ?_, ?_, ?_, ?_⟩ <;> rw [settled]
      · rfl
      · rfl
      · exact ByteQueue.wellFormed_empty _
      · exact List.suffix_rfl
      · exact congrArg (gathered _) untouched
      · rfl
    exact unheard_holding.after_connect (fun _ _ h => h.prepare) ifname mode s₁ start true s' next
      rfl

end

end Socket

end CanStream
