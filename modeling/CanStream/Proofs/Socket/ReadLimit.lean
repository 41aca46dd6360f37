import CanStream.Proofs.IsoTp.Receive
import CanStream.Proofs.IsoTp.Transmit
import CanStream.Proofs.Raw.Reading
import CanStream.Proofs.Socket.Pump

/-!
# The limit of the read buffer

A limit says how much a socket is to hold that was read and not yet taken. A pump of a byte stream
reads no further than the limit. A payload of a transport connection is read whole or not at all:
one is read while less than the limit is held, and the buffer may go over the limit by the rest of
that payload.
-/

namespace CanStream

open Socket

/-- A pump of raw frames does not go over the limit. -/
theorem Raw.exists_pumps_le {s : Socket Raw.protocol} (limited : 0 < s.readLimit) :
    ∃ s₁, s.Pumps s₁ ∧ s₁.available ≤ max s.available s.readLimit := by
  cases asked : s.readWindow? with
  | none => exact ⟨s, .returns false (pumpRead_of_full asked), Nat.le_max_left _ _⟩
  | some window =>
    rcases ran : (Raw.protocol.read window).exec (s.protocol, s.endpoint) with ⟨result, after⟩
    obtain ⟨s₁, pumps, size, -⟩ := exists_pumps asked ran
    refine ⟨s₁, pumps, ?_⟩
    have room := Connection.readWindow?_le asked limited rfl
    have fits := Connection.gained_le window result
    rw [size]
    omega

/-- A pump of a transport connection leaves the descriptor alone if the limit is reached, and takes
one arrival at most, of which all is read that is no larger than the largest payload. -/
theorem IsoTp.exists_pumps_of_limited {s : Socket IsoTp.protocol} (limited : 0 < s.readLimit) :
    (s.readLimit ≤ s.available → ∀ emit, pumpRead emit s = some (false, s)) ∧
    ∃ s₁ consumed, s.Pumps s₁ ∧ s.endpoint.arrivals = consumed ++ s₁.endpoint.arrivals ∧
      consumed.length ≤ 1 ∧
      (datagrams consumed = [] ∧ s₁.available = s.available ∨
        ∃ d, consumed = [.datagram d] ∧ s₁.available = s.available + min d.length 4096) := by
  cases asked : s.readWindow? with
  | none =>
    have rests := pumpRead_of_full asked
    exact ⟨fun _ => rests, s, [], .returns false rests, rfl, Nat.zero_le 1, .inl ⟨rfl, rfl⟩⟩
  | some window =>
    obtain ⟨rfl, below⟩ := IsoTp.readWindow?_eq_some asked
    refine ⟨fun reached => absurd (below limited) (Nat.not_lt.mpr reached), ?_⟩
    obtain ⟨consumed, rest, result, split, ran, reads⟩ :=
      IsoTp.reads_read IsoTp.readChunk s.protocol s.endpoint
    obtain ⟨s₁, pumps, size, endpoint⟩ := exists_pumps asked ran
    refine ⟨s₁, consumed, pumps, by rw [endpoint]; exact split, ?_, ?_⟩
    · cases reads <;> simp
    · rw [size]
      cases reads with
      | idle => exact .inl ⟨rfl, rfl⟩
      | refused cause => exact .inl ⟨rfl, rfl⟩
      | lapsed code => exact .inl ⟨rfl, rfl⟩
      | failed code => exact .inl ⟨rfl, rfl⟩
      | payload bytes =>
        refine .inr ⟨bytes, rfl, ?_⟩
        rw [Connection.gained, List.length_take, IsoTp.readChunk]
        omega

/-- What a limit means. A pump of raw frames leaves no more than the limit in the buffer, or than
was there before. A pump of a transport connection reads one payload at most, only below the limit,
and cuts none that is no larger than 4096 bytes. So, whatever the limits were and whatever handlers
did, nothing of such payloads is lost. -/
theorem readLimit_bounds_pumps :
    (∀ s : Socket Raw.protocol, 0 < s.readLimit →
      ∃ s₁, s.Pumps s₁ ∧ s₁.available ≤ max s.available s.readLimit) ∧
    (∀ s : Socket IsoTp.protocol, 0 < s.readLimit →
      (s.readLimit ≤ s.available → ∀ emit, pumpRead emit s = some (false, s)) ∧
      ∃ s₁ consumed, s.Pumps s₁ ∧ s.endpoint.arrivals = consumed ++ s₁.endpoint.arrivals ∧
        consumed.length ≤ 1 ∧
        (datagrams consumed = [] ∧ s₁.available = s.available ∨
          ∃ d, consumed = [.datagram d] ∧ s₁.available = s.available + min d.length 4096)) ∧
    ∀ (protocolState : IsoTp.State) (endpoint : Endpoint) (readChunk writeChunk : Nat)
      (actions : List (Action IsoTp.protocol)) (s : Socket IsoTp.protocol),
      Socket.run actions (Socket.fresh protocolState endpoint readChunk writeChunk) = some ((), s) →
      (∀ d ∈ datagramsRead s.journal, d.length ≤ 4096) →
      IsoTp.bytesTaken s.journal ++ s.readBuffer.toList = (datagramsRead s.journal).flatten := by
  refine ⟨fun s limited => Raw.exists_pumps_le limited,
    fun s limited => IsoTp.exists_pumps_of_limited limited, ?_⟩
  intro protocolState endpoint readChunk writeChunk actions s ran moderate
  exact (IsoTp.receiving_of_run ran).balance moderate

/-- A run after which three frames arrived, of which two fit the limit. -/
def Raw.cappedRun : List (Action Raw.protocol) :=
  [.ask (.setReadLimit 40), .ask (.connect "" .readWrite),
    .ask (.cue (.pushRead (List.replicate 16 1))), .ask (.cue (.pushRead (List.replicate 16 2))),
    .ask (.cue (.pushRead (List.replicate 16 3)))]

/-- A handler that answers an arrival with another read. -/
def IsoTp.readAgain : Handler IsoTp.protocol :=
  .on none (fun e => e matches .readyRead) fun _ =>
    .call .readReady fun _ => .done (.silent none)

/-- A run in which two payloads are read, the second one within a handler and over the limit. -/
def IsoTp.cappedRun : List (Action IsoTp.protocol) :=
  [.ask (.cue (.addInterface ⟨"vcan0", 3, 16⟩)),
    .ask (.connectWith IsoTp.exampleIds "vcan0" .readWrite), .install IsoTp.readAgain,
    .ask (.setReadLimit 4), .ask (.cue (.pushRead [1, 2, 3])),
    .ask (.cue (.pushRead [4, 5, 6, 7, 8])), .ask (.cue (.pushRead [9])), .ask .readReady,
    .ask (.read 2)]

theorem readLimit_bounds_pumps_cappedRuns :
    (∃ s : Socket Raw.protocol,
      Socket.run Raw.cappedRun (Socket.fresh .initial .blank 20 20) = some ((), s) ∧
      0 < s.readLimit ∧ ∃ s₁, s.Pumps s₁ ∧ s₁.available ≤ max s.available s.readLimit) ∧
    ∃ s : Socket IsoTp.protocol,
      Socket.run IsoTp.cappedRun (Socket.fresh .initial .blank 20 20) = some ((), s) ∧
      0 < s.readLimit ∧ s.readLimit ≤ s.available ∧
      (∀ emit, pumpRead emit s = some (false, s)) ∧
      datagramsRead s.journal = [[1, 2, 3], [4, 5, 6, 7, 8]] ∧
      (∀ d ∈ datagramsRead s.journal, d.length ≤ 4096) ∧
      IsoTp.bytesTaken s.journal ++ s.readBuffer.toList = (datagramsRead s.journal).flatten := by
  obtain ⟨raw, transport, account⟩ := readLimit_bounds_pumps
  constructor
  · obtain ⟨s, ran, limit⟩ : ∃ s : Socket Raw.protocol,
        Socket.run Raw.cappedRun (Socket.fresh .initial .blank 20 20) = some ((), s) ∧
        s.readLimit = 40 :=
      Socket.exists_run (by decide +kernel)
    have limited : 0 < s.readLimit := by rw [limit]; decide
    exact ⟨s, ran, limited, raw s limited⟩
  · obtain ⟨s, ran, outcome⟩ : ∃ s : Socket IsoTp.protocol,
        Socket.run IsoTp.cappedRun (Socket.fresh .initial .blank 20 20) = some ((), s) ∧
        (s.readLimit, s.available, datagramsRead s.journal) =
          (4, 6, [[1, 2, 3], [4, 5, 6, 7, 8]]) :=
      Socket.exists_run (by decide +kernel)
    simp only [Prod.mk.injEq] at outcome
    obtain ⟨limit, available, payloads⟩ := outcome
    have limited : 0 < s.readLimit := by rw [limit]; decide
    have reached : s.readLimit ≤ s.available := by rw [limit, available]; decide
    have moderate : ∀ d ∈ datagramsRead s.journal, d.length ≤ 4096 := by
      rw [payloads]
      decide
    exact ⟨s, ran, limited, reached, (transport s limited).1 reached, payloads, moderate,
      account _ _ _ _ _ s ran moderate⟩

end CanStream
