import CanStream.Proofs.Protocol.Arrivals
import CanStream.Proofs.Socket.OpenMode
import CanStream.Proofs.Socket.Undisturbed

/-!
# What a wait for data brings

A wait for data that succeeds ends with the one read that it makes, and this read did not fail. That
does not mean that it gave anything: the wait brings more data just if the read took a datagram that
is not empty.
-/

namespace CanStream

variable {P : Protocol}

namespace Socket

variable {emit : Emit P} {s s₁ s' : Socket P}

/-- Undisturbed the first socket became the second one, and nothing was read meanwhile. -/
abbrev Unread (emit : Emit P) (s s' : Socket P) : Prop :=
  Retains emit (fun c => (c.available, P.readChunkSize c.protocol))
    (fun entry => entry.isRead = false) s s'

/-- Undisturbed the first socket became the second one with one read, and there is more data than
before just if it took a datagram that is not empty. -/
def Brought (emit : Emit P) (s s' : Socket P) : Prop :=
  ∃ c entries, Comes emit s c entries s' ∧ entries.countP Entry.isRead = 1 ∧
    s.available ≤ c.available ∧
    (s.available < c.available ↔ ∃ d ∈ entries.flatMap Entry.datagramsRead, d ≠ [])

theorem datagramsRead_of_unread {entry : Entry P} (unread : entry.isRead = false) :
    entry.datagramsRead = [] := by
  cases entry with
  | readHook unit consumed result => cases unread
  | _ => rfl

namespace Unread

theorem chunk (h : Unread emit s s') :
    P.readChunkSize s'.protocol = P.readChunkSize s.protocol :=
  congrArg Prod.snd h.view_eq

theorem brought (first : Unread emit s s₁) (next : Brought emit s₁ s') : Brought emit s s' := by
  have available : s₁.available = s.available := congrArg Prod.fst first.view_eq
  obtain ⟨c, entries, comes, -, readless⟩ := first
  obtain ⟨c', entries', comes', once, grown, yields⟩ := next
  obtain rfl := comes.connection
  have unread : entries.countP Entry.isRead = 0 := List.countP_eq_zero.mpr (by simpa using readless)
  have nothing : entries.flatMap Entry.datagramsRead = [] :=
    List.flatMap_eq_nil_iff.mpr fun entry member => datagramsRead_of_unread (readless entry member)
  refine ⟨c', entries ++ entries', comes.trans comes', ?_, available ▸ grown, ?_⟩
  · rw [List.countP_append, unread, Nat.zero_add, once]
  · rw [← available, List.flatMap_append, nothing, List.nil_append]
    exact yields

end Unread

theorem unread_of_poll (h : Undisturbed emit s) {read write : Bool} {r : Readiness}
    (ran : poll emit read write s = some (some r, s')) : Unread emit s s' :=
  .of_poll h ran fun _ _ => rfl

theorem unread_of_completeWrite (forthright : P.Forthright) (h : Undisturbed emit s)
    (ran : completeWrite emit s = some (true, s')) : Unread emit s s' :=
  .of_completeWrite h ran (fun _ _ => rfl) (fun _ => rfl)
    (fun wrote => Prod.ext rfl ((forthright.write _).of_exec wrote)) (fun _ => rfl)
    fun _ _ _ _ _ => rfl

theorem brought_of_pumpRead (forthright : P.Forthright) (h : Undisturbed emit s)
    (chunk : 0 < P.readChunkSize s.protocol) (ran : pumpRead emit s = some (true, s')) :
    Brought emit s s' := by
  cases outcome_of_pumpRead ran with
  | passed asked hook passed announced =>
    rename_i window result after
    have yields := forthright.read (Connection.window_pos asked chunk) hook passed
    have size := Connection.available_settleRead (s.toConnection.hooked after) s.toConnection window
      result
    have before : (s.toConnection.hooked after).available = s.available := rfl
    refine ⟨_, _, comes_of_announced h announced, ?_, ?_, ?_⟩
    · rw [List.countP_append, Connection.announcement]
      split <;> rfl
    · rw [size, before]
      exact Nat.le_add_right ..
    · have told : ([s.toConnection.readEntry after result, .received s.available
          ((s.toConnection.hooked after).settleRead s.toConnection window result).available] ++
          ((s.toConnection.hooked after).settleRead s.toConnection window result).announcement
            s.available).flatMap Entry.datagramsRead =
          datagrams (s.endpoint.arrivalsTaken after.2) := by
        rw [List.flatMap_append, Connection.announcement]
        split <;> simp [Connection.readEntry, Entry.datagramsRead]
      rw [told, ← yields, size, before]
      exact Nat.lt_add_right_iff_pos

/-- A wait for data that succeeds reads once, at its end. -/
theorem brought_of_readWait (forthright : P.Forthright) {answer : Bool}
    (wait : ReadWait emit (pumpRead emit) s answer s') (h : Undisturbed emit s)
    (chunk : 0 < P.readChunkSize s.protocol) (ready : answer = true) : Brought emit s s' := by
  induction wait with
  | unready polled => cases ready
  | read polled readable pumped =>
    have first := unread_of_poll h polled
    subst ready
    exact first.brought
      (brought_of_pumpRead forthright first.undisturbed (first.chunk ▸ chunk) pumped)
  | refused polled unreadable writable failed => cases ready
  | late polled unreadable pushed raised => cases ready
  | next polled unreadable pushed rest ih =>
    rename_i s s₁ s₂ s' r answer
    have first := unread_of_poll h polled
    have turn : Unread emit s s₂ := by
      rw [Pushed] at pushed
      split at pushed
      · exact first.trans (unread_of_completeWrite forthright first.undisturbed pushed)
      · rw [pushed]
        exact first
    exact turn.brought (ih turn.undisturbed (turn.chunk ▸ chunk) ready)

/-- The entries that the handler made tell of no reads. -/
theorem unread_of_isHandling {entry : Entry P} (handling : entry.isHandling = true) :
    entry.isRead = false := by
  cases entry with
  | readHook unit consumed result => cases handling
  | _ => rfl

theorem Brought.added (h : Brought emit s s') :
    (added s.journal s'.journal).countP Entry.isRead = 1 ∧ s.available ≤ s'.available ∧
      (s.available < s'.available ↔
        ∃ d ∈ (added s.journal s'.journal).flatMap Entry.datagramsRead, d ≠ []) := by
  obtain ⟨c, entries, comes, once, grown, yields⟩ := h
  obtain ⟨told, journal, rfl⟩ := comes.journal
  obtain rfl := comes.connection
  rw [added_of_eq journal]
  have counted : (told.filter fun entry => !entry.isHandling).countP Entry.isRead =
      told.countP Entry.isRead := by
    rw [List.countP_filter]
    refine List.countP_congr fun entry _ => ?_
    cases handling : entry.isHandling with
    | true => simp [unread_of_isHandling handling]
    | false => simp
  have mem (d : List UInt8) :
      (d ∈ (told.filter fun entry => !entry.isHandling).flatMap Entry.datagramsRead ↔
        d ∈ told.flatMap Entry.datagramsRead) := by
    rw [List.mem_flatMap, List.mem_flatMap]
    refine exists_congr fun entry => ?_
    rw [List.mem_filter]
    cases handling : entry.isHandling with
    | true => simp [datagramsRead_of_unread (unread_of_isHandling handling)]
    | false => simp
  exact ⟨counted ▸ once, grown, yields.trans (exists_congr fun d => and_congr_left' (mem d))⟩

/-- A wait for data that succeeds makes one read, and there is never less data after it than before.
There is more just if the read took a datagram that is not empty. So it is for every protocol whose
reads are forthright, as those of the protocols here are, unless somebody interferes. -/
theorem available_lt_iff_of_waitForReadyRead (forthright : P.Forthright) (h : Undisturbed emit s)
    (chunk : 0 < P.readChunkSize s.protocol) {wait : Wait}
    (ready : waitForReadyRead emit wait s = some (true, s')) :
    (added s.journal s'.journal).countP Entry.isRead = 1 ∧ s.available ≤ s'.available ∧
      (s.available < s'.available ↔
        ∃ d ∈ (added s.journal s'.journal).flatMap Entry.datagramsRead, d ≠ []) := by
  rw [waitForReadyRead_eq] at ready
  rcases readWait_of_waitForReadyReadBy ready with ⟨-, failed, -⟩ | waited
  · cases failed
  · exact (brought_of_readWait forthright waited h chunk rfl).added

end Socket

open Socket

/-- A run after which a read fails because it would block. -/
def Raw.blockingRun : List (Action Raw.protocol) :=
  [.ask (.connect "" .readWrite), .ask (.cue (.pushReadError Errno.again))]

/-- The wait succeeds, though nothing was there to read. -/
theorem Raw.exists_blockingRun :
    ∃ s s', run Raw.blockingRun (fresh .initial .blank 20 20) = some ((), s) ∧
      perform (.waitForReadyRead .momentary) s = some (true, s') ∧ s.handler = none ∧
      s.available = 0 ∧ s'.available = 0 := by
  obtain ⟨s, ready, s', ran, waited, outcome⟩ : ∃ s ready s',
      run Raw.blockingRun (fresh .initial .blank 20 20) = some ((), s) ∧
        waitForReadyRead emit .momentary s = some (ready, s') ∧
        (ready, s.handler.isNone, s.available, s'.available) = (true, true, 0, 0) :=
    exists_asked (by decide +kernel)
  simp only [Prod.mk.injEq] at outcome
  obtain ⟨rfl, alone, before, after⟩ := outcome
  exact ⟨s, s', ran, waited, Option.isNone_iff_eq_none.mp alone, before, after⟩

theorem not_always_available_lt :
    ¬∀ (P : Protocol) (protocol : P.State) (endpoint : Endpoint) (readChunk writeChunk : Nat)
      (actions : List (Action P)) (s s' : Socket P) (wait : Wait),
      run actions (fresh protocol endpoint readChunk writeChunk) = some ((), s) →
      s.handler = none → perform (.waitForReadyRead wait) s = some (true, s') →
      s.available < s'.available := by
  intro always
  obtain ⟨s, s', ran, waited, alone, before, after⟩ := Raw.exists_blockingRun
  have grown := always _ _ _ _ _ _ s s' _ ran alone waited
  rw [before, after] at grown
  exact Nat.lt_irrefl 0 grown

/-- The wait makes its read, which takes no datagram. -/
theorem available_lt_iff_of_waitForReadyRead_blockingRun :
    ∃ s s', run Raw.blockingRun (fresh .initial .blank 20 20) = some ((), s) ∧
      waitForReadyRead emit .momentary s = some (true, s') ∧ Undisturbed emit s ∧
      0 < Raw.protocol.readChunkSize s.protocol ∧
      (added s.journal s'.journal).countP Entry.isRead = 1 ∧
      ¬∃ d ∈ (added s.journal s'.journal).flatMap Entry.datagramsRead, d ≠ [] := by
  obtain ⟨s, s', ran, waited, alone, before, after⟩ := Raw.exists_blockingRun
  have undisturbed : Undisturbed emit s := .inr ⟨rfl, passive_of_alone alone⟩
  have chunk : 0 < Raw.protocol.readChunkSize s.protocol := Nat.zero_lt_succ 1151
  obtain ⟨once, -, yields⟩ :=
    available_lt_iff_of_waitForReadyRead Raw.forthright undisturbed chunk waited
  refine ⟨s, s', ran, waited, undisturbed, chunk, once, fun received => ?_⟩
  have grown := yields.mpr received
  rw [before, after] at grown
  exact Nat.lt_irrefl 0 grown

end CanStream
