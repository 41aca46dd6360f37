import CanStream.Proofs.Protocol.Transfers
import CanStream.Proofs.Socket.Fields
import CanStream.Proofs.Socket.Run

/-!
# What an application knows of waiting for data

A socket stops waiting for data when a read leaves no room for one more unit, or fails for want of
resources. It waits again when data was taken or the limit was changed and there is room, and when
it is connected. An application that keeps an account of what it did and of the reads that failed
knows from it whether the socket waits, except where an option or another limit made room or left
none: these are looked at no sooner than data is read or taken.
-/

namespace CanStream

variable {P : Protocol}

/-- The part of a connection that has to do with waiting for data. -/
structure Gauge where
  state : SocketState
  mode : OpenMode
  limit : Nat
  unit : Nat
  available : Nat
  wantsRead : Bool

def Connection.gauge (c : Connection P) : Gauge :=
  ⟨c.state, c.mode, c.readLimit, c.unit, c.available, c.wantsRead⟩

namespace Gauge

/-- Whether there is room for one more unit. -/
def hasRoom (g : Gauge) : Bool := g.limit == 0 || decide (g.available + g.unit ≤ g.limit)

/-- After a read, without room for another unit the socket stops waiting. -/
def fill (g : Gauge) (available : Nat) : Gauge :=
  let filled := { g with available := available }
  { filled with wantsRead := g.wantsRead && filled.hasRoom }

/-- After a failed read, without resources the socket stops waiting. -/
def refuse (g : Gauge) (exhausted : Bool) : Gauge :=
  { g with wantsRead := g.wantsRead && !exhausted }

/-- The socket waits again, if it can take some data. -/
def resume (g : Gauge) : Gauge :=
  { g with wantsRead :=
    g.wantsRead || (decide (g.state = .connected) && g.mode.reads && g.hasRoom) }

theorem wantsRead_resume_iff {g : Gauge} : g.resume.wantsRead = true ↔
    g.wantsRead = true ∨ g.state = .connected ∧ g.mode.reads = true ∧ g.hasRoom = true := by
  simp [resume, and_assoc]

theorem hasRoom_of_le {g : Gauge} {available : Nat} (less : available ≤ g.available)
    (room : g.hasRoom = true) : ({ g with available := available } : Gauge).hasRoom = true := by
  simp only [hasRoom, Bool.or_eq_true, beq_iff_eq, decide_eq_true_eq] at room ⊢
  omega

end Gauge

namespace Connection

theorem gauge_resumeReading (c : Connection P) : c.resumeReading.gauge = c.gauge.resume := by
  have resumed : c.gauge.resume = { c.gauge with
      wantsRead := c.wantsRead ||
        decide (c.state = .connected ∧ c.mode.reads ∧ c.hasReadRoom) } := by
    simp only [Gauge.resume, Bool.decide_and, Bool.decide_eq_true, ← Bool.and_assoc]
    rfl
  rw [resumed, resumeReading]
  split
  case isTrue ready =>
    rw [decide_eq_true ready, Bool.or_true]
    rfl
  case isFalse idle =>
    rw [decide_eq_false idle, Bool.or_false]
    rfl

theorem gauge_enqueue (steady : P.SteadyUnit) (c : Connection P) (data : List UInt8) :
    (c.enqueue data).gauge = c.gauge := by
  by_cases isEmpty : data = []
  · rw [isEmpty]
    rfl
  · rw [c.enqueue_of_ne_nil isEmpty]
    simp only [gauge, unit, available, steady.messageQueued]

theorem gauge_settleWrite (c : Connection P) {after : P.State × Endpoint}
    (same : P.msgSize after.1 = P.msgSize c.protocol) (result : Except IoError Nat) :
    ((c.align.hooked after).settleWrite result).gauge = c.gauge := by
  obtain ⟨buffer, pending, started, on, settled⟩ :=
    (c.align.hooked after).exists_settleWrite result
  rw [settled]
  simp only [gauge, unit, available, hooked, same]
  rfl

/-- What was read counts, and units have the size that they had before the read. -/
theorem gauge_takeIn (c : Connection P) {after : P.State × Endpoint}
    (same : P.msgSize after.1 = P.msgSize c.protocol) (window : Nat) (bytes : List UInt8) :
    ((c.hooked after).takeIn c window bytes).gauge =
      c.gauge.fill ((c.hooked after).takeIn c window bytes).available := by
  simp only [gauge, Gauge.fill, Gauge.hasRoom, takeIn, hooked, available, unit, same]
  congr 2
  rw [Bool.eq_iff_iff]
  simp

theorem gauge_settleRead (c : Connection P) {after : P.State × Endpoint}
    (same : P.msgSize after.1 = P.msgSize c.protocol) (window : Nat)
    {result : Except IoError (List UInt8)} (passed : Passed result) :
    ((c.hooked after).settleRead c window result).gauge =
      c.gauge.fill ((c.hooked after).settleRead c window result).available := by
  cases result with
  | ok bytes => exact c.gauge_takeIn same window bytes
  | error cause =>
    rw [settleRead, if_pos (passed cause rfl)]
    exact c.gauge_takeIn same window []

theorem gauge_refuseRead (c : Connection P) {after : P.State × Endpoint}
    (same : P.msgSize after.1 = P.msgSize c.protocol) (window : Nat) (cause : IoError) :
    ((c.hooked after).refuseRead window cause).gauge =
      c.gauge.refuse (decide ((SocketError.ofIo cause).kind = .resourceExhausted)) := by
  simp [gauge, Gauge.refuse, refuseRead, hooked, available, unit, same]

end Connection

/-- A read that only has to be made again later exhausts nothing. -/
theorem SocketError.kind_ofIo_ne_resourceExhausted {cause : IoError}
    (retry : cause.shouldRetry = true) : (SocketError.ofIo cause).kind ≠ .resourceExhausted := by
  cases cause with
  | os code =>
    change (ofErrno code).kind ≠ _
    unfold ofErrno
    split <;> first | exact absurd retry (by decide) | simp
  | plain kind => exact nofun
  | worded kind text => exact nofun

namespace Entry

/-- Whether a read failed for want of resources. -/
def exhausts : Entry P → Bool
  | readHook _ _ (.error cause) => decide ((SocketError.ofIo cause).kind = .resourceExhausted)
  | _ => false

/-- Whether data was taken out of the read buffer, be it none. -/
def takes : Entry P → Bool
  | taken _ => true
  | _ => false

/-- Whether a connect began. -/
def connects : Entry P → Bool
  | cleared _ _ => true
  | _ => false

/-- Whether the application goes on after a failure: it takes data or connects. -/
def goesOn (entry : Entry P) : Bool := entry.takes || entry.connects

/-- Whether the entry matters to what the application knows of waiting for data. -/
def tellsOfWaiting (entry : Entry P) : Bool := entry.goesOn || entry.exhausts

end Entry

/-- What an application knows of a socket's waiting for data. -/
structure Outlook where
  /-- A read failed for want of resources, and the application did not go on since. -/
  exhausted : Bool
  /-- With room left, the application connected, took data or changed the limit, and since then
  neither another limit nor an option made room or left none. -/
  settled : Bool
  /-- The last thing that the application did took data, be it none. -/
  taken : Bool
  /-- The last thing that the application did was to connect. -/
  connected : Bool

namespace Outlook

/-- The outlook on a new socket. -/
def initial : Outlook := ⟨false, false, false, false⟩

/-- The outlook when the application sets out to do another thing. -/
def begin (o : Outlook) : Outlook := { o with taken := false, connected := false }

/-- The outlook after one more entry, where some entries show that the application goes on. -/
def next (goesOn : Entry P → Bool) (o : Outlook) (entry : Entry P) : Outlook where
  exhausted := !goesOn entry && (o.exhausted || entry.exhausts)
  settled := !entry.connects && o.settled
  taken := o.taken || entry.takes
  connected := o.connected || entry.connects

/-- The outlook when the application has done something that led from one gauge to another. -/
def settle (o : Outlook) (before after : Gauge) : Outlook :=
  let limited := decide (after.limit ≠ before.limit)
  { o with
    exhausted := o.exhausted && !limited
    settled := (o.taken || o.connected || limited) && after.hasRoom ||
      o.settled && (after.hasRoom == before.hasRoom || !limited && after.unit == before.unit) }

theorem next_of_silent {o : Outlook} {entry : Entry P} (silent : entry.tellsOfWaiting = false) :
    o.next Entry.goesOn entry = o := by
  simp only [Entry.tellsOfWaiting, Entry.goesOn, Bool.or_eq_false_iff] at silent
  simp [next, Entry.goesOn, silent]

theorem next_taken (o : Outlook) (data : List UInt8) :
    o.next Entry.goesOn (.taken data : Entry P) = { o with exhausted := false, taken := true } := by
  simp [next, Entry.goesOn, Entry.takes, Entry.connects]

theorem next_readHook (o : Outlook) (unit : Nat) (consumed : List Arrival)
    (result : Except IoError Nat) :
    o.next Entry.goesOn (.readHook unit consumed result : Entry P) =
      { o with
        exhausted := o.exhausted || (.readHook unit consumed result : Entry P).exhausts } := by
  simp [next, Entry.goesOn, Entry.takes, Entry.connects]

theorem next_cleared (o : Outlook) (ifname : String) (mode : OpenMode) :
    o.next Entry.goesOn (.cleared ifname mode : Entry P) = ⟨false, false, o.taken, true⟩ := by
  simp [next, Entry.goesOn, Entry.takes, Entry.connects]

theorem exhausted_settle_eq_false_iff {o : Outlook} {before after : Gauge} :
    (o.settle before after).exhausted = false ↔
      o.exhausted = false ∨ after.limit ≠ before.limit := by
  cases exhausted : o.exhausted <;> simp [settle, exhausted]

theorem settled_settle_iff {o : Outlook} {before after : Gauge} :
    (o.settle before after).settled = true ↔
      (o.taken = true ∨ o.connected = true ∨ after.limit ≠ before.limit) ∧
          after.hasRoom = true ∨
        o.settled = true ∧ (after.hasRoom = before.hasRoom ∨
          after.limit = before.limit ∧ after.unit = before.unit) := by
  simp [settle, or_assoc]

end Outlook

/-- The outlook after what was done to one socket led to another one. -/
def Outlook.step (goesOn : Entry P → Bool) (o : Outlook) (s s' : Socket P) : Outlook :=
  ((s'.journal.drop s.journal.length).foldl (Outlook.next goesOn) o.begin).settle s.gauge s'.gauge

/-- The outlook after some actions of the application. -/
def outlook (goesOn : Entry P → Bool) : List (Action P) → Socket P → Outlook → Outlook
  | [], _, o => o
  | a :: rest, s, o =>
      match a.perform s with
      | none => o
      | some (_, s') => outlook goesOn rest s' (o.step goesOn s s')

/-! ## The invariant -/

/-- A socket waits for data as the application expects. -/
structure Watched (o : Outlook) (g : Gauge) : Prop where
  shut : g.state ≠ .connected → g.wantsRead = false
  allowed : g.wantsRead = true → g.mode.reads = true ∧ o.exhausted = false
  roomy : g.state = .connected → o.settled = true ∨ o.taken = true → g.mode.reads = true →
    g.hasRoom = true → o.exhausted = false → g.wantsRead = true
  full : o.settled = true → g.hasRoom = false → g.wantsRead = false
  fresh : o.connected = true → g.state = .connected → g.wantsRead = g.mode.reads

namespace Watched

variable {o : Outlook} {g : Gauge}

theorem begin (h : Watched o g) : Watched o.begin g where
  shut := h.shut
  allowed := h.allowed
  roomy := by
    rintro connected (settled | taken)
    · exact h.roomy connected (.inl settled)
    · cases taken
  full := h.full
  fresh := nofun

/-- A socket that is not connected does not wait. -/
theorem of_shut (state : g.state ≠ .connected) (idle : g.wantsRead = false) : Watched o g where
  shut := fun _ => idle
  allowed := by simp [idle]
  roomy := fun connected => absurd connected state
  full := fun _ _ => idle
  fresh := fun _ connected => absurd connected state

/-- A read leaves no more room than there was. -/
theorem fill {available : Nat} (h : Watched o g) (stays : o.connected = false)
    (more : g.available ≤ available) : Watched o (g.fill available) where
  shut := by
    intro state
    simp [Gauge.fill, h.shut state]
  allowed := by
    intro waits
    simp only [Gauge.fill, Bool.and_eq_true] at waits
    exact h.allowed waits.1
  roomy := by
    intro connected either reads room unexhausted
    have before : g.hasRoom = true :=
      Gauge.hasRoom_of_le (g := { g with available := available }) more room
    have waits := h.roomy connected either reads before unexhausted
    simp only [Gauge.fill, Bool.and_eq_true]
    exact ⟨waits, room⟩
  full := by
    intro _ noRoom
    have noRoom : ({ g with available := available } : Gauge).hasRoom = false := noRoom
    simp [Gauge.fill, noRoom]
  fresh := by simp [stays]

/-- A failed read that exhausts resources ends the waiting. -/
theorem refuse {exhausted : Bool} (h : Watched o g) (stays : o.connected = false) :
    Watched { o with exhausted := o.exhausted || exhausted } (g.refuse exhausted) where
  shut := by
    intro state
    simp [Gauge.refuse, h.shut state]
  allowed := by
    intro waits
    simp only [Gauge.refuse, Bool.and_eq_true, Bool.not_eq_true'] at waits
    obtain ⟨reads, unexhausted⟩ := h.allowed waits.1
    exact ⟨reads, by simp [unexhausted, waits.2]⟩
  roomy := by
    intro connected either reads room unexhausted
    simp only [Bool.or_eq_false_iff] at unexhausted
    have waits := h.roomy connected either reads room unexhausted.1
    simp [Gauge.refuse, waits, unexhausted.2]
  full := by
    intro settled noRoom
    have idle := h.full settled noRoom
    simp [Gauge.refuse, idle]
  fresh := by simp [stays]

/-- A socket that goes on waits, if it can take some data. -/
theorem resume (shut : g.state ≠ .connected → g.wantsRead = false)
    (allowed : g.wantsRead = true → g.mode.reads = true) (unexhausted : o.exhausted = false)
    (full : o.settled = true → g.hasRoom = false → g.wantsRead = false)
    (stays : o.connected = false) : Watched o g.resume where
  shut := by
    intro state
    rw [← Bool.not_eq_true, Gauge.wantsRead_resume_iff]
    rintro (waited | ⟨connected, -⟩)
    · rw [shut state] at waited
      cases waited
    · exact state connected
  allowed := by
    intro waits
    refine ⟨?_, unexhausted⟩
    rcases Gauge.wantsRead_resume_iff.mp waits with waited | ⟨-, reads, -⟩
    · exact allowed waited
    · exact reads
  roomy := by
    intro connected _ reads room _
    exact Gauge.wantsRead_resume_iff.mpr (.inr ⟨connected, reads, room⟩)
  full := by
    intro settled noRoom
    rw [← Bool.not_eq_true, Gauge.wantsRead_resume_iff]
    rintro (waited | ⟨-, -, room⟩)
    · rw [full settled noRoom] at waited
      cases waited
    · rw [show g.hasRoom = false from noRoom] at room
      cases room
  fresh := by simp [stays]

/-- Taking data makes room, if it changes anything. -/
theorem take {available : Nat} (h : Watched o g) (stays : o.connected = false)
    (less : available ≤ g.available) :
    Watched { o with exhausted := false, taken := true }
      ({ g with available := available } : Gauge).resume := by
  refine resume h.shut (fun waited => (h.allowed waited).1) rfl ?_ stays
  intro settled noRoom
  refine h.full settled ?_
  by_contra room
  rw [Bool.not_eq_false] at room
  rw [Gauge.hasRoom_of_le less room] at noRoom
  cases noRoom

/-- Where the limit is the same, data that was taken last settles whether there is room, if there
is. -/
theorem settle_of_moved {g₀ : Gauge} (h : Watched o g) (limit : g.limit = g₀.limit)
    (stays : o.connected = false) : Watched (o.settle g₀ g) g where
  shut := h.shut
  allowed := by
    intro waits
    obtain ⟨reads, unexhausted⟩ := h.allowed waits
    exact ⟨reads, Outlook.exhausted_settle_eq_false_iff.mpr (.inl unexhausted)⟩
  roomy := by
    intro connected either reads room unexhausted
    rw [Outlook.exhausted_settle_eq_false_iff, limit, ne_self_iff_false, or_false] at unexhausted
    refine h.roomy connected ?_ reads room unexhausted
    rcases either with settled | taken
    · rcases Outlook.settled_settle_iff.mp settled with ⟨taken | fresh | other, -⟩ | ⟨settled, -⟩
      · exact .inr taken
      · rw [stays] at fresh
        cases fresh
      · exact absurd limit other
      · exact .inl settled
    · exact .inr taken
  full := by
    intro settled noRoom
    rcases Outlook.settled_settle_iff.mp settled with ⟨-, room⟩ | ⟨settled, -⟩
    · rw [noRoom] at room
      cases room
    · exact h.full settled noRoom
  fresh := by simp [Outlook.settle, stays]

/-- Units of another size settle nothing, unless there is room as before. -/
theorem settle_of_resized (h : Watched o.begin g) (unit : Nat) :
    Watched (o.begin.settle g { g with unit := unit }) { g with unit := unit } := by
  have before (isSettled : (o.begin.settle g { g with unit := unit }).settled = true) :
      o.settled = true ∧ ({ g with unit := unit } : Gauge).hasRoom = g.hasRoom := by
    rcases Outlook.settled_settle_iff.mp isSettled with
      ⟨taken | fresh | other, -⟩ | ⟨settled, same | ⟨-, rfl⟩⟩
    · cases taken
    · cases fresh
    · exact absurd rfl other
    · exact ⟨settled, same⟩
    · exact ⟨settled, rfl⟩
  refine ⟨h.shut, ?_, ?_, ?_, nofun⟩
  · intro waits
    obtain ⟨reads, unexhausted⟩ := h.allowed waits
    exact ⟨reads, Outlook.exhausted_settle_eq_false_iff.mpr (.inl unexhausted)⟩
  · rintro connected (settled | taken) reads room unexhausted
    · obtain ⟨settled, same⟩ := before settled
      rw [Outlook.exhausted_settle_eq_false_iff] at unexhausted
      rcases unexhausted with unexhausted | other
      · exact h.roomy connected (.inl settled) reads (same.symm.trans room) unexhausted
      · exact absurd rfl other
    · cases taken
  · intro settled noRoom
    obtain ⟨settled, same⟩ := before settled
    exact h.full settled (same.symm.trans noRoom)

/-- With another limit the socket goes on. -/
theorem settle_of_limited {limit : Nat} (h : Watched o.begin g) (other : limit ≠ g.limit) :
    Watched (o.begin.settle g ({ g with limit := limit } : Gauge).resume)
      ({ g with limit := limit } : Gauge).resume := by
  refine resume h.shut (fun waited => (h.allowed waited).1) ?_ ?_ rfl
  · exact Outlook.exhausted_settle_eq_false_iff.mpr (.inr other)
  · intro settled noRoom
    rcases Outlook.settled_settle_iff.mp settled with ⟨-, room⟩ | ⟨settled, same | ⟨same, -⟩⟩
    · rw [show ({ g with limit := limit } : Gauge).resume.hasRoom = false from noRoom] at room
      cases room
    · exact h.full settled (same.symm.trans noRoom)
    · exact absurd same other

/-- A connect settles whether there is room, if there is. -/
theorem settle_of_connected {g₀ : Gauge} (unexhausted : o.exhausted = false)
    (unsettled : o.settled = false) (waits : g.wantsRead = g.mode.reads)
    (connected : g.state = .connected) : Watched (o.settle g₀ g) g where
  shut := fun other => absurd connected other
  allowed := by
    intro waiting
    rw [waits] at waiting
    exact ⟨waiting, Outlook.exhausted_settle_eq_false_iff.mpr (.inl unexhausted)⟩
  roomy := fun _ _ reads _ _ => waits.trans reads
  full := by
    intro settled noRoom
    rcases Outlook.settled_settle_iff.mp settled with ⟨-, room⟩ | ⟨settled, -⟩
    · rw [noRoom] at room
      cases room
    · rw [unsettled] at settled
      cases settled
  fresh := fun _ _ => waits

end Watched

/-- What an action leads to, as far as waiting for data is concerned. -/
inductive Led (o₀ : Outlook) (g₀ : Gauge) : Outlook → Gauge → Prop
  /-- Data was read, written or taken. -/
  | moved {o g} (limit : g.limit = g₀.limit) (stays : o.connected = false)
      (watched : Watched o g) : Led o₀ g₀ o g
  /-- Options were set, or nothing was done. -/
  | resized (unit : Nat) : Led o₀ g₀ o₀ { g₀ with unit := unit }
  /-- The limit was changed. -/
  | limited {n} (other : n ≠ g₀.limit) : Led o₀ g₀ o₀ ({ g₀ with limit := n } : Gauge).resume
  /-- The socket was closed, or could not be connected. -/
  | shut {o g} (state : g.state ≠ .connected) (idle : g.wantsRead = false) : Led o₀ g₀ o g
  /-- The socket was connected. -/
  | connected {o g} (unexhausted : o.exhausted = false) (unsettled : o.settled = false)
      (state : g.state = .connected) (waits : g.wantsRead = g.mode.reads) : Led o₀ g₀ o g

/-- Whatever an action leads to is as the application expects once it looks at the room. -/
theorem Led.watched {o₀ o : Outlook} {g₀ g : Gauge} (h : Watched o₀.begin g₀)
    (led : Led o₀.begin g₀ o g) : Watched (o.settle g₀ g) g := by
  cases led with
  | moved limit stays watched => exact watched.settle_of_moved limit stays
  | resized unit => exact h.settle_of_resized unit
  | limited other => exact h.settle_of_limited other
  | shut state idle => exact .of_shut state idle
  | connected unexhausted unsettled state waits =>
    exact .settle_of_connected unexhausted unsettled waits state

end CanStream
