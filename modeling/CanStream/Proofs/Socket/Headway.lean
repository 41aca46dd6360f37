import CanStream.Proofs.Protocol.Truth
import CanStream.Proofs.Socket.Account
import CanStream.Proofs.Socket.Undisturbed

/-!
# What a wait for a write brings

A wait for a write that succeeds has something to write or to report when it begins. In the end
either some bytes went through or a completed write was reported, or what there was to write was
given up, or it is still there, for the last write took nothing.
-/

namespace CanStream

variable {P : Protocol}

namespace Entry

/-- Whether the endpoint took some bytes, or a completed write was reported. -/
def advances : Entry P → Bool
  | raised (.bytesWritten _) => true
  | writeHook _ _ _ sent _ => sent.any fun data => !data.isEmpty
  | _ => false

/-- Whether what was to be written or to be reported was given up. -/
def givesUp : Entry P → Bool
  | writeHook _ _ _ _ (.error cause) => decide (cause.kind = .invalidData)
  | cleared _ _ => true
  | discarded => true
  | _ => false

/-- Whether the protocol was asked to write and took nothing. -/
def stalls : Entry P → Bool
  | writeHook _ _ _ _ (.ok 0) => true
  | _ => false

end Entry

/-- A write that does not fail gets on just if it took something. -/
theorem Protocol.Truthful.advances_iff (truthful : P.Truthful) {reporting : Bool}
    {bytes : List UInt8} {tried : List (List UInt8)} {p : P.State} {e : Endpoint} {n : Nat}
    {after : P.State × Endpoint} (ran : (P.write bytes).exec (p, e) = (.ok n, after)) :
    (Entry.writeHook reporting bytes tried (e.writesMade after.2) (.ok n) : Entry P).advances =
      true ↔ 0 < n := by
  rw [← truthful ran, List.length_pos_iff, Entry.advances]
  simp [List.flatten_eq_nil_iff]

/-- Since the journal was the first one there was headway, or something was given up, or else there
is something to write or to report. -/
structure Owing (j₀ : List (Entry P)) (c : Connection P) (j : List (Entry P)) : Prop where
  grown : j₀ <+: j
  owed : (∃ entry ∈ added j₀ j, entry.advances = true ∨ entry.givesUp = true) ∨
    c.pending ≠ 0 ∨ c.writeBuffer.isEmpty = false

namespace Owing

variable {j₀ j : List (Entry P)} {c c' : Connection P}

theorem congr (h : Owing j₀ c j) (pending : c'.pending = c.pending)
    (buffer : c'.writeBuffer = c.writeBuffer) : Owing j₀ c' j :=
  ⟨h.grown, by rw [pending, buffer]; exact h.owed⟩

theorem log (h : Owing j₀ c j) (more : List (Entry P)) : Owing j₀ c (j ++ more) := by
  refine ⟨h.grown.trans (List.prefix_append ..), h.owed.imp_left ?_⟩
  rintro ⟨entry, member, settles⟩
  rw [added_append h.grown]
  exact ⟨entry, List.mem_append_left _ member, settles⟩

/-- Nothing is owed any more once an entry tells of headway or of a loss. -/
theorem settle (h : Owing j₀ c j) {more : List (Entry P)} {entry : Entry P}
    (member : entry ∈ more) (settles : entry.advances = true ∨ entry.givesUp = true) :
    Owing j₀ c' (j ++ more) := by
  refine ⟨h.grown.trans (List.prefix_append ..), .inl ⟨entry, ?_, settles⟩⟩
  rw [added_append h.grown]
  exact List.mem_append_right _ member

theorem resumeReading (h : Owing j₀ c j) : Owing j₀ c.resumeReading j := by
  obtain ⟨on, resumed⟩ := c.exists_resumeReading
  rw [resumed]
  exact h.congr rfl rfl

theorem queue (h : Owing j₀ c j) (data : List UInt8) : Owing j₀ (c.enqueue data) j := by
  by_cases isEmpty : data = []
  · subst isEmpty
    exact h.congr rfl rfl
  · refine ⟨h.grown, .inr (.inr ?_)⟩
    rw [c.enqueue_of_ne_nil isEmpty]
    exact c.writeBuffer.isEmpty_append isEmpty

/-- A write that took nothing leaves all there that there was to write. -/
theorem write (truthful : P.Truthful) (h : Owing j₀ c j) (nonempty : c.writeBuffer.isEmpty = false)
    {result : Except IoError Nat} {after : P.State × Endpoint}
    (ran : (P.write c.align.writeBuffer.head).exec (c.protocol, c.endpoint) = (result, after)) :
    Owing j₀ ((c.align.hooked after).settleWrite result)
      (j ++ [.writeHook c.reportingWrite c.align.writeBuffer.head
        (c.endpoint.writesTried after.2) (c.endpoint.writesMade after.2) result]) := by
  have aligned : c.align.writeBuffer.isEmpty = false := by
    rw [← nonempty, ByteQueue.isEmpty, ByteQueue.isEmpty, Connection.align,
      ByteQueue.size_makeContiguous]
  rcases result with cause | ⟨_ | n⟩
  · by_cases invalid : cause.kind = .invalidData
    · exact h.settle (List.mem_singleton_self _) (.inr (decide_eq_true invalid))
    · have kept := h.log [.writeHook c.reportingWrite c.align.writeBuffer.head
        (c.endpoint.writesTried after.2) (c.endpoint.writesMade after.2) (.error cause)]
      refine ⟨kept.grown, .inr (.inr ?_)⟩
      rw [Connection.settleWrite, Connection.refuseWrite_of_valid _ invalid]
      exact aligned
  · have kept := h.log [.writeHook c.reportingWrite c.align.writeBuffer.head
      (c.endpoint.writesTried after.2) (c.endpoint.writesMade after.2) (.ok 0)]
    refine ⟨kept.grown, .inr (.inr ?_)⟩
    rw [← Bool.not_eq_true, ByteQueue.isEmpty_iff] at aligned ⊢
    rw [Connection.settleWrite, Connection.takeOver, ByteQueue.size_free]
    exact aligned
  · exact h.settle (List.mem_singleton_self _)
      (.inl ((truthful.advances_iff ran).mpr (Nat.succ_pos n)))

end Owing

theorem steps_owing (truthful : P.Truthful) (j₀ : List (Entry P)) :
    Steps Scope.all (Owing j₀) (Owing j₀) (Owing j₀) where
  delivery := fun _ _ h => h.log _
  returned := fun _ h => h.log _
  noted := fun _ h => h.log _
  error := fun _ h => (h.log _).congr rfl rfl
  clearError := fun h => h.congr rfl rfl
  inspected := fun h => h.log _
  beginClose := fun h _ _ => (h.log _).congr rfl rfl
  goOnClosing := fun h _ => h
  discard := fun h _ => h.settle (List.mem_singleton_self _) (.inr rfl)
  endClose := fun {c _} h _ => by
    rw [List.append_assoc]
    exact h.settle (List.mem_cons_self ..) (.inr rfl)
  sever := fun h => (h.log _).congr rfl rfl
  prepare := fun {c _} _ _ h _ => by
    rw [List.append_assoc]
    exact h.settle (List.mem_cons_self ..) (.inr rfl)
  connectFailed := fun _ h _ => (h.log _).congr rfl rfl
  reconnected := fun _ _ h _ _ => (h.log _).congr rfl rfl
  connected := fun _ _ h _ _ => ((h.log _).log _).congr rfl rfl
  read := fun {c _ window result after} h _ _ => by
    obtain ⟨buffer, on, settled⟩ := (c.hooked after).exists_settleRead c window result
    rw [settled]
    exact (h.log _).congr rfl rfl
  received := fun _ h => h.log _
  beginAnnounce := fun h _ => (h.log _).congr rfl rfl
  endAnnounce := fun h _ => h.congr rfl rfl
  beginReport := fun h _ _ => h.settle (List.mem_singleton_self _) (.inl rfl)
  endReport := fun h _ => h.congr rfl rfl
  skipReport := fun h _ => h.congr rfl rfl
  idle := fun h _ => h.congr rfl rfl
  write := fun h nonempty ran => h.write truthful nonempty ran
  refuseOption := fun _ h _ => h.congr rfl rfl
  keepOption := fun _ h _ => (h.log _).congr rfl rfl
  optionChanged := fun _ h => h.log _
  setReadLimit := fun {c _} n h _ =>
    Owing.resumeReading (c := { c with readLimit := n }) (h.congr rfl rfl)
  takeBytes := fun {c _} n _ h =>
    Owing.resumeReading (c := { c with readBuffer := (c.readBuffer.read n).2 })
      ((h.log _).congr rfl rfl)
  takeFrame := fun {c _ header} h _ _ _ =>
    Owing.resumeReading
      (c := { c with readBuffer := (c.readBuffer.read (Socket.frameSize header)).2 })
      (((h.log _).log _).congr rfl rfl)
  queueBytes := fun _ h _ _ => (h.queue _).log _
  queueFrame := fun _ h _ _ _ _ => ((h.queue _).log _).log _
  cue := fun _ h => h.congr rfl rfl
  poll := fun _ _ h => h.congr rfl rfl
  takeWritten := fun h => h.congr rfl rfl

theorem closing_owing (truthful : P.Truthful) (j₀ : List (Entry P)) :
    ClosingSteps (Owing j₀) where
  toBasicSteps := (steps_owing truthful j₀).toBasicSteps
  closeEndpoint := fun h => h.congr rfl rfl
  hush := fun h => h.congr rfl rfl

namespace Socket

variable {emit : Emit P} {s s₁ s' : Socket P} {j₀ : List (Entry P)}

theorem Raises.upholds_owing (raises : Raises emit) (truthful : P.Truthful)
    (j₀ : List (Entry P)) (e : P.Event) :
    Upholds Scope.all (fun c j => Owing j₀ c (j ++ [.raised e])) (emit e) (Owing j₀) := by
  rcases raises with rfl | rfl
  · exact (steps_owing truthful j₀).emits (closing_owing truthful j₀) e
  · exact upholds_enqueue _ e

/-- How the last write of a wait comes to succeed: there was headway since the journal was the first
one, or something was given up; or else the write took nothing, or it had nothing but to report and
did not, for that is being done already. -/
theorem headway_of_completeWrite (truthful : P.Truthful) (raises : Raises emit)
    (owing : Owing j₀ s₁.toConnection s₁.journal)
    (ran : completeWrite emit s₁ = some (true, s')) :
    (∃ entry ∈ added j₀ s'.journal, entry.advances = true ∨ entry.givesUp = true) ∨
      (∃ entry ∈ (added j₀ s'.journal).getLast?, entry.stalls = true) ∨
      s₁.reportingWrite = true ∧ s'.writeBuffer.isEmpty = true := by
  have reports := upholds_reportWritten
    (fun e _ => raises.upholds_owing truthful j₀ e) (steps_owing truthful j₀).toTransferSteps
  cases outcome_of_completeWrite ran with
  | idle reported isEmpty =>
    rename_i s₂
    have still : Owing j₀ s₂.toConnection s₂.journal :=
      (reports.holds owing reported).congr rfl rfl
    rcases still.owed with settled | pending | nonempty
    · exact .inl settled
    · rcases reportWritten_cases reported with ⟨-, -, s₃, raised, rfl⟩ | ⟨unreported, rfl⟩
      · obtain ⟨more, grown⟩ : s₁.journal ++ [.raised (.bytesWritten s₁.pending)] <+: s₃.journal :=
          raises.isPrefix (s := s₁.change Connection.report) raised
        have member : .raised (.bytesWritten s₁.pending) ∈ added j₀ s₃.journal := by
          rw [← grown, List.append_assoc, added_append owing.grown]
          exact List.mem_append_right _ (List.mem_cons_self ..)
        exact .inl ⟨_, member, .inl rfl⟩
      · rcases unreported with zero | reporting
        · exact absurd zero pending
        · exact .inr (.inr ⟨reporting, isEmpty⟩)
    · rw [isEmpty] at nonempty
      cases nonempty
  | passed reported nonempty wrote =>
    rename_i s₂ n after
    have still : Owing j₀ s₂.toConnection s₂.journal :=
      (reports.holds owing reported).congr rfl rfl
    have told : added j₀ (s₂.unstarted.handed (.ok n) after).journal =
        added j₀ s₂.journal ++ [.writeHook s₂.reportingWrite s₂.align.writeBuffer.head
          (s₂.endpoint.writesTried after.2) (s₂.endpoint.writesMade after.2) (.ok n)] :=
      added_append still.grown _
    rw [told]
    rcases n with _ | n
    · rw [List.getLast?_concat]
      exact .inr (.inl ⟨_, rfl, rfl⟩)
    · exact .inl ⟨_, List.mem_append_right _ (List.mem_singleton_self _),
        .inl ((truthful.advances_iff wrote).mpr (Nat.succ_pos n))⟩

theorem headway_of_writeWait (truthful : P.Truthful) (raises : Raises emit) {answer : Bool}
    (wait : WriteWait emit (pumpRead emit) s answer s') (done : answer = true)
    (due : s.writeBuffer.isEmpty = false ∨ s.pending ≠ 0) :
    (∃ entry ∈ added s.journal s'.journal, entry.advances = true ∨ entry.givesUp = true) ∨
      (∃ entry ∈ (added s.journal s'.journal).getLast?, entry.stalls = true) ∨
      s.reportingWrite = true ∧ s'.writeBuffer.isEmpty = true := by
  have steps := steps_owing truthful s.journal
  have emits : Emits Scope.all (Owing s.journal) emit :=
    fun e _ => raises.upholds_owing truthful s.journal e
  have start : Ready Scope.all (Owing s.journal) s :=
    ⟨⟨List.prefix_rfl, .inr due.symm⟩, fun h _ => h.within_all⟩
  obtain ⟨s₁, ⟨ready, guards⟩, pushed⟩ := wait.exists_push
    (motive := fun s₁ => Ready Scope.all (Owing s.journal) s₁ ∧ s₁.guards = s.guards)
    ⟨start, rfl⟩ done
    (fun {s₁ s₂ read write r} h polled =>
      (upholds_poll steps.toCarrySteps emits read write s₁ h.1 _ _ polled).imp_right
        (·.trans h.2))
    (fun {s₁ s₂} h pumped =>
      (upholds_pumpRead steps.toBasicSteps steps.moves.toPumpSteps emits
        (raises.upholds_owing truthful s.journal .readyRead) s₁ h.1 _ _ pumped).imp_right
          (·.trans h.2))
  have reporting : s₁.reportingWrite = s.reportingWrite := congrArg Prod.snd guards
  rw [← reporting]
  exact headway_of_completeWrite truthful raises ready.holds pushed

/-! ## Waits that nobody interferes with -/

theorem not_isHandling_of_advances (entry : Entry P) (advances : entry.advances = true) :
    entry.isHandling = false := by
  cases entry <;> first | rfl | cases advances

theorem not_isHandling_of_takes (entry : Entry P) (takes : 0 < entry.bytesTaken) :
    entry.isHandling = false := by
  cases entry <;> first | rfl | cases takes

/-- Undisturbed the first socket became the second one, with as much to report and without any
headway. -/
abbrev Held (emit : Emit P) (s s' : Socket P) : Prop :=
  Retains emit (fun c => (c.pending, c.reportingWrite))
    (fun entry => entry.advances = false ∧ entry.bytesTaken = 0) s s'

theorem held_of_pumpRead (h : Undisturbed emit s) (ran : pumpRead emit s = some (true, s')) :
    Held emit s s' :=
  .of_pumpRead h ran (fun _ _ _ _ => rfl) (fun _ _ _ => ⟨rfl, rfl⟩) (fun _ _ => ⟨rfl, rfl⟩)
    ⟨rfl, rfl⟩

/-- A report is due just if it tells of headway. -/
theorem exists_mem_report?_iff (c : Connection P) :
    (∃ entry ∈ c.report?, entry.advances = true) ↔ 0 < c.pending ∧ c.reportingWrite = false := by
  rw [Connection.report?]
  split
  case isTrue due => simp [Entry.advances, due]
  case isFalse unreported => simp [unreported]

/-- How the last write of a wait comes to have headway, if nobody interferes. -/
theorem exists_advances_iff_of_completeWrite (truthful : P.Truthful) (held : Held emit s s₁)
    (ran : completeWrite emit s₁ = some (true, s')) :
    (∃ entry ∈ added s.journal s'.journal, entry.advances = true) ↔
      (0 < s.pending ∧ s.reportingWrite = false) ∨
        ∃ entry ∈ (added s.journal s'.journal).getLast?, 0 < entry.bytesTaken := by
  have pending : s₁.pending = s.pending := congrArg Prod.fst held.view_eq
  have reporting : s₁.reportingWrite = s.reportingWrite := congrArg Prod.snd held.view_eq
  obtain ⟨c, entries, comes, -, inert⟩ := held
  have silent : ¬∃ entry ∈ entries, entry.advances = true := by
    rintro ⟨entry, member, advances⟩
    rw [(inert entry member).1] at advances
    cases advances
  rw [← pending, ← reporting]
  cases outcome_of_completeWrite ran with
  | idle reported isEmpty =>
    rename_i s₂
    have comes' := comes.trans (comes_reportWritten comes.undisturbed reported)
    have untaken : ¬∃ entry ∈ (added s.journal s₂.journal).getLast?, 0 < entry.bytesTaken := by
      rintro ⟨entry, last, takes⟩
      obtain ⟨entry, member, takes⟩ := (comes'.exists_added_iff not_isHandling_of_takes).mp
        ⟨entry, List.mem_of_getLast? last, takes⟩
      rcases List.mem_append.mp member with early | late
      · rw [(inert entry early).2] at takes
        exact Nat.lt_irrefl 0 takes
      · rw [Connection.eq_of_mem_report? late] at takes
        exact Nat.lt_irrefl 0 takes
    refine (comes'.exists_added_iff not_isHandling_of_advances).trans ?_
    simp only [List.mem_append, or_and_right, exists_or]
    rw [exists_mem_report?_iff, or_iff_right silent]
    exact (or_iff_left untaken).symm
  | passed reported nonempty wrote =>
    rename_i s₂ n after
    have comes' := comes.trans (comes_reportWritten comes.undisturbed reported)
    have hands := comes'.hands (.ok n) after
    rw [← comes'.connection] at hands
    have told : added s.journal (s₂.unstarted.handed (.ok n) after).journal =
        added s.journal s₂.journal ++ [.writeHook s₂.reportingWrite s₂.align.writeBuffer.head
          (s₂.endpoint.writesTried after.2) (s₂.endpoint.writesMade after.2) (.ok n)] :=
      added_append comes'.isPrefix _
    have last : (∃ entry ∈ (added s.journal
        (s₂.unstarted.handed (.ok n) after).journal).getLast?, 0 < entry.bytesTaken) ↔ 0 < n := by
      rw [told, List.getLast?_concat]
      exact ⟨fun ⟨_, rfl, takes⟩ => takes, fun takes => ⟨_, rfl, takes⟩⟩
    rw [last, hands.exists_added_iff not_isHandling_of_advances]
    simp only [List.mem_append, List.mem_singleton, or_and_right, exists_or, exists_eq_left]
    rw [exists_mem_report?_iff, or_iff_right silent]
    exact or_congr_right (truthful.advances_iff wrote)

/-- A wait for a write that succeeds has headway, unless what there was to write or to report was
given up meanwhile, the last write took nothing, or there was nothing to do but to report, which is
being done already. If nobody interferes it has headway just if there was something to report, which
was not being reported, or the last write took something. -/
theorem headway_of_waitForBytesWritten (truthful : P.Truthful) (raises : Raises emit) {wait : Wait}
    (done : waitForBytesWritten emit wait s = some (true, s')) :
    ((∃ entry ∈ added s.journal s'.journal, entry.advances = true ∨ entry.givesUp = true) ∨
      (∃ entry ∈ (added s.journal s'.journal).getLast?, entry.stalls = true) ∨
      s.reportingWrite = true ∧ s'.writeBuffer.isEmpty = true) ∧
      (Undisturbed emit s →
        ((∃ entry ∈ added s.journal s'.journal, entry.advances = true) ↔
          (0 < s.pending ∧ s.reportingWrite = false) ∨
            ∃ entry ∈ (added s.journal s'.journal).getLast?, 0 < entry.bytesTaken)) := by
  rw [waitForBytesWritten_eq] at done
  rcases writeWait_of_waitForBytesWrittenBy done with ⟨-, failed, -⟩ | ⟨due, waited⟩
  · cases failed
  refine ⟨headway_of_writeWait truthful raises waited rfl due, fun undisturbed => ?_⟩
  obtain ⟨s₁, held, pushed⟩ := waited.exists_push (motive := Held emit s) (.refl undisturbed) rfl
    (fun held polled => held.trans (.of_poll held.undisturbed polled fun _ _ => rfl))
    (fun held pumped => held.trans (held_of_pumpRead held.undisturbed pumped))
  exact exists_advances_iff_of_completeWrite truthful held pushed

end Socket

open Socket

/-- A run after which a write fails because it would block. -/
def Raw.balkingRun : List (Action Raw.protocol) :=
  [.ask (.connect "" .readWrite), .ask (.writeFrame (Frame.empty.withKind .data)),
    .ask (.cue (.pushWriteError Errno.again))]

/-- The wait succeeds, though nothing was written or reported, and nothing was given up. -/
theorem Raw.exists_balkingRun :
    ∃ s s', run Raw.balkingRun (fresh .initial .blank 20 20) = some ((), s) ∧
      perform (.waitForBytesWritten .momentary) s = some (true, s') ∧ s.handler = none ∧
      s.reportingWrite = false ∧
      ∀ entry ∈ added s.journal s'.journal, entry.advances = false ∧ entry.givesUp = false := by
  obtain ⟨s, done, s', ran, waited, outcome⟩ : ∃ s done s',
      run Raw.balkingRun (fresh .initial .blank 20 20) = some ((), s) ∧
        waitForBytesWritten emit .momentary s = some (done, s') ∧
        (done, s.handler.isNone, s.reportingWrite,
          (added s.journal s'.journal).all fun entry => !entry.advances && !entry.givesUp) =
          (true, true, false, true) :=
    exists_asked (by decide +kernel)
  simp only [Prod.mk.injEq] at outcome
  obtain ⟨rfl, alone, quiet, inert⟩ := outcome
  refine ⟨s, s', ran, waited, Option.isNone_iff_eq_none.mp alone, quiet, fun entry member => ?_⟩
  simpa using List.all_eq_true.mp inert entry member

theorem not_always_headway :
    ¬∀ (P : Protocol) (protocol : P.State) (endpoint : Endpoint) (readChunk writeChunk : Nat)
      (actions : List (Action P)) (s s' : Socket P) (wait : Wait),
      run actions (fresh protocol endpoint readChunk writeChunk) = some ((), s) →
      perform (.waitForBytesWritten wait) s = some (true, s') →
      ∃ entry ∈ added s.journal s'.journal, entry.advances = true := by
  intro always
  obtain ⟨s, s', ran, waited, -, -, inert⟩ := Raw.exists_balkingRun
  obtain ⟨entry, member, advances⟩ := always _ _ _ _ _ _ s s' _ ran waited
  rw [(inert entry member).1] at advances
  cases advances

/-- The last write of the wait took nothing, for nobody interfered with it. -/
theorem headway_of_waitForBytesWritten_balkingRun :
    ∃ s s', run Raw.balkingRun (fresh .initial .blank 20 20) = some ((), s) ∧
      waitForBytesWritten emit .momentary s = some (true, s') ∧ Undisturbed emit s ∧
      (∃ entry ∈ (added s.journal s'.journal).getLast?, entry.stalls = true) ∧
      ¬∃ entry ∈ (added s.journal s'.journal).getLast?, 0 < entry.bytesTaken := by
  obtain ⟨s, s', ran, waited, alone, quiet, inert⟩ := Raw.exists_balkingRun
  have undisturbed : Undisturbed emit s := .inr ⟨rfl, passive_of_alone alone⟩
  obtain ⟨headway, precise⟩ := headway_of_waitForBytesWritten Raw.truthful (.inl rfl) waited
  refine ⟨s, s', ran, waited, undisturbed, ?_, fun took => ?_⟩
  · rcases headway with ⟨entry, member, settles⟩ | stalled | ⟨reporting, -⟩
    · rw [(inert entry member).1, (inert entry member).2] at settles
      simp at settles
    · exact stalled
    · rw [quiet] at reporting
      cases reporting
  · obtain ⟨entry, member, advances⟩ := (precise undisturbed).mpr (.inr took)
    rw [(inert entry member).1] at advances
    cases advances

end CanStream
