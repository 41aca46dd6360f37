import CanStream.Proofs.Socket.Admission
import CanStream.Proofs.Socket.Outcomes

/-!
# What an undisturbed socket does

Nobody interferes with an operation within a handler, where events wait, nor outside of one if the
handler asks for nothing. What the operation leaves is then what its own steps make of the
connection. So are the entries in the journal, apart from those that tell what the handler did.
-/

namespace CanStream

variable {P : Protocol}

/-- Whether the entry tells what a handler did. -/
def Entry.isHandling : Entry P → Bool
  | delivered _ _ => true
  | returned => true
  | noted _ => true
  | _ => false

/-- What was added to a journal. -/
def added (before after : List (Entry P)) : List (Entry P) := after.drop before.length

theorem added_of_eq {before after more : List (Entry P)} (grown : after = before ++ more) :
    added before after = more := by
  rw [added, grown, List.drop_left]

theorem added_append {before after : List (Entry P)} (grown : before <+: after)
    (more : List (Entry P)) : added before (after ++ more) = added before after ++ more := by
  rw [added, added, List.drop_append_of_le_length grown.length_le]

namespace Socket

/-- Nobody interferes when the socket raises an event: it waits, or the handler asks for nothing. -/
def Undisturbed (emit : Emit P) (s : Socket P) : Prop :=
  emit = enqueue ∨ emit = Socket.emit ∧ s.Passive

/-- Undisturbed the first socket became the second one, with the connection and the entries that its
own steps made. -/
structure Comes (emit : Emit P) (s : Socket P) (c : Connection P) (entries : List (Entry P))
    (s' : Socket P) : Prop where
  undisturbed : Undisturbed emit s'
  connection : s'.toConnection = c
  journal : ∃ told, s'.journal = s.journal ++ told ∧
    told.filter (fun entry => !entry.isHandling) = entries

variable {emit : Emit P} {s s₁ s' : Socket P} {c c' : Connection P}
  {entries entries' : List (Entry P)}

namespace Comes

theorem isPrefix (h : Comes emit s c entries s') : s.journal <+: s'.journal := by
  obtain ⟨told, journal, -⟩ := h.journal
  exact ⟨told, journal.symm⟩

/-- An entry that the handler did not make was added just if it is one of the operation's. -/
theorem mem_added_iff (h : Comes emit s c entries s') {entry : Entry P}
    (own : entry.isHandling = false) :
    entry ∈ added s.journal s'.journal ↔ entry ∈ entries := by
  obtain ⟨told, journal, rfl⟩ := h.journal
  rw [added_of_eq journal, List.mem_filter]
  simp [own]

/-- What only entries tell that the handler did not make, the journal tells by the entries of the
operation. -/
theorem exists_added_iff (h : Comes emit s c entries s') {tells : Entry P → Prop}
    (own : ∀ entry, tells entry → entry.isHandling = false) :
    (∃ entry ∈ added s.journal s'.journal, tells entry) ↔ ∃ entry ∈ entries, tells entry := by
  constructor
  · rintro ⟨entry, member, tell⟩
    exact ⟨entry, (h.mem_added_iff (own entry tell)).mp member, tell⟩
  · rintro ⟨entry, member, tell⟩
    exact ⟨entry, (h.mem_added_iff (own entry tell)).mpr member, tell⟩

theorem refl (h : Undisturbed emit s) : Comes emit s s.toConnection [] s :=
  ⟨h, rfl, [], (List.append_nil _).symm, rfl⟩

theorem trans (first : Comes emit s c entries s₁) (next : Comes emit s₁ c' entries' s') :
    Comes emit s c' (entries ++ entries') s' := by
  obtain ⟨told, grown, own⟩ := first.journal
  obtain ⟨told', grown', own'⟩ := next.journal
  refine ⟨next.undisturbed, next.connection, told ++ told', ?_, ?_⟩
  · rw [grown', grown, List.append_assoc]
  · rw [List.filter_append, own, own']

theorem change (h : Comes emit s c entries s') (f : Connection P → Connection P) :
    Comes emit s (f c) entries (s'.change f) :=
  ⟨h.undisturbed, congrArg f h.connection, h.journal⟩

theorem log (h : Comes emit s c entries s') {entry : Entry P} (own : entry.isHandling = false) :
    Comes emit s c (entries ++ [entry]) (s'.log entry) := by
  obtain ⟨told, grown, kept⟩ := h.journal
  refine ⟨h.undisturbed, h.connection, told ++ [entry], ?_, ?_⟩
  · rw [Socket.log, grown, List.append_assoc]
  · rw [List.filter_append, kept, List.filter_cons_of_pos (by simp [own]), List.filter_nil]

end Comes

theorem comes_emit (h : Undisturbed emit s) {e : P.Event} (ran : emit e s = some ((), s')) :
    Comes emit s s.toConnection [.raised e] s' := by
  rcases h with rfl | ⟨rfl, passive⟩
  · obtain ⟨-, rfl⟩ := Prod.mk.inj (Option.some.inj ran)
    exact ⟨.inl rfl, rfl, [.raised e], rfl, rfl⟩
  · let K : Assertion P := fun c j => c = s.toConnection ∧
      ∃ told, j = s.journal ++ told ∧
        told.filter (fun entry => !entry.isHandling) = [.raised e]
    have handles {c : Connection P} {j : List (Entry P)} {entry : Entry P}
        (handling : entry.isHandling = true) (h : K c j) : K c (j ++ [entry]) := by
      obtain ⟨same, told, rfl, own⟩ := h
      refine ⟨same, told ++ [entry], List.append_assoc .., ?_⟩
      rw [List.filter_append, own, List.filter_cons_of_neg (by simp [handling]), List.filter_nil,
        List.append_nil]
    have turns : Turns K fun _ => K :=
      ⟨fun _ _ h => handles rfl h, fun _ h => handles rfl h, fun _ h => handles rfl h⟩
    have ready : Ready Scope.quiet (fun c j => K c (j ++ [.raised e])) s :=
      ⟨⟨rfl, [.raised e], rfl, rfl⟩, passive⟩
    have still := (upholds_emit turns False.elim e (fun _ h => h) id s ready () s' ran).1
    exact ⟨.inr ⟨rfl, still.handler⟩, still.holds.1, still.holds.2⟩

theorem Comes.emits (h : Comes emit s c entries s₁) {e : P.Event}
    (ran : emit e s₁ = some ((), s')) : Comes emit s c (entries ++ [.raised e]) s' := by
  obtain ⟨undisturbed, rfl, journal⟩ := h
  exact Comes.trans ⟨undisturbed, rfl, journal⟩ (comes_emit undisturbed ran)

end Socket

namespace Connection

/-- The arrival of data since there were so many bytes, if it is to be announced. -/
def announcement (c : Connection P) (available : Nat) : List (Entry P) :=
  if available < c.available ∧ c.reportingRead = false then [.raised .readyRead] else []

/-- The completed write, if it is to be reported. -/
def report? (c : Connection P) : List (Entry P) :=
  if 0 < c.pending ∧ c.reportingWrite = false then [.raised (.bytesWritten c.pending)] else []

/-- The connection once a completed write has been reported. -/
def reported (c : Connection P) : Connection P :=
  if 0 < c.pending ∧ c.reportingWrite = false then { c with pending := 0 } else c

variable {c : Connection P} {entry : Entry P}

theorem eq_of_mem_announcement {available : Nat} (member : entry ∈ c.announcement available) :
    entry = .raised .readyRead := by
  unfold announcement at member
  split at member
  · exact List.mem_singleton.mp member
  · cases member

theorem eq_of_mem_report? (member : entry ∈ c.report?) :
    entry = .raised (.bytesWritten c.pending) := by
  unfold report? at member
  split at member
  · exact List.mem_singleton.mp member
  · cases member

/-- Only the bytes that are not reported yet may change. -/
theorem exists_reported (c : Connection P) :
    ∃ pending, c.reported = { c with pending := pending } := by
  unfold reported
  split
  · exact ⟨0, rfl⟩
  · exact ⟨c.pending, rfl⟩

end Connection

namespace Socket

variable {emit : Emit P} {s s₁ s' : Socket P} {c : Connection P} {entries : List (Entry P)}

theorem Comes.announces (h : Comes emit s c entries s₁) {available : Nat}
    (ran : announceRead emit available s₁ = some ((), s')) :
    Comes emit s c (entries ++ c.announcement available) s' := by
  obtain ⟨undisturbed, rfl, journal⟩ := h
  have start : Comes emit s s₁.toConnection entries s₁ := ⟨undisturbed, rfl, journal⟩
  rcases announceRead_cases ran with ⟨grown, quiet, s₂, raised, rfl⟩ | ⟨unannounced, rfl⟩
  · rw [Connection.announcement, if_pos ⟨grown, quiet⟩]
    have announced := ((start.change fun c => { c with reportingRead := true }).emits raised).change
      fun c => { c with reportingRead := false }
    have same : { s₁.toConnection with reportingRead := false } = s₁.toConnection := by
      rw [← quiet]
    rw [← same]
    exact announced
  · rw [Connection.announcement, if_neg unannounced, List.append_nil]
    exact start

theorem comes_reportWritten (h : Undisturbed emit s)
    (ran : reportWritten emit s = some ((), s')) :
    Comes emit s s.reported s.report? s' := by
  rw [Connection.reported, Connection.report?]
  rcases reportWritten_cases ran with ⟨pending, quiet, s₁, raised, rfl⟩ | ⟨unreported, rfl⟩
  · rw [if_pos ⟨pending, quiet⟩, if_pos ⟨pending, quiet⟩]
    have reported := (((Comes.refl h).change Connection.report).emits raised).change
      fun c => { c with reportingWrite := false }
    have same : { s.toConnection with pending := 0 } =
        { s.toConnection.report with reportingWrite := false } := by
      rw [Connection.report, ← quiet]
    rw [same]
    exact reported
  · have quiet : ¬(0 < s'.pending ∧ s'.reportingWrite = false) := by
      rintro ⟨pending, quiet⟩
      rcases unreported with zero | reporting
      · omega
      · rw [quiet] at reporting
        cases reporting
    rw [if_neg quiet, if_neg quiet]
    exact .refl h

/-! ## Polls and pumps -/

theorem comes_polled (h : Undisturbed emit s) (read write : Bool) :
    Comes emit s { s.toConnection with endpoint := (Endpoint.poll read write s.endpoint).2 } []
      (s.polled read write) :=
  (Comes.refl h).change fun c => { c with endpoint := (Endpoint.poll read write s.endpoint).2 }

theorem comes_settled (h : Undisturbed emit s) (window : Nat)
    (result : Except IoError (List UInt8)) (after : P.State × Endpoint) :
    Comes emit s ((s.toConnection.hooked after).settleRead s.toConnection window result)
      [s.toConnection.readEntry after result] (s.settled window result after) :=
  (((Comes.refl h).change (·.hooked after)).log rfl).change
    (·.settleRead s.toConnection window result)

/-- What a read that did not fail makes of an undisturbed socket. -/
theorem comes_of_announced (h : Undisturbed emit s) {window : Nat}
    {result : Except IoError (List UInt8)} {after : P.State × Endpoint}
    (announced : announceRead emit s.available (s.received window result after) =
      some ((), s')) :
    let c := (s.toConnection.hooked after).settleRead s.toConnection window result
    Comes emit s c ([s.toConnection.readEntry after result, .received s.available c.available] ++
      c.announcement s.available) s' :=
  ((comes_settled h window result after).log rfl).announces announced

/-- What a write makes of an undisturbed socket before a failure is reported. -/
theorem Comes.hands (h : Comes emit s c entries s₁) (result : Except IoError Nat)
    (after : P.State × Endpoint) :
    Comes emit s (({ c with writeStarted := false }.align.hooked after).settleWrite result)
      (entries ++ [.writeHook c.reportingWrite c.align.writeBuffer.head
        (c.endpoint.writesTried after.2) (c.endpoint.writesMade after.2) result])
      (s₁.unstarted.handed result after) := by
  obtain ⟨undisturbed, rfl, journal⟩ := h
  have start : Comes emit s s₁.toConnection entries s₁ := ⟨undisturbed, rfl, journal⟩
  exact ((((start.change fun c => { c with writeStarted := false }).change Connection.align).change
    (·.hooked after)).log rfl).change (·.settleWrite result)

/-- Undisturbed the first socket became the second one. What is seen of its connection is the same,
and of all entries that its own steps made it is so. -/
def Retains {γ : Type} (emit : Emit P) (view : Connection P → γ) (tells : Entry P → Prop)
    (s s' : Socket P) : Prop :=
  ∃ c entries, Comes emit s c entries s' ∧ view c = view s.toConnection ∧
    ∀ entry ∈ entries, tells entry

namespace Retains

variable {γ : Type} {view : Connection P → γ} {tells : Entry P → Prop}

theorem refl (h : Undisturbed emit s) : Retains emit view tells s s :=
  ⟨_, [], .refl h, rfl, List.forall_mem_nil _⟩

theorem trans (first : Retains emit view tells s s₁) (next : Retains emit view tells s₁ s') :
    Retains emit view tells s s' := by
  obtain ⟨c, entries, comes, same, all⟩ := first
  obtain ⟨c', entries', comes', same', all'⟩ := next
  obtain rfl := comes.connection
  exact ⟨c', entries ++ entries', comes.trans comes', same'.trans same,
    List.forall_mem_append.mpr ⟨all, all'⟩⟩

theorem undisturbed (h : Retains emit view tells s s') : Undisturbed emit s' := by
  obtain ⟨c, entries, comes, -⟩ := h
  exact comes.undisturbed

theorem view_eq (h : Retains emit view tells s s') :
    view s'.toConnection = view s.toConnection := by
  obtain ⟨c, entries, comes, same, -⟩ := h
  rw [comes.connection, same]

/-- A poll that finds something ready makes no entry. -/
theorem of_poll (h : Undisturbed emit s) {read write : Bool} {r : Readiness}
    (ran : poll emit read write s = some (some r, s'))
    (blind : ∀ (c : Connection P) e, view { c with endpoint := e } = view c) :
    Retains emit view tells s s' := by
  cases outcome_of_poll ran with
  | ready answered =>
    exact ⟨_, [], comes_polled h read write, blind .., List.forall_mem_nil _⟩

/-- A read that succeeds, and the report of what arrived. -/
theorem of_pumpRead (h : Undisturbed emit s) (ran : pumpRead emit s = some (true, s'))
    (blind : ∀ (c : Connection P) after buffer on,
      view { c.hooked after with readBuffer := buffer, wantsRead := on } = view c)
    (read : ∀ unit consumed result, tells (.readHook unit consumed result))
    (received : ∀ before after, tells (.received before after))
    (announced : tells (.raised .readyRead)) : Retains emit view tells s s' := by
  cases outcome_of_pumpRead ran with
  | passed asked hook passed told =>
    rename_i window result after
    obtain ⟨buffer, on, settled⟩ :=
      (s.toConnection.hooked after).exists_settleRead s.toConnection window result
    refine ⟨_, _, comes_of_announced h told, by rw [settled, blind], ?_⟩
    refine List.forall_mem_append.mpr ⟨?_, fun entry member => ?_⟩
    · exact List.forall_mem_cons.mpr ⟨read .., List.forall_mem_singleton.mpr (received ..)⟩
    · rw [Connection.eq_of_mem_announcement member]
      exact announced

/-- A read that fails, and the report of its failure, or none at all for want of room. -/
theorem of_failed_pumpRead (h : Undisturbed emit s) (ran : pumpRead emit s = some (false, s'))
    (blind : ∀ (c : Connection P) after buffer on error,
      view { c.hooked after with readBuffer := buffer, wantsRead := on, error := error } = view c)
    (read : ∀ unit consumed result, tells (.readHook unit consumed result))
    (failed : ∀ kind, tells (.raised (.error kind))) : Retains emit view tells s s' := by
  cases outcome_of_pumpRead ran with
  | full _ => exact .refl h
  | failed asked hook noRetry raised =>
    rename_i window cause after
    obtain ⟨buffer, on, settled⟩ :=
      (s.toConnection.hooked after).exists_settleRead s.toConnection window (.error cause)
    let error := SocketError.ofTransfer .readError cause
    have comes := ((comes_settled h window (.error cause) after).change
      fun c => { c with error := error }).emits raised
    refine ⟨_, _, comes, by rw [settled, blind], ?_⟩
    exact List.forall_mem_cons.mpr ⟨read .., List.forall_mem_singleton.mpr (failed _)⟩

/-- A write that succeeds, and the report of one before it. -/
theorem of_completeWrite (h : Undisturbed emit s) (ran : completeWrite emit s = some (true, s'))
    (blind : ∀ (c : Connection P) pending, view { c with pending := pending } = view c)
    (rests : ∀ c : Connection P,
      view { c with writeStarted := false, wantsWrite := false } = view c)
    (writes : ∀ {c : Connection P} {bytes n after},
      (P.write bytes).exec (c.protocol, c.endpoint) = (.ok n, after) →
      view (({ c with writeStarted := false }.align.hooked after).settleWrite (.ok n)) = view c)
    (reported : ∀ n, tells (.raised (.bytesWritten n)))
    (wrote : ∀ reporting offered tried sent n,
      tells (.writeHook reporting offered tried sent (.ok n))) : Retains emit view tells s s' := by
  obtain ⟨pending, reports⟩ := s.toConnection.exists_reported
  have report : ∀ entry ∈ s.toConnection.report?, tells entry := fun entry member => by
    rw [Connection.eq_of_mem_report? member]
    exact reported _
  cases outcome_of_completeWrite ran with
  | idle told isEmpty =>
    have comes := comes_reportWritten h told
    have same := (rests s.toConnection.reported).trans (by rw [reports, blind])
    exact ⟨_, _, (comes.change fun c => { c with writeStarted := false }).change fun c =>
      { c with wantsWrite := false }, same, report⟩
  | passed told nonempty hook =>
    rename_i s₁ n after
    have comes := comes_reportWritten h told
    have hands := comes.hands (.ok n) after
    rw [← comes.connection] at hands
    refine ⟨_, _, hands, (writes hook).trans ?_, ?_⟩
    · rw [comes.connection, reports, blind]
    · exact List.forall_mem_append.mpr ⟨report, List.forall_mem_singleton.mpr (wrote ..)⟩

end Retains

end Socket

end CanStream
