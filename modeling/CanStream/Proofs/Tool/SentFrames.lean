import CanStream.Proofs.Raw.Sending
import CanStream.Proofs.Tool.RawFrames

/-!
# The tool for raw frames sends all of them, or says that it did not

A tool that succeeds wrote each of the frames on its command line once, in order, and nothing else.
It looks at all of them before it has a socket, and queues all of them before it writes one. So
nothing at all is written if there is one that is no frame, or that the socket refuses.
-/

namespace CanStream.Tool.RawFrames

open Socket Raw

/-- The first text is no frame, or those behind it decide. -/
theorem parseFrames_cons (text : String) (rest : List String) :
    (∃ cause, Frame.parse text = .error cause ∧
      parseFrames (text :: rest) = .error (.badFrame text cause)) ∨
    ∃ f, Frame.parse text = .ok f ∧
      parseFrames (text :: rest) = (parseFrames rest).map (f :: ·) := by
  unfold parseFrames
  rw [List.mapM_cons]
  cases parsed : Frame.parse text with
  | error cause => exact .inl ⟨cause, rfl, rfl⟩
  | ok f => exact .inr ⟨f, rfl, rfl⟩

theorem made_of_parseFrames {texts : List String} {frames : List Frame}
    (parsed : parseFrames texts = .ok frames) : ∀ f ∈ frames, f.Made := by
  induction texts generalizing frames with
  | nil =>
    obtain rfl := Except.ok.inj parsed
    exact List.forall_mem_nil _
  | cons text rest ih =>
    rcases parseFrames_cons text rest with ⟨cause, -, bad⟩ | ⟨f, made, same⟩
    · rw [bad] at parsed
      cases parsed
    · cases others : parseFrames rest with
      | error failure =>
        rw [same, others] at parsed
        cases parsed
      | ok more =>
        rw [same, others] at parsed
        obtain rfl := Except.ok.inj parsed
        exact List.forall_mem_cons.mpr ⟨.parse made, ih others⟩

theorem exists_failure_of_bad {texts : List String} {text : String} {cause : ParseError}
    (given : text ∈ texts) (bad : Frame.parse text = .error cause) :
    ∃ failure, parseFrames texts = .error failure := by
  induction texts with
  | nil => cases given
  | cons first rest ih =>
    rcases parseFrames_cons first rest with ⟨cause, -, failed⟩ | ⟨f, made, same⟩
    · exact ⟨_, failed⟩
    · rcases List.mem_cons.mp given with rfl | later
      · rw [bad] at made
        cases made
      · obtain ⟨failure, failed⟩ := ih later
        exact ⟨failure, by rw [same, failed]; rfl⟩

/-- The frames that are queued are on their way behind those that are on their way already. -/
theorem underway_of_queueFrames {before : List (List UInt8)} (frames : List Frame)
    (made : ∀ f ∈ frames, f.Made) {ahead : List Frame} {s s' : Socket Raw.protocol}
    (h : Underway before ahead s) (queued : queueFrames frames s = some (none, s')) :
    Underway before (ahead ++ frames) s' := by
  induction frames generalizing ahead s with
  | nil =>
    obtain ⟨-, rfl⟩ := Prod.mk.inj (Option.some.inj queued)
    rw [List.append_nil]
    exact h
  | cons f rest ih =>
    obtain ⟨first, others⟩ := List.forall_mem_cons.mp made
    obtain ⟨result, s₁, wrote, next⟩ := bind_eq_some.mp queued
    cases result with
    | error cause => cases (Prod.mk.inj (Option.some.inj next)).1
    | ok done =>
      rw [List.append_cons]
      exact ih others (h.after_writeFrame first (.ok done) s₁ wrote rfl) next

/-- Frames are queued up to the first that is refused. -/
theorem queueFrames_of_refused {before : List Frame} (after : List Frame) {f : Frame}
    {cause : TransferError} {s s₁ s₂ : Socket Raw.protocol}
    (queued : queueFrames before s = some (none, s₁))
    (refused : perform (.writeFrame f) s₁ = some (.error cause, s₂)) :
    queueFrames (before ++ f :: after) s = some (some (.frameRefused f cause), s₂) := by
  induction before generalizing s with
  | nil =>
    obtain ⟨-, rfl⟩ := Prod.mk.inj (Option.some.inj queued)
    exact bind_eq_some.mpr ⟨_, s₂, refused, rfl⟩
  | cons g rest ih =>
    obtain ⟨result, s₃, wrote, next⟩ := bind_eq_some.mp queued
    cases result with
    | error cause => cases (Prod.mk.inj (Option.some.inj next)).1
    | ok done => exact bind_eq_some.mpr ⟨_, s₃, wrote, ih next⟩

section

variable {Φ : Socket Raw.protocol → Prop}

/-- Frames are queued without a write. -/
theorem keeps_queueFrames (u : Unheard (fun k => k.endpoint) Φ) (frames : List Frame) :
    Keeps Φ (queueFrames frames) := by
  induction frames with
  | nil => exact .pure none
  | cons f rest ih =>
    refine .bind (u.keeps_queueingFrame (fun c data => ?_) f) fun result => ?_
    · unfold Connection.enqueue
      split <;> rfl
    · cases result with
      | error cause => exact .pure _
      | ok done => exact ih

end

section

variable {e : Endpoint} {wait : Wait} {written : List (List UInt8)}

/-- All the frames of a plan were written when the printing loop begins. -/
theorem rests_of_approach {p : Plan} (made : ∀ f ∈ p.frames, f.Made)
    (willing : .upTo 0 ∉ e.writeAnswers) {s : Socket Raw.protocol}
    (ran : approach p wait (initial .initial e) = some (true, s)) :
    Rests (e.written ++ p.frames.map Frame.toKernel) s := by
  obtain ⟨connected, s₁, first, rest⟩ := bind_eq_some.mp ran
  cases connected with
  | false => cases rest
  | true =>
    obtain ⟨failure, s₂, sent, ends⟩ := bind_eq_some.mp rest
    obtain ⟨isNone, rfl⟩ := Prod.mk.inj (Option.some.inj ends)
    obtain rfl := Option.isNone_iff_eq_none.mp isNone
    obtain ⟨refused, s₃, queued, pushes⟩ := bind_eq_some.mp sent
    cases refused with
    | some failure => cases pushes
    | none =>
      obtain ⟨out, s₄, pushed, ends⟩ := bind_eq_some.mp pushes
      cases out with
      | false => cases ends
      | true =>
        obtain ⟨-, rfl⟩ := Prod.mk.inj (Option.some.inj ends)
        have queue := underway_of_queueFrames p.frames made
          (underway_of_connectWith willing first) queued
        obtain ⟨underway, empty⟩ :=
          passes_pushOut passes_waitForBytesWritten wait.turns s₃ queue true _ pushed rfl
        exact underway.rests empty

/-- The printing loop writes nothing. -/
theorem keeps_dumpFrames (count : Option Nat) (rounds : Nat) (seen : List Frame) :
    Keeps (Rests written) (dumpFrames count wait rounds seen) := by
  have takes (n : Nat) : Keeps (Rests written) (takeFrames n) := by
    induction n with
    | zero => exact .pure []
    | succ n ih =>
      refine .bind (unheard_rests.keeps_readFrame fun _ _ => rfl) fun result => ?_
      cases result with
      | error cause => exact .pure []
      | ok f => exact .bind ih fun _ => .pure _
  induction rounds generalizing seen with
  | zero => exact .never
  | succ rounds ih =>
    exact .ite (.pure _) (.bind keeps_waitForReadyRead_of_rests fun _ => .get fun _ =>
      .ite (.bind (takes _) fun _ => ih _) (.pure _))

end

/-! ## Running the tool -/

/-- The frames of a plan are those of its command line. -/
theorem parseFrames_of_plan {g : Given} {p : Plan} (planned : plan g = .ok p) :
    parseFrames g.words.tail = .ok p.frames := by
  rw [plan] at planned
  rcases read : parseFrames g.words.tail with cause | frames <;> rw [read] at planned
  · cases planned
  rcases set : options g with cause | values <;> rw [set] at planned
  · cases planned
  obtain rfl := Except.ok.inj planned
  rfl

/-- The socket that is connected for a plan refuses a frame, when those before it are queued. -/
def Refuses (p : Plan) (e : Endpoint) (f : Frame) (cause : TransferError) : Prop :=
  ∃ (before after : List Frame) (s s₁ s₂ : Socket Raw.protocol),
    p.frames = before ++ f :: after ∧
    perform (P := Raw.protocol) (.connectWith (p.options.map fun v => (v.option, v)) p.iface
      OpenMode.readWrite) (initial .initial e) = some (true, s) ∧
    queueFrames before s = some (none, s₁) ∧
    perform (.writeFrame f) s₁ = some (.error cause, s₂)

/-- One of some frames is refused if one of them is flexible, and those are not enabled. -/
theorem exists_refused {frames : List Frame} {s : Socket Raw.protocol}
    (off : State.fdFrames s.protocol = false) (flexible : ∃ f ∈ frames, f.kind = .fd) :
    ∃ before f after cause s₁ s₂, frames = before ++ f :: after ∧
      queueFrames before s = some (none, s₁) ∧
      perform (.writeFrame f) s₁ = some (.error cause, s₂) := by
  induction frames generalizing s with
  | nil => cases flexible.choose_spec.1
  | cons g rest ih =>
    rcases writeFrame_cases g s with ⟨cause, refused⟩ | ⟨-, carries, queued⟩
    · exact ⟨[], g, rest, cause, s, s, rfl, rfl, refused⟩
    · obtain ⟨f, member, isFd⟩ := flexible
      rcases List.mem_cons.mp member with rfl | later
      · cases off.symm.trans (carries isFd)
      · let s₃ := ((s.change (·.enqueue g.toKernel)).log (.queued g.toKernel)).log (.frameQueued g)
        have still : State.fdFrames s₃.protocol = false := by
          have same : (s.toConnection.enqueue g.toKernel).protocol = s.protocol := by
            unfold Connection.enqueue
            split <;> rfl
          exact (congrArg State.fdFrames same).trans off
        obtain ⟨before, f, after, cause, s₁, s₂, rfl, went, refused⟩ := ih still ⟨f, later, isFd⟩
        exact ⟨g :: before, f, after, cause, s₁, s₂, rfl,
          bind_eq_some.mpr ⟨_, s₃, queued, went⟩, refused⟩

/-- A plan with a flexible frame is refused one of its frames unless it enables them. -/
theorem exists_refuses_of_fd {g : Given} {p : Plan} {e : Endpoint} {s : Socket Raw.protocol}
    (planned : plan g = .ok p) (off : g.has "fd" = false) (flexible : ∃ f ∈ p.frames, f.kind = .fd)
    (connected : perform (P := Raw.protocol) (.connectWith (p.options.map fun v => (v.option, v))
      p.iface OpenMode.readWrite) (initial .initial e) = some (true, s)) :
    ∃ f cause, Refuses p e f cause := by
  have disabled : State.fdFrames s.protocol = false := by
    have set : (p.options.map fun v => (v.option, v)).foldl (fun kept o => State.put kept o.2)
        State.initial = p.options.foldl State.put .initial := List.foldl_map
    refine (fdFrames_of_connectWith connected).trans ((congrArg State.fdFrames set).trans ?_)
    have size := frameSize_of_plan planned .initial
    rw [off, State.frameSize] at size
    by_contra on
    rw [if_pos (Bool.eq_true_of_not_eq_false on)] at size
    cases size
  obtain ⟨before, f, after, cause, s₁, s₂, split, queued, refused⟩ :=
    exists_refused disabled flexible
  exact ⟨f, cause, before, after, s, s₁, s₂, split, connected, queued, refused⟩

/-- A plan of which a frame is refused fails, and nothing was written. -/
theorem exchange_of_refuses {p : Plan} {e : Endpoint} {f : Frame} {cause : TransferError}
    (refuses : Refuses p e f cause) (wait : Wait) :
    ∃ s, s.handler = none ∧ s.endpoint.written = e.written ∧
      exchange p.iface p.options p.frames p.count wait (initial .initial e) =
        some (([], some (.frameRefused f cause)), s) := by
  obtain ⟨before, after, s, s₁, s₂, split, connected, queued, refused⟩ := refuses
  have ends := queueFrames_of_refused after queued refused
  have u : Unheard (fun k => k.endpoint) fun t : Socket Raw.protocol =>
      t.handler = none ∧ t.endpoint.written = e.written :=
    ⟨And.left, fun h alone same => ⟨alone.trans h.1, (congrArg Endpoint.written same).trans h.2⟩⟩
  obtain ⟨alone, unwritten⟩ :=
    keeps_queueFrames u _ s (written_of_connectWith connected) _ s₂ ends
  rw [← split] at ends
  exact ⟨s₂, alone, unwritten, bind_eq_some.mpr ⟨true, s, connected, bind_eq_some.mpr
    ⟨_, s₂, bind_eq_some.mpr ⟨_, s₂, ends, rfl⟩, rfl⟩⟩⟩

/-- A plan that is carried out without a failure wrote all its frames. -/
theorem rests_of_exchange {p : Plan} {e : Endpoint} {wait : Wait} {out : List Frame}
    {s : Socket Raw.protocol} (made : ∀ f ∈ p.frames, f.Made) (willing : .upTo 0 ∉ e.writeAnswers)
    (ran : exchange p.iface p.options p.frames p.count wait (initial .initial e) =
      some ((out, none), s)) : Rests (e.written ++ p.frames.map Frame.toKernel) s := by
  obtain ⟨s₁, approached, ends⟩ := exists_approach_of_success ran
  have sent := rests_of_approach made willing approached
  split at ends
  case isTrue => exact keeps_dumpFrames _ _ _ s₁ sent _ s ends
  case isFalse =>
    obtain ⟨-, rfl⟩ := Prod.mk.inj (Option.some.inj ends)
    exact sent

/-- A run that goes well wrote each of the frames on the command line once, in order, and nothing
else, if no write is answered with nothing. If there is one that is no frame, or that the socket
refuses, the run fails, and nothing was written. -/
theorem written_of_run {words : List String} {e : Endpoint} {elapsed : Nat → Nat} {turns : Nat}
    {g : Given} {outcome : Outcome} (given : arguments spec words = .ok g)
    (ran : run words e elapsed turns = some outcome) :
    (.upTo 0 ∉ e.writeAnswers → outcome.exitCode = 0 →
      ∃ frames, parseFrames g.words.tail = .ok frames ∧
        outcome.endpoint.written = e.written ++ frames.map Frame.toKernel) ∧
    ((∃ text ∈ g.words.tail, ∃ cause, Frame.parse text = .error cause) →
      outcome.exitCode = 1 ∧ outcome.endpoint.written = e.written) ∧
    ∀ p f cause, plan g = .ok p → Refuses p e f cause →
      outcome.exitCode = 1 ∧ outcome.err = [(Failure.frameRefused f cause).message] ∧
        outcome.endpoint.written = e.written := by
  simp only [run, given] at ran
  cases planned : plan g with
  | error failure =>
    simp only [planned] at ran
    obtain rfl := Option.some.inj ran
    refine ⟨fun _ success => absurd success Nat.one_ne_zero, fun _ => ⟨rfl, rfl⟩, ?_⟩
    intro p f cause same
    cases same
  | ok p =>
    simp only [planned] at ran
    have parsed := parseFrames_of_plan planned
    obtain ⟨out, failure, s, s', exchanged, dropped, rfl⟩ := exists_of_run ran
    have kept (alone : s.handler = none) : s'.endpoint.written = s.endpoint.written :=
      view_drop (fun _ _ _ _ _ => rfl) alone dropped
    refine ⟨fun willing success => ⟨p.frames, parsed, ?_⟩, ?_, ?_⟩
    · cases failure with
      | some failure => cases success
      | none =>
        obtain ⟨alone, -, all⟩ :=
          rests_of_exchange (made_of_parseFrames parsed) willing exchanged
        exact (kept alone).trans all
    · rintro ⟨text, member, cause, bad⟩
      obtain ⟨failure, failed⟩ := exists_failure_of_bad member bad
      cases failed.symm.trans parsed
    · intro _ f cause same refuses
      obtain rfl := Except.ok.inj same
      obtain ⟨s₁, alone, unwritten, failed⟩ :=
        exchange_of_refuses refuses (waitOf p.timeout elapsed turns)
      obtain ⟨result, rfl⟩ := Prod.mk.inj (Option.some.inj (failed.symm.trans exchanged))
      obtain ⟨rfl, rfl⟩ := Prod.mk.inj result
      exact ⟨rfl, rfl, (kept alone).trans unwritten⟩

/-- Two frames are sent, though the first writes would block, and another frame comes in meanwhile.
A text that is no frame, or a flexible frame among the others, and none is sent. -/
theorem written_of_run_vcan0 :
    let e := { busy [.datagram (List.replicate 16 1)] with
      writeAnswers := [.failure Errno.again, .failure 105] }
    (∃ outcome frames, run ["vcan0", "123#AA", "456#BB"] e (fun _ => 0) 10 = some outcome ∧
      outcome.exitCode = 0 ∧ parseFrames ["123#AA", "456#BB"] = .ok frames ∧
      outcome.endpoint.written = frames.map Frame.toKernel) ∧
    (∃ outcome, run ["vcan0", "123#AA", "456"] e (fun _ => 0) 10 = some outcome ∧
      outcome.exitCode = 1 ∧ outcome.endpoint.written = []) ∧
    ∃ outcome, run ["vcan0", "123#AA", "123##0BB"] e (fun _ => 0) 10 = some outcome ∧
      outcome.exitCode = 1 ∧ outcome.endpoint.written = [] := by
  intro e
  refine ⟨?_, ?_, ?_⟩
  · obtain ⟨g, given, texts⟩ : ∃ g, arguments spec ["vcan0", "123#AA", "456#BB"] = .ok g ∧
        g.words.tail = ["123#AA", "456#BB"] := exists_given (by decide +kernel)
    obtain ⟨outcome, ran, success⟩ := Option.map_eq_some_iff.mp (show
      (run ["vcan0", "123#AA", "456#BB"] e (fun _ => 0) 10).map Outcome.exitCode = some 0 by
        decide +kernel)
    obtain ⟨frames, parsed, written⟩ := (written_of_run given ran).1 (by decide) success
    exact ⟨outcome, frames, ran, success, texts ▸ parsed, written⟩
  · obtain ⟨g, given, bad⟩ : ∃ g, arguments spec ["vcan0", "123#AA", "456"] = .ok g ∧
        g.words.tail.any (fun text => (Frame.parse text).toOption.isNone) = true :=
      exists_given (by decide +kernel)
    obtain ⟨outcome, ran⟩ := Option.isSome_iff_exists.mp (show
      (run ["vcan0", "123#AA", "456"] e (fun _ => 0) 10).isSome = true by decide +kernel)
    obtain ⟨text, member, unparsed⟩ := List.any_eq_true.mp bad
    cases parsed : Frame.parse text with
    | ok f =>
      rw [parsed] at unparsed
      cases unparsed
    | error cause =>
      exact ⟨outcome, ran, (written_of_run given ran).2.1 ⟨text, member, cause, parsed⟩⟩
  · obtain ⟨g, p, given, planned, view⟩ : ∃ g p,
        arguments spec ["vcan0", "123#AA", "123##0BB"] = .ok g ∧ plan g = .ok p ∧
          (g.has "fd", p.frames.any (·.kind = .fd), (perform (P := Raw.protocol) (.connectWith
            (p.options.map fun v => (v.option, v)) p.iface OpenMode.readWrite)
            (initial .initial e)).any Prod.fst) = (false, true, true) :=
      exists_plan (by decide +kernel)
    obtain ⟨off, view⟩ := Prod.mk.inj view
    obtain ⟨anyFd, connects⟩ := Prod.mk.inj view
    obtain ⟨f, member, isFd⟩ := List.any_eq_true.mp anyFd
    obtain ⟨⟨_, s⟩, connected, rfl⟩ := (Option.any_eq_true _ _).mp connects
    obtain ⟨f, cause, refuses⟩ :=
      exists_refuses_of_fd planned off ⟨f, member, of_decide_eq_true isFd⟩ connected
    obtain ⟨outcome, ran⟩ := Option.isSome_iff_exists.mp (show
      (run ["vcan0", "123#AA", "123##0BB"] e (fun _ => 0) 10).isSome = true by decide +kernel)
    obtain ⟨fails, -, unwritten⟩ := (written_of_run given ran).2.2 p f cause planned refuses
    exact ⟨outcome, ran, fails, unwritten⟩

end CanStream.Tool.RawFrames
