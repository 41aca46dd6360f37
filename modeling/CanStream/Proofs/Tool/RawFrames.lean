import CanStream.Proofs.Raw.Suspension
import CanStream.Proofs.Tool.Outcome
import CanStream.Tool.RawFrames

/-!
# The tool for raw frames prints what it received

Between two rounds of the printing loop nothing waits in the read buffer, so that every frame that
comes in is printed, up to the number that is asked for. Only the first round can find frames there,
which came in while the tool was sending. They are printed unless no more data comes before the time
is over: the loop waits for data before it looks at the buffer.
-/

namespace CanStream.Tool.RawFrames

open Socket Raw

section

variable {e : Endpoint} {cut : Nat} {used waiting : List (List UInt8)} {s : Socket Raw.protocol}
  (blocks : ∀ d ∈ waiting, IsBlock d) (h : Holding Raw.gatherer e cut used waiting s)

include blocks h

/-- The frames that wait are taken one by one. -/
theorem takeFrames_of_holding (n : Nat) :
    ∃ frames s', (waiting.take n).mapM frameOf? = some frames ∧
      frames.length = min n waiting.length ∧ takeFrames n s = some (frames, s') ∧
      Holding Raw.gatherer e cut (used ++ waiting.take n) (waiting.drop n) s' := by
  induction n generalizing used waiting s with
  | zero => exact ⟨[], s, rfl, by simp, rfl, by rw [List.take_zero, List.append_nil]; exact h⟩
  | succ n ih =>
    cases waiting with
    | nil =>
      have short : s.readBuffer.toList.length < headerSize := by
        rw [h.holds]
        decide
      refine ⟨[], s, rfl, by simp, ?_, by rw [List.take_nil, List.append_nil]; exact h⟩
      exact bind_eq_some.mpr ⟨_, s, readFrame_of_part (.inl short), rfl⟩
    | cons d rest =>
      obtain ⟨block, others⟩ := List.forall_mem_cons.mp blocks
      obtain ⟨f, frame, -⟩ := exists_frameOf? block []
      have head : s.readBuffer.toList = tag d ++ rest.flatMap tag := h.holds
      obtain ⟨s₁, on, took, alone, left⟩ := readFrame_of_block h.whole block head frame
      have ahead : Holding Raw.gatherer e cut used ([d] ++ rest) s := h
      have taken := ahead.use alone left (h.whole.read _) (read_block head h.whole).2
      obtain ⟨frames, s', known, size, went, held⟩ := ih others taken
      refine ⟨f :: frames, s', ?_, ?_, ?_, ?_⟩
      · rw [List.take_succ_cons, List.mapM_cons, frame, known]
        rfl
      · rw [List.length_cons, List.length_cons, size]
        omega
      · exact bind_eq_some.mpr ⟨_, s₁, took, bind_eq_some.mpr ⟨_, s', went, rfl⟩⟩
      · rw [List.take_succ_cons, List.drop_succ_cons, List.append_cons]
        exact held

/-- There are no more frames than fit. -/
theorem length_le_of_holding : waiting.length ≤ s.available / classicUnit := by
  have size : s.available = (waiting.flatMap tag).length := h.available_eq
  have room : waiting.length * classicUnit ≤ (waiting.flatMap tag).length := by
    clear h size
    induction waiting with
    | nil => exact Nat.zero_le _
    | cons d rest ih =>
      obtain ⟨block, others⟩ := List.forall_mem_cons.mp blocks
      have shorter := ih others
      have atLeast := block.classicUnit_le
      rw [List.length_cons, List.flatMap_cons, List.length_append, length_tag, Nat.succ_mul]
      omega
  rw [size, Nat.le_div_iff_mul_le (by decide)]
  exact room

end

/-! ## Rounds of the printing loop -/

/-- How many frames to take in one round. -/
def quota (count : Option Nat) (seen most : Nat) : Nat :=
  match count with
  | some n => min (n - seen) most
  | none => most

/-- What a round does that does not end with a failure: all was seen already, or nothing came before
the time was over, or data came and the frames that are there are taken. -/
theorem dumpFrames_cases {count : Option Nat} {wait : Wait} {rounds : Nat}
    {seen frames : List Frame} {s s' : Socket Raw.protocol}
    (ran : dumpFrames count wait (rounds + 1) seen s = some ((frames, none), s')) :
    count.any (· ≤ seen.length) = true ∧ frames = seen ∧ s' = s ∨
      count.any (· ≤ seen.length) = false ∧
        (perform (.waitForReadyRead wait) s = some (false, s') ∧ s'.error.kind = .timeout ∧
            frames = seen ∨
          ∃ s₁ taken s₂, perform (.waitForReadyRead wait) s = some (true, s₁) ∧
            takeFrames (quota count seen.length (s₁.available / classicUnit)) s₁ =
              some (taken, s₂) ∧
            dumpFrames count wait rounds (seen ++ taken) s₂ = some ((frames, none), s')) := by
  rw [dumpFrames] at ran
  split at ran
  case isTrue enough =>
    obtain ⟨result, rfl⟩ := Prod.mk.inj (Option.some.inj ran)
    exact .inl ⟨enough, (Prod.mk.inj result).1.symm, rfl⟩
  case isFalse short =>
    refine .inr ⟨Bool.eq_false_iff.mpr short, ?_⟩
    obtain ⟨ready, s₁, waited, rest⟩ := bind_eq_some.mp ran
    rw [get_bind_apply] at rest
    cases ready with
    | true =>
      obtain ⟨taken, s₂, took, next⟩ := bind_eq_some.mp rest
      exact .inr ⟨s₁, taken, s₂, waited, took, next⟩
    | false =>
      obtain ⟨result, rfl⟩ := Prod.mk.inj (Option.some.inj rest)
      obtain ⟨same, failure⟩ := Prod.mk.inj result
      split at failure
      case isTrue late => exact .inl ⟨waited, late, same.symm⟩
      case isFalse => cases failure

section

variable {e : Endpoint} {cut : Nat} {count : Option Nat} {wait : Wait}

/-- The frames that were seen are those of the datagrams that were used, not more than asked for,
and the datagrams that wait are frames too. -/
structure Seen (e : Endpoint) (cut : Nat) (count : Option Nat) (seen : List Frame)
    (s : Socket Raw.protocol) : Prop where
  within : ∀ n ∈ count, seen.length ≤ n
  holds : ∃ used, used.mapM frameOf? = some seen ∧
    Holds Raw.gatherer e cut used (∀ d ∈ ·, IsBlock d) s

theorem Seen.alone {seen : List Frame} {s : Socket Raw.protocol} (h : Seen e cut count seen s) :
    s.handler = none := by
  obtain ⟨-, ⟨_, -, _, -, held⟩⟩ := h
  exact held.alone

/-- As many frames were seen as are asked for, or none is left in the read buffer. -/
def Settled (count : Option Nat) (seen : List Frame) (s : Socket Raw.protocol) : Prop :=
  count.any (· ≤ seen.length) = true ∨ s.available = 0

/-- After the frames of a round were taken, the next can only find those that come in. -/
theorem settled_of_takeFrames {seen taken : List Frame} {s s' : Socket Raw.protocol}
    (h : Seen e cut count seen s)
    (took : takeFrames (quota count seen.length (s.available / classicUnit)) s =
      some (taken, s')) :
    Seen e cut count (seen ++ taken) s' ∧ Settled count (seen ++ taken) s' := by
  obtain ⟨within, ⟨used, known, waiting, blocks, holding⟩⟩ := h
  let n := quota count seen.length (s.available / classicUnit)
  obtain ⟨frames, s₁, more, size, went, held⟩ := takeFrames_of_holding blocks holding n
  obtain ⟨rfl, rfl⟩ := Prod.mk.inj (Option.some.inj (went.symm.trans took))
  have present := length_le_of_holding blocks holding
  refine ⟨⟨fun m asked => ?_, used ++ waiting.take n, ?_, waiting.drop n,
    fun d member => blocks d (List.mem_of_mem_drop member), held⟩, ?_⟩
  · obtain rfl : count = some m := asked
    have bound := within m rfl
    have quota : n = min (m - seen.length) (s.available / classicUnit) := rfl
    rw [List.length_append]
    omega
  · rw [List.mapM_append, known, more]
    rfl
  · by_cases all : waiting.length ≤ n
    · right
      rw [held.available_eq, List.drop_eq_nil_of_le all]
      rfl
    · left
      cases count with
      | none => exact absurd present all
      | some m =>
        have quota : n = min (m - seen.length) (s.available / classicUnit) := rfl
        rw [Option.any_some, decide_eq_true_eq, List.length_append]
        omega

/-- The frames that were seen are the first of those of the datagrams that were taken, and the
others are in the read buffer. -/
theorem exists_frames_of_seen {seen : List Frame} {s : Socket Raw.protocol}
    (h : Seen e cut count seen s) :
    ∃ rest, (gathered cut (e.arrivalsTaken s.endpoint)).mapM frameOf? = some (seen ++ rest) ∧
      (s.available = 0 ↔ rest = []) := by
  obtain ⟨-, ⟨used, known, waiting, blocks, held⟩⟩ := h
  have present := length_le_of_holding blocks held
  refine ⟨Frame.framesIn (waiting.flatMap tag), ?_, ?_⟩
  · rw [held.taken, List.mapM_append, known, mapM_frameOf? blocks]
    rfl
  · rw [held.available_eq]
    cases waiting with
    | nil => simp [Frame.framesIn_nil]
    | cons d rest =>
      have block := blocks d (List.mem_cons_self ..)
      obtain ⟨f, -, found⟩ := exists_frameOf? block (rest.flatMap tag)
      have nonempty : 0 < (tag d ++ rest.flatMap tag).length := by
        rw [List.length_append, length_tag]
        exact Nat.add_pos_left (Nat.lt_of_lt_of_le (by decide) block.classicUnit_le) _
      rw [List.flatMap_cons (f := tag), Frame.framesIn_eq_cons found]
      exact ⟨fun zero => absurd zero (Nat.ne_of_gt nonempty), nofun⟩

/-- Once a round has settled, the frames that were seen are the first ones, up to the number that is
asked for. -/
theorem first_of_settled {seen rest : List Frame} {s : Socket Raw.protocol}
    (within : ∀ n ∈ count, seen.length ≤ n) (settled : Settled count seen s)
    (drained : s.available = 0 ↔ rest = []) :
    count.elim (seen ++ rest) (seen ++ rest).take = seen := by
  cases count with
  | none =>
    rcases settled with never | empty
    · cases never
    · exact List.append_right_eq_self.mpr (drained.mp empty)
  | some n =>
    have few := within n rfl
    rcases settled with enough | empty
    · have many : n ≤ seen.length := of_decide_eq_true enough
      exact List.take_left' (Nat.le_antisymm few many)
    · rw [drained.mp empty, List.append_nil]
      exact List.take_of_length_le few

/-- A wait takes in frames, and none if it runs out of time. -/
theorem Seen.after_wait {seen : List Frame} {ready : Bool} {s s' : Socket Raw.protocol}
    (h : Seen e cut count seen s)
    (waited : perform (.waitForReadyRead wait) s = some (ready, s')) :
    (ready = true → Seen e cut count seen s') ∧
      (ready = false → s'.error.kind = .timeout →
        Seen e cut count seen s' ∧ s'.available = s.available) := by
  obtain ⟨within, ⟨used, known, waiting, blocks, held⟩⟩ := h
  have gains : Gains Raw.gatherer (Holds Raw.gatherer e cut used (· = waiting))
      (Holds Raw.gatherer e cut used (∀ d ∈ ·, IsBlock d)) := by
    refine gains_holds fun before batch same isBatch => ?_
    rw [same]
    exact List.forall_mem_append.mpr ⟨blocks, isBatch⟩
  obtain ⟨gained, late⟩ := gains.after_waitForReadyRead wait ⟨waiting, rfl, held⟩ ready s' waited
  refine ⟨fun isReady => ⟨within, used, known, gained isReady⟩, fun failed ended => ?_⟩
  obtain ⟨_, rfl, held'⟩ := late failed ended
  exact ⟨⟨within, used, known, _, blocks, held'⟩, held'.available_eq.trans held.available_eq.symm⟩

/-- Once a round has settled, so has the loop when it ends. -/
theorem settled_of_dumpFrames (rounds : Nat) {seen frames : List Frame}
    {s s' : Socket Raw.protocol} (h : Seen e cut count seen s) (settled : Settled count seen s)
    (ran : dumpFrames count wait rounds seen s = some ((frames, none), s')) :
    Seen e cut count frames s' ∧ Settled count frames s' := by
  induction rounds generalizing seen s with
  | zero => cases ran
  | succ rounds ih =>
    rcases dumpFrames_cases ran with ⟨-, rfl, rfl⟩ |
      ⟨short, ⟨waited, late, rfl⟩ | ⟨s₁, taken, s₂, waited, took, next⟩⟩
    · exact ⟨h, settled⟩
    · obtain ⟨still, same⟩ := (h.after_wait waited).2 rfl late
      have drained := settled.resolve_left (Bool.eq_false_iff.mp short)
      exact ⟨still, .inr (same.trans drained)⟩
    · obtain ⟨more, again⟩ := settled_of_takeFrames ((h.after_wait waited).1 rfl) took
      exact ih more again next

/-- What the loop gives: all that came in, or nothing, if it overlooks what is there already. -/
theorem dumpFrames_outcome (rounds : Nat) {frames : List Frame} {s s' : Socket Raw.protocol}
    (h : Seen e cut count [] s)
    (ran : dumpFrames count wait rounds [] s = some ((frames, none), s')) :
    Seen e cut count frames s' ∧
      (Settled count frames s' ∧ ¬(count ≠ some 0 ∧ s.Overlooks wait) ∨
        frames = [] ∧ s'.available ≠ 0 ∧ count ≠ some 0 ∧ s.Overlooks wait) := by
  cases rounds with
  | zero => cases ran
  | succ rounds =>
    rcases dumpFrames_cases ran with ⟨enough, rfl, rfl⟩ |
      ⟨short, ⟨waited, late, rfl⟩ | ⟨s₁, taken, s₂, waited, took, next⟩⟩
    · obtain ⟨n, asked, few⟩ := (Option.any_eq_true _ _).mp enough
      obtain rfl : n = 0 := Nat.le_zero.mp (of_decide_eq_true few)
      exact ⟨h, .inl ⟨.inl enough, fun overlooked => overlooked.1 asked⟩⟩
    · obtain ⟨still, same⟩ := (h.after_wait waited).2 rfl late
      refine ⟨still, ?_⟩
      by_cases drained : s.available = 0
      · exact .inl ⟨.inr (same.trans drained), fun overlooked => overlooked.2.1 drained⟩
      · refine .inr ⟨rfl, same ▸ drained, ?_, drained, s', waited⟩
        rintro rfl
        cases short
    · obtain ⟨more, again⟩ := settled_of_takeFrames ((h.after_wait waited).1 rfl) took
      obtain ⟨all, done⟩ := settled_of_dumpFrames rounds more again next
      refine ⟨all, .inl ⟨done, fun ⟨_, _, _, failed⟩ => ?_⟩⟩
      cases waited.symm.trans failed

end

/-- What a plan does before anything is printed. -/
def approach (p : Plan) (wait : Wait) : Run Bool := do
  let settings := p.options.map fun v => (v.option, v)
  let connected : Bool ← perform (.connectWith settings p.iface OpenMode.readWrite)
  if connected then do
    let failure ← sendFrames p.frames wait
    pure failure.isNone
  else pure false

/-- The options that a plan sets end with the one for flexible frames. -/
theorem frameSize_of_plan {g : Given} {p : Plan} (planned : plan g = .ok p) (s : Raw.State) :
    Raw.State.frameSize (p.options.foldl Raw.State.put s) =
      if g.has "fd" then fdUnit else classicUnit := by
  have last : ∃ before, p.options = before ++ [.fdFrames (g.has "fd")] := by
    rw [plan] at planned
    rcases read : parseFrames g.words.tail with cause | frames <;> rw [read] at planned
    · cases planned
    rcases set : options g with cause | values <;> rw [set] at planned
    · cases planned
    obtain rfl := Except.ok.inj planned
    rw [options] at set
    rcases filter : (g.values "filter").mapM parseFilter with cause | filters <;> rw [filter] at set
    · cases set
    rcases mask : (g.value? "err-mask").toList.mapM fun s =>
      (word s.toList).mapError Failure.badErrorMask with cause | masks <;> rw [mask] at set
    · cases set
    obtain rfl := Except.ok.inj set
    exact ⟨_ ++ [.loopback (!g.has "no-loopback"), .ownMessages (g.has "own")],
      (List.append_assoc _ [_, _] [_]).symm⟩
  obtain ⟨before, same⟩ := last
  rw [same, List.foldl_append]
  rfl

section

variable {e : Endpoint} {cut : Nat} {wait : Wait}

/-- Sending takes in frames. -/
theorem holds_of_sendFrames (frames : List Frame) {s s' : Socket Raw.protocol}
    (h : Holds Raw.gatherer e cut [] (∀ d ∈ ·, IsBlock d) s)
    (sent : sendFrames frames wait s = some (none, s')) :
    Holds Raw.gatherer e cut [] (∀ d ∈ ·, IsBlock d) s' := by
  have gains : Gains Raw.gatherer (Holds Raw.gatherer e cut [] (∀ d ∈ ·, IsBlock d))
      (Holds Raw.gatherer e cut [] (∀ d ∈ ·, IsBlock d)) :=
    gains_holds fun _ _ blocks isBatch => List.forall_mem_append.mpr ⟨blocks, isBatch⟩
  have queues : ∀ frames, Keeps (Holds Raw.gatherer e cut [] (∀ d ∈ ·, IsBlock d))
      (queueFrames frames) := by
    intro frames
    induction frames with
    | nil => exact .pure none
    | cons f rest ih =>
      refine .bind (gains.keeps_writeFrame f) fun result => ?_
      cases result with
      | error cause => exact .pure _
      | ok done => exact ih
  obtain ⟨refused, s₁, queued, rest⟩ := bind_eq_some.mp sent
  cases refused with
  | some failure => cases rest
  | none =>
    obtain ⟨out, s₂, pushed, rest⟩ := bind_eq_some.mp rest
    cases out with
    | false => cases rest
    | true =>
      obtain ⟨-, rfl⟩ := Prod.mk.inj (Option.some.inj rest)
      have waits := gains.passes_waitForBytesWritten wait
      exact (passes_pushOut waits wait.turns s₁ (queues frames s h none s₁ queued) true _ pushed
        rfl).1

/-- Nothing is printed yet when the printing loop begins. -/
theorem seen_of_approach {p : Plan} {s : Socket Raw.protocol}
    (ran : approach p wait (initial .initial e) = some (true, s)) :
    Seen e (Raw.State.frameSize (p.options.foldl Raw.State.put .initial)) p.count [] s := by
  obtain ⟨connected, s₁, first, rest⟩ := bind_eq_some.mp ran
  cases connected with
  | false => cases rest
  | true =>
    have start : Holding Raw.gatherer e
        (Raw.State.frameSize (p.options.foldl Raw.State.put .initial)) [] [] s₁ := by
      have set : (p.options.map fun v => (v.option, v)).foldl (fun kept o => kept.put o.2)
          Raw.State.initial = p.options.foldl Raw.State.put .initial := List.foldl_map
      rw [← set]
      exact holding_of_connectWith Raw.gatherer first
    obtain ⟨failure, s₂, sent, ends⟩ := bind_eq_some.mp rest
    obtain ⟨isNone, rfl⟩ := Prod.mk.inj (Option.some.inj ends)
    obtain rfl := Option.isNone_iff_eq_none.mp isNone
    exact ⟨fun _ _ => Nat.zero_le _, [], rfl,
      holds_of_sendFrames p.frames ⟨[], List.forall_mem_nil _, start⟩ sent⟩

/-- A plan that is carried out without a failure sends its frames, and then prints, if it is to. -/
theorem exists_approach_of_success {p : Plan} {frames : List Frame} {s s' : Socket Raw.protocol}
    (ran : exchange p.iface p.options p.frames p.count wait s = some ((frames, none), s')) :
    ∃ s₁, approach p wait s = some (true, s₁) ∧
      (if p.frames.isEmpty || p.count.isSome then dumpFrames p.count wait wait.turns []
        else pure ([], none)) s₁ = some ((frames, none), s') := by
  obtain ⟨connected, s₂, first, rest⟩ := bind_eq_some.mp ran
  cases connected with
  | false =>
    obtain ⟨result, -⟩ := Prod.mk.inj (Option.some.inj rest)
    cases (Prod.mk.inj result).2
  | true =>
    obtain ⟨failure, s₁, sent, ends⟩ := bind_eq_some.mp rest
    cases failure with
    | some failure =>
      obtain ⟨result, -⟩ := Prod.mk.inj (Option.some.inj ends)
      cases (Prod.mk.inj result).2
    | none =>
      exact ⟨s₁, bind_eq_some.mpr ⟨true, s₂, first, bind_eq_some.mpr ⟨none, s₁, sent, rfl⟩⟩, ends⟩

/-- A plan that prints without a failure approaches the printing loop first. -/
theorem exists_approach {p : Plan} {frames : List Frame} {s s' : Socket Raw.protocol}
    (prints : p.frames = [] ∨ p.count.isSome = true)
    (ran : exchange p.iface p.options p.frames p.count wait s = some ((frames, none), s')) :
    ∃ s₁, approach p wait s = some (true, s₁) ∧
      dumpFrames p.count wait wait.turns [] s₁ = some ((frames, none), s') := by
  obtain ⟨s₁, approached, dumps⟩ := exists_approach_of_success ran
  have asked : (p.frames.isEmpty || p.count.isSome) = true := by
    rcases prints with empty | counted
    · rw [empty]
      rfl
    · rw [counted, Bool.or_true]
  rw [if_pos asked] at dumps
  exact ⟨s₁, approached, dumps⟩

end

/-- A run that goes well and comes to the printing loop prints the frames of the datagrams that the
socket took, each cut to the size of the frames that are read, up to the number that is asked for,
if and only if it does not overlook frames that came in while it was sending; else it prints
nothing. -/
theorem printed_iff_not_overlooks {words : List String} {e : Endpoint} {elapsed : Nat → Nat}
    {turns : Nat} {g : Given} {p : Plan} {outcome : Outcome}
    (given : arguments spec words = .ok g) (planned : plan g = .ok p)
    (prints : p.frames = [] ∨ p.count.isSome = true)
    (ran : run words e elapsed turns = some outcome) (success : outcome.exitCode = 0) :
    ∃ all s,
      (gathered (if g.has "fd" then fdUnit else classicUnit)
        (e.arrivalsTaken outcome.endpoint)).mapM frameOf? = some all ∧
      approach p (waitOf p.timeout elapsed turns) (initial .initial e) = some (true, s) ∧
      (outcome.out = (p.count.elim all all.take).map (line p.iface) ↔
        ¬(p.count ≠ some 0 ∧ s.Overlooks (waitOf p.timeout elapsed turns))) ∧
      (p.count ≠ some 0 → s.Overlooks (waitOf p.timeout elapsed turns) → outcome.out = []) := by
  simp only [run, given, planned] at ran
  obtain ⟨frames, s', exchanged, printed, spares⟩ := exists_of_success ran success
  obtain ⟨s, approached, dumps⟩ := exists_approach prints exchanged
  obtain ⟨seen, outcomes⟩ := dumpFrames_outcome _ (seen_of_approach approached) dumps
  obtain ⟨rest, all, drained⟩ := exists_frames_of_seen seen
  rw [frameSize_of_plan planned] at all
  refine ⟨frames ++ rest, s, (spares seen.alone).symm ▸ all, approached, ?_⟩
  rw [printed]
  rcases outcomes with ⟨done, noticed⟩ | ⟨rfl, waits, asked, overlooked⟩
  · rw [first_of_settled seen.within done drained]
    exact ⟨⟨fun _ => noticed, fun _ => rfl⟩,
      fun asked overlooked => absurd ⟨asked, overlooked⟩ noticed⟩
  · have nonempty : p.count.elim ([] ++ rest) ([] ++ rest).take ≠ [] := by
      have left : rest ≠ [] := fun empty => waits (drained.mpr empty)
      rcases counted : p.count with _ | n
      · exact left
      · rw [counted] at asked
        intro empty
        rcases List.take_eq_nil_iff.mp empty with rfl | isEmpty
        · exact asked rfl
        · exact left isEmpty
    refine ⟨⟨fun same => ?_, fun noticed => absurd ⟨asked, overlooked⟩ noticed⟩, fun _ _ => rfl⟩
    exact absurd (List.map_eq_nil_iff.mp same.symm) nonempty

/-- Sends a frame, and asks for so many. -/
def inquiry (count : String) : List String := ["vcan0", "123#AA", "-n", count]

/-- The frame comes in while the tool is sending, and is the only one. -/
theorem not_always_printed :
    ¬∀ (words : List String) (e : Endpoint) (elapsed : Nat → Nat) (turns : Nat) (g : Given)
      (p : Plan) (outcome : Outcome), arguments spec words = .ok g → plan g = .ok p →
      (p.frames = [] ∨ p.count.isSome = true) → run words e elapsed turns = some outcome →
      outcome.exitCode = 0 →
      ∃ all, (gathered (if g.has "fd" then fdUnit else classicUnit)
          (e.arrivalsTaken outcome.endpoint)).mapM frameOf? = some all ∧
        outcome.out = (p.count.elim all all.take).map (line p.iface) := by
  intro always
  obtain ⟨g, p, given, planned, view⟩ : ∃ g p, arguments spec (inquiry "1") = .ok g ∧
      plan g = .ok p ∧ (g.has "fd", p.count) = (false, some 1) := exists_plan (by decide +kernel)
  obtain ⟨classic, asked⟩ := Prod.mk.inj view
  let e := busy [.datagram (List.replicate 16 1)]
  have happened : (run (inquiry "1") e (fun _ => 0) 10).map (fun o => (o.exitCode, o.out,
      ((gathered classicUnit (e.arrivalsTaken o.endpoint)).mapM frameOf?).map List.length)) =
      some (0, [], some 1) := by decide +kernel
  obtain ⟨outcome, ran, values⟩ := Option.map_eq_some_iff.mp happened
  simp only [Prod.mk.injEq] at values
  obtain ⟨success, nothing, one⟩ := values
  obtain ⟨all, taken, printed⟩ := always _ e _ 10 g p outcome given planned
    (.inr (by rw [asked]; rfl)) ran success
  rw [classic] at taken
  obtain ⟨frames, same, size⟩ := Option.map_eq_some_iff.mp one
  obtain rfl := Option.some.inj (taken.symm.trans same)
  rw [nothing, asked] at printed
  have lengths := congrArg List.length printed
  rw [List.length_map, Option.elim_some, List.length_take, size] at lengths
  cases lengths

/-- One frame comes in while the tool is sending, and another one later. -/
theorem printed_iff_not_overlooks_inquiry :
    ∃ (g : Given) (p : Plan) (outcome : Outcome) (all : List Frame) (s : Socket Raw.protocol),
      arguments spec (inquiry "2") = .ok g ∧ plan g = .ok p ∧ p.count.isSome = true ∧
      run (inquiry "2") (busy [.datagram (List.replicate 16 1), .failure 11,
        .datagram (List.replicate 16 2)]) (fun _ => 0) 10 = some outcome ∧
      outcome.exitCode = 0 ∧
      outcome.out = ["vcan0  1010101#01", "vcan0  2020202#0202"] ∧
      approach p (waitOf p.timeout (fun _ => 0) 10) (initial .initial (busy
        [.datagram (List.replicate 16 1), .failure 11, .datagram (List.replicate 16 2)])) =
          some (true, s) ∧
      (outcome.out = (p.count.elim all all.take).map (line p.iface) ↔
        ¬(p.count ≠ some 0 ∧ s.Overlooks (waitOf p.timeout (fun _ => 0) 10))) := by
  obtain ⟨g, p, given, planned, asked⟩ : ∃ g p, arguments spec (inquiry "2") = .ok g ∧
      plan g = .ok p ∧ p.count = some 2 := exists_plan (by decide +kernel)
  let e := busy [.datagram (List.replicate 16 1), .failure 11, .datagram (List.replicate 16 2)]
  have happened : (run (inquiry "2") e (fun _ => 0) 10).map (fun o => (o.exitCode, o.out)) =
      some (0, ["vcan0  1010101#01", "vcan0  2020202#0202"]) := by decide +kernel
  obtain ⟨outcome, ran, values⟩ := Option.map_eq_some_iff.mp happened
  obtain ⟨success, printed⟩ := Prod.mk.inj values
  have counted : p.count.isSome = true := by
    rw [asked]
    rfl
  obtain ⟨all, s, -, approached, iff, -⟩ :=
    printed_iff_not_overlooks given planned (.inr counted) ran success
  exact ⟨g, p, outcome, all, s, given, planned, counted, ran, success, printed, approached, iff⟩

end CanStream.Tool.RawFrames
