import CanStream.Frame.Change
import CanStream.Frame.Text
import CanStream.Proofs.Frame.Kinds

/-!
# Canonical frames

The fields of a frame are written one by one, by constructors, readers, transitions and setters, and
yet they always belong together: the sentinels are those of the frame's kind, the length is one that
the kind allows, and the payload holds nothing beyond the largest length. While the flags in the
identifier word are those of the kind, too, the frame is recognised as what it is.
-/

namespace CanStream.Frame

/-- The fields of a frame belong together. In an unknown frame, which may hold no data, all are
zero but the identifier word. -/
structure Canonical (f : Frame) : Prop where
  shaped : f.Shaped f.kind
  flags_unknown : f.kind = .unknown → f.flags = 0
  blank : f.payload.BlankFrom f.maxLength

/-- The error and remote flags in the identifier word are those that the frame's kind prescribes. -/
def Flagged (f : Frame) : Prop := f.kind.Flags f.word

/-- A frame as the constructors and the readers give it. -/
structure Consistent (f : Frame) : Prop where
  canonical : f.Canonical
  flagged : f.Flagged

variable {f g : Frame}

theorem flagged_of_unknown (unknown : f.kind = .unknown) : f.Flagged :=
  fun known => absurd unknown known

theorem Canonical.derivedKind_eq_kind (h : f.Canonical) (flagged : f.Flagged) :
    f.derivedKind = f.kind :=
  derivedKind_eq h.shaped flagged

theorem consistent_empty : empty.Consistent :=
  ⟨⟨⟨rfl, Nat.le_refl 0, nofun⟩, fun _ => rfl, Payload.blankFrom_zero⟩, flagged_of_unknown rfl⟩

/-- A transition leaves every frame in the canonical state of the new kind. -/
theorem canonical_withKind (f : Frame) (k : Kind) : (f.withKind k).Canonical := by
  cases k with
  | data => exact ⟨⟨rfl, Nat.min_le_right _ _, nofun⟩, nofun, Payload.blankFrom_zeroFrom⟩
  | fd =>
    exact ⟨⟨rfl, Nat.min_le_right _ _, nofun⟩, nofun,
      Payload.blankFrom_of_length_le (Nat.le_refl _)⟩
  | error => exact ⟨⟨rfl, Nat.le_refl _, fun _ => rfl⟩, nofun, Payload.blankFrom_zeroFrom⟩
  | remote => exact ⟨⟨rfl, Nat.le_refl _, nofun⟩, nofun, Payload.blankFrom_zeroFrom⟩
  | unknown => exact consistent_empty.canonical

theorem flagged_withKind (f : Frame) (k : Kind) : (f.withKind k).Flagged := by
  have noFlags {word : UInt32} : word &&& ~~~(remoteFlag ||| errorFlag) &&& errorFlag = 0 ∧
      word &&& ~~~(remoteFlag ||| errorFlag) &&& remoteFlag = 0 :=
    ⟨word_and_and_of_apart (by decide), word_and_and_of_apart (by decide)⟩
  cases k with
  | data =>
    exact fun _ => ⟨by simp [withKind, toData, noFlags], by simp [withKind, toData, noFlags]⟩
  | fd => exact fun _ => ⟨by simp [withKind, toFd, noFlags], by simp [withKind, toFd, noFlags]⟩
  | error =>
    have noRemote : f.toError.word &&& remoteFlag = 0 := by
      rw [toError, word_or_and_of_apart (by decide), word_and_and_of_apart (by decide)]
    exact fun _ =>
      ⟨iff_of_true (word_or_flag_and (by decide)) rfl, iff_of_false (absurd noRemote) nofun⟩
  | remote =>
    have noError : f.toRemote.word &&& errorFlag = 0 := by
      rw [toRemote, word_or_and_of_apart (by decide), word_and_and_of_apart (by decide)]
    exact fun _ =>
      ⟨iff_of_false (absurd noError) nofun, iff_of_true (word_or_flag_and (by decide)) rfl⟩
  | unknown => exact flagged_of_unknown rfl

theorem Flagged.setCanId (h : f.Flagged) (id : UInt32) : (f.setCanId id).Flagged := by
  have outside {flag : UInt32} (apart : extendedMask &&& flag = 0)
      (within : ~~~extendedMask &&& flag = flag) :
      (f.setCanId id).word &&& flag = f.word &&& flag := by
    rw [Frame.setCanId, word_or_and, word_and_and_of_within within, word_and_and_of_apart apart,
      UInt32.or_zero]
  exact Kind.Flags.congr h (outside (by decide) (by decide)) (outside (by decide) (by decide))

theorem Flagged.setExtended (h : f.Flagged) (on : Bool) : (f.setExtended on).Flagged := by
  have outside {flag : UInt32} (apart : extendedFlag &&& flag = 0)
      (within : ~~~extendedFlag &&& flag = flag) :
      (f.setExtended on).word &&& flag = f.word &&& flag := by
    cases on with
    | false => exact word_and_and_of_within within
    | true => exact word_or_and_of_apart apart
  exact Kind.Flags.congr h (outside (by decide) (by decide)) (outside (by decide) (by decide))

/-- Which identifier and flags a frame has is of no account. -/
theorem Canonical.withWord (h : f.Canonical) (word : UInt32) :
    { f with word := word }.Canonical :=
  ⟨⟨h.shaped.sentinels, h.shaped.length_le, h.shaped.length_error⟩, h.flags_unknown, h.blank⟩

theorem Canonical.withPayload (h : f.Canonical) {payload : Payload}
    (blank : payload.BlankFrom f.maxLength) : { f with payload := payload }.Canonical :=
  ⟨⟨h.shaped.sentinels, h.shaped.length_le, h.shaped.length_error⟩, h.flags_unknown, blank⟩

theorem setLength?_eq_some {n : Nat} (set : f.setLength? n = some g) :
    f.kind ≠ .unknown ∧ (f.length = n ∨ f.kind ≠ .error ∧ n ≤ f.maxLength) ∧
      g = { f with length := n } := by
  unfold setLength? at set
  split at set
  · cases set
  · rename_i known
    split at set
    · rename_i same
      subst same
      exact ⟨known, .inl rfl, (Option.some.inj set).symm⟩
    · split at set
      · cases set
      · rename_i free
        split at set
        · rename_i fits
          exact ⟨known, .inr ⟨fun isError => free (.inr isError), fits⟩, (Option.some.inj set).symm⟩
        · cases set

theorem Canonical.setLength (h : f.Canonical) {n : Nat} (set : f.setLength? n = some g) :
    g.Canonical := by
  obtain ⟨known, rfl | ⟨free, fits⟩, rfl⟩ := setLength?_eq_some set
  · exact h
  · exact ⟨⟨h.shaped.sentinels, fits, fun isError => absurd isError free⟩,
      fun unknown => absurd unknown known, h.blank⟩

theorem Flagged.setLength (h : f.Flagged) {n : Nat} (set : f.setLength? n = some g) :
    g.Flagged := by
  obtain ⟨-, -, rfl⟩ := setLength?_eq_some set
  exact h

theorem Canonical.fill (h : f.Canonical) (v : UInt8) : (f.fill v).Canonical := by
  apply h.withPayload
  apply h.blank.overwrite
  rw [List.length_replicate, data]
  exact Nat.le_trans (List.length_take_le f.length _) h.shaped.length_le

theorem setByte?_eq_some {i : Nat} {v : UInt8} (set : f.setByte? i v = some g) :
    i < f.length ∧ g = { f with payload := f.payload.setByte i v } := by
  unfold setByte? at set
  split at set
  · rename_i inside
    exact ⟨inside, (Option.some.inj set).symm⟩
  · cases set

theorem Canonical.setByte (h : f.Canonical) {i : Nat} {v : UInt8}
    (set : f.setByte? i v = some g) : g.Canonical := by
  obtain ⟨inside, rfl⟩ := setByte?_eq_some set
  exact h.withPayload (h.blank.setByte (Nat.lt_of_lt_of_le inside h.shaped.length_le) v)

theorem Flagged.setByte (h : f.Flagged) {i : Nat} {v : UInt8} (set : f.setByte? i v = some g) :
    g.Flagged := by
  obtain ⟨-, rfl⟩ := setByte?_eq_some set
  exact h

/-- Payload that is accepted fills the frame up to its capacity. -/
theorem setData_eq_ok {data : List UInt8} (set : f.setData data = .ok g) :
    f.kind ≠ .unknown ∧ data.length ≤ f.maxLength ∧
      g = { f with
        payload := f.payload.overwrite (data ++ List.replicate (f.maxLength - data.length) 0)
        length := if f.kind = .error then f.length else data.length } := by
  unfold setData at set
  split at set
  · cases set
  · rename_i known
    split at set
    · cases set
    · split at set
      · cases set
      · rename_i fits
        exact ⟨known, Nat.le_of_not_lt fits, (Except.ok.inj set).symm⟩

theorem Canonical.setData (h : f.Canonical) {data : List UInt8} (set : f.setData data = .ok g) :
    g.Canonical := by
  obtain ⟨known, fits, rfl⟩ := setData_eq_ok set
  have whole : (data ++ List.replicate (f.maxLength - data.length) 0).length ≤ f.maxLength := by
    rw [List.length_append, List.length_replicate]
    omega
  refine ⟨⟨h.shaped.sentinels, ?_, fun isError => ?_⟩, fun unknown => absurd unknown known,
    h.blank.overwrite whole⟩
  · dsimp only
    split
    · exact h.shaped.length_le
    · exact fits
  · exact (if_pos isError).trans (h.shaped.length_error isError)

theorem Flagged.setData (h : f.Flagged) {data : List UInt8} (set : f.setData data = .ok g) :
    g.Flagged := by
  obtain ⟨-, -, rfl⟩ := setData_eq_ok set
  exact h

theorem Consistent.setData (h : f.Consistent) {data : List UInt8} (set : f.setData data = .ok g) :
    g.Consistent :=
  ⟨h.canonical.setData set, h.flagged.setData set⟩

theorem setFdFlags?_eq_some {flags : FdFlags} (set : f.setFdFlags? flags = some g) :
    f.kind = .fd ∧ g = { f with flags := flags.bits.toUInt8 } := by
  unfold setFdFlags? at set
  split at set
  · rename_i isFd
    exact ⟨isFd, (Option.some.inj set).symm⟩
  · cases set

theorem Canonical.withFlags (h : f.Canonical) (known : f.kind ≠ .unknown) (flags : UInt8) :
    { f with flags := flags }.Canonical :=
  ⟨⟨h.shaped.sentinels, h.shaped.length_le, h.shaped.length_error⟩,
    fun unknown => absurd unknown known, h.blank⟩

theorem Canonical.setFdFlags (h : f.Canonical) {flags : FdFlags}
    (set : f.setFdFlags? flags = some g) : g.Canonical := by
  obtain ⟨isFd, rfl⟩ := setFdFlags?_eq_some set
  exact h.withFlags (fun unknown => absurd (isFd.symm.trans unknown) nofun) _

theorem Flagged.setFdFlags (h : f.Flagged) {flags : FdFlags}
    (set : f.setFdFlags? flags = some g) : g.Flagged := by
  obtain ⟨-, rfl⟩ := setFdFlags?_eq_some set
  exact h

/-! ## Changes in place and new frames -/

section

variable {α : Type}

theorem InPlace.run_get_bind (c : Frame → InPlace α) :
    (get >>= c : InPlace α).run f = (c f).run f :=
  rfl

theorem InPlace.run_ite {P : Prop} [Decidable P] (a b : InPlace α) :
    (if P then a else b).run f = if P then a.run f else b.run f := by
  split <;> rfl

end

/-- The frame that a refused change leaves is the one it was refused on. -/
def Refusal.orMade (f : Frame) : Except Refusal Frame → Except Refusal Unit × Frame
  | .ok g => (.ok (), g)
  | .error cause => (.error cause, f)

theorem run_writeLength (f : Frame) (n : Nat) :
    (writeLength n).run f = Refusal.orMade f ((f.setLength? n).elim (.error .denied) .ok) := by
  rw [writeLength, setLength?, InPlace.run_get_bind]
  simp only [InPlace.run_ite]
  split
  · rfl
  · split
    · rfl
    · split
      · rfl
      · split
        · rfl
        · rfl

theorem run_writeData (f : Frame) (data : List UInt8) :
    (writeData data).run f = Refusal.orMade f ((f.setData data).mapError .construction) := by
  rw [writeData, Frame.setData, InPlace.run_get_bind]
  simp only [InPlace.run_ite]
  split
  · rfl
  · split
    · rfl
    · split
      · rfl
      · -- the payload is written before it is settled whether the length is
        by_cases isError : f.kind = .error
        · simp only [if_pos isError]
          rfl
        · simp only [if_neg isError]
          rfl

theorem run_writeByte (f : Frame) (i : Nat) (v : UInt8) :
    (writeByte i v).run f = Refusal.orMade f ((f.setByte? i v).elim (.error .outOfRange) .ok) := by
  rw [writeByte, setByte?, InPlace.run_get_bind, InPlace.run_ite]
  split
  · rfl
  · rfl

theorem run_writeFdFlags (f : Frame) (flags : FdFlags) :
    (writeFdFlags flags).run f =
      Refusal.orMade f ((f.setFdFlags? flags).elim (.error .denied) .ok) := by
  rw [writeFdFlags, setFdFlags?, InPlace.run_get_bind, InPlace.run_ite]
  split
  · rfl
  · rfl

namespace Change

/-- What a change comes to, by the setter for it. -/
def outcome (f : Frame) : Change → Except Refusal Frame
  | kind k => .ok (f.withKind k)
  | word w => .ok (f.setWord w)
  | canId id => .ok (f.setCanId id)
  | extended on => .ok (f.setExtended on)
  | length n => (f.setLength? n).elim (.error .denied) .ok
  | data bytes => (f.setData bytes).mapError .construction
  | fill v => .ok (f.fill v)
  | byte i v => (f.setByte? i v).elim (.error .outOfRange) .ok
  | fdFlags flags => (f.setFdFlags? flags).elim (.error .denied) .ok
  | bitRateSwitch on => (f.setBitRateSwitch? on).elim (.error .denied) .ok
  | errorState on => (f.setErrorState? on).elim (.error .denied) .ok

/-- Writing field after field comes to the same as the setter, and leaves the frame as it was where
the setter gives none. -/
theorem perform_eq (q : Change) (f : Frame) :
    q.perform f = Refusal.orMade f (q.outcome f) := by
  cases q with
  | kind k => rfl
  | word w => rfl
  | canId id => rfl
  | extended on => rfl
  | length n => exact run_writeLength f n
  | data bytes => exact run_writeData f bytes
  | fill v => rfl
  | byte i v => exact run_writeByte f i v
  | fdFlags flags => exact run_writeFdFlags f flags
  | bitRateSwitch on =>
    rw [perform, run, InPlace.run_get_bind, run_writeFdFlags, outcome, setBitRateSwitch?]
  | errorState on =>
    rw [perform, run, InPlace.run_get_bind, run_writeFdFlags, outcome, setErrorState?]

theorem perform_cases (q : Change) (f : Frame) :
    (∃ g, q.outcome f = .ok g ∧ q.perform f = (.ok (), g)) ∨
      ∃ cause, q.perform f = (.error cause, f) := by
  rw [perform_eq]
  cases q.outcome f with
  | ok g => exact .inl ⟨g, rfl, rfl⟩
  | error cause => exact .inr ⟨cause, rfl⟩

theorem eq_some_of_elim {refusal : Refusal} {set : Option Frame}
    (made : set.elim (.error refusal) .ok = (.ok g : Except Refusal Frame)) : set = some g := by
  cases set with
  | none => cases made
  | some f => exact congrArg some (Except.ok.inj made)

theorem eq_ok_of_mapError {set : Except ConstructionError Frame}
    (made : set.mapError .construction = (.ok g : Except Refusal Frame)) : set = .ok g := by
  cases set with
  | error cause => cases made
  | ok f => exact congrArg Except.ok (Except.ok.inj made)

theorem canonical_of_outcome {q : Change} (h : f.Canonical) (made : q.outcome f = .ok g) :
    g.Canonical := by
  cases q with
  | kind k => cases made; exact canonical_withKind f k
  | word w => cases made; exact h.withWord w
  | canId id => cases made; exact h.withWord _
  | extended on => cases made; exact h.withWord _
  | length n => exact h.setLength (eq_some_of_elim made)
  | data bytes => exact h.setData (eq_ok_of_mapError made)
  | fill v => cases made; exact h.fill v
  | byte i v => exact h.setByte (eq_some_of_elim made)
  | fdFlags flags => exact h.setFdFlags (eq_some_of_elim made)
  | bitRateSwitch on => exact h.setFdFlags (eq_some_of_elim made)
  | errorState on => exact h.setFdFlags (eq_some_of_elim made)

/-- Only writing the identifier word as a whole can set the wrong flags. -/
theorem flagged_of_outcome {q : Change} (h : f.Flagged) (keeps : ∀ w, q ≠ word w)
    (made : q.outcome f = .ok g) : g.Flagged := by
  cases q with
  | kind k => cases made; exact flagged_withKind f k
  | word w => exact absurd rfl (keeps w)
  | canId id => cases made; exact h.setCanId id
  | extended on => cases made; exact h.setExtended on
  | length n => exact h.setLength (eq_some_of_elim made)
  | data bytes => exact h.setData (eq_ok_of_mapError made)
  | fill v => cases made; exact h
  | byte i v => exact h.setByte (eq_some_of_elim made)
  | fdFlags flags => exact h.setFdFlags (eq_some_of_elim made)
  | bitRateSwitch on => exact h.setFdFlags (eq_some_of_elim made)
  | errorState on => exact h.setFdFlags (eq_some_of_elim made)

theorem canonical_perform (h : f.Canonical) (q : Change) : (q.perform f).2.Canonical := by
  rcases perform_cases q f with ⟨g, made, performed⟩ | ⟨cause, performed⟩
  · rw [performed]
    exact canonical_of_outcome h made
  · rw [performed]
    exact h

theorem flagged_perform (h : f.Flagged) {q : Change} (keeps : ∀ w, q ≠ word w) :
    (q.perform f).2.Flagged := by
  rcases perform_cases q f with ⟨g, made, performed⟩ | ⟨cause, performed⟩
  · rw [performed]
    exact flagged_of_outcome h keeps made
  · rw [performed]
    exact h

theorem perform_of_refused {q : Change} {cause : Refusal}
    (refused : (q.perform f).1 = .error cause) : (q.perform f).2 = f := by
  rcases perform_cases q f with ⟨g, made, performed⟩ | ⟨cause, performed⟩
  · rw [performed] at refused
    cases refused
  · rw [performed]

end Change

theorem Canonical.change (h : f.Canonical) (changes : List Change) :
    (f.change changes).Canonical := by
  induction changes generalizing f with
  | nil => exact h
  | cons q changes ih => exact ih (q.canonical_perform h)

/-- The frames that constructors, the parser and the readers of bytes give. -/
inductive Given : Frame → Prop
  | empty : Given empty
  | ofKind (k : Kind) : Given (ofKind k)
  | withData {f : Frame} {id : CanId} {data : List UInt8} (made : withData id data = .ok f) :
      Given f
  | ofRawId {f : Frame} {id : UInt32} {data : List UInt8} (made : ofRawId id data = .ok f) :
      Given f
  | remote (id : CanId) : Given (remote id)
  | remoteWithCode {f : Frame} {id : CanId} {code : Nat} (made : remoteWithCode? id code = some f) :
      Given f
  | parse {f : Frame} {text : String} (made : parse text = .ok f) : Given f
  | decode {f : Frame} {order : ByteOrder} {bytes rest : List UInt8}
      (made : decode order bytes = .ok (f, rest)) : Given f
  | ofKernel {f : Frame} {bytes : List UInt8} {n : Nat} (made : ofKernel? bytes = some (f, n)) :
      Given f

theorem consistent_withKind (f : Frame) (k : Kind) : (f.withKind k).Consistent :=
  ⟨canonical_withKind f k, flagged_withKind f k⟩

/-- An identifier has neither of the flags, as is right for data frames. -/
theorem consistent_setWord_ofKind {k : Kind} (carries : k = .data ∨ k = .fd) (id : CanId) :
    ((ofKind k).setWord id.word).Consistent := by
  refine ⟨(canonical_withKind empty k).withWord id.word, ?_⟩
  have noError : id.word &&& errorFlag = 0 := id.word_and_flag (by decide) (i := 29) rfl (by decide)
  have noRemote : id.word &&& remoteFlag = 0 :=
    id.word_and_flag (by decide) (i := 30) rfl (by decide)
  intro _
  rcases carries with rfl | rfl
  · exact ⟨iff_of_false (absurd noError) nofun, iff_of_false (absurd noRemote) nofun⟩
  · exact ⟨iff_of_false (absurd noError) nofun, iff_of_false (absurd noRemote) nofun⟩

theorem consistent_withData {id : CanId} {data : List UInt8} (made : withData id data = .ok f) :
    f.Consistent := by
  unfold withData at made
  split at made
  · exact (consistent_setWord_ofKind (.inl rfl) id).setData made
  · split at made
    · exact (consistent_setWord_ofKind (.inr rfl) id).setData made
    · cases made

theorem consistent_remote (id : CanId) : (remote id).Consistent := by
  refine ⟨(canonical_withKind empty .remote).withWord _, fun _ => ⟨iff_of_false ?_ nofun, ?_⟩⟩
  · have noError : (remote id).word &&& errorFlag = 0 := by
      rw [remote, setWord, word_or_and_of_apart (by decide)]
      exact id.word_and_flag (by decide) (i := 29) rfl (by decide)
    exact absurd noError
  · exact iff_of_true (word_or_flag_and (by decide)) rfl

theorem consistent_parseData {k : Kind} (carries : k = .data ∨ k = .fd) {id : CanId}
    {text : List Char} (made : parseData k id text = .ok f) : f.Consistent ∧ f.kind = k := by
  unfold parseData at made
  split at made
  · cases made
  · rename_i data _
    cases set : ((ofKind k).setWord id.word).setData data with
    | error cause =>
      rw [set] at made
      cases made
    | ok g =>
      rw [set] at made
      cases made
      refine ⟨(consistent_setWord_ofKind carries id).setData set, ?_⟩
      obtain ⟨-, -, rfl⟩ := setData_eq_ok set
      rcases carries with rfl | rfl
      · rfl
      · rfl

theorem consistent_parseBody {id : CanId} {text : List Char} (made : parseBody id text = .ok f) :
    f.Consistent := by
  unfold parseBody at made
  split at made
  · cases made
    exact consistent_remote id
  · cases made
    exact consistent_remote id
  · cases made
  · split at made
    · cases made
    · rename_i c rest _ flags _
      cases parsed : parseData .fd id rest with
      | error cause =>
        rw [parsed] at made
        cases made
      | ok g =>
        rw [parsed] at made
        cases made
        obtain ⟨consistent, isFd⟩ := consistent_parseData (.inr rfl) parsed
        have known : g.kind ≠ .unknown := by
          rw [isFd]
          exact nofun
        exact ⟨consistent.canonical.withFlags known _, consistent.flagged⟩
  · exact (consistent_parseData (.inl rfl) made).1

theorem consistent_parse {text : String} (made : parse text = .ok f) : f.Consistent := by
  unfold parse at made
  simp only at made
  split at made
  · cases made
  · rename_i id _ body _
    cases parsed : parseId id with
    | error cause =>
      rw [parsed] at made
      cases made
    | ok value =>
      rw [parsed] at made
      exact consistent_parseBody made

theorem consistent_asUnknownError (f : Frame) : f.asUnknownError.Consistent :=
  consistent_withKind _ .error

/-- A frame of the kind that its header says is as the kind asks. -/
theorem consistent_frame {h : Header} {payload blank : Payload}
    (known : (h.frame payload).kind ≠ .unknown)
    (zeros : blank.BlankFrom (h.frame payload).maxLength) :
    { h.frame payload with payload := blank }.Consistent := by
  obtain ⟨shaped, flags⟩ := shaped_of_derivedKind (kind_frame h payload).symm known
  exact ⟨⟨⟨shaped.sentinels, shaped.length_le, shaped.length_error⟩,
    fun unknown => absurd unknown known, zeros⟩, flags⟩

theorem consistent_decode {order : ByteOrder} {bytes rest : List UInt8}
    (made : decode order bytes = .ok (f, rest)) : f.Consistent := by
  unfold decode at made
  split at made
  · cases made
  · rename_i h body _
    split at made
    · cases made
      exact consistent_asUnknownError _
    · split at made
      · cases made
      · simp only [Except.ok.injEq, Prod.mk.injEq] at made
        obtain ⟨rfl, -⟩ := made
        split
        · exact consistent_asUnknownError _
        · rename_i known
          have shaped := (shaped_of_derivedKind (kind_frame h _).symm known).1
          exact consistent_frame known (Payload.blankFrom_zero.overwrite
            (Nat.le_trans (List.length_take_le _ body) shaped.length_le))

theorem consistent_ofKernel {bytes : List UInt8} {n : Nat}
    (made : ofKernel? bytes = some (f, n)) : f.Consistent := by
  unfold ofKernel? at made
  split at made
  · cases made
  · simp only at made
    split at made
    · cases made
    · split at made
      · cases made
        exact consistent_asUnknownError _
      · rename_i usable
        cases made
        exact consistent_frame (fun unknown => usable (.inr unknown)) Payload.blankFrom_zeroFrom

theorem Given.consistent (given : Given f) : f.Consistent := by
  cases given with
  | empty => exact consistent_empty
  | ofKind k => exact consistent_withKind Frame.empty k
  | withData made => exact consistent_withData made
  | ofRawId made =>
    unfold Frame.ofRawId at made
    split at made
    · cases made
    · exact consistent_withData made
  | remote id => exact consistent_remote id
  | remoteWithCode made =>
    unfold remoteWithCode? at made
    split at made
    · cases made
      exact consistent_remote _
    · cases made
  | parse made => exact consistent_parse made
  | decode made => exact consistent_decode made
  | ofKernel made => exact consistent_ofKernel made

/-- A frame that was given and then changed in any ways is canonical. It is recognised as what it is
while its flags are those of its kind, as they are at first; only writing the identifier word as a
whole can change that. A change that is refused leaves the frame as it was. -/
theorem canonical_of_changes {f g : Frame} {changes : List Change} (given : Given f)
    (changed : f.change changes = g) :
    f.Flagged ∧ g.Canonical ∧ (g.Flagged → g.derivedKind = g.kind) ∧
      (∀ q : Change, (∀ word, q ≠ .word word) → g.Flagged → (q.perform g).2.Flagged) ∧
      ∀ (q : Change) (cause : Refusal), (q.perform g).1 = .error cause → (q.perform g).2 = g := by
  have canonical : g.Canonical := by
    rw [← changed]
    exact given.consistent.canonical.change changes
  refine ⟨given.consistent.flagged, canonical, canonical.derivedKind_eq_kind, ?_, ?_⟩
  · intro q keeps flagged
    exact q.flagged_perform flagged keeps
  · intro q cause refused
    exact q.perform_of_refused refused

/-- Twelve bytes are written, and one of them again; then the word is made one of an error frame,
and at last the kind. -/
def towardsError : List Change :=
  [.data (List.replicate 12 5), .byte 11 9, .word errorFlag, .length 70, .kind .error]

theorem canonical_towardsError :
    Given (ofKind .fd) ∧ ((ofKind .fd).change towardsError).Canonical ∧
      ((ofKind .fd).change towardsError).derivedKind = .error ∧
      ((Change.canId 5).perform ((ofKind .fd).change towardsError)).2.Flagged ∧
      ((Change.length 3).perform ((ofKind .fd).change towardsError)).2 =
        (ofKind .fd).change towardsError := by
  have changed : (ofKind .fd).change towardsError = (ofKind .fd).change towardsError := rfl
  obtain ⟨-, canonical, recognised, keeps, refused⟩ := canonical_of_changes (.ofKind .fd) changed
  have flagged : ((ofKind .fd).change towardsError).Flagged := fun _ => by decide
  exact ⟨.ofKind .fd, canonical, recognised flagged, keeps (.canId 5) nofun flagged,
    refused (.length 3) .denied rfl⟩

end CanStream.Frame
