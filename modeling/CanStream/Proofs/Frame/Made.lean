import CanStream.Proofs.Frame.Canonical

/-!
# Frames that can be made

A frame is made empty, from an identifier and data, from text or from bytes, and changed by its
transitions and setters. These are the frames that were given and then changed in place; in all of
them the sentinels name the layout of the kind.
-/

namespace CanStream.Frame

/-- The frames that can be made. -/
inductive Made : Frame → Prop
  | empty : Made empty
  | withKind {f : Frame} (k : Kind) (h : Made f) : Made (f.withKind k)
  | setWord {f : Frame} (word : UInt32) (h : Made f) : Made (f.setWord word)
  | setCanId {f : Frame} (id : UInt32) (h : Made f) : Made (f.setCanId id)
  | setExtended {f : Frame} (on : Bool) (h : Made f) : Made (f.setExtended on)
  | setLength {f g : Frame} {n : Nat} (h : Made f) (set : f.setLength? n = some g) : Made g
  | setData {f g : Frame} {data : List UInt8} (h : Made f) (set : f.setData data = .ok g) : Made g
  | fill {f : Frame} (v : UInt8) (h : Made f) : Made (f.fill v)
  | setByte {f g : Frame} {i : Nat} {v : UInt8} (h : Made f) (set : f.setByte? i v = some g) :
      Made g
  | setFdFlags {f g : Frame} {flags : FdFlags} (h : Made f) (set : f.setFdFlags? flags = some g) :
      Made g
  | withData {f : Frame} {id : CanId} {data : List UInt8} (made : withData id data = .ok f) : Made f
  | ofRawId {f : Frame} {id : UInt32} {data : List UInt8} (made : ofRawId id data = .ok f) : Made f
  | remote (id : CanId) : Made (remote id)
  | remoteWithCode {f : Frame} {id : CanId} {code : Nat} (made : remoteWithCode? id code = some f) :
      Made f
  | parse {f : Frame} {text : String} (made : parse text = .ok f) : Made f
  | decode {f : Frame} {order : ByteOrder} {bytes rest : List UInt8}
      (made : decode order bytes = .ok (f, rest)) : Made f
  | ofKernel {f : Frame} {bytes : List UInt8} {n : Nat} (made : ofKernel? bytes = some (f, n)) :
      Made f

/-- The sentinels name the layout of the frame's kind, if it is known. -/
def Sealed (f : Frame) : Prop :=
  f.kind ≠ .unknown →
    (capacity? f.sentinel0 f.sentinel1).map (· + headerSize) = some f.transferUnit

variable {f g : Frame}

theorem Given.made (given : Given f) : Made f := by
  cases given with
  | empty => exact .empty
  | ofKind k => exact .withKind k .empty
  | withData made => exact .withData made
  | ofRawId made => exact .ofRawId made
  | remote id => exact .remote id
  | remoteWithCode made => exact .remoteWithCode made
  | parse made => exact .parse made
  | decode made => exact .decode made
  | ofKernel made => exact .ofKernel made

theorem Made.outcome (h : Made f) {q : Change} (made : q.outcome f = .ok g) : Made g := by
  cases q with
  | kind k => cases made; exact h.withKind k
  | word w => cases made; exact h.setWord w
  | canId id => cases made; exact h.setCanId id
  | extended on => cases made; exact h.setExtended on
  | length n => exact h.setLength (Change.eq_some_of_elim made)
  | data bytes => exact h.setData (Change.eq_ok_of_mapError made)
  | fill v => cases made; exact h.fill v
  | byte i v => exact h.setByte (Change.eq_some_of_elim made)
  | fdFlags flags => exact h.setFdFlags (Change.eq_some_of_elim made)
  | bitRateSwitch on => exact h.setFdFlags (Change.eq_some_of_elim made)
  | errorState on => exact h.setFdFlags (Change.eq_some_of_elim made)

theorem Made.perform (h : Made f) (q : Change) : Made (q.perform f).2 := by
  rcases q.perform_cases f with ⟨g, made, performed⟩ | ⟨cause, performed⟩
  · rw [performed]
    exact h.outcome made
  · rw [performed]
    exact h

theorem Made.change (h : Made f) (changes : List Change) : Made (f.change changes) := by
  induction changes generalizing f with
  | nil => exact h
  | cons q changes ih => exact ih (h.perform q)

/-- One change more. -/
theorem exists_changes_of_outcome {q : Change} (made : q.outcome f = .ok g)
    (earlier : ∃ given changes, Given given ∧ given.change changes = f) :
    ∃ given changes, Given given ∧ given.change changes = g := by
  obtain ⟨given, changes, isGiven, rfl⟩ := earlier
  refine ⟨given, changes ++ [q], isGiven, ?_⟩
  rw [Frame.change, List.foldl_append]
  change (q.perform (given.change changes)).2 = g
  rw [q.perform_eq, made]
  rfl

/-- The frames that can be made are those that were given and then changed in place. -/
theorem made_iff : Made f ↔ ∃ given changes, Given given ∧ given.change changes = f := by
  constructor
  · intro h
    induction h with
    | empty => exact ⟨_, [], .empty, rfl⟩
    | withKind k _ ih => exact exists_changes_of_outcome (q := .kind k) rfl ih
    | setWord word _ ih => exact exists_changes_of_outcome (q := .word word) rfl ih
    | setCanId id _ ih => exact exists_changes_of_outcome (q := .canId id) rfl ih
    | setExtended on _ ih => exact exists_changes_of_outcome (q := .extended on) rfl ih
    | @setLength f g n _ set ih =>
      exact exists_changes_of_outcome (q := .length n) (by rw [Change.outcome, set]; rfl) ih
    | @setData f g data _ set ih =>
      exact exists_changes_of_outcome (q := .data data) (by rw [Change.outcome, set]; rfl) ih
    | fill v _ ih => exact exists_changes_of_outcome (q := .fill v) rfl ih
    | @setByte f g i v _ set ih =>
      exact exists_changes_of_outcome (q := .byte i v) (by rw [Change.outcome, set]; rfl) ih
    | @setFdFlags f g flags _ set ih =>
      exact exists_changes_of_outcome (q := .fdFlags flags) (by rw [Change.outcome, set]; rfl) ih
    | withData made => exact ⟨_, [], .withData made, rfl⟩
    | ofRawId made => exact ⟨_, [], .ofRawId made, rfl⟩
    | remote id => exact ⟨_, [], .remote id, rfl⟩
    | remoteWithCode made => exact ⟨_, [], .remoteWithCode made, rfl⟩
    | parse made => exact ⟨_, [], .parse made, rfl⟩
    | decode made => exact ⟨_, [], .decode made, rfl⟩
    | ofKernel made => exact ⟨_, [], .ofKernel made, rfl⟩
  · rintro ⟨given, changes, isGiven, rfl⟩
    exact isGiven.made.change changes

theorem Made.canonical (h : Made f) : f.Canonical := by
  obtain ⟨given, changes, isGiven, rfl⟩ := made_iff.mp h
  exact isGiven.consistent.canonical.change changes

/-- In every frame that can be made the sentinels name the layout of its kind. -/
theorem Made.sealed (h : Made f) : Sealed f :=
  fun known => h.canonical.shaped.transferUnit known

theorem length_encode_header (h : Header) (order : ByteOrder) :
    (h.encode order).length = headerSize := by
  cases order <;> rfl

theorem length_toKernel (known : f.kind ≠ .unknown) :
    f.toKernel.length = f.transferUnit := by
  have header := length_encode_header f.header .native
  have payload := f.payload.length_bytes
  have size : f.transferUnit = classicUnit ∨ f.transferUnit = fdUnit := by
    unfold transferUnit
    cases kind : f.kind with
    | unknown => exact absurd kind known
    | fd => exact .inr rfl
    | data => exact .inl rfl
    | error => exact .inl rfl
    | remote => exact .inl rfl
  have classic : classicUnit = 16 := rfl
  have fd : fdUnit = 72 := rfl
  have eight : headerSize = 8 := rfl
  rw [toKernel, if_neg (by omega), List.length_append, List.length_take, header, payload]
  omega

/-- The block of a frame says in its sentinels how large it is. -/
theorem Sealed.sizeAt?_toKernel (h : Sealed f) (known : f.kind ≠ .unknown)
    (rest : List UInt8) : sizeAt? (f.toKernel ++ rest) = some f.transferUnit := by
  have positive : f.transferUnit ≠ 0 := by
    intro isZero
    have named := h known
    rw [isZero, Option.map_eq_some_iff] at named
    obtain ⟨capacity, -, zero⟩ := named
    cases zero
  rw [toKernel, if_neg positive, ← h known]
  rfl

end CanStream.Frame
