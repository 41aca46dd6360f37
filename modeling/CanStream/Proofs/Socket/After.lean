import CanStream.Socket.Basic

/-!
# What holds after an operation

`After m s Q` says that whenever the operation `m` returns from the socket `s`, the answer and the
socket are as `Q` says. An operation that never returns satisfies it. The lemmas take an operation
apart, so that a statement about it becomes one about the events that it raises.
-/

namespace CanStream.Socket

variable {P : Protocol} {α β ε : Type} {s : Socket P} {Q R : α → Socket P → Prop}

/-- `Q` holds of the answer and the socket whenever the operation returns. -/
def After (m : SocketM P α) (s : Socket P) (Q : α → Socket P → Prop) : Prop :=
  ∀ a s', m s = some (a, s') → Q a s'

theorem After.mono {m : SocketM P α} (h : After m s Q) (hQ : ∀ a s', Q a s' → R a s') :
    After m s R :=
  fun a s' hm => hQ a s' (h a s' hm)

@[simp] theorem after_pure (a : α) : After (pure a : SocketM P α) s Q ↔ Q a s := by
  constructor
  · intro h
    exact h a s rfl
  · intro h b s' hb
    obtain ⟨rfl, rfl⟩ := Prod.mk.inj (Option.some.inj hb)
    exact h

theorem bind_eq_some {m : SocketM P α} {f : α → SocketM P β} {b : β} {s s' : Socket P} :
    (m >>= f) s = some (b, s') ↔ ∃ a s₁, m s = some (a, s₁) ∧ f a s₁ = some (b, s') := by
  simp only [bind, StateT.bind, Option.bind_eq_some_iff, Prod.exists]

theorem bind_of_eq {m : SocketM P α} {f : α → SocketM P β} {s s₁ : Socket P} {a : α}
    (ran : m s = some (a, s₁)) : (m >>= f) s = f a s₁ := by
  simp only [bind, StateT.bind, ran, Option.bind_some]

theorem bind_of_none {m : SocketM P α} {f : α → SocketM P β} {s : Socket P}
    (ran : m s = none) : (m >>= f) s = none := by
  simp only [bind, StateT.bind, ran, Option.bind_none]

/-- An operation whose answer is not looked at. -/
theorem eq_of_bind_pure {m : SocketM P α} {b b' : β} {s s' : Socket P}
    (ran : (do let _ ← m; pure b : SocketM P β) s = some (b', s')) :
    b = b' ∧ ∃ a, m s = some (a, s') := by
  obtain ⟨a, s₁, first, last⟩ := bind_eq_some.mp ran
  obtain ⟨same, rfl⟩ := Prod.mk.inj (Option.some.inj last)
  exact ⟨same, a, first⟩

@[simp] theorem after_bind {m : SocketM P α} {f : α → SocketM P β} {Q : β → Socket P → Prop} :
    After (m >>= f) s Q ↔ After m s fun a s' => After (f a) s' Q := by
  constructor
  · intro h a s₁ hm b s' hf
    exact h b s' (bind_eq_some.mpr ⟨a, s₁, hm, hf⟩)
  · intro h b s' hb
    obtain ⟨a, s₁, hm, hf⟩ := bind_eq_some.mp hb
    exact h a s₁ hm b s' hf

/-- The answer of an operation that returns `f` of the state and changes it by `g`. -/
theorem after_of_eq {m : SocketM P α} {a : α} {s₁ : Socket P} (hm : m s = some (a, s₁)) :
    After m s Q ↔ Q a s₁ := by
  constructor
  · intro h
    exact h a s₁ hm
  · intro h b s' hb
    rw [hm, Option.some.injEq, Prod.mk.injEq] at hb
    obtain ⟨rfl, rfl⟩ := hb
    exact h

@[simp] theorem after_get {Q : Socket P → Socket P → Prop} :
    After (get : SocketM P (Socket P)) s Q ↔ Q s s :=
  after_of_eq rfl

@[simp] theorem after_set {s₁ : Socket P} {Q : Unit → Socket P → Prop} :
    After (set s₁ : SocketM P Unit) s Q ↔ Q () s₁ :=
  after_of_eq rfl

@[simp] theorem after_modify {f : Socket P → Socket P} {Q : Unit → Socket P → Prop} :
    After (modify f : SocketM P Unit) s Q ↔ Q () (f s) :=
  after_of_eq rfl

@[simp] theorem after_update {f : Connection P → Connection P} {Q : Unit → Socket P → Prop} :
    After (update f) s Q ↔ Q () (s.change f) :=
  after_of_eq rfl

@[simp] theorem after_record {entry : Entry P} {Q : Unit → Socket P → Prop} :
    After (record entry) s Q ↔ Q () (s.log entry) :=
  after_of_eq rfl

@[simp] theorem after_runHook {hook : Hook P.State ε α} {Q : Except ε α → Socket P → Prop} :
    After (runHook hook) s Q ↔
      Q (hook.exec (s.protocol, s.endpoint)).1 (s.hooked (hook.exec (s.protocol, s.endpoint)).2) :=
  after_of_eq rfl

@[simp] theorem after_callEndpoint {call : Endpoint.Call α}
    {Q : Except IoError α → Socket P → Prop} :
    After (callEndpoint call) s Q ↔ Q (call s.endpoint).1 (s.called (call s.endpoint).2) :=
  after_of_eq rfl

@[simp] theorem after_enqueue {e : P.Event} {Q : Unit → Socket P → Prop} :
    After (enqueue e) s Q ↔ Q () { s.log (.raised e) with queue := s.queue ++ [e] } :=
  after_of_eq rfl

@[simp] theorem after_never : After (never : SocketM P α) s Q := by
  intro a s' h
  simp [never] at h

theorem after_ite {c : Prop} [Decidable c] {m n : SocketM P α} :
    After (if c then m else n) s Q ↔ (c → After m s Q) ∧ (¬c → After n s Q) := by
  by_cases h : c <;> simp [h]

/-- Where the one operation has an outcome, the other has the same, or none; and none only if it is
an outcome that may be lost. -/
def MayLose (lost : α → Socket P → Prop) (m m' : SocketM P α) (s : Socket P) : Prop :=
  ∀ a s', m s = some (a, s') → m' s = some (a, s') ∨ m' s = none ∧ lost a s'

namespace MayLose

variable {lost : α → Socket P → Prop}

theorem refl (m : SocketM P α) : MayLose lost m m s := fun _ _ ran => .inl ran

theorem never (m' : SocketM P α) : MayLose lost Socket.never m' s := fun _ _ ran => by cases ran

theorem ite {c : Prop} [Decidable c] {m m' n n' : SocketM P α} (yes : MayLose lost m m' s)
    (no : MayLose lost n n' s) :
    MayLose lost (if c then m else n) (if c then m' else n') s := by
  split
  · exact yes
  · exact no

/-- Operations that go on with one another, if what may be lost at first leads to what may be. -/
theorem bind {m m' : SocketM P α} {f f' : α → SocketM P β} {lost' : β → Socket P → Prop}
    (first : MayLose lost m m' s)
    (next : ∀ a s₁, m' s = some (a, s₁) → MayLose lost' (f a) (f' a) s₁)
    (leads : ∀ a s₁, lost a s₁ → After (f a) s₁ lost') :
    MayLose lost' (m >>= f) (m' >>= f') s := by
  intro b s' ran
  obtain ⟨a, s₁, begun, ended⟩ := bind_eq_some.mp ran
  rcases first a s₁ begun with same | ⟨unended, mayLose⟩
  · rw [bind_of_eq same]
    exact next a s₁ same b s' ended
  · exact .inr ⟨bind_of_none unended, leads a s₁ mayLose b s' ended⟩

theorem get {f f' : Socket P → SocketM P α} (next : MayLose lost (f s) (f' s) s) :
    MayLose lost (MonadState.get >>= f) (MonadState.get >>= f') s :=
  next

/-- Operations with the same beginning. -/
theorem bind_same {m : SocketM P β} {f f' : β → SocketM P α}
    (next : ∀ b s₁, m s = some (b, s₁) → MayLose lost (f b) (f' b) s₁) :
    MayLose lost (m >>= f) (m >>= f') s := by
  intro a s' ran
  obtain ⟨b, s₁, begun, ended⟩ := bind_eq_some.mp ran
  rw [bind_of_eq begun]
  exact next b s₁ begun a s' ended

end MayLose

theorem get_bind_apply (f : Socket P → SocketM P α) : (get >>= f) s = f s s := rfl

theorem update_bind_apply (g : Connection P → Connection P) (f : Unit → SocketM P α) :
    (update g >>= f) s = f () (s.change g) :=
  rfl

theorem record_bind_apply (entry : Entry P) (f : Unit → SocketM P α) :
    (record entry >>= f) s = f () (s.log entry) :=
  rfl

theorem runHook_bind_apply (hook : Hook P.State ε α) (f : Except ε α → SocketM P β) :
    (runHook hook >>= f) s = f (hook.exec (s.protocol, s.endpoint)).1
      (s.hooked (hook.exec (s.protocol, s.endpoint)).2) :=
  rfl

end CanStream.Socket
