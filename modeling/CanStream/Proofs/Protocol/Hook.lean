import CanStream.Socket.Protocol

/-!
# What comes of a hook

A hook is a computation on the protocol's state and the endpoint. The lemmas compute its outcome
from those of its parts.
-/

namespace CanStream.Hook

variable {σ ε α β : Type} (s : σ × Endpoint)

@[simp] theorem exec_pure (a : α) : (pure a : Hook σ ε α).exec s = (.ok a, s) := rfl

@[simp] theorem exec_fail (cause : ε) : (fail cause : Hook σ ε α).exec s = (.error cause, s) := rfl

@[simp] theorem exec_state : (state : Hook σ ε σ).exec s = (.ok s.1, s) := rfl

@[simp] theorem exec_modifyState (f : σ → σ) :
    (modifyState f : Hook σ ε Unit).exec s = (.ok (), (f s.1, s.2)) := rfl

@[simp] theorem exec_call (wrap : IoError → ε) (c : Endpoint.Call α) :
    (call wrap c : Hook σ ε α).exec s = ((c s.2).1.mapError wrap, (s.1, (c s.2).2)) := rfl

@[simp] theorem exec_attempt (c : Endpoint.Call α) :
    (attempt c : Hook σ ε (Except IoError α)).exec s = (.ok (c s.2).1, (s.1, (c s.2).2)) := rfl

/-- Once a hook has given a result, what follows goes on from there. -/
theorem exec_bind_ok {h : Hook σ ε α} {f : α → Hook σ ε β} {a : α} {s' : σ × Endpoint}
    (first : h.exec s = (.ok a, s')) : (h >>= f).exec s = (f a).exec s' := by
  have run : (ExceptT.run h : StateM _ _).run s = (.ok a, s') := first
  simp only [exec, ExceptT.run_bind, StateT.run_bind, run]
  rfl

/-- Once a hook has failed, nothing follows. -/
theorem exec_bind_error {h : Hook σ ε α} {f : α → Hook σ ε β} {cause : ε} {s' : σ × Endpoint}
    (first : h.exec s = (.error cause, s')) : (h >>= f).exec s = (.error cause, s') := by
  have run : (ExceptT.run h : StateM _ _).run s = (.error cause, s') := first
  simp only [exec, ExceptT.run_bind, StateT.run_bind, run]
  rfl

@[simp] theorem exec_state_bind (f : σ → Hook σ ε α) :
    (state >>= f).exec s = (f s.1).exec s :=
  exec_bind_ok s rfl

@[simp] theorem exec_attempt_bind (c : Endpoint.Call β) (f : Except IoError β → Hook σ ε α) :
    (attempt c >>= f).exec s = (f (c s.2).1).exec (s.1, (c s.2).2) :=
  exec_bind_ok s rfl

/-- A hook gives a result only if its first part did. -/
theorem exists_of_bind_ok {s s' : σ × Endpoint} {h : Hook σ ε α} {f : α → Hook σ ε β} {b : β}
    (ran : (h >>= f).exec s = (.ok b, s')) :
    ∃ a s₁, h.exec s = (.ok a, s₁) ∧ (f a).exec s₁ = (.ok b, s') := by
  rcases first : h.exec s with ⟨cause | a, s₁⟩
  · rw [exec_bind_error s first] at ran
    cases ran
  · rw [exec_bind_ok s first] at ran
    exact ⟨a, s₁, rfl, ran⟩

theorem eq_of_call_ok {s s' : σ × Endpoint} {wrap : IoError → ε} {c : Endpoint.Call α} {a : α}
    (ran : (call wrap c : Hook σ ε α).exec s = (.ok a, s')) :
    c s.2 = (.ok a, s'.2) ∧ s'.1 = s.1 := by
  rw [exec_call] at ran
  obtain ⟨answer, rfl⟩ := Prod.mk.inj ran
  rcases called : c s.2 with ⟨cause | b, e⟩
  · rw [called] at answer
    cases answer
  · rw [called] at answer
    obtain rfl := Except.ok.inj answer
    exact ⟨rfl, rfl⟩

/-- A property of hooks that a hook has if its parts have it. -/
structure Closed (C : ∀ {α : Type}, Hook σ ε α → Prop) : Prop where
  pure : ∀ {α : Type} (a : α), C (Pure.pure a)
  fail : ∀ {α : Type} cause, C (Hook.fail cause : Hook σ ε α)
  bind : ∀ {α β : Type} {h : Hook σ ε α} {f : α → Hook σ ε β}, C h → (∀ a, C (f a)) → C (h >>= f)

theorem Closed.ite {C : ∀ {α : Type}, Hook σ ε α → Prop} {c : Prop} [Decidable c]
    {h h' : Hook σ ε α} (yes : C h) (no : C h') : C (if c then h else h') := by
  split
  · exact yes
  · exact no

/-- The hook leaves a view of the state and the endpoint as it was, whether it fails or not. -/
def Keeps {γ : Type} (view : σ × Endpoint → γ) (h : Hook σ ε α) : Prop :=
  ∀ s, view (h.exec s).2 = view s

section

variable {γ : Type} {view : σ × Endpoint → γ}

theorem Keeps.of_exec {h : Hook σ ε α} (kept : Keeps view h) {s after : σ × Endpoint}
    {result : Except ε α} (ran : h.exec s = (result, after)) : view after = view s := by
  have same := kept s
  rw [ran] at same
  exact same

theorem Keeps.pure (a : α) : Keeps view (Pure.pure a : Hook σ ε α) := fun _ => rfl

theorem Keeps.fail (cause : ε) : Keeps view (Hook.fail cause : Hook σ ε α) := fun _ => rfl

theorem Keeps.state : Keeps view (Hook.state : Hook σ ε σ) := fun _ => rfl

theorem Keeps.modifyState {f : σ → σ} (h : ∀ s e, view (f s, e) = view (s, e)) :
    Keeps view (Hook.modifyState f : Hook σ ε Unit) :=
  fun s => h s.1 s.2

theorem Keeps.call {wrap : IoError → ε} {c : Endpoint.Call α}
    (h : ∀ s e, view (s, (c e).2) = view (s, e)) : Keeps view (Hook.call wrap c : Hook σ ε α) :=
  fun s => h s.1 s.2

theorem Keeps.attempt {c : Endpoint.Call α} (h : ∀ s e, view (s, (c e).2) = view (s, e)) :
    Keeps view (Hook.attempt c : Hook σ ε (Except IoError α)) :=
  fun s => h s.1 s.2

theorem Keeps.bind {h : Hook σ ε α} {f : α → Hook σ ε β} (first : Keeps view h)
    (next : ∀ a, Keeps view (f a)) : Keeps view (h >>= f) := by
  intro s
  have kept := first s
  rcases ran : h.exec s with ⟨cause | a, s'⟩
  · rw [exec_bind_error s ran]
    rw [ran] at kept
    exact kept
  · rw [exec_bind_ok s ran, next a s']
    rw [ran] at kept
    exact kept

theorem Keeps.ite {c : Prop} [Decidable c] {h h' : Hook σ ε α} (yes : Keeps view h)
    (no : Keeps view h') : Keeps view (if c then h else h') := by
  split
  · exact yes
  · exact no

theorem Keeps.forM {h : α → Hook σ ε PUnit} (kept : ∀ a, Keeps view (h a)) (values : List α) :
    Keeps view (values.forM h) := by
  induction values with
  | nil => exact .pure ()
  | cons a rest ih => exact .bind (kept a) fun _ => ih

theorem Keeps.closed : Closed (Keeps view : ∀ {α : Type}, Hook σ ε α → Prop) :=
  ⟨Keeps.pure, Keeps.fail, Keeps.bind⟩

end

/-- If the hook fails, it leaves all as it was. -/
def Restores (h : Hook σ ε α) : Prop :=
  ∀ s after cause, h.exec s = (.error cause, after) → after = s

theorem Restores.of_exec {h : Hook σ ε α} (restores : Restores h) {s after : σ × Endpoint}
    {cause : ε} (ran : h.exec s = (.error cause, after)) : after = s :=
  restores s after cause ran

theorem Restores.pure (a : α) : Restores (Pure.pure a : Hook σ ε α) := by
  intro s after cause ran
  rw [exec_pure] at ran
  cases ran

theorem Restores.fail (cause : ε) : Restores (Hook.fail cause : Hook σ ε α) := by
  intro s after cause ran
  exact (Prod.mk.inj ran).2.symm

theorem Restores.call {wrap : IoError → ε} {c : Endpoint.Call α}
    (h : ∀ {e e' cause}, c e = (.error cause, e') → e' = e) :
    Restores (Hook.call wrap c : Hook σ ε α) := by
  intro s after cause ran
  rw [exec_call] at ran
  obtain ⟨answer, rfl⟩ := Prod.mk.inj ran
  rcases called : c s.2 with ⟨cause' | a, e⟩
  · rw [h called]
  · rw [called] at answer
    cases answer

/-- What is done before the hook can fail has to leave all as it was. -/
theorem Restores.bind {h : Hook σ ε α} {f : α → Hook σ ε β} (first : Keeps id h)
    (next : ∀ a, Restores (f a)) : Restores (h >>= f) := by
  intro s after cause ran
  rcases done : h.exec s with ⟨cause' | a, s₁⟩
  · rw [exec_bind_error s done] at ran
    rw [← (Prod.mk.inj ran).2]
    exact first.of_exec done
  · rw [exec_bind_ok s done] at ran
    exact ((next a).of_exec ran).trans (first.of_exec done)

theorem Restores.ite {c : Prop} [Decidable c] {h h' : Hook σ ε α} (yes : Restores h)
    (no : Restores h') : Restores (if c then h else h') := by
  split
  · exact yes
  · exact no

end CanStream.Hook
