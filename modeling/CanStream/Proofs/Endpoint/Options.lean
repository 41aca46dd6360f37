import CanStream.Endpoint.Basic
import CanStream.Proofs.Endpoint.Calls
import CanStream.Proofs.Protocol.Hook
import Mathlib.Data.List.Nodup

/-!
# Options on record

An option that is set is put on record, behind those that were set before. What an option was set to
last is told from the end of the record.
-/

namespace CanStream.Endpoint

/-- An option that is set is put on record. -/
theorem setOption_ok {name : OptionName} {value : List UInt8} {e e' : Endpoint}
    (ran : e.setOption name value = (.ok (), e')) :
    e' = { e with options := e.options ++ [(name, value)] } := by
  unfold setOption whileOpen at ran
  split at ran
  · simp only at ran
    split at ran
    · cases ran
    · exact (Prod.mk.inj ran).2.symm
  · cases ran

theorem setOption_error {name : OptionName} {value : List UInt8} {e e' : Endpoint}
    {cause : IoError} (ran : e.setOption name value = (.error cause, e')) : e' = e := by
  unfold setOption whileOpen at ran
  split at ran
  · simp only at ran
    split at ran
    · exact (Prod.mk.inj ran).2.symm
    · cases ran
  · exact (Prod.mk.inj ran).2.symm

@[simp] theorem lookup_snd (name : String) (e : Endpoint) : (lookup name e).2 = e := by
  unfold lookup
  split <;> rfl

/-- If each value puts one option on record, the values put theirs on record in order. -/
theorem recorded_of_forM {σ ε α : Type} {h : α → Hook σ ε PUnit}
    (option : σ → α → OptionName × List UInt8)
    (once : ∀ {a} {s after : σ × Endpoint}, (h a).exec s = (.ok (), after) →
      after.1 = s.1 ∧ after.2.options = s.2.options ++ [option s.1 a])
    {values : List α} {s after : σ × Endpoint}
    (ran : (values.forM h).exec s = (.ok (), after)) :
    after.1 = s.1 ∧ after.2.options = s.2.options ++ values.map (option s.1) := by
  induction values generalizing s with
  | nil =>
    obtain ⟨-, rfl⟩ := Prod.mk.inj ran
    exact ⟨rfl, (List.append_nil _).symm⟩
  | cons a rest ih =>
    obtain ⟨⟨⟩, s₁, first, ran⟩ := Hook.exists_of_bind_ok ran
    obtain ⟨same₁, grown₁⟩ := once first
    obtain ⟨same, grown⟩ := ih ran
    refine ⟨same.trans same₁, ?_⟩
    rw [grown, grown₁, same₁, List.map_cons, List.append_assoc]
    rfl

/-- A descriptor that could be bound is open, and bound to the address. -/
theorem bindTo_ok {address : Address} {e e' : Endpoint} (ran : e.bindTo address = (.ok (), e')) :
    e.isOpen = true ∧ e' = { e with bound := some address } := by
  unfold bindTo whileOpen at ran
  split at ran
  case isTrue isOpen =>
    simp only at ran
    split at ran
    · cases ran
    · exact ⟨isOpen, (Prod.mk.inj ran).2.symm⟩
  case isFalse => cases ran

/-- A descriptor that is closed is not bound any more. -/
theorem bound_close {e : Endpoint} (isOpen : e.isOpen = true) : (close e).2.bound = none := by
  unfold close
  rw [if_pos isOpen]
  simp only
  split <;> rfl

theorem close_of_shut {e : Endpoint} (shut : e.isOpen = false) : close e = (.ok (), e) := by
  unfold close
  rw [shut]
  rfl

@[simp] theorem options_close (e : Endpoint) : (close e).2.options = e.options := by
  unfold close
  split
  · simp only
    split <;> rfl
  · rfl

/-- How the descriptor is set up: its type, the address it is bound to, and the options on record.
-/
def setting (e : Endpoint) :
    Option SocketType × Option Address × List (OptionName × List UInt8) :=
  (e.opened, e.bound, e.options)

@[simp] theorem setting_read (n : Nat) (e : Endpoint) : (read n e).2.setting = e.setting := by
  refine view_whileOpen (fun e => ?_) e
  split <;> rfl

@[simp] theorem setting_write (data : List UInt8) (e : Endpoint) :
    (write data e).2.setting = e.setting := by
  obtain ⟨rest, -, ⟨code, ran⟩ | ⟨part, -, ran⟩⟩ := write_cases data e
  · rw [ran]
    rfl
  · rw [ran]
    rfl

@[simp] theorem setting_poll (read write : Bool) (e : Endpoint) :
    (poll read write e).2.setting = e.setting := by
  unfold poll
  split
  · rfl
  · rfl
  · rfl
  · exact view_whileOpen (fun _ => rfl) e

@[simp] theorem setting_cue (e : Endpoint) (q : Cue) : (e.cue q).setting = e.setting := by
  cases q <;> rfl

theorem option?_congr {e e' : Endpoint} (same : e'.options = e.options) (name : OptionName) :
    e'.option? name = e.option? name := by
  rw [option?, option?, same]

/-- What was put on record last for an option is what it was set to last, if that is set once. -/
theorem option?_of_grown {e : Endpoint} {before added : List (OptionName × List UInt8)}
    (grown : e.options = before ++ added) (distinct : (added.map Prod.fst).Nodup)
    {option : OptionName × List UInt8} (member : option ∈ added) :
    e.option? option.1 = some option.2 := by
  have found : added.reverse.find? (·.1 == option.1) = some option := by
    cases first : added.reverse.find? (·.1 == option.1) with
    | none =>
      have other := List.find?_eq_none.mp first option (List.mem_reverse.mpr member)
      simp at other
    | some last =>
      have isLast : last ∈ added := List.mem_reverse.mp (List.mem_of_find?_eq_some first)
      have same : last.1 = option.1 := by simpa using List.find?_some first
      rw [List.inj_on_of_nodup_map distinct isLast member same]
  rw [option?, grown, List.reverse_append, List.find?_append, found]
  rfl

theorem option?_append_self (e : Endpoint) (name : OptionName) (value : List UInt8) :
    { e with options := e.options ++ [(name, value)] }.option? name = some value := by
  have last : (name, value) ∈ [(name, value)] := List.mem_singleton_self _
  exact option?_of_grown rfl (by simp) last

theorem option?_append_of_ne (e : Endpoint) {name other : OptionName} (value : List UInt8)
    (ne : other ≠ name) :
    { e with options := e.options ++ [(other, value)] }.option? name = e.option? name := by
  simp [option?, ne]

end CanStream.Endpoint
