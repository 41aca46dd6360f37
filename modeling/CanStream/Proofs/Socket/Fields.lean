import CanStream.Proofs.Socket.Outline

/-!
# What the changes of a connection leave alone

A change of a connection that depends on a condition still is a change of a few fields. The lemmas
bring each into that form.
-/

namespace CanStream.Connection

variable {P : Protocol}

theorem exists_resumeReading (c : Connection P) :
    ∃ on, c.resumeReading = { c with wantsRead := on } := by
  unfold resumeReading
  split
  · exact ⟨true, rfl⟩
  · exact ⟨c.wantsRead, rfl⟩

theorem exists_settleRead (c before : Connection P) (window : Nat)
    (result : Except IoError (List UInt8)) :
    ∃ buffer on, c.settleRead before window result =
      { c with readBuffer := buffer, wantsRead := on } := by
  cases result with
  | ok bytes => exact ⟨_, _, rfl⟩
  | error cause =>
    rw [settleRead]
    split
    · exact ⟨_, _, rfl⟩
    · exact ⟨_, _, rfl⟩

@[simp] theorem endpoint_settleRead (c before : Connection P) (window : Nat)
    (result : Except IoError (List UInt8)) :
    (c.settleRead before window result).endpoint = c.endpoint := by
  obtain ⟨buffer, on, settled⟩ := exists_settleRead c before window result
  rw [settled]

/-- A read never makes a socket wait for data. -/
theorem wantsRead_of_settleRead {c before : Connection P} {window : Nat}
    {result : Except IoError (List UInt8)}
    (waits : (c.settleRead before window result).wantsRead = true) : c.wantsRead = true := by
  cases result with
  | ok bytes => exact (Bool.and_eq_true_iff.mp waits).1
  | error cause =>
    rw [settleRead] at waits
    split at waits
    · exact (Bool.and_eq_true_iff.mp waits).1
    · exact (Bool.and_eq_true_iff.mp waits).1

theorem enqueue_empty (c : Connection P) :
    c.enqueue [] = { c with wantsWrite := c.wantsWrite || !c.writeBuffer.isEmpty } :=
  rfl

theorem enqueue_of_ne_nil (c : Connection P) {data : List UInt8} (nonempty : data ≠ []) :
    c.enqueue data =
      { c with
        writeBuffer := c.writeBuffer.append data
        protocol := P.messageQueued data.length c.protocol
        wantsWrite := c.wantsWrite || !(c.writeBuffer.append data).isEmpty } := by
  unfold enqueue
  rw [if_neg]
  simpa using nonempty

@[simp] theorem pending_enqueue (c : Connection P) (data : List UInt8) :
    (c.enqueue data).pending = c.pending := by
  cases data <;> rfl

@[simp] theorem reportingRead_enqueue (c : Connection P) (data : List UInt8) :
    (c.enqueue data).reportingRead = c.reportingRead := by
  cases data <;> rfl

@[simp] theorem reportingWrite_enqueue (c : Connection P) (data : List UInt8) :
    (c.enqueue data).reportingWrite = c.reportingWrite := by
  cases data <;> rfl

@[simp] theorem readBuffer_enqueue (c : Connection P) (data : List UInt8) :
    (c.enqueue data).readBuffer = c.readBuffer := by
  cases data <;> rfl

theorem refuseWrite_of_invalid (c : Connection P) {cause : IoError}
    (invalid : cause.kind = .invalidData) :
    c.refuseWrite cause = { c with writeBuffer := c.writeBuffer.clear, wantsWrite := false } :=
  if_pos invalid

theorem refuseWrite_of_valid (c : Connection P) {cause : IoError}
    (valid : cause.kind ≠ .invalidData) : c.refuseWrite cause = c :=
  if_neg valid

theorem exists_refuseWrite (c : Connection P) (cause : IoError) :
    ∃ buffer on, c.refuseWrite cause = { c with writeBuffer := buffer, wantsWrite := on } := by
  unfold refuseWrite
  split
  · exact ⟨_, _, rfl⟩
  · exact ⟨_, _, rfl⟩

theorem exists_settleWrite (c : Connection P) (result : Except IoError Nat) :
    ∃ buffer pending started on, c.settleWrite result =
      { c with
        writeBuffer := buffer, pending := pending, writeStarted := started, wantsWrite := on } := by
  cases result with
  | ok n => exact ⟨_, _, _, _, rfl⟩
  | error cause =>
    obtain ⟨buffer, on, refused⟩ := c.exists_refuseWrite cause
    exact ⟨buffer, c.pending, c.writeStarted, on, refused⟩

@[simp] theorem pending_refuseWrite (c : Connection P) (cause : IoError) :
    (c.refuseWrite cause).pending = c.pending := by
  obtain ⟨buffer, on, refused⟩ := c.exists_refuseWrite cause
  rw [refused]

@[simp] theorem readBuffer_refuseWrite (c : Connection P) (cause : IoError) :
    (c.refuseWrite cause).readBuffer = c.readBuffer := by
  obtain ⟨buffer, on, refused⟩ := c.exists_refuseWrite cause
  rw [refused]

end CanStream.Connection
