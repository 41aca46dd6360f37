import CanStream.Frame.Basic

/-!
# Frames changed in place

What the owner of a frame can do to it, step by step: first what may speak against the change is
looked at, then one field after the other is written. A change that is refused halfway would leave
the frame half changed, for the frame is not given back as it was.
-/

namespace CanStream.Frame

/-- Why a change was not made. -/
inductive Refusal
  /-- The frame's kind does not allow it. -/
  | denied
  | construction (cause : ConstructionError)
  /-- There is no byte at the position. -/
  | outOfRange
  deriving DecidableEq, Repr

/-- What can be done to a frame. -/
inductive Change
  | kind (k : Kind)
  | word (word : UInt32)
  | canId (id : UInt32)
  | extended (on : Bool)
  | length (n : Nat)
  | data (bytes : List UInt8)
  | fill (v : UInt8)
  | byte (i : Nat) (v : UInt8)
  | fdFlags (flags : FdFlags)
  | bitRateSwitch (on : Bool)
  | errorState (on : Bool)
  deriving DecidableEq, Repr

/-- A computation that changes a frame, and keeps what it has written when it is refused. -/
abbrev InPlace := ExceptT Refusal (StateM Frame)

def writeLength (n : Nat) : InPlace Unit := do
  let f ← get
  if f.kind = .unknown then throw .denied
  else if f.length = n then pure ()
  else if f.kind = .remote ∨ f.kind = .error then throw .denied
  else if n ≤ f.maxLength then modify ({ · with length := n })
  else throw .denied

def writeData (data : List UInt8) : InPlace Unit := do
  let f ← get
  if f.kind = .unknown then throw (.construction .wrongFrameType)
  else if f.kind = .remote ∧ 0 < data.length then throw (.construction .wrongFrameType)
  else if f.maxLength < data.length then throw (.construction .tooMuchData)
  else
    let zeros := List.replicate (f.maxLength - data.length) 0
    modify fun f => { f with payload := f.payload.overwrite (data ++ zeros) }
    if f.kind = .error then pure () else modify ({ · with length := data.length })

def writeByte (i : Nat) (v : UInt8) : InPlace Unit := do
  if i < (← get).length then modify fun f => { f with payload := f.payload.setByte i v }
  else throw .outOfRange

def writeFdFlags (flags : FdFlags) : InPlace Unit := do
  if (← get).kind = .fd then modify ({ · with flags := flags.bits.toUInt8 })
  else throw .denied

namespace Change

def run : Change → InPlace Unit
  | kind k => modify (·.withKind k)
  | word w => modify (·.setWord w)
  | canId id => modify (·.setCanId id)
  | extended on => modify (·.setExtended on)
  | length n => writeLength n
  | data bytes => writeData bytes
  | fill v => modify (·.fill v)
  | byte i v => writeByte i v
  | fdFlags flags => writeFdFlags flags
  | bitRateSwitch on => do writeFdFlags ((← get).fdFlags.put CanStream.bitRateSwitch on)
  | errorState on => do writeFdFlags ((← get).fdFlags.put errorStateIndicator on)

/-- What comes of a change, and the frame as it is left. -/
def perform (q : Change) (f : Frame) : Except Refusal Unit × Frame := q.run.run f

end Change

/-- The frame after some changes, one after the other, whether they are made or refused. -/
def change (f : Frame) (changes : List Change) : Frame :=
  changes.foldl (fun g q => (q.perform g).2) f

end CanStream.Frame
