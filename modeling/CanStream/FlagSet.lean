/-!
# Flag sets

A flag family names some of the bits of a word. A flag set is a word that is read through a family;
bits without a name are kept. Flags of several bits may overlap others, and then a set lists a flag
only if it brings a bit that no flag listed before has.
-/

namespace CanStream

/-- A family of named flags, in the order in which they are listed. -/
structure FlagFamily where
  name : String
  flags : List (String × UInt32)

namespace FlagFamily

def known (F : FlagFamily) : UInt32 :=
  F.flags.foldl (fun word flag => word ||| flag.2) 0

end FlagFamily

/-- A word read through a family of flags. -/
structure FlagSet (F : FlagFamily) where
  bits : UInt32
  deriving DecidableEq, Repr

namespace FlagSet

variable {F : FlagFamily}

def empty : FlagSet F := ⟨0⟩

instance : Inhabited (FlagSet F) := ⟨empty⟩

def isEmpty (s : FlagSet F) : Bool := s.bits == 0

def contains (s : FlagSet F) (mask : UInt32) : Bool := s.bits &&& mask == mask

def intersects (s : FlagSet F) (mask : UInt32) : Bool := s.bits &&& mask != 0

/-- The set with the bits of the mask switched on or off. -/
def put (s : FlagSet F) (mask : UInt32) (on : Bool) : FlagSet F :=
  ⟨if on then s.bits ||| mask else s.bits &&& ~~~mask⟩

def truncate (s : FlagSet F) : FlagSet F := ⟨s.bits &&& F.known⟩

def strict? (s : FlagSet F) : Option (FlagSet F) :=
  if s.bits &&& ~~~F.known = 0 then some s else none

def complement (s : FlagSet F) : FlagSet F := ⟨~~~s.bits &&& F.known⟩

def isAll (s : FlagSet F) : Bool := s.contains F.known

/-- The names of the flags contained in `bits` that bring a bit of `rest`, and what they leave of
it. -/
def listed (bits : UInt32) : List (String × UInt32) → UInt32 → List String × UInt32
  | [], rest => ([], rest)
  | (name, flag) :: more, rest =>
      if bits &&& flag = flag ∧ rest &&& flag ≠ 0 then
        let (names, left) := listed bits more (rest &&& ~~~flag)
        (name :: names, left)
      else listed bits more rest

def names (s : FlagSet F) : List String := (listed s.bits F.flags s.bits).1

/-- The bits of the set that none of its flags accounts for. -/
def unnamed (s : FlagSet F) : UInt32 := (listed s.bits F.flags s.bits).2

def wordText (word : UInt32) : String :=
  "0x" ++ String.ofList (Nat.toDigits 16 word.toNat)

/-- The family's name around the flags, which stand between bars with the unnamed bits last. -/
def describe (s : FlagSet F) : String :=
  let parts := s.names ++ (if s.unnamed = 0 then [] else [wordText s.unnamed])
  let inside := if parts.isEmpty then wordText 0 else " | ".intercalate parts
  F.name ++ "(" ++ inside ++ ")"

end FlagSet

end CanStream
