import CanStream.FlagSet

/-!
# Identifiers

An identifier has eleven bits in the standard format and twenty-nine in the extended one. On the
wire between a program and the kernel it is the low part of a word whose three top bits are flags.
-/

namespace CanStream

def extendedFlag : UInt32 := 0x80000000

def remoteFlag : UInt32 := 0x40000000

def errorFlag : UInt32 := 0x20000000

def standardMask : UInt32 := 0x7FF

def extendedMask : UInt32 := 0x1FFFFFFF

def idFlagFamily : FlagFamily where
  name := "IdFlags"
  flags := [("EFF", extendedFlag), ("RTR", remoteFlag), ("ERR", errorFlag)]

abbrev IdFlags := FlagSet idFlagFamily

/-- The bit of a payload sent at the second bit rate. -/
def bitRateSwitch : UInt32 := 1

/-- The bit of a sender in the error passive state. -/
def errorStateIndicator : UInt32 := 2

def fdFlagFamily : FlagFamily where
  name := "FdFlags"
  flags := [("BRS", bitRateSwitch), ("ESI", errorStateIndicator)]

abbrev FdFlags := FlagSet fdFlagFamily

/-- The class of an error frame that stands for a frame nobody could read. -/
def unknownFrameClass : UInt32 := 0x200

/-- The classes of errors, as they stand in the identifier of an error frame and in an error mask.
-/
def errorClassFamily : FlagFamily where
  name := "ErrorClass"
  flags :=
    [("TX_TIMEOUT", 0x1), ("LOST_ARBITRATION", 0x2), ("CONTROLLER", 0x4), ("PROTOCOL", 0x8),
      ("TRANSCEIVER", 0x10), ("NO_ACK", 0x20), ("BUS_OFF", 0x40), ("BUS_ERROR", 0x80),
      ("RESTARTED", 0x100), ("UNKNOWN_FRAME", unknownFrameClass)]

abbrev ErrorClass := FlagSet errorClassFamily

/-- An identifier in one of the two formats. -/
inductive CanId
  | standard (raw : Fin 0x800)
  | extended (raw : Fin 0x20000000)
  deriving DecidableEq, Repr

namespace CanId

/-- The standard identifier of a number, if it has at most eleven bits. -/
def standard? (n : Nat) : Option CanId :=
  if h : n < 0x800 then some (.standard ⟨n, h⟩) else none

/-- The extended identifier of a number, if it has at most twenty-nine bits. -/
def extended? (n : Nat) : Option CanId :=
  if h : n < 0x20000000 then some (.extended ⟨n, h⟩) else none

/-- Whether the identifier is in the extended format. -/
def isExtended : CanId → Bool
  | .standard _ => false
  | .extended _ => true

/-- The number of the identifier, without its format. -/
def raw : CanId → UInt32
  | .standard n => UInt32.ofNat n.val
  | .extended n => UInt32.ofNat n.val

/-- The identifier word, with the flag of the format. -/
def word : CanId → UInt32
  | .standard n => UInt32.ofNat n.val
  | .extended n => UInt32.ofNat n.val ||| extendedFlag

/-- The identifier with a number, in the shortest format that holds it. -/
def ofRaw? (n : UInt32) : Option CanId :=
  if n ≤ standardMask then standard? n.toNat else extended? n.toNat

/-- The identifier in a word, in the format that the word's flag says. -/
def ofWord? (word : UInt32) : Option CanId :=
  if word &&& extendedFlag ≠ 0 then extended? (word &&& extendedMask).toNat
  else standard? (word &&& standardMask).toNat

end CanId

end CanStream
