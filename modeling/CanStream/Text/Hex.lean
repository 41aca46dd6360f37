import CanStream.Text.Number
import CanStream.Text.Quoted

/-!
# Hexadecimal text of byte strings

Two digits for each byte, the high half first. Writing is in one of the two cases, reading accepts
both. A text of odd length is refused before its digits are looked at, and lengths and positions are
counted in the bytes of the text's UTF-8 form.
-/

namespace CanStream.Hex

def digit (upper : Bool) (n : Nat) : Char :=
  if n < 10 then Char.ofNat (48 + n)
  else if upper then Char.ofNat (55 + n)
  else Char.ofNat (87 + n)

def ofByte (upper : Bool) (b : UInt8) : List Char :=
  [digit upper (b.toNat / 16), digit upper (b.toNat % 16)]

def encode (upper : Bool) (bytes : List UInt8) : List Char :=
  bytes.flatMap (ofByte upper)

def lower (bytes : List UInt8) : String :=
  String.ofList (encode false bytes)

def upper (bytes : List UInt8) : String :=
  String.ofList (encode true bytes)

def ofNat (upper : Bool) (n : Nat) : List Char :=
  let ds := Nat.toDigits 16 n
  if upper then ds.map Char.toUpper else ds

/-- A number in upper case digits, filled up with zeros to `width`. -/
def padded (width n : Nat) : List Char :=
  let ds := ofNat true n
  List.replicate (width - ds.length) '0' ++ ds

/-- Why a text is not the hexadecimal form of a byte string. -/
inductive DecodeError
  | oddLength
  | invalidCharacter (byte : UInt8) (position : Nat)
  deriving DecidableEq, Repr

/-- The wording of the fault. A character is named by the first byte of its UTF-8 form. -/
def DecodeError.message : DecodeError → String
  | .oddLength => "Odd number of digits"
  | .invalidCharacter byte position =>
      "Invalid character " ++ Quoted.char (Char.ofNat byte.toNat) ++
        " at position " ++ toString position

def leadByte (c : Char) : UInt8 :=
  let n := c.toNat
  if n < 0x80 then UInt8.ofNat n
  else if n < 0x800 then UInt8.ofNat (0xC0 + n / 0x40)
  else if n < 0x10000 then UInt8.ofNat (0xE0 + n / 0x1000)
  else UInt8.ofNat (0xF0 + n / 0x40000)

/-- Reads the digits in pairs, or finds the first character that is not a digit. -/
def pairs (position : Nat) : List Char → Except DecodeError (List UInt8)
  | [] => .ok []
  | [a] =>
      if (Number.hexValue? a).isNone then .error (.invalidCharacter (leadByte a) position)
      else .error .oddLength
  | a :: b :: rest =>
      match Number.hexValue? a with
      | none => .error (.invalidCharacter (leadByte a) position)
      | some high =>
          match Number.hexValue? b with
          | none => .error (.invalidCharacter (leadByte b) (position + 1))
          | some low => (pairs (position + 2) rest).map (UInt8.ofNat (16 * high + low) :: ·)

def decode (text : List Char) : Except DecodeError (List UInt8) :=
  if text.foldr (fun c n => c.utf8Size + n) 0 % 2 = 1 then .error .oddLength
  else pairs 0 text

end CanStream.Hex
