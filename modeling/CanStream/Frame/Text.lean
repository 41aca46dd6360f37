import CanStream.Frame.Basic
import CanStream.Text.Hex

/-!
# Frames as text

A frame is written as its identifier in sixteen, a number sign, and its data: `123#11223344`. A
remote request has `R` for its data, a flexible data rate frame a second number sign and one digit
of flags. An identifier in the extended format, or of an error frame, is written with eight digits,
otherwise with three.

In reading, blanks around the text are left out, which are the characters with the Unicode property
`White_Space`. The number of digits of the identifier tells its format: more than three mean the
extended one.
-/

namespace CanStream.Blank

/-- The ranges of the property `White_Space`, ends included. -/
def ranges : List (Nat × Nat) :=
  [(0x09, 0x0D), (0x20, 0x20), (0x85, 0x85), (0xA0, 0xA0), (0x1680, 0x1680), (0x2000, 0x200A),
    (0x2028, 0x2029), (0x202F, 0x202F), (0x205F, 0x205F), (0x3000, 0x3000)]

def isBlank (c : Char) : Bool :=
  ranges.any fun (low, high) => decide (low ≤ c.toNat) && decide (c.toNat ≤ high)

def trimLeft (text : List Char) : List Char :=
  text.dropWhile isBlank

def trim (text : List Char) : List Char :=
  (trimLeft (trimLeft text).reverse).reverse

end CanStream.Blank

namespace CanStream.Frame

/-- The identifier as it stands in front of the number sign. -/
def idText (f : Frame) : List Char :=
  Hex.padded (if f.isExtended || f.kind == .error then 8 else 3) f.canId.toNat

def bodyText (f : Frame) : List Char :=
  match f.kind with
  | .data => '#' :: Hex.encode true f.data
  | .error => '#' :: Hex.encode true f.data
  | .fd => '#' :: '#' :: (Hex.ofNat true (f.flags &&& 0x0F).toNat ++ Hex.encode true f.data)
  | .remote => ['#', 'R']
  | .unknown => ['#', '?']

def text (f : Frame) : String := String.ofList (f.idText ++ f.bodyText)

/-- The bytes of the data, each in two upper case digits. -/
def byteTexts (f : Frame) : List String :=
  f.data.map fun b => String.ofList (Hex.ofByte true b)

/-- The identifier and the bytes of the data, with spaces between the bytes. -/
def spacedText (f : Frame) : String :=
  String.ofList (Hex.ofNat true f.canId.toNat) ++ "#" ++ " ".intercalate f.byteTexts

def describe (f : Frame) : String :=
  "CanFrame \x7b kind: " ++ f.kind.name ++
    ", id: 0x" ++ String.ofList (Hex.ofNat true f.canId.toNat) ++
    ", flags: " ++ f.idFlags.describe ++
    ", len: " ++ toString f.length ++
    ", data: [" ++ ", ".intercalate f.byteTexts ++ "] \x7d"

def parseId (text : List Char) : Except ParseError CanId :=
  match Number.unsigned 16 0x100000000 text with
  | .error _ => .error .invalidId
  | .ok n =>
      match if 3 < text.length then CanId.extended? n else CanId.standard? n with
      | none => .error .invalidId
      | some id => .ok id

/-- The frame of a kind with an identifier and the data that a text stands for. -/
def parseData (kind : Kind) (id : CanId) (text : List Char) : Except ParseError Frame :=
  match Hex.decode text with
  | .error _ => .error .invalidData
  | .ok data => (((ofKind kind).setWord id.word).setData data).mapError .construction

/-- The frame with an identifier and what stands behind the first number sign. -/
def parseBody (id : CanId) : List Char → Except ParseError Frame
  | ['R'] => .ok (remote id)
  | ['r'] => .ok (remote id)
  | '#' :: [] => .error .invalidData
  | '#' :: c :: rest =>
      match Number.hexValue? c with
      | none => .error .invalidData
      | some flags =>
          (parseData .fd id rest).map fun f =>
            { f with flags := (⟨UInt32.ofNat flags⟩ : FdFlags).truncate.bits.toUInt8 }
  | body => parseData .data id body

/-- The frame that a text stands for. Blanks around the text do not count. -/
def parse (s : String) : Except ParseError Frame :=
  let text := Blank.trim s.toList
  match text.span (· ≠ '#') with
  | (_, []) => .error .missingSeparator
  | (id, _ :: body) => (parseId id).bind (parseBody · body)

end CanStream.Frame
