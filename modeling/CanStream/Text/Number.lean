/-!
# Reading numbers

Unsigned and signed whole numbers, written in a radix of at most sixteen and bounded by the width of
the word they are meant for. A number may be written with a sign in front, has at least one digit,
and is read from the left: of two faults the one that is met first is reported.
-/

namespace CanStream

/-- Why a text is not a number of the wanted width. -/
inductive NumberError
  | empty
  | invalidDigit
  | tooLarge
  | tooSmall
  deriving DecidableEq, Repr

namespace NumberError

def message : NumberError → String
  | empty => "cannot parse integer from empty string"
  | invalidDigit => "invalid digit found in string"
  | tooLarge => "number too large to fit in target type"
  | tooSmall => "number too small to fit in target type"

end NumberError

namespace Number

/-- The value of a digit in sixteen, in either case. -/
def hexValue? (c : Char) : Option Nat :=
  if '0' ≤ c ∧ c ≤ '9' then some (c.toNat - 48)
  else if 'a' ≤ c ∧ c ≤ 'f' then some (c.toNat - 87)
  else if 'A' ≤ c ∧ c ≤ 'F' then some (c.toNat - 55)
  else none

def digit? (radix : Nat) (c : Char) : Option Nat :=
  (hexValue? c).filter (· < radix)

/-- Continues the number `value` with the digits that follow, as long as it stays below `bound`. -/
def continueDigits (radix bound : Nat) (overflow : NumberError) :
    Nat → List Char → Except NumberError Nat
  | value, [] => .ok value
  | value, c :: rest =>
      match digit? radix c with
      | none => .error .invalidDigit
      | some d =>
          if value * radix + d < bound then
            continueDigits radix bound overflow (value * radix + d) rest
          else .error overflow

/-- Reads digits, of which there has to be one, below `bound`. -/
def digits (radix bound : Nat) (overflow : NumberError) : List Char → Except NumberError Nat
  | [] => .error .invalidDigit
  | c :: rest => continueDigits radix bound overflow 0 (c :: rest)

/-- Reads an unsigned number below `bound`; a plus sign may stand in front. -/
def unsigned (radix bound : Nat) : List Char → Except NumberError Nat
  | [] => .error .empty
  | '+' :: rest => digits radix bound .tooLarge rest
  | text => digits radix bound .tooLarge text

/-- Reads a signed number from `-bound` to `bound - 1`; either sign may stand in front. -/
def signed (radix bound : Nat) : List Char → Except NumberError Int
  | [] => .error .empty
  | '+' :: rest => (digits radix bound .tooLarge rest).map Int.ofNat
  | '-' :: rest => (digits radix (bound + 1) .tooSmall rest).map (fun n => -Int.ofNat n)
  | text => (digits radix bound .tooLarge text).map Int.ofNat

end Number

end CanStream
