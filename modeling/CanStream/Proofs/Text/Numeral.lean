import CanStream.Text.Hex
import Mathlib.Data.Nat.Bitwise

/-!
# Numbers and byte strings in sixteen

What digits stand for is said here without a reader: a digit has the value of its place among the
digits, a numeral is read from the left, and a byte is spelled by two digits. Readers take exactly
these texts, and writers give such texts.
-/

namespace CanStream

namespace Hex

/-- The digits in the order of their values, in lower case. -/
def lowerDigits : List Char :=
  ['0', '1', '2', '3', '4', '5', '6', '7', '8', '9', 'a', 'b', 'c', 'd', 'e', 'f']

/-- The digits in the order of their values, in upper case. -/
def upperDigits : List Char :=
  ['0', '1', '2', '3', '4', '5', '6', '7', '8', '9', 'A', 'B', 'C', 'D', 'E', 'F']

/-- A character is the digit of a value. -/
def IsDigit (c : Char) (v : Nat) : Prop := lowerDigits[v]? = some c ∨ upperDigits[v]? = some c

instance (c : Char) (v : Nat) : Decidable (IsDigit c v) := inferInstanceAs (Decidable (_ ∨ _))

theorem IsDigit.lt {c : Char} {v : Nat} (h : IsDigit c v) : v < 16 := by
  rcases h with h | h
  · exact (List.getElem?_eq_some_iff.mp h).1
  · exact (List.getElem?_eq_some_iff.mp h).1

/-- The digits of both cases are read as their values. -/
theorem hexValue?_digits : ∀ v : Fin 16, Number.hexValue? lowerDigits[v] = some v.val ∧
    Number.hexValue? upperDigits[v] = some v.val := by
  decide

theorem toNat_lt_of_hexValue? {c : Char} {v : Nat} (read : Number.hexValue? c = some v) :
    c.toNat < 128 := by
  have below {last : Char} (le : c ≤ last) (ascii : last.toNat < 128) : c.toNat < 128 :=
    Nat.lt_of_le_of_lt le ascii
  unfold Number.hexValue? at read
  split at read
  case isTrue range => exact below range.2 (by decide)
  · split at read
    case isTrue range => exact below range.2 (by decide)
    · split at read
      case isTrue range => exact below range.2 (by decide)
      case isFalse => cases read

/-- Among the characters of one byte only digits have a value. -/
theorem isDigit_of_ascii : ∀ n : Fin 128,
    (Number.hexValue? (Char.ofNat n)).all (fun v => decide (IsDigit (Char.ofNat n) v)) = true := by
  decide

theorem hexValue?_eq_some_iff {c : Char} {v : Nat} :
    Number.hexValue? c = some v ↔ IsDigit c v := by
  constructor
  · intro read
    have digit := isDigit_of_ascii ⟨c.toNat, toNat_lt_of_hexValue? read⟩
    rw [Char.ofNat_toNat, read] at digit
    exact of_decide_eq_true digit
  · intro digit
    have read := hexValue?_digits ⟨v, digit.lt⟩
    rcases digit with lower | upper
    · obtain ⟨_, rfl⟩ := List.getElem?_eq_some_iff.mp lower
      exact read.1
    · obtain ⟨_, rfl⟩ := List.getElem?_eq_some_iff.mp upper
      exact read.2

theorem IsDigit.toNat_lt {c : Char} {v : Nat} (h : IsDigit c v) : c.toNat < 128 :=
  toNat_lt_of_hexValue? (hexValue?_eq_some_iff.mpr h)

theorem isDigit_digit {v : Nat} (small : v < 16) : IsDigit (digit true v) v := by
  have all : ∀ v : Fin 16, IsDigit (digit true v) v := by decide
  exact all ⟨v, small⟩

/-- A text of digits and the number that it stands for. -/
inductive Numeral : List Char → Nat → Prop
  | digit {c : Char} {v : Nat} (digit : IsDigit c v) : Numeral [c] v
  | append {text : List Char} {n : Nat} {c : Char} {v : Nat} (higher : Numeral text n)
      (digit : IsDigit c v) : Numeral (text ++ [c]) (16 * n + v)

variable {text : List Char} {n : Nat}

theorem Numeral.ne_nil (h : Numeral text n) : text ≠ [] := by
  cases h with
  | digit => exact List.cons_ne_nil _ _
  | append => exact List.append_ne_nil_of_right_ne_nil _ (List.cons_ne_nil _ _)

theorem Numeral.exists_isDigit (h : Numeral text n) : ∀ c ∈ text, ∃ v, IsDigit c v := by
  induction h with
  | digit digit =>
    intro c member
    obtain rfl := List.mem_singleton.mp member
    exact ⟨_, digit⟩
  | append _ digit ih =>
    intro c member
    rcases List.mem_append.mp member with member | member
    · exact ih c member
    · obtain rfl := List.mem_singleton.mp member
      exact ⟨_, digit⟩

/-- A zero in front does not count. -/
theorem Numeral.zero_cons (h : Numeral text n) : Numeral ('0' :: text) n := by
  induction h with
  | @digit c v digit =>
    have zero : Numeral ['0'] 0 := .digit (by decide)
    simpa using zero.append digit
  | append _ digit ih => exact ih.append digit

theorem Numeral.zeros_append (h : Numeral text n) (k : Nat) :
    Numeral (List.replicate k '0' ++ text) n := by
  induction k with
  | zero => exact h
  | succ k ih => exact ih.zero_cons

section

open Number

variable {bound : Nat} {overflow : NumberError}

theorem digit?_eq_some_iff {c : Char} {v : Nat} : digit? 16 c = some v ↔ IsDigit c v := by
  rw [digit?, Option.filter_eq_some_iff, hexValue?_eq_some_iff]
  exact ⟨And.left, fun digit => ⟨digit, decide_eq_true digit.lt⟩⟩

/-- Digits that follow a numeral continue it. -/
theorem numeral_of_continueDigits {higher : List Char} {value : Nat} (start : Numeral higher value)
    (within : value < bound) (read : continueDigits 16 bound overflow value text = .ok n) :
    Numeral (higher ++ text) n ∧ n < bound := by
  induction text generalizing higher value with
  | nil =>
    obtain rfl := Except.ok.inj read
    rw [List.append_nil]
    exact ⟨start, within⟩
  | cons c rest ih =>
    rw [continueDigits] at read
    split at read
    case h_1 => cases read
    case h_2 v found =>
      split at read
      case isTrue fits =>
        have digit := digit?_eq_some_iff.mp found
        rw [Nat.mul_comm] at fits read
        rw [List.append_cons]
        exact ih (start.append digit) fits read
      case isFalse => cases read

theorem continueDigits_append {value : Nat} (front back : List Char) :
    continueDigits 16 bound overflow value (front ++ back) =
      (continueDigits 16 bound overflow value front).bind
        (continueDigits 16 bound overflow · back) := by
  induction front generalizing value with
  | nil => rfl
  | cons c front ih =>
    rw [List.cons_append, continueDigits, continueDigits]
    split
    · rfl
    · split
      · exact ih
      · rfl

theorem continueDigits_singleton {c : Char} {v : Nat} (value : Nat) (digit : IsDigit c v)
    (fits : 16 * value + v < bound) :
    continueDigits 16 bound overflow value [c] = .ok (16 * value + v) := by
  rw [Nat.mul_comm] at fits ⊢
  simp only [continueDigits, digit?_eq_some_iff.mpr digit, if_pos fits]

theorem continueDigits_of_numeral (h : Numeral text n) (fits : n < bound) :
    continueDigits 16 bound overflow 0 text = .ok n := by
  induction h with
  | digit digit => simpa using continueDigits_singleton 0 digit (by simpa using fits)
  | append _ digit ih =>
    rw [continueDigits_append, ih (by omega)]
    exact continueDigits_singleton _ digit fits

theorem digits_eq_ok_iff : digits 16 bound overflow text = .ok n ↔ Numeral text n ∧ n < bound := by
  constructor
  · intro read
    unfold digits at read
    split at read
    case h_1 => cases read
    case h_2 c rest =>
      -- the first digit begins the numeral that the others continue
      rw [continueDigits] at read
      split at read
      case h_1 => cases read
      case h_2 v found =>
        split at read
        case isTrue fits =>
          rw [Nat.zero_mul, Nat.zero_add] at fits read
          exact numeral_of_continueDigits (.digit (digit?_eq_some_iff.mp found)) fits read
        case isFalse => cases read
  · rintro ⟨numeral, fits⟩
    unfold digits
    split
    case h_1 => exact absurd rfl numeral.ne_nil
    case h_2 => exact continueDigits_of_numeral numeral fits

/-- What is read as a number is a numeral, with or without a plus sign in front. -/
theorem unsigned_eq_ok_iff : unsigned 16 bound text = .ok n ↔
    (Numeral text n ∨ ∃ rest, text = '+' :: rest ∧ Numeral rest n) ∧ n < bound := by
  have plain {rest : List Char} : ¬Numeral ('+' :: rest) n := by
    intro numeral
    obtain ⟨v, digit⟩ := numeral.exists_isDigit '+' List.mem_cons_self
    cases hexValue?_eq_some_iff.mpr digit
  unfold unsigned
  split
  case h_1 =>
    constructor
    · intro read
      cases read
    · rintro ⟨numeral | ⟨rest, signed, -⟩, -⟩
      · exact absurd rfl numeral.ne_nil
      · cases signed
  case h_2 rest =>
    rw [digits_eq_ok_iff]
    constructor
    · rintro ⟨numeral, fits⟩
      exact ⟨.inr ⟨rest, rfl, numeral⟩, fits⟩
    · rintro ⟨numeral | ⟨_, signed, numeral⟩, fits⟩
      · exact absurd numeral plain
      · cases signed
        exact ⟨numeral, fits⟩
  case h_3 unsigned =>
    rw [digits_eq_ok_iff]
    constructor
    · rintro ⟨numeral, fits⟩
      exact ⟨.inl numeral, fits⟩
    · rintro ⟨numeral | ⟨rest, signed, -⟩, fits⟩
      · exact ⟨numeral, fits⟩
      · exact absurd signed (unsigned rest)

end

theorem isDigit_digitChar {v : Nat} (small : v < 16) : IsDigit v.digitChar.toUpper v := by
  have all : ∀ v : Fin 16, IsDigit v.val.digitChar.toUpper v := by decide
  exact all ⟨v, small⟩

theorem ofNat_eq_singleton (small : n < 16) : ofNat true n = [n.digitChar.toUpper] := by
  rw [ofNat, if_pos rfl, Nat.toDigits_of_lt_base small]
  rfl

theorem numeral_ofNat (n : Nat) : Numeral (ofNat true n) n := by
  induction n using Nat.strongRecOn with
  | ind n ih =>
    rw [ofNat, if_pos rfl, Nat.toDigits_eq_if (by decide)]
    split
    case isTrue small => exact .digit (isDigit_digitChar small)
    case isFalse large =>
      have higher := ih (n / 16) (by omega)
      rw [ofNat, if_pos rfl] at higher
      rw [List.map_append]
      have numeral := higher.append (isDigit_digitChar (Nat.mod_lt n (by decide)))
      rwa [Nat.div_add_mod] at numeral

theorem length_ofNat_le_iff {width : Nat} (wide : 0 < width) :
    (ofNat true n).length ≤ width ↔ n < 16 ^ width := by
  rw [ofNat, if_pos rfl, List.length_map]
  exact Nat.length_toDigits_le_iff (by decide) wide

theorem numeral_padded (width n : Nat) : Numeral (padded width n) n :=
  (numeral_ofNat n).zeros_append _

theorem length_padded {width : Nat} (wide : 0 < width) (fits : n < 16 ^ width) :
    (padded width n).length = width := by
  have short := (length_ofNat_le_iff wide).mpr fits
  rw [padded, List.length_append, List.length_replicate]
  omega

/-! ## Byte strings -/

/-- A text of digit pairs, and the bytes that it stands for. -/
inductive Pairs : List Char → List UInt8 → Prop
  | nil : Pairs [] []
  | cons {a b : Char} {byte : UInt8} {text : List Char} {data : List UInt8}
      (pair : Numeral [a, b] byte.toNat) (rest : Pairs text data) :
      Pairs (a :: b :: text) (byte :: data)

variable {data : List UInt8}

theorem isDigit_of_numeral {c : Char} (h : Numeral [c] n) : IsDigit c n := by
  generalize same : [c] = text at h
  cases h with
  | digit digit =>
    obtain rfl := List.singleton_inj.mp same
    exact digit
  | append higher =>
    -- one character leaves none for the part in front
    obtain ⟨rfl, -⟩ := List.append_eq_singleton_iff.mp same.symm |>.resolve_right (by simp)
    exact absurd rfl higher.ne_nil

/-- Two digits stand for a number. -/
theorem numeral_pair_iff {a b : Char} :
    Numeral [a, b] n ↔ ∃ high low, IsDigit a high ∧ IsDigit b low ∧ 16 * high + low = n := by
  constructor
  · intro numeral
    generalize same : [a, b] = text at numeral
    cases numeral with
    | digit => cases same
    | @append front high c low higher last =>
      have split : [a] ++ [b] = front ++ [c] := same
      obtain ⟨rfl, last'⟩ := List.append_inj' split rfl
      obtain rfl := List.singleton_inj.mp last'
      exact ⟨high, low, isDigit_of_numeral higher, last, rfl⟩
  · rintro ⟨high, low, first, second, rfl⟩
    exact Numeral.append (.digit first) second

theorem Pairs.length (h : Pairs text data) : text.length = 2 * data.length := by
  induction h with
  | nil => rfl
  | cons _ _ ih =>
    simp only [List.length_cons, ih]
    omega

theorem Pairs.exists_isDigit (h : Pairs text data) : ∀ c ∈ text, ∃ v, IsDigit c v := by
  induction h with
  | nil => exact fun _ member => absurd member List.not_mem_nil
  | cons pair _ ih =>
    intro c member
    rcases List.mem_cons.mp member with rfl | member
    · exact pair.exists_isDigit _ List.mem_cons_self
    · rcases List.mem_cons.mp member with rfl | member
      · exact pair.exists_isDigit _ (List.mem_cons_of_mem _ List.mem_cons_self)
      · exact ih c member

theorem pairs_of_eq_ok {position : Nat} (read : pairs position text = .ok data) :
    Pairs text data := by
  induction position, text using pairs.induct generalizing data with
  | case1 position =>
    obtain rfl := Except.ok.inj read
    exact .nil
  | case2 position a notDigit =>
    rw [pairs, if_pos notDigit] at read
    cases read
  | case3 position a digit =>
    rw [pairs, if_neg digit] at read
    cases read
  | case4 position a b rest notDigit =>
    simp only [pairs, notDigit] at read
    cases read
  | case5 position a b rest high first notDigit =>
    simp only [pairs, first, notDigit] at read
    cases read
  | case6 position a b rest high first low second ih =>
    simp only [pairs, first, second] at read
    cases more : pairs (position + 2) rest with
    | error fault =>
      rw [more] at read
      cases read
    | ok tail =>
      rw [more] at read
      obtain rfl := Except.ok.inj read
      have first := hexValue?_eq_some_iff.mp first
      have second := hexValue?_eq_some_iff.mp second
      have upper := first.lt
      have lower := second.lt
      have value : (UInt8.ofNat (16 * high + low)).toNat = 16 * high + low :=
        UInt8.toNat_ofNat_of_lt' (by simp only [UInt8.size]; omega)
      exact .cons (numeral_pair_iff.mpr ⟨high, low, first, second, value.symm⟩) (ih more)

theorem Pairs.pairs_eq_ok (h : Pairs text data) (position : Nat) :
    pairs position text = .ok data := by
  induction h generalizing position with
  | nil => rfl
  | @cons a b byte text data pair _ ih =>
    obtain ⟨high, low, first, second, value⟩ := numeral_pair_iff.mp pair
    simp only [pairs, hexValue?_eq_some_iff.mpr first, hexValue?_eq_some_iff.mpr second,
      ih (position + 2), value, UInt8.ofNat_toNat]
    rfl

theorem utf8Size_of_ascii {c : Char} (ascii : c.toNat < 128) : c.utf8Size = 1 :=
  Char.utf8Size_eq_one_iff.mpr (UInt32.le_iff_toNat_le.mpr (Nat.le_of_lt_succ ascii))

/-- Digits have one byte each, so their number is that of the bytes. -/
theorem Pairs.size (h : Pairs text data) :
    text.foldr (fun c n => c.utf8Size + n) 0 = 2 * data.length := by
  have one : ∀ c ∈ text, c.utf8Size = 1 := by
    intro c member
    obtain ⟨v, digit⟩ := h.exists_isDigit c member
    exact utf8Size_of_ascii digit.toNat_lt
  rw [← h.length]
  clear h
  induction text with
  | nil => rfl
  | cons c text ih =>
    rw [List.foldr_cons, one c List.mem_cons_self,
      ih fun d member => one d (List.mem_cons_of_mem c member), List.length_cons, Nat.add_comm]

/-- What is read as a byte string is a text of digit pairs. -/
theorem decode_eq_ok_iff : decode text = .ok data ↔ Pairs text data := by
  unfold decode
  constructor
  · intro read
    split at read
    · cases read
    · exact pairs_of_eq_ok read
  · intro spelled
    rw [spelled.size, if_neg (by omega)]
    exact spelled.pairs_eq_ok 0

/-- The written form of a byte string stands for it. -/
theorem pairs_encode (data : List UInt8) : Pairs (encode true data) data := by
  induction data with
  | nil => exact .nil
  | cons byte data ih =>
    have small := byte.toNat_lt
    have pair : Numeral (ofByte true byte) byte.toNat :=
      numeral_pair_iff.mpr ⟨byte.toNat / 16, byte.toNat % 16, isDigit_digit (by omega),
        isDigit_digit (Nat.mod_lt _ (by decide)), Nat.div_add_mod _ _⟩
    exact .cons pair ih

end Hex

end CanStream
