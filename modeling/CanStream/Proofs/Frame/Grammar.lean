import CanStream.Proofs.Frame.Identifier
import CanStream.Proofs.Frame.RoundTrip
import CanStream.Proofs.Frame.Transition
import CanStream.Proofs.Text.Numeral
import Mathlib.Data.List.TakeWhile

/-!
# The grammar of frames

A text spells a frame as an identifier, a number sign and a body. The digits of the identifier spell
its number, and the width they take tells its format; the body tells the kind, the flags and the
data. Blanks around the text do not count.

The parser takes just these texts and, besides them, texts with a plus sign in front of the digits.
The sign adds to the width, so that three digits behind it spell an extended identifier.
-/

namespace CanStream

namespace Blank

/-- A text stands between blanks, or alone. -/
def Around (text whole : List Char) : Prop :=
  ∃ before after, whole = before ++ text ++ after ∧
    (∀ c ∈ before, isBlank c = true) ∧ ∀ c ∈ after, isBlank c = true

theorem around_self (text : List Char) : Around text text :=
  ⟨[], [], (List.append_nil text).symm, nofun, nofun⟩

theorem takeWhile_append_trimLeft (text : List Char) :
    text.takeWhile isBlank ++ trimLeft text = text :=
  List.takeWhile_append_dropWhile

theorem around_trim (whole : List Char) : Around (trim whole) whole := by
  have back : trim whole ++ ((trimLeft whole).reverse.takeWhile isBlank).reverse =
      trimLeft whole := by
    rw [trim, ← List.reverse_append, takeWhile_append_trimLeft, List.reverse_reverse]
  refine ⟨whole.takeWhile isBlank, ((trimLeft whole).reverse.takeWhile isBlank).reverse, ?_, ?_, ?_⟩
  · rw [List.append_assoc, back, takeWhile_append_trimLeft]
  · exact fun c member => List.mem_takeWhile_imp member
  · exact fun c member => List.mem_takeWhile_imp (List.mem_reverse.mp member)

/-- Blanks in front of a text without blanks are all that is trimmed there. -/
theorem trimLeft_append {before text after : List Char} (blank : ∀ c ∈ before, isBlank c = true)
    (solid : ∀ c ∈ text, isBlank c = false) (nonempty : text ≠ []) :
    trimLeft (before ++ (text ++ after)) = text ++ after := by
  obtain ⟨c, rest, rfl⟩ := List.exists_cons_of_ne_nil nonempty
  rw [trimLeft, List.dropWhile_append_of_pos blank, List.cons_append,
    List.dropWhile_cons_of_neg (by rw [solid c List.mem_cons_self]; exact Bool.false_ne_true)]

theorem trim_eq_of_around {text whole : List Char} (around : Around text whole)
    (solid : ∀ c ∈ text, isBlank c = false) (nonempty : text ≠ []) : trim whole = text := by
  obtain ⟨before, after, rfl, blank, blank'⟩ := around
  have back : trimLeft (after.reverse ++ (text.reverse ++ [])) = text.reverse ++ [] :=
    trimLeft_append (fun c member => blank' c (List.mem_reverse.mp member))
      (fun c member => solid c (List.mem_reverse.mp member)) (by simpa using nonempty)
  rw [List.append_nil] at back
  rw [trim, List.append_assoc, trimLeft_append blank solid nonempty, List.reverse_append, back,
    List.reverse_reverse]

end Blank

namespace Frame

/-! ## What a text tells -/

/-- What a text tells of a frame. -/
structure Content where
  kind : Kind
  id : CanId
  flags : UInt8
  data : List UInt8

/-- The frame is one of this content, and holds nothing else. -/
structure Holds (f : Frame) (c : Content) : Prop where
  kind : f.kind = c.kind
  derivedKind : f.derivedKind = c.kind
  isExtended : f.isExtended = c.id.isExtended
  canId : f.canId = c.id.raw
  flags : f.flags = c.flags
  data : f.data = c.data
  blank : f.payload.BlankFrom f.length

/-- Digits spell an identifier. Up to a width of three characters it is a standard one, beyond that
an extended one. -/
inductive SpellsId (width : Nat) (digits : List Char) : CanId → Prop
  | standard {n : Fin 0x800} (short : width ≤ 3) (number : Hex.Numeral digits n.val) :
      SpellsId width digits (.standard n)
  | extended {n : Fin 0x20000000} (long : 3 < width) (number : Hex.Numeral digits n.val) :
      SpellsId width digits (.extended n)

/-- A body spells the content of a frame with an identifier. Of the flags of a flexible data rate
frame the two with a name are meant, which are the low bits of the digit. -/
inductive SpellsBody (id : CanId) : List Char → Content → Prop
  | remote {c : Char} (letter : c = 'R' ∨ c = 'r') : SpellsBody id [c] ⟨.remote, id, 0, []⟩
  | fd {c : Char} {v : Nat} {text : List Char} {data : List UInt8} (digit : Hex.IsDigit c v)
      (pairs : Hex.Pairs text data) (fits : data.length ≤ fdCapacity) :
      SpellsBody id ('#' :: c :: text) ⟨.fd, id, UInt8.ofNat (v % 4), data⟩
  | data {text : List Char} {data : List UInt8} (pairs : Hex.Pairs text data)
      (fits : data.length ≤ classicCapacity) : SpellsBody id text ⟨.data, id, 0, data⟩

/-- A text spells the content of a frame. The width of the identifier may have come with signs in
front of the text. -/
inductive Spells (signs : Nat) : List Char → Content → Prop
  | intro {digits body : List Char} {id : CanId} {c : Content}
      (identifier : SpellsId (signs + digits.length) digits id) (content : SpellsBody id body c) :
      Spells signs (digits ++ '#' :: body) c

/-- A text, blanks aside, spells the content of a frame. -/
def Spelled (s : String) (c : Content) : Prop :=
  ∃ text, Blank.Around text s.toList ∧ Spells 0 text c

/-- A text, blanks aside, spells the content of a frame behind a plus sign. -/
def Signed (s : String) (c : Content) : Prop :=
  ∃ text, Blank.Around ('+' :: text) s.toList ∧ Spells 1 text c

theorem Holds.unique {f g : Frame} {c : Content} (hf : f.Holds c) (hg : g.Holds c)
    (known : c.kind ≠ .unknown) : f = g := by
  obtain ⟨shaped, flags⟩ := shaped_of_derivedKind hf.derivedKind known
  obtain ⟨shaped', flags'⟩ := shaped_of_derivedKind hg.derivedKind known
  have word : f.word = g.word := by
    apply word_ext
    · exact hf.canId.trans hg.canId.symm
    · have format := hf.isExtended.trans hg.isExtended.symm
      apply word_and_flag_congr (i := 31) rfl
      rw [← bne_iff_ne, ← bne_iff_ne, ← Frame.isExtended, ← Frame.isExtended, format]
    · exact word_and_flag_congr (i := 30) rfl ((flags known).2.trans (flags' known).2.symm)
    · exact word_and_flag_congr (i := 29) rfl ((flags known).1.trans (flags' known).1.symm)
  have bound {h : Frame} (shaped : h.Shaped c.kind) : h.length ≤ 64 :=
    Nat.le_trans shaped.length_le c.kind.maxLength_le
  have length : f.length = g.length := by
    rw [← length_data (bound shaped), ← length_data (bound shaped'), hf.data, hg.data]
  have payload : f.payload = g.payload := by
    rw [← hf.blank.zeroFrom_eq, ← hg.blank.zeroFrom_eq]
    apply Payload.ext_bytes
    change f.data ++ _ = g.data ++ _
    rw [hf.data, hg.data, length]
  obtain ⟨sentinel0, sentinel1⟩ := Prod.mk.inj (shaped.sentinels.trans shaped'.sentinels.symm)
  have kind := hf.kind.trans hg.kind.symm
  have fdFlags := hf.flags.trans hg.flags.symm
  cases f
  cases g
  simp only at kind word length fdFlags sentinel0 sentinel1 payload
  rw [kind, word, length, fdFlags, sentinel0, sentinel1, payload]

theorem holds_remote (id : CanId) : (remote id).Holds ⟨.remote, id, 0, []⟩ := by
  have consistent := consistent_remote id
  have kept {flag : UInt32} (apart : remoteFlag &&& flag = 0) :
      (remote id).word &&& flag = id.word &&& flag :=
    word_or_and_of_apart apart
  refine ⟨rfl, consistent.canonical.derivedKind_eq_kind consistent.flagged, ?_, ?_, rfl, rfl,
    consistent.canonical.blank⟩
  · rw [isExtended, kept (by decide), CanId.word_and_extendedFlag]
  · rw [canId, kept (by decide), CanId.word_and_extendedMask]

theorem payload_ofKind {k : Kind} : (ofKind k).payload = .zero := by
  cases k with
  | data => exact Payload.blankFrom_zero.zeroFrom_eq
  | fd => rfl
  | error => exact Payload.blankFrom_zero.zeroFrom_eq
  | remote => exact Payload.blankFrom_zero.zeroFrom_eq
  | unknown => rfl

theorem flags_ofKind {k : Kind} : (ofKind k).flags = 0 := by
  cases k <;> rfl

/-- Zeros that fill the data up are not told from those that lie behind it. -/
theorem bytes_zero_overwrite_zeros {data : List UInt8} {n : Nat} (fits : data.length ≤ n)
    (room : n ≤ 64) :
    (Payload.zero.overwrite (data ++ List.replicate (n - data.length) 0)).bytes =
      data ++ List.replicate (64 - data.length) 0 := by
  have size : (data ++ List.replicate (n - data.length) (0 : UInt8)).length = n := by
    rw [List.length_append, List.length_replicate]
    omega
  have zeros : n - data.length + (64 - n) = 64 - data.length := by omega
  rw [bytes_zero_overwrite (size.trans_le room), size, List.append_assoc,
    List.replicate_append_replicate, zeros]

section

variable {k : Kind} {id : CanId} {data : List UInt8} {f g : Frame}

/-- Data that an empty frame takes is all that it holds. -/
theorem fields_of_setData (set : g.setData data = .ok f) (blank : g.payload = .zero)
    (free : g.kind ≠ .error) : f.kind = g.kind ∧ f.word = g.word ∧ f.flags = g.flags ∧
      f.length = data.length ∧ f.payload.bytes = data ++ List.replicate (64 - data.length) 0 := by
  obtain ⟨-, fits, rfl⟩ := setData_eq_ok set
  refine ⟨rfl, rfl, rfl, if_neg free, ?_⟩
  rw [blank]
  exact bytes_zero_overwrite_zeros fits (Kind.maxLength_le _)

theorem exists_setData (known : g.kind ≠ .unknown) (free : g.kind ≠ .remote)
    (fits : data.length ≤ g.maxLength) : ∃ f, g.setData data = .ok f := by
  rw [setData, if_neg known, if_neg fun remote => free remote.1, if_neg (Nat.not_lt.mpr fits)]
  exact ⟨_, rfl⟩

theorem ne_of_carries (carries : k = .data ∨ k = .fd) :
    k ≠ .error ∧ k ≠ .remote ∧ k ≠ .unknown := by
  rcases carries with rfl | rfl
  · exact ⟨nofun, nofun, nofun⟩
  · exact ⟨nofun, nofun, nofun⟩

theorem holds_of_setData (carries : k = .data ∨ k = .fd)
    (set : ((ofKind k).setWord id.word).setData data = .ok f) : f.Holds ⟨k, id, 0, data⟩ := by
  have consistent := (consistent_setWord_ofKind carries id).setData set
  have recognised := consistent.canonical.derivedKind_eq_kind consistent.flagged
  have new : (ofKind k).kind = k := kind_withKind empty k
  have free : (ofKind k).kind ≠ .error := by
    rw [new]
    exact (ne_of_carries carries).1
  obtain ⟨kind, word, flags, length, bytes⟩ := fields_of_setData set payload_ofKind free
  refine ⟨kind.trans new, recognised.trans (kind.trans new), ?_, ?_, flags.trans flags_ofKind,
    ?_, ?_⟩
  · rw [Frame.isExtended, word]
    exact id.word_and_extendedFlag
  · rw [Frame.canId, word]
    exact id.word_and_extendedMask
  · rw [Frame.data, bytes, length, List.take_left]
  · intro b member
    rw [bytes, length, List.drop_left] at member
    exact List.eq_of_mem_replicate member

end

/-! ## The parser -/

section

variable {text : List Char} {id : CanId} {f : Frame}

theorem standard?_eq_some_iff {n : Nat} : CanId.standard? n = some id ↔
    ∃ m : Fin 0x800, m.val = n ∧ id = .standard m := by
  rw [CanId.standard?, Option.dite_none_right_eq_some]
  constructor
  · rintro ⟨small, made⟩
    exact ⟨⟨n, small⟩, rfl, (Option.some.inj made).symm⟩
  · rintro ⟨m, rfl, rfl⟩
    exact ⟨m.isLt, rfl⟩

theorem extended?_eq_some_iff {n : Nat} : CanId.extended? n = some id ↔
    ∃ m : Fin 0x20000000, m.val = n ∧ id = .extended m := by
  rw [CanId.extended?, Option.dite_none_right_eq_some]
  constructor
  · rintro ⟨small, made⟩
    exact ⟨⟨n, small⟩, rfl, (Option.some.inj made).symm⟩
  · rintro ⟨m, rfl, rfl⟩
    exact ⟨m.isLt, rfl⟩

/-- Digits spell the identifier of their number in the format of their width. -/
theorem spellsId_iff {width : Nat} : SpellsId width text id ↔ ∃ n, Hex.Numeral text n ∧
    (if 3 < width then CanId.extended? n else CanId.standard? n) = some id := by
  constructor
  · intro spells
    cases spells with
    | standard short number =>
      refine ⟨_, number, ?_⟩
      rw [if_neg (Nat.not_lt.mpr short)]
      exact standard?_eq_some_iff.mpr ⟨_, rfl, rfl⟩
    | extended long number =>
      refine ⟨_, number, ?_⟩
      rw [if_pos long]
      exact extended?_eq_some_iff.mpr ⟨_, rfl, rfl⟩
  · rintro ⟨n, number, made⟩
    split at made
    case isTrue long =>
      obtain ⟨m, rfl, rfl⟩ := extended?_eq_some_iff.mp made
      exact .extended long number
    case isFalse short =>
      obtain ⟨m, rfl, rfl⟩ := standard?_eq_some_iff.mp made
      exact .standard (Nat.le_of_not_lt short) number

theorem lt_of_eq_some {width n : Nat}
    (made : (if 3 < width then CanId.extended? n else CanId.standard? n) = some id) :
    n < 0x20000000 := by
  split at made
  · obtain ⟨m, rfl, -⟩ := extended?_eq_some_iff.mp made
    exact m.isLt
  · obtain ⟨m, rfl, -⟩ := standard?_eq_some_iff.mp made
    omega

/-- An identifier is read from digits, with or without a plus sign, which counts for the width. -/
theorem parseId_eq_ok_iff : parseId text = .ok id ↔ SpellsId text.length text id ∨
    ∃ digits, text = '+' :: digits ∧ SpellsId (1 + digits.length) digits id := by
  have parsed : parseId text = .ok id ↔ ∃ n, Number.unsigned 16 0x100000000 text = .ok n ∧
      (if 3 < text.length then CanId.extended? n else CanId.standard? n) = some id := by
    unfold parseId
    constructor
    · intro read
      split at read
      · cases read
      · rename_i n number
        split at read
        · cases read
        · rename_i made
          cases read
          exact ⟨n, number, made⟩
    · rintro ⟨n, number, made⟩
      simp only [number, made]
  rw [parsed]
  simp only [Hex.unsigned_eq_ok_iff, spellsId_iff]
  constructor
  · rintro ⟨n, ⟨number | ⟨digits, rfl, number⟩, -⟩, made⟩
    · exact .inl ⟨n, number, made⟩
    · rw [List.length_cons, Nat.add_comm] at made
      exact .inr ⟨digits, rfl, n, number, made⟩
  · rintro (⟨n, number, made⟩ | ⟨digits, rfl, n, number, made⟩)
    · exact ⟨n, ⟨.inl number, Nat.lt_trans (lt_of_eq_some made) (by decide)⟩, made⟩
    · rw [Nat.add_comm, ← List.length_cons] at made
      exact ⟨n, ⟨.inr ⟨digits, rfl, number⟩, Nat.lt_trans (lt_of_eq_some made) (by decide)⟩, made⟩

theorem exists_of_parseData {k : Kind} (carries : k = .data ∨ k = .fd)
    (read : parseData k id text = .ok f) :
    ∃ data, Hex.Pairs text data ∧ data.length ≤ k.maxLength ∧ f.Holds ⟨k, id, 0, data⟩ := by
  have new : ((ofKind k).setWord id.word).kind = k := kind_withKind empty k
  unfold parseData at read
  split at read
  · cases read
  · rename_i data decoded
    cases set : ((ofKind k).setWord id.word).setData data with
    | error cause =>
      rw [set] at read
      cases read
    | ok g =>
      rw [set] at read
      obtain rfl := Except.ok.inj read
      have fits := (setData_eq_ok set).2.1
      rw [maxLength, new] at fits
      exact ⟨data, Hex.decode_eq_ok_iff.mp decoded, fits, holds_of_setData carries set⟩

theorem exists_parseData {k : Kind} (id : CanId) (carries : k = .data ∨ k = .fd) {data : List UInt8}
    (pairs : Hex.Pairs text data) (fits : data.length ≤ k.maxLength) :
    ∃ f, parseData k id text = .ok f ∧ f.Holds ⟨k, id, 0, data⟩ := by
  have new : ((ofKind k).setWord id.word).kind = k := kind_withKind empty k
  obtain ⟨-, free, known⟩ := ne_of_carries carries
  obtain ⟨f, set⟩ : ∃ f, ((ofKind k).setWord id.word).setData data = .ok f := by
    apply exists_setData
    · rw [new]
      exact known
    · rw [new]
      exact free
    · rwa [maxLength, new]
  refine ⟨f, ?_, holds_of_setData carries set⟩
  simp only [parseData, Hex.decode_eq_ok_iff.mpr pairs, set]
  rfl

theorem Holds.withFlags {c : Content} (holds : f.Holds c) (flags : UInt8) :
    { f with flags := flags }.Holds { c with flags := flags } :=
  ⟨holds.kind, holds.derivedKind, holds.isExtended, holds.canId, rfl, holds.data, holds.blank⟩

/-- Of the flags the two lowest have a name. -/
theorem toNat_truncate (word : UInt32) :
    (⟨word⟩ : FdFlags).truncate.bits.toNat = word.toNat % 4 := by
  have known : fdFlagFamily.known.toNat = 2 ^ 2 - 1 := rfl
  rw [FlagSet.truncate, UInt32.toNat_and, known, Nat.and_two_pow_sub_one_eq_mod]

theorem truncate_digit {v : Nat} (small : v < 16) :
    (⟨UInt32.ofNat v⟩ : FdFlags).truncate.bits.toUInt8 = UInt8.ofNat (v % 4) := by
  apply UInt8.toNat_inj.mp
  rw [UInt32.toNat_toUInt8, toNat_truncate, UInt32.toNat_ofNat', UInt8.toNat_ofNat']
  omega

theorem exists_of_parseBody (read : parseBody id text = .ok f) :
    ∃ c, SpellsBody id text c ∧ f.Holds c := by
  unfold parseBody at read
  split at read
  · obtain rfl := Except.ok.inj read
    exact ⟨_, .remote (.inl rfl), holds_remote id⟩
  · obtain rfl := Except.ok.inj read
    exact ⟨_, .remote (.inr rfl), holds_remote id⟩
  · cases read
  · rename_i c rest
    split at read
    · cases read
    · rename_i v value
      have digit := Hex.hexValue?_eq_some_iff.mp value
      cases parsed : parseData .fd id rest with
      | error cause =>
        rw [parsed] at read
        cases read
      | ok g =>
        rw [parsed] at read
        obtain rfl := Except.ok.inj read
        obtain ⟨data, pairs, fits, holds⟩ := exists_of_parseData (.inr rfl) parsed
        refine ⟨_, .fd digit pairs fits, ?_⟩
        rw [truncate_digit digit.lt]
        exact holds.withFlags _
  · obtain ⟨data, pairs, fits, holds⟩ := exists_of_parseData (.inl rfl) read
    exact ⟨_, .data pairs fits, holds⟩

/-- A body of digit pairs is read as data, for it is neither a letter nor begins with a number
sign. -/
theorem parseBody_of_pairs {data : List UInt8} (pairs : Hex.Pairs text data) :
    parseBody id text = parseData .data id text := by
  have sign : ¬∃ v, Hex.IsDigit '#' v := by
    rintro ⟨v, digit⟩
    cases Hex.hexValue?_eq_some_iff.mpr digit
  have even := pairs.length
  have digits := pairs.exists_isDigit
  unfold parseBody
  split
  · simp only [List.length_cons, List.length_nil] at even
    omega
  · simp only [List.length_cons, List.length_nil] at even
    omega
  · exact absurd (digits _ List.mem_cons_self) sign
  · exact absurd (digits _ List.mem_cons_self) sign
  · rfl

theorem SpellsBody.parseBody_eq_ok {c : Content} (h : SpellsBody id text c) (holds : f.Holds c) :
    parseBody id text = .ok f := by
  cases h with
  | remote letter =>
    obtain rfl := holds.unique (holds_remote id) nofun
    rcases letter with rfl | rfl
    · rfl
    · rfl
  | @fd c v text data digit pairs fits =>
    -- the parser makes a frame of the data first, and sets the flags then
    obtain ⟨g, read, plain⟩ := exists_parseData id (.inr rfl) pairs fits
    simp only [parseBody, Hex.hexValue?_eq_some_iff.mpr digit, read, truncate_digit digit.lt]
    exact congrArg Except.ok ((plain.withFlags _).unique holds nofun)
  | data pairs fits =>
    obtain ⟨g, read, plain⟩ := exists_parseData id (.inl rfl) pairs fits
    rw [parseBody_of_pairs pairs, read, plain.unique holds nofun]

theorem parseBody_eq_ok_iff :
    parseBody id text = .ok f ↔ ∃ c, SpellsBody id text c ∧ f.Holds c :=
  ⟨exists_of_parseBody, fun ⟨_, spells, holds⟩ => spells.parseBody_eq_ok holds⟩

/-- A text falls apart at its first number sign. -/
theorem span_eq_append {front rest : List Char} (noHash : '#' ∉ front) :
    (front ++ '#' :: rest).span (· ≠ '#') = (front, '#' :: rest) := by
  have before : ∀ c ∈ front, decide (c ≠ '#') = true := by
    intro c member
    exact decide_eq_true fun same => noHash (same ▸ member)
  rw [List.span_eq_takeWhile_dropWhile, List.takeWhile_append_of_pos before,
    List.dropWhile_append_of_pos before]
  simp

theorem eq_append_of_span {front rest : List Char} (split : text.span (· ≠ '#') = (front, rest)) :
    text = front ++ rest ∧ '#' ∉ front ∧ ∀ c ∈ rest.head?, c = '#' := by
  rw [List.span_eq_takeWhile_dropWhile] at split
  obtain ⟨rfl, rfl⟩ := Prod.mk.inj split
  refine ⟨List.takeWhile_append_dropWhile.symm, fun member => ?_, fun c member => ?_⟩
  · simpa using List.mem_takeWhile_imp member
  · have head := List.head?_dropWhile_not (· ≠ '#') text
    rw [member] at head
    simpa using head

theorem parse_eq_ok_iff_exists {s : String} : parse s = .ok f ↔
    ∃ front body id, Blank.trim s.toList = front ++ '#' :: body ∧ '#' ∉ front ∧
      parseId front = .ok id ∧ parseBody id body = .ok f := by
  unfold parse
  constructor
  · intro read
    simp only at read
    split at read
    · cases read
    · rename_i front sign body split
      obtain ⟨whole, noHash, isSign⟩ := eq_append_of_span split
      obtain rfl := isSign sign rfl
      cases parsed : parseId front with
      | error cause =>
        rw [parsed] at read
        cases read
      | ok id =>
        rw [parsed] at read
        exact ⟨front, body, id, whole, noHash, parsed, read⟩
  · rintro ⟨front, body, id, whole, noHash, parsed, read⟩
    simp only [whole, span_eq_append noHash, parsed]
    exact read

end

theorem isBlank_of_isDigit {c : Char} {v : Nat} (digit : Hex.IsDigit c v) :
    Blank.isBlank c = false := by
  have all : ∀ v : Fin 16, Blank.isBlank Hex.lowerDigits[v] = false ∧
      Blank.isBlank Hex.upperDigits[v] = false := by decide
  have solid := all ⟨v, digit.lt⟩
  rcases digit with lower | upper
  · obtain ⟨_, rfl⟩ := List.getElem?_eq_some_iff.mp lower
    exact solid.1
  · obtain ⟨_, rfl⟩ := List.getElem?_eq_some_iff.mp upper
    exact solid.2

section

variable {width signs : Nat} {digits text : List Char} {id : CanId} {c : Content} {s : String}

theorem SpellsId.exists_isDigit (h : SpellsId width digits id) :
    ∀ d ∈ digits, ∃ v, Hex.IsDigit d v := by
  obtain ⟨n, number, -⟩ := spellsId_iff.mp h
  exact number.exists_isDigit

/-- The identifier in front of a body has no sign. -/
theorem SpellsId.notMem (h : SpellsId width digits id) {d : Char}
    (other : Number.hexValue? d = none) : d ∉ digits := by
  intro member
  obtain ⟨v, digit⟩ := h.exists_isDigit d member
  cases other.symm.trans (Hex.hexValue?_eq_some_iff.mpr digit)

theorem SpellsBody.isBlank (h : SpellsBody id text c) : ∀ d ∈ text, Blank.isBlank d = false := by
  have solid {t : List Char} {data : List UInt8} (pairs : Hex.Pairs t data) :
      ∀ d ∈ t, Blank.isBlank d = false := by
    intro d member
    obtain ⟨v, digit⟩ := pairs.exists_isDigit d member
    exact isBlank_of_isDigit digit
  intro d member
  cases h with
  | remote letter =>
    obtain rfl := List.mem_singleton.mp member
    rcases letter with rfl | rfl
    · decide
    · decide
  | fd digit pairs =>
    rcases List.mem_cons.mp member with rfl | member
    · decide
    · rcases List.mem_cons.mp member with rfl | member
      · exact isBlank_of_isDigit digit
      · exact solid pairs d member
  | data pairs => exact solid pairs d member

/-- A spelled text has no blank in it. -/
theorem Spells.isBlank (h : Spells signs text c) : ∀ d ∈ text, Blank.isBlank d = false := by
  cases h with
  | intro identifier content =>
    intro d member
    rcases List.mem_append.mp member with member | member
    · obtain ⟨v, digit⟩ := identifier.exists_isDigit d member
      exact isBlank_of_isDigit digit
    · rcases List.mem_cons.mp member with rfl | member
      · decide
      · exact content.isBlank d member

theorem Spells.ne_nil (h : Spells signs text c) : text ≠ [] := by
  cases h with
  | intro => exact List.append_ne_nil_of_right_ne_nil _ (List.cons_ne_nil _ _)

theorem spelled_iff : Spelled s c ↔ Spells 0 (Blank.trim s.toList) c := by
  constructor
  · rintro ⟨text, around, spells⟩
    rwa [Blank.trim_eq_of_around around spells.isBlank spells.ne_nil]
  · intro spells
    exact ⟨_, Blank.around_trim _, spells⟩

theorem signed_iff : Signed s c ↔ ∃ text, Blank.trim s.toList = '+' :: text ∧ Spells 1 text c := by
  constructor
  · rintro ⟨text, around, spells⟩
    refine ⟨text, Blank.trim_eq_of_around around ?_ (List.cons_ne_nil _ _), spells⟩
    intro d member
    rcases List.mem_cons.mp member with rfl | member
    · decide
    · exact spells.isBlank d member
  · rintro ⟨text, trimmed, spells⟩
    exact ⟨text, trimmed ▸ Blank.around_trim _, spells⟩

/-- A text that spells a frame does not begin with a sign. -/
theorem Spells.head?_ne (h : Spells signs text c) : text.head? ≠ some '+' := by
  cases h with
  | @intro digits body id _ identifier content =>
    cases digits with
    | nil => nofun
    | cons d digits =>
      intro sign
      obtain rfl := Option.some.inj sign
      exact identifier.notMem rfl List.mem_cons_self

theorem Signed.not_spelled (signed : Signed s c) : ¬∃ c, Spelled s c := by
  rintro ⟨c', spelled⟩
  obtain ⟨text, trimmed, -⟩ := signed_iff.mp signed
  have spells := spelled_iff.mp spelled
  rw [trimmed] at spells
  exact spells.head?_ne rfl

theorem SpellsBody.exists_holds (h : SpellsBody id text c) : ∃ f : Frame, f.Holds c := by
  cases h with
  | remote => exact ⟨_, holds_remote id⟩
  | fd digit pairs fits =>
    obtain ⟨f, -, holds⟩ := exists_parseData id (.inr rfl) pairs fits
    exact ⟨_, holds.withFlags _⟩
  | data pairs fits =>
    obtain ⟨f, -, holds⟩ := exists_parseData id (.inl rfl) pairs fits
    exact ⟨f, holds⟩

/-- A frame is read from the texts that spell it, with or without a plus sign in front. -/
theorem parse_eq_ok_iff {f : Frame} :
    parse s = .ok f ↔ ∃ c, (Spelled s c ∨ Signed s c) ∧ f.Holds c := by
  rw [parse_eq_ok_iff_exists]
  simp only [spelled_iff, signed_iff, parseId_eq_ok_iff, parseBody_eq_ok_iff]
  constructor
  · rintro ⟨front, body, id, whole, -, identifier | ⟨digits, rfl, identifier⟩, c, content, holds⟩
    · rw [← Nat.zero_add front.length] at identifier
      exact ⟨c, .inl (whole ▸ .intro identifier content), holds⟩
    · exact ⟨c, .inr ⟨_, whole, .intro identifier content⟩, holds⟩
  · rintro ⟨c, spells | ⟨text, whole, spells⟩, holds⟩
    · generalize whole : Blank.trim s.toList = text at spells
      cases spells with
      | intro identifier content =>
        have noHash := identifier.notMem (d := '#') rfl
        rw [Nat.zero_add] at identifier
        exact ⟨_, _, _, rfl, noHash, .inl identifier, c, content, holds⟩
    · cases spells with
      | @intro digits body id _ identifier content =>
        have noHash : '#' ∉ '+' :: digits := by
          intro member
          rcases List.mem_cons.mp member with same | member
          · cases same
          · exact identifier.notMem rfl member
        exact ⟨_, body, id, whole, noHash, .inr ⟨digits, rfl, identifier⟩, c, content, holds⟩

end

/-- What the parser takes are the texts that spell a frame and those that do behind a plus sign; the
frame it gives is of the content that is spelled. It takes just what spells a frame exactly if the
text does not do so behind a plus sign. -/
theorem accepts_spelled_iff_not_signed (s : String) :
    (∀ c, Spelled s c ∨ Signed s c → ∃ f, parse s = .ok f ∧ f.Holds c) ∧
      (∀ f, parse s = .ok f → ∃ c, (Spelled s c ∨ Signed s c) ∧ f.Holds c) ∧
      (((∃ f, parse s = .ok f) ↔ ∃ c, Spelled s c) ↔ ¬∃ c, Signed s c) := by
  have taken (c : Content) (text : Spelled s c ∨ Signed s c) :
      ∃ f, parse s = .ok f ∧ f.Holds c := by
    obtain ⟨f, holds⟩ : ∃ f : Frame, f.Holds c := by
      rcases text with ⟨_, -, ⟨-, content⟩⟩ | ⟨_, -, ⟨-, content⟩⟩
      · exact content.exists_holds
      · exact content.exists_holds
    exact ⟨f, parse_eq_ok_iff.mpr ⟨c, text, holds⟩, holds⟩
  refine ⟨taken, fun f read => parse_eq_ok_iff.mp read, ?_⟩
  constructor
  · rintro agrees ⟨c, signed⟩
    obtain ⟨f, read, -⟩ := taken c (.inr signed)
    exact signed.not_spelled (agrees.mp ⟨f, read⟩)
  · intro unsigned
    constructor
    · rintro ⟨f, read⟩
      obtain ⟨c, spelled | signed, -⟩ := parse_eq_ok_iff.mp read
      · exact ⟨c, spelled⟩
      · exact absurd ⟨c, signed⟩ unsigned
    · rintro ⟨c, spelled⟩
      obtain ⟨f, read, -⟩ := taken c (.inl spelled)
      exact ⟨f, read⟩

/-- Behind a plus sign three digits spell an extended identifier. -/
theorem not_always_spelled : ¬∀ (s : String) (f : Frame), parse s = .ok f → ∃ c, Spelled s c := by
  intro always
  have read : (parse "+1AB#").toOption.map (fun f => (f.kind, f.word)) =
    some (.data, 0x800001AB) := by decide +kernel
  cases parsed : parse "+1AB#" with
  | error cause =>
    rw [parsed] at read
    cases read
  | ok f =>
    obtain ⟨c, spelled⟩ := always _ f parsed
    have spells := spelled_iff.mp spelled
    have trimmed : Blank.trim "+1AB#".toList = '+' :: "1AB#".toList := by decide +kernel
    rw [trimmed] at spells
    exact spells.head?_ne rfl

end Frame

end CanStream
