import SqlEngine.Proofs.Characters

/-!
# Texts as bytes

A text is stored as bytes, from one to four for each character.  The first 128 characters take one
byte, and such a byte never occurs in what other characters take.  So whoever looks for some of these
characters may look for their bytes, without regard to where the other characters start.
-/

namespace SqlEngine
namespace Text

/-- The bytes that a text is stored as. -/
def bytes (text : String) : List UInt8 :=
  text.toByteArray.data.toList

/-- The bytes that characters are stored as, one character after the other. -/
def encode (chars : List Char) : List UInt8 :=
  chars.flatMap String.utf8EncodeChar

theorem bytes_ofList (chars : List Char) : bytes (String.ofList chars) = encode chars := by
  rw [bytes, String.toByteArray_ofList, List.utf8Encode, List.data_toByteArray]
  rfl

theorem bytes_eq_encode (text : String) : bytes text = encode text.toList := by
  rw [← bytes_ofList, String.ofList_toList]

theorem length_bytes (text : String) : (bytes text).length = text.utf8ByteSize := by
  rfl

@[simp] theorem encode_nil : encode [] = [] :=
  rfl

@[simp] theorem encode_cons (c : Char) (rest : List Char) :
    encode (c :: rest) = String.utf8EncodeChar c ++ encode rest :=
  rfl

@[simp] theorem encode_append (front rest : List Char) :
    encode (front ++ rest) = encode front ++ encode rest :=
  List.flatMap_append

theorem encode_ne_nil {chars : List Char} (some : chars ≠ []) : encode chars ≠ [] := by
  obtain ⟨c, rest, rfl⟩ := List.exists_cons_of_ne_nil some
  exact List.append_ne_nil_of_left_ne_nil String.utf8EncodeChar_ne_nil _

/-- Behind the bytes of the characters in front, the next character starts or the text ends. -/
theorem isValid_of_toList {text : String} {front rest : List Char}
    (split : text.toList = front ++ rest) :
    (⟨(encode front).length⟩ : String.Pos.Raw).IsValid text := by
  refine String.Pos.Raw.isValid_iff_exists_append.mpr
    ⟨String.ofList front, String.ofList rest, ?_, ?_⟩
  · rw [← String.ofList_append, ← split, String.ofList_toList]
  · rw [← bytes_ofList, length_bytes]
    rfl

/-- A character of the first 128 is stored as one byte, and no byte of any other character is one of
the first 128. -/
theorem encoding_cases (c : Char) :
    c.toNat < 128 ∧ String.utf8EncodeChar c = [c.toUInt8] ∨
      128 ≤ c.toNat ∧ ∀ byte ∈ String.utf8EncodeChar c, 128 ≤ byte.toNat := by
  have number : c.toNat = c.val.toNat := rfl
  fun_cases String.utf8EncodeChar c
  case case1 =>
    exact .inl ⟨by omega, congrArg (fun byte => [byte]) (UInt8.ofNat_uInt32ToNat c.val)⟩
  all_goals
    refine .inr ⟨by omega, ?_⟩
    simp only [List.forall_mem_cons, UInt8.toNat_ofNat', List.not_mem_nil, false_implies,
      implies_true, and_true]
    omega

/-- One of the first 128 characters is told from the others by its byte. -/
theorem toUInt8_inj {c other : Char} (low : c.toNat < 128) (low' : other.toNat < 128) :
    c.toUInt8 = other.toUInt8 ↔ c = other := by
  refine ⟨fun same => ?_, congrArg _⟩
  have numbers : c.val.toNat % 256 = other.val.toNat % 256 := congrArg UInt8.toNat same
  refine Char.ext (UInt32.toNat_inj.mp ?_)
  change c.toNat = other.toNat
  change c.toNat % 256 = other.toNat % 256 at numbers
  omega

theorem toNat_toUInt8 {c : Char} (low : c.toNat < 128) : c.toUInt8.toNat = c.toNat := by
  change c.toNat % 256 = c.toNat
  omega

/-- Whether a byte stands for a digit. -/
def isDigitByte (byte : UInt8) : Bool :=
  '0'.toUInt8 ≤ byte && byte ≤ '9'.toUInt8

theorem isDigitByte_iff {byte : UInt8} :
    isDigitByte byte = true ↔ 48 ≤ byte.toNat ∧ byte.toNat ≤ 57 :=
  Bool.and_eq_true_iff.trans (and_congr decide_eq_true_iff decide_eq_true_iff)

theorem isDigitByte_toUInt8 {c : Char} (low : c.toNat < 128) :
    isDigitByte c.toUInt8 = c.isDigit := by
  rw [Bool.eq_iff_iff, isDigitByte_iff, isDigit_iff, toNat_toUInt8 low]

theorem low_of_isDigit {c : Char} (digit : c.isDigit = true) : c.toNat < 128 := by
  have := isDigit_iff.mp digit
  omega

/-- One of the first 128 characters is in a text if its byte is among the bytes of the text. -/
theorem mem_of_toUInt8_mem_encode {c : Char} (low : c.toNat < 128) {chars : List Char}
    (member : c.toUInt8 ∈ encode chars) : c ∈ chars := by
  obtain ⟨other, present, byte⟩ := List.mem_flatMap.mp member
  rcases encoding_cases other with ⟨low', alone⟩ | ⟨-, several⟩
  · rw [alone, List.mem_singleton] at byte
    rwa [(toUInt8_inj low low').mp byte]
  · have high := several _ byte
    rw [toNat_toUInt8 low] at high
    omega

theorem encode_of_low {chars : List Char} (low : ∀ c ∈ chars, c.toNat < 128) :
    encode chars = chars.map Char.toUInt8 := by
  induction chars with
  | nil => rfl
  | cons c chars induction =>
      obtain ⟨here, there⟩ := List.forall_mem_cons.mp low
      rcases encoding_cases c with ⟨-, alone⟩ | ⟨high, -⟩
      · rw [encode_cons, alone, induction there]
        rfl
      · omega

/-- The digits in front of a text are those in front of its bytes. -/
theorem takeWhile_encode (chars : List Char) :
    (encode chars).takeWhile isDigitByte = (chars.takeWhile Char.isDigit).map Char.toUInt8 := by
  induction chars with
  | nil => rfl
  | cons c chars induction =>
      rcases encoding_cases c with ⟨low, alone⟩ | ⟨high, bytes⟩
      · rw [encode_cons, alone, List.singleton_append, List.takeWhile_cons,
          List.takeWhile_cons, isDigitByte_toUInt8 low]
        split
        · rw [List.map_cons, induction]
        · rfl
      · obtain ⟨first, others, split⟩ := List.exists_cons_of_ne_nil (@String.utf8EncodeChar_ne_nil c)
        have large := bytes first (split ▸ List.mem_cons_self)
        have noDigit : ¬ isDigitByte first = true := fun digit => by
          have := isDigitByte_iff.mp digit
          omega
        have noDigit' : ¬ c.isDigit = true := fun digit => by
          have := low_of_isDigit digit
          omega
        rw [encode_cons, split, List.cons_append, List.takeWhile_cons_of_neg noDigit,
          List.takeWhile_cons_of_neg noDigit']
        rfl

theorem low_of_mem_takeWhile {chars : List Char} {c : Char}
    (member : c ∈ chars.takeWhile Char.isDigit) : c.toNat < 128 :=
  low_of_isDigit (List.mem_takeWhile_imp member)

/-- Behind the digits in front of a text, its bytes are those of what follows the digits. -/
theorem drop_encode (chars : List Char) :
    (encode chars).drop (chars.takeWhile Char.isDigit).length =
      encode (chars.dropWhile Char.isDigit) := by
  have split : encode chars = (chars.takeWhile Char.isDigit).map Char.toUInt8 ++
      encode (chars.dropWhile Char.isDigit) := by
    rw [← encode_of_low fun c => low_of_mem_takeWhile, ← encode_append,
      List.takeWhile_append_dropWhile]
  rw [split, List.drop_left' (List.length_map ..)]

/-- What takes one byte each is read back from the bytes. -/
theorem map_ofUInt8_toUInt8 {chars : List Char} (low : ∀ c ∈ chars, c.toNat < 128) :
    (chars.map Char.toUInt8).map Char.ofUInt8 = chars := by
  have back {c : Char} (member : c ∈ chars) : Char.ofUInt8 c.toUInt8 = c := by
    refine Char.ext (UInt32.toNat_inj.mp ?_)
    change c.toUInt8.toUInt32.toNat = c.toNat
    rw [UInt8.toNat_toUInt32, toNat_toUInt8 (low c member)]
  rw [List.map_map]
  exact (List.map_congr_left fun c => back).trans (List.map_id chars)

end Text
end SqlEngine
