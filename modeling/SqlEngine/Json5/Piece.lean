import SqlEngine.Text.Numeral

/-!
# Pieces of JSON5 strings and names

A string or a name is put together from single characters, some of which stand for others or are given
by number.  A character beyond sixteen bits is given by two numbers, a lead and a trail; the trail is
the number that the piece behind the lead is written with, whatever its kind.
-/

namespace SqlEngine
namespace Json5

/-- A piece of a string or of a name. -/
inductive Piece where
  /-- A character that stands for itself. -/
  | literal (c : Char)
  /-- A character behind a backslash. -/
  | escaped (c : Char)
  /-- A character by a number in two digits. -/
  | byte (digits : List Char)
  /-- A number of sixteen bits in four digits. -/
  | unit (digits : List Char)

namespace Piece

/-- The characters that a piece is written with, apart from signs in front. -/
def source : Piece → List Char
  | literal c => [c]
  | escaped c => [c]
  | byte digits => digits
  | unit digits => digits

/-- The number that a piece is written with, if it is written in hexadecimal digits. -/
def number? (piece : Piece) : Option Nat :=
  if piece.source.all Numeral.isHexDigit then some (Numeral.valueIn 16 piece.source) else none

/-- The character that a character behind a backslash stands for. -/
def escapedChar (c : Char) : Char :=
  match c with
  | '0' => '\x00'
  | 'b' => '\x08'
  | 'f' => '\x0c'
  | 'n' => '\n'
  | 'r' => '\r'
  | 't' => '\t'
  | 'v' => '\x0b'
  | c => c

/-- The character of a lead and a trail.  The seventeenth bit of the sum stays set where both parts
have it. -/
def pairChar (lead trail : Nat) : Char :=
  Char.ofNat ((1024 * (lead - 0xD800)) ||| (trail - 0xDC00 + 0x10000))

/-- The characters of pieces, or the report on a number that is no part of a pair. -/
def characters : List Piece → Except String (List Char)
  | [] => .ok []
  | literal c :: pieces => (characters pieces).map (c :: ·)
  | escaped c :: pieces => (characters pieces).map (escapedChar c :: ·)
  | byte digits :: pieces => (characters pieces).map (Char.ofNat (Numeral.valueIn 16 digits) :: ·)
  | unit digits :: pieces =>
    let number := Numeral.valueIn 16 digits
    if 0xDC00 ≤ number && number ≤ 0xDFFF then .error "unexpected unicode trail surrogate"
    else if number < 0xD800 || 0xDFFF < number then (characters pieces).map (Char.ofNat number :: ·)
    else
      match pieces with
      | [] => .error "missing unicode trail surrogate"
      | second :: pieces =>
        match second.number? with
        | none => .error "error parsing hex"
        | some trail =>
          if 0xDC00 ≤ trail && trail ≤ 0xDFFF then
            (characters pieces).map (pairChar number trail :: ·)
          else .error "expecting unicode trail surrogate"

/-- The text of pieces, or the report on a number that is no part of a pair. -/
def join (pieces : List Piece) : Except String String :=
  (characters pieces).map String.ofList

end Piece
end Json5
end SqlEngine
