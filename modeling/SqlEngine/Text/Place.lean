/-!
# Places in a text

A place is a line, counted from one, and a column, counted from zero.  Formats differ in what a
column counts: characters, or the bytes of their encoding.
-/

namespace SqlEngine

/-- A place in a text. -/
structure Place where
  /-- The line, counted from one. -/
  line : Nat := 1
  /-- The number of columns in front of the place. -/
  column : Nat := 0
  deriving DecidableEq

namespace Place

/-- The place behind one more character, of a given width. -/
def behind (width : Char → Nat) (place : Place) (c : Char) : Place :=
  if c = '\n' then ⟨place.line + 1, 0⟩ else ⟨place.line, place.column + width c⟩

/-- The place at the end of a text. -/
def atEnd (width : Char → Nat) (chars : List Char) : Place :=
  chars.foldl (behind width) {}

/-- The place in front of what is left of a text. -/
def before (width : Char → Nat) (chars rest : List Char) : Place :=
  atEnd width (chars.take (chars.length - rest.length))

/-- The place a number of columns further on, which is not past the end of the text that follows. -/
def advance (width : Char → Nat) (place : Place) : Nat → List Char → Place
  | 0, _ => place
  | _, [] => place
  | count, c :: rest =>
    if c = '\n' then advance width ⟨place.line + 1, 0⟩ (count - 1) rest
    else if count < width c then ⟨place.line, place.column + count⟩
    else advance width (place.behind width c) (count - width c) rest

end Place
end SqlEngine
