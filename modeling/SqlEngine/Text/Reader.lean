/-!
# Readers

A reader takes a value from the front of a list of characters and hands back the rest.  One that fails
says what is wrong and how far it had come: what it had not read yet is part of its failure, and
so the place of a fault in a text is known.
-/

namespace SqlEngine

/-- How a reading ends that fails. -/
structure Failure (ε : Type) where
  /-- What is wrong. -/
  fault : ε
  /-- What was not read yet. -/
  rest : List Char

/-- A reader of a value from the front of a text, with faults of a given type. -/
abbrev Reader (ε α : Type) := StateT (List Char) (Except (Failure ε)) α

namespace Reader

/-- Fails where the reading stands. -/
def fail {ε α : Type} (fault : ε) : Reader ε α := fun chars =>
  .error ⟨fault, chars⟩

/-- The next character, which stays where it is. -/
def peek {ε : Type} : Reader ε (Option Char) := fun chars =>
  .ok (chars.head?, chars)

/-- The next character. -/
def next {ε : Type} : Reader ε (Option Char) := fun chars =>
  .ok (chars.head?, chars.tail)

/-- Passes over a number of characters. -/
def skip {ε : Type} (count : Nat) : Reader ε Unit := fun chars =>
  .ok ((), chars.drop count)

/-- The longest front of characters that pass a test, perhaps empty. -/
def span {ε : Type} (test : Char → Bool) : Reader ε (List Char) := fun chars =>
  .ok (chars.takeWhile test, chars.dropWhile test)

/-- The longest front of at most `most` characters that pass a test. -/
def spanUpTo {ε : Type} (most : Nat) (test : Char → Bool) : Reader ε (List Char) := fun chars =>
  let front := (chars.take most).takeWhile test
  .ok (front, chars.drop front.length)

/-- What a reader reads without reading it. -/
def ahead {ε α : Type} (item : Reader ε α) : Reader ε α := fun chars =>
  match item chars with
  | .ok (value, _) => .ok (value, chars)
  | .error failure => .error ⟨failure.fault, chars⟩

/-- The characters that a reader reads, in place of its value. -/
def consumed {ε α : Type} (item : Reader ε α) : Reader ε (List Char) := fun chars =>
  match item chars with
  | .ok (_, rest) => .ok (chars.take (chars.length - rest.length), rest)
  | .error failure => .error failure

/-- The last of the states that steps come to, up to the first time that there is no further one or
that nothing was read. -/
def iterate {ε σ : Type} (step : σ → Reader ε (Option σ)) (state : σ) (chars : List Char) :
    Except (Failure ε) (σ × List Char) :=
  match step state chars with
  | .error failure => .error failure
  | .ok (none, rest) => .ok (state, rest)
  | .ok (some state, rest) =>
    if rest.length < chars.length then iterate step state rest else .ok (state, rest)
termination_by chars.length

/-- Items one after the other, up to the first time that there is none. -/
def collect {ε α : Type} (item : Reader ε (Option α)) : Reader ε (List α) := do
  let items ← iterate (fun items => do return (← item).map (· :: items)) []
  return items.reverse

/-- A fault of another type in place of the one that a reader has. -/
def mapFault {ε φ α : Type} (change : ε → φ) (item : Reader ε α) : Reader φ α := fun chars =>
  match item chars with
  | .ok result => .ok result
  | .error failure => .error ⟨change failure.fault, failure.rest⟩

end Reader
end SqlEngine
