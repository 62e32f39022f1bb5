/-!
# Scanning

A scanner reads a value from the front of a list of characters and hands back the rest, or misses
and leaves the choice to the next alternative.  Repetition stops at the first item that misses and
gives back what the missed item had looked at.  A scanner may also break: no alternative and no
repetition takes that up, so that the whole reading ends there.
-/

namespace SqlEngine

/-- What comes of an attempt at something. -/
inductive Attempt (α : Type) where
  /-- A value. -/
  | done (value : α)
  /-- Nothing, but something else may be attempted. -/
  | miss
  /-- Nothing, and nothing else will be attempted. -/
  | broken
  deriving DecidableEq, Repr

namespace Attempt

/-- A second attempt at the value of a first. -/
def bind {α β : Type} : Attempt α → (α → Attempt β) → Attempt β
  | done value, next => next value
  | miss, _ => miss
  | broken, _ => broken

/-- An attempt and what is attempted in place of it if it misses. -/
def orElse {α : Type} : Attempt α → (Unit → Attempt α) → Attempt α
  | done value, _ => done value
  | miss, second => second ()
  | broken, _ => broken

/-- An attempt that misses where there is no value. -/
def ofOption {α : Type} : Option α → Attempt α
  | some value => done value
  | none => miss

instance : Monad Attempt where
  pure := done
  bind := bind

instance : Alternative Attempt where
  failure := miss
  orElse := orElse

end Attempt

/-- A reader of a value from the front of a text. -/
abbrev Scan (α : Type) := StateT (List Char) Attempt α

namespace Scan

/-- A value that is found without reading. -/
def given {α : Type} (found : Option α) : Scan α := fun chars =>
  .ofOption (found.map (·, chars))

/-- One character that passes a test. -/
def satisfy (test : Char → Bool) : Scan Char := fun chars =>
  match chars with
  | c :: rest => if test c then .done (c, rest) else .miss
  | [] => .miss

/-- One given character. -/
def char (expected : Char) : Scan Unit := do
  let _ ← satisfy (· == expected)

/-- The longest front of characters that pass a test, perhaps empty. -/
def span (test : Char → Bool) : Scan (List Char) := fun chars =>
  .done (chars.takeWhile test, chars.dropWhile test)

/-- The longest front of characters that pass a test, which must not be empty. -/
def span1 (test : Char → Bool) : Scan (List Char) := do
  let first ← satisfy test
  return first :: (← span test)

/-- The longest front of at most `most` characters that pass a test. -/
def spanUpTo (most : Nat) (test : Char → Bool) : Scan (List Char) := fun chars =>
  let front := (chars.take most).takeWhile test
  .done (front, chars.drop front.length)

/-- A number of bytes of UTF-8.  It misses if there are not as many, and breaks if the last of them is
inside a character. -/
def bytes : Nat → List Char → Attempt (List Char × List Char)
  | 0, chars => .done ([], chars)
  | _ + 1, [] => .miss
  | count + 1, c :: rest =>
    if c.utf8Size ≤ count + 1 then do
      let (others, left) ← bytes (count + 1 - c.utf8Size) rest
      return (c :: others, left)
    else .broken

/-- Succeeds without reading if the next character, should there be one, fails a test. -/
def notNext (test : Char → Bool) : Scan Unit := fun chars =>
  match chars with
  | c :: _ => if test c then .miss else .done ((), chars)
  | [] => .done ((), chars)

/-- Strips a given front off a list, comparing characters by `same`. -/
def strip? (same : Char → Char → Bool) : List Char → List Char → Option (List Char)
  | [], rest => some rest
  | _ :: _, [] => none
  | expected :: more, c :: rest => if same expected c then strip? same more rest else none

/-- A fixed text, character by character. -/
def exactly (text : String) : Scan Unit := fun chars =>
  .ofOption ((strip? (· == ·) text.toList chars).map ((), ·))

/-- The text that a scanner reads, in place of its value. -/
def consumed {α : Type} (item : Scan α) : Scan String := fun chars => do
  let (_, rest) ← item chars
  return (String.ofList (chars.take (chars.length - rest.length)), rest)

/-- As many items as there are, perhaps none, up to the first that misses or reads nothing. -/
def many {α : Type} (item : Scan α) : Scan (List α) := fun chars =>
  match item chars with
  | .miss => .done ([], chars)
  | .broken => .broken
  | .done (first, rest) =>
    if rest.length < chars.length then do
      let (others, left) ← many item rest
      return (first :: others, left)
    else .done ([], chars)
termination_by chars => chars.length

/-- At least one item. -/
def many1 {α : Type} (item : Scan α) : Scan (List α) := do
  let first ← item
  return first :: (← many item)

/-- At least one item, with separators between them; a separator that no item follows is left. -/
def sepBy1 {α β : Type} (separator : Scan β) (item : Scan α) : Scan (List α) := do
  let first ← item
  return first :: (← many (separator *> item))

/-- Reads a whole text, with nothing left over. -/
def whole {α : Type} (item : Scan α) (text : String) : Option α :=
  match item text.toList with
  | .done (value, []) => some value
  | _ => none

end Scan
end SqlEngine
