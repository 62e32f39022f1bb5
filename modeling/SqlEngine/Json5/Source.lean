import SqlEngine.Text.Place

/-!
# Reading JSON5 texts

Where a text is no JSON5, the report shows the place furthest on at which a construct was tried and
could not be read, and all constructs that were tried there.
-/

namespace SqlEngine
namespace Json5

/-- A text under way. -/
structure Reading where
  /-- What was not read yet. -/
  rest : List Char
  /-- What follows the place furthest on at which a construct could not be read. -/
  tried : List Char
  /-- The names of the constructs that could not be read there. -/
  constructs : List String := []
  /-- What is wrong with the first value that cannot be held.  It counts only in a well-formed text. -/
  wrong : Option String := none

namespace Reading

/-- A text of which nothing was read. -/
def start (text : String) : Reading :=
  { rest := text.toList, tried := text.toList }

/-- Keeps in mind that constructs could not be read in front of `place`. -/
def note (place : List Char) (constructs : List String) (reading : Reading) : Reading :=
  if place.length < reading.tried.length then { reading with tried := place, constructs }
  else if place.length = reading.tried.length then
    { reading with constructs := reading.constructs ++ constructs }
  else reading

end Reading

/-- A reader of a part of a text. -/
abbrev Source (α : Type) := StateT Reading (Except Reading) α

namespace Source

/-- Fails. -/
def fail {α : Type} : Source α := fun reading =>
  .error reading

/-- Keeps in mind that a construct cannot be read here. -/
def note (construct : String) : Source Unit :=
  modify fun reading => reading.note reading.rest [construct]

/-- Reads an item; that fails together with the constructs that could stand in its place. -/
def orElse {α : Type} (constructs : List String) (item : Source α) : Source α := fun reading =>
  match item reading with
  | .ok result => .ok result
  | .error failed => .error (failed.note reading.rest constructs)

/-- The next character, which stays where it is. -/
def peek : Source (Option Char) := do
  return (← get).rest.head?

/-- Passes over characters. -/
def skip (count : Nat) : Source Unit :=
  modify fun reading => { reading with rest := reading.rest.drop count }

/-- The longest front of characters that pass a test. -/
def span (test : Char → Bool) : Source (List Char) := do
  let front := (← get).rest.takeWhile test
  skip front.length
  return front

/-- Passes over a text, if it is the one that follows. -/
def consume (text : String) : Source Bool := do
  if text.toList.isPrefixOf (← get).rest then
    skip text.length
    return true
  else return false

/-- The last of at most `most` states that steps come to. -/
def repeatedUpTo {σ : Type} (step : σ → Source (Option σ)) : Nat → σ → Source σ
  | 0, state => return state
  | most + 1, state => do
    match ← step state with
    | none => return state
    | some state => repeatedUpTo step most state

/-- The last of the states that steps come to, each of which reads at least one character. -/
def repeated {σ : Type} (step : σ → Source (Option σ)) (state : σ) : Source σ := do
  repeatedUpTo step ((← get).rest.length + 1) state

/-- Keeps in mind that a value cannot be held. -/
def hold {α : Type} (value : Except String α) (other : α) : Source α := do
  match value with
  | .ok value => return value
  | .error message =>
    modify fun reading => { reading with wrong := reading.wrong <|> some message }
    return other

end Source

/-- Names as an enumeration: the last one stands behind a conjunction. -/
def enumeration : List String → String
  | [] => ""
  | [only] => only
  | [first, second] => first ++ " or " ++ second
  | names => ", ".intercalate names.dropLast ++ ", or " ++ names.getLastD ""

/-- Line ends as visible characters. -/
def visibleEnds (line : List Char) : List Char :=
  line.map fun c => if c = '\r' then '␍' else if c = '\n' then '␊' else c

/-- The report on what could not be read. -/
def Reading.report (reading : Reading) (text : String) : String :=
  let place := Place.before (fun _ => 1) text.toList reading.tried
  let number := toString place.line
  let line := ((text.splitOn "\n")[place.line - 1]?).getD ""
  let line :=
    if reading.tried.head?.any fun c => c == '\n' || c == '\r' then
      visibleEnds (line.toList ++ if place.line < (text.splitOn "\n").length then ['\n'] else [])
    else line.toList.filter (· != '\r')
  let margin := String.ofList (List.replicate number.length ' ')
  let mark := (line.take place.column).map fun c => if c = '\t' then c else ' '
  let names := (reading.constructs.mergeSort (fun left right => decide (left ≤ right))).eraseDups
  "\n".intercalate
    [s!"{margin}--> {number}:{place.column + 1}", margin ++ " |",
      number ++ " | " ++ String.ofList line, margin ++ " | " ++ String.ofList mark ++ "^---",
      margin ++ " |", margin ++ " = expected " ++ enumeration names]

end Json5
end SqlEngine
