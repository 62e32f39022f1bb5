import SqlEngine.Ron.Fault

/-!
# Readers of RON

A reader moves a cursor through the text.  Blanks and comments can stand between any two parts of a
value; comments between marks can hold others.
-/

namespace SqlEngine

/-- A reader of a part of a RON text. -/
abbrev Ron.Source (α : Type) := StateT Ron.Cursor (Except Ron.Fault) α

namespace Ron.Source

/-- Fails at the end of what was read. -/
def failHere {α : Type} (cause : Cause) : Source α := fun cursor =>
  .error ⟨cause, cursor⟩

/-- Fails behind the next byte. -/
def failNext {α : Type} (cause : Cause) : Source α := fun cursor =>
  .error ⟨cause, cursor.skipByte⟩

/-- What is still to be read. -/
def rest : Source (List Char) := do
  return (← get).rest

/-- Passes over a number of characters. -/
def skip (count : Nat) : Source Unit :=
  modify (·.skip count)

/-- The next character, which stays where it is, if there is one. -/
def peek? : Source (Option Char) := do
  return (← rest).head?

/-- The next character, which stays where it is and has to be there. -/
def peek : Source Char := do
  match ← peek? with
  | some c => return c
  | none => failHere .unfinished

/-- The longest front of characters that pass a test. -/
def span (test : Char → Bool) : Source (List Char) := do
  let front := (← rest).takeWhile test
  skip front.length
  return front

/-- Passes over a text, if it is the one that follows. -/
def consume (text : String) : Source Bool := do
  if text.toList.isPrefixOf (← rest) then
    skip text.length
    return true
  else return false

/-- What a reader reads without reading it; where it fails, nothing was read either. -/
def ahead {α : Type} (item : Source α) : Source α := fun cursor =>
  match item cursor with
  | .ok (value, _) => .ok (value, cursor)
  | .error fault => .error ⟨fault.cause, cursor⟩

/-- The last of the states that steps come to, up to the first time that there is no further one or
that nothing was read. -/
def iterate {σ : Type} (step : σ → Source (Option σ)) (state : σ) (cursor : Cursor) :
    Except Fault (σ × Cursor) :=
  match step state cursor with
  | .error fault => .error fault
  | .ok (none, behind) => .ok (state, behind)
  | .ok (some state, behind) =>
    if behind.rest.length < cursor.rest.length then iterate step state behind
    else .ok (state, behind)
termination_by cursor.rest.length

/-- Items one after the other, up to the first time that there is none. -/
def collect {α : Type} (item : Source (Option α)) : Source (List α) := do
  let items ← iterate (fun items => do return (← item).map (· :: items)) []
  return items.reverse

/-- The cause of a fault that is the first byte of a character. -/
def unexpected (c : Char) : Cause :=
  .unexpected ((String.utf8EncodeChar c).head?.elim 0 UInt8.toNat)

/-- The next characters of a comment between marks, of which `depth` have to end. -/
def commentPart (depth : Nat) : Source (Option Nat) := do
  if depth = 0 then return none
  if ← consume "/*" then return some (depth + 1)
  if ← consume "*/" then return some (depth - 1)
  if (← peek?).isNone then failHere .unfinishedComment
  skip 1
  return some depth

/-- A comment behind its first slash. -/
def comment : Source Unit := do
  match ← peek with
  | '/' =>
    let _ ← span (· != '\n')
  | '*' =>
    skip 1
    let _ ← iterate commentPart 1
  | c => failNext (unexpected c)

/-- Blanks, or a comment, if one follows. -/
def blank : Source (Option Unit) := do
  let _ ← span fun c => c == ' ' || c == '\t' || c == '\n' || c == '\r'
  if ← consume "/" then some <$> comment else return none

/-- Blanks and comments. -/
def blanks : Source Unit := do
  let _ ← collect blank

/-- A comma with blanks around it, if one follows. -/
def comma : Source Bool := do
  blanks
  if ← consume "," then
    blanks
    return true
  else return false

/-- A mark with blanks behind it, if it follows. -/
def mark (text : String) : Source Bool := do
  if ← consume text then
    blanks
    return true
  else return false

/-- Whether all of several marks follow, each of which is passed over even where an earlier one is
missing; a fault in the blanks behind one of them counts at the end of all that was read. -/
def marks : List String → Source Bool
  | [] => return true
  | first :: others => fun cursor =>
    match mark first cursor with
    | .ok (found, behind) => (marks others behind).map fun (all, last) => (found && all, last)
    | .error fault =>
      match marks others fault.cursor with
      | .ok (_, last) => .error ⟨fault.cause, last⟩
      | .error later => .error ⟨fault.cause, later.cursor⟩

end Ron.Source
end SqlEngine
