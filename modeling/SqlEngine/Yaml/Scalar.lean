import SqlEngine.Text.Numeral
import SqlEngine.Yaml.Token

/-!
# YAML scalars

A scalar is plain, stands between quotes, or is a block of lines behind a header.  Where the lines of
a scalar are folded, a single line end between words is a blank and of several ones the first
is dropped.
-/

namespace SqlEngine
namespace Yaml
namespace Lexing

/-- A folded scalar under way. -/
structure Folding where
  /-- The characters so far, the last one first. -/
  reversed : List Char := []
  /-- The blanks behind them, the last one first. -/
  blanks : List Char := []
  /-- Whether a line end that is folded follows. -/
  broken : Bool := false
  /-- The number of further line ends. -/
  breaks : Nat := 0

namespace Folding

/-- A scalar with line ends folded; the blanks on both sides of them are dropped. -/
def fold (folding : Folding) : Folding :=
  let ends := if folding.broken && folding.breaks = 0 then [' ']
    else List.replicate folding.breaks '\n'
  { reversed := ends ++ folding.reversed }

/-- A scalar with the blanks behind it. -/
def keepBlanks (folding : Folding) : Folding :=
  { folding with reversed := folding.blanks ++ folding.reversed, blanks := [] }

/-- A scalar with more characters. -/
def append (folding : Folding) (chars : List Char) : Folding :=
  { folding with reversed := chars.reverse ++ folding.reversed }

/-- A scalar with one more line end behind it. -/
def addBreak (folding : Folding) (first : Bool) : Folding :=
  if first then { folding with broken := true, blanks := [] }
  else { folding with breaks := folding.breaks + 1 }

/-- The text of a scalar. -/
def text (folding : Folding) : String :=
  String.ofList folding.reversed.reverse

end Folding

/-- Passes over a blank or a line end in a plain scalar that started at `start`. -/
def plainGap (start : Mark) (folding : Folding) : Lexing (Option Folding) := do
  let lexer ← get
  let c := lexer.charAt 0
  if isBreak c then
    modify Lexer.passBreak
    return some (folding.addBreak !lexer.leading)
  else if !isBlank c then return none
  else if !lexer.leading then
    passBlank
    return some { folding with blanks := c :: folding.blanks }
  else if lexer.mark.column < lexer.indent + 1 && c == '\t' then
    let _ ← lineBlanks true
    if isBreakOrEnd (← peek) then return some folding else failAt start .plainTab
  else
    passBlank
    return some folding

/-- The characters of a plain scalar up to the next gap, with what is in front of them. -/
def plainWord (folding : Folding) : Lexing Folding := do
  let lexer ← get
  let run := Lexer.plainRun (lexer.flow != 0) lexer.rest
  if run.isEmpty then return folding
  pass run.length
  return (if lexer.leading then folding.fold else folding.keepBlanks).append run

/-- A word of a plain scalar and the gap behind it, unless the scalar ends. -/
def plainPart (start : Mark) (state : Folding × Bool) : Lexing (Option (Folding × Bool)) := do
  let (folding, ended) := state
  let lexer ← get
  let c := lexer.charAt 0
  if ended || lexer.atDocumentMark || c == '#' then return none
  if lexer.flow ≠ 0 && c == '-' && isFlowSign (lexer.charAt 1) then fail .dashAndSign
  let folding ← plainWord folding
  if !isBlank (← peek) && !isBreak (← peek) then return some (folding, true)
  let folding ← repeated (plainGap start) folding
  let lexer ← get
  return some (folding, lexer.flow == 0 && decide (lexer.mark.column < lexer.indent + 1))

/-- A plain scalar. -/
def plainScalar : Lexing Unit := do
  modify Lexer.dropMargins
  let lexer ← get
  let start := lexer.mark
  if lexer.flow ≠ 0 && start.column < lexer.indent + 1 then fail .flowIndentation
  let (folding, _) ← repeated (plainPart start) ({}, false)
  if (← get).leading then modify (Lexer.allowKey true)
  modify (Lexer.add start (.scalar true folding.text))

/-- The characters that a backslash and a letter stand for. -/
def escaped? (c : Char) : Option Char :=
  match c with
  | '0' => some '\x00'
  | 'a' => some '\x07'
  | 'b' => some '\x08'
  | 't' => some '\t'
  | '\t' => some '\t'
  | 'n' => some '\n'
  | 'v' => some '\x0b'
  | 'f' => some '\x0c'
  | 'r' => some '\r'
  | 'e' => some '\x1b'
  | ' ' => some ' '
  | '\x22' => some '\x22'
  | '/' => some '/'
  | '\\' => some '\\'
  | 'N' => some '\u0085'
  | '_' => some '\u00a0'
  | 'L' => some '\u2028'
  | 'P' => some '\u2029'
  | _ => none

/-- A character by a number of so many digits, of a scalar that started at `start`. -/
def numberedChar (start : Mark) (count : Nat) : Lexing Char := do
  let digits := (← get).rest.take count
  if digits.length < count || !digits.all Numeral.isHexDigit then failAt start .escapeDigits
  let number := Numeral.valueIn 16 digits
  if !number.isValidChar then failAt start .escapeNumber
  pass count
  return Char.ofNat number

/-- A character behind a backslash, of a scalar that started at `start`. -/
def escape (start : Mark) : Lexing Char := do
  let c := (← get).charAt 1
  match escaped? c with
  | some c => pass 2 *> pure c
  | none =>
    if c == 'x' then pass 2 *> numberedChar start 2
    else if c == 'u' then pass 2 *> numberedChar start 4
    else if c == 'U' then pass 2 *> numberedChar start 8
    else failAt start .escape

/-- What a step in a quoted scalar finds. -/
inductive QuotedPart where
  /-- Characters. -/
  | chars (chars : List Char)
  /-- A line end that is dropped, with the blanks that follow. -/
  | joined
  /-- Something else: a quote, a gap or the end of the text. -/
  | none

/-- The next characters of a quoted scalar that started at `start`. -/
def quotedPart (single : Bool) (start : Mark) : Lexing QuotedPart := do
  let lexer ← get
  let c := lexer.charAt 0
  if isGap c then return .none
  else if single && c == '\x27' then
    if lexer.charAt 1 == '\x27' then pass 2 *> pure (.chars [c]) else return .none
  else if !single && c == '\x22' then return .none
  else if !single && c == '\\' then
    if isBreak (lexer.charAt 1) then
      pass 1
      modify Lexer.passBreak
      return .joined
    else return .chars [← escape start]
  else
    let run := lexer.rest.takeWhile fun c => !isGap c && c != '\x27' && c != '\x22' && c != '\\'
    let count := max run.length 1
    pass count
    return .chars (lexer.rest.take count)

/-- More characters of a word of a quoted scalar, and whether a dropped line end follows. -/
def quotedStep (single : Bool) (start : Mark) (state : Folding × Bool) :
    Lexing (Option (Folding × Bool)) := do
  if state.2 then return none
  match ← quotedPart single start with
  | .chars chars => return some (state.1.append chars, false)
  | .joined => return some (state.1, true)
  | .none => return none

/-- Passes over a blank or a line end in a quoted scalar, which may stand behind a line end. -/
def quotedGap (state : Folding × Bool) : Lexing (Option (Folding × Bool)) := do
  let (folding, behind) := state
  let lexer ← get
  let c := lexer.charAt 0
  if isBreak c then
    modify Lexer.passBreak
    return some (folding.addBreak !behind, true)
  else if !isBlank c then return none
  else if behind then
    if c == '\t' && lexer.mark.column < lexer.indent then fail .quotedTab
    passBlank
    return some state
  else
    passBlank
    return some ({ folding with blanks := c :: folding.blanks }, false)

/-- A word of a quoted scalar and the gap behind it, unless the scalar ends. -/
def quotedWord (single : Bool) (start : Mark) (state : Folding × Bool) :
    Lexing (Option (Folding × Bool)) := do
  if state.2 then return none
  let lexer ← get
  if lexer.atDocumentMark then failAt start .markInQuoted
  if lexer.charAt 0 == '\x00' then failAt start .unfinishedQuoted
  if lexer.mark.column < lexer.indent then failAt start .quotedIndentation
  let (folding, joined) ← repeated (quotedStep single start) (state.1, false)
  if (← peek) == (if single then '\x27' else '\x22') then return some (folding, true)
  let (folding, behind) ← repeated quotedGap (folding, joined)
  return some (if behind then folding.fold else folding.keepBlanks, false)

/-- A scalar between quotes. -/
def quotedScalar (single : Bool) : Lexing Unit := do
  let start := (← get).mark
  pass 1
  let (folding, _) ← repeated (quotedWord single start) ({}, false)
  pass 1
  let _ ← lineBlanks true
  let lexer ← get
  let c := lexer.charAt 0
  let inFlow := lexer.flow != 0
  let fits := isBreakOrEnd c || inFlow && (c == ',' || c == '\x7d' || c == ']')
    || c == ':' && (inFlow || start.line == lexer.mark.line)
  if !fits then fail .behindQuoted
  gaps
  modify fun lexer => { lexer with adjacentAt := lexer.mark.index }
  modify (Lexer.add start (.scalar false folding.text))

/-- What becomes of the line ends behind a block scalar. -/
inductive Chomping where
  /-- All are dropped. -/
  | strip
  /-- The first one is kept. -/
  | clip
  /-- All are kept. -/
  | keep
  deriving DecidableEq

/-- What the header of a block scalar says of its line ends, if anything. -/
def chomping? : Lexing (Option Chomping) := do
  match ← peek with
  | '+' => pass 1 *> pure (some .keep)
  | '-' => pass 1 *> pure (some .strip)
  | _ => return none

/-- What the header of a block scalar that started at `start` says of its indentation, if
anything. -/
def increment? (start : Mark) : Lexing (Option Nat) := do
  let c ← peek
  if c == '0' then failAt start .zeroIndentation
  if c.isDigit then pass 1 *> pure (some (Numeral.digitValue c)) else return none

/-- The header of a block scalar that started at `start`. -/
def header (start : Mark) : Lexing (Chomping × Nat) := do
  match ← chomping? with
  | some chomping => return (chomping, (← increment? start).getD 0)
  | none =>
    match ← increment? start with
    | none => return (.clip, 0)
    | some increment => return ((← chomping?).getD .clip, increment)

/-- Passes over the indentation of a line, of at most so many columns if there is a limit, and over
an empty line; the state has the number of empty lines and the widest indentation. -/
def emptyLine (limit : Option Nat) (state : Nat × Nat) : Lexing (Option (Nat × Nat)) := do
  let lexer ← get
  let spaces := (lexer.rest.takeWhile (· == ' ')).length
  match limit with
  | none => modify fun lexer => (lexer.passBlanks spaces).look 1
  | some limit =>
    let count := min spaces (limit - lexer.mark.column)
    modify (Lexer.passIndentation limit count)
  let widest := max state.2 (← get).mark.column
  if isBreak (← peek) then
    modify fun lexer => (lexer.look 2).passBreak
    return some (state.1 + 1, widest)
  else return none

/-- Passes over empty lines and the indentation of the line behind them, and counts the lines. -/
def emptyLines (indent : Nat) : Lexing Nat := do
  return (← repeated (emptyLine (some indent)) (0, 0)).1

/-- As `emptyLines`, with the indentation that the first line of content and the empty lines have. -/
def firstLines : Lexing (Nat × Nat) := do
  let (breaks, widest) ← repeated (emptyLine none) (0, 0)
  let lexer ← get
  let widest := max widest lexer.mark.column
  let indent := max widest (lexer.indent + 1).toNat
  return (breaks, if 0 < lexer.indent then max indent 1 else indent)

/-- Passes over everything in front of the content of a block scalar, and tells the number of empty
lines there and the indentation, which is found from the content if no increment is given. -/
def blockStart (increment : Nat) : Lexing (Nat × Nat) := do
  if increment = 0 then firstLines
  else
    let indent := (← get).indent.toNat + increment
    return (← emptyLines indent, indent)

/-- A block scalar under way. -/
structure Block where
  /-- The characters so far, the last one first. -/
  reversed : List Char := []
  /-- Whether the last line had an end. -/
  broken : Bool := false
  /-- The number of empty lines behind it. -/
  breaks : Nat := 0
  /-- Whether the last line started with a blank. -/
  blank : Bool := false

/-- The next line of a block scalar and the empty lines behind it, if there is one. -/
def blockLine (literal : Bool) (indent : Nat) (block : Block) : Lexing (Option Block) := do
  let lexer ← get
  let c := lexer.charAt 0
  if lexer.mark.column ≠ indent || c == '\x00' then return none
  if indent = 0 && lexer.atMark '.' then return none
  if indent = 0 then modify (Lexer.look 4)
  let blank := isBlank c
  let folded := !literal && block.broken && !block.blank && !blank
  let ends := if folded then if block.breaks = 0 then [' '] else List.replicate block.breaks '\n'
    else List.replicate (block.breaks + block.broken.toNat) '\n'
  let line := lexer.rest.takeWhile fun c => !isBreakOrEnd c
  modify fun lexer => (lexer.passLine line.length).look 2
  let reversed := line.reverse ++ ends ++ block.reversed
  if (← peek) == '\x00' then return some { reversed, blank }
  modify Lexer.passBreak
  return some { reversed, broken := true, breaks := ← emptyLines indent, blank }

/-- The text of a block scalar without content, which ends with the text. -/
def emptyBlock (chomping : Chomping) (start : Mark) (headerEnds : Bool) (breaks : Nat) :
    Lexing String := do
  let header := if headerEnds then 1 else 0
  let count := if chomping = .strip || (← get).mark.line = start.line then 0
    else if chomping = .clip || breaks = 0 then header
    else breaks
  return String.ofList (List.replicate count '\n')

/-- The text of a block scalar with line ends as they are kept. -/
def chomped (chomping : Chomping) (indent : Nat) (block : Block) : Lexing String := do
  let lexer ← get
  let last := block.broken.toNat
    + (lexer.charAt 0 == '\x00' && decide (max indent 1 ≤ lexer.mark.column)).toNat
  let count := (if chomping = .strip then 0 else last)
    + if chomping = .keep then block.breaks else 0
  return String.ofList (block.reversed.reverse ++ List.replicate count '\n')

/-- A block of lines, each an end of a line or, if not `literal`, folded. -/
def blockScalar (literal : Bool) : Lexing Unit := do
  let start := (← get).mark
  modify fun lexer => ((lexer.look 4).pass 1).dropMargins
  let (chomping, increment) ← header start
  let _ ← lineBlanks true
  if !isBreakOrEnd (← peek) then failAt start .behindHeader
  let headerEnds := isBreak (← peek)
  modify fun lexer => (lexer.look 2).passBreak
  if (← peek) == '\t' then failAt start .blockScalarTab
  let (breaks, indent) ← blockStart increment
  let lexer ← get
  if lexer.charAt 0 == '\x00' then
    let text ← emptyBlock chomping start headerEnds breaks
    modify (Lexer.add start (.scalar false text))
  else
    if lexer.mark.column < indent && lexer.indent < lexer.mark.column then fail .blockScalarLine
    let block ← repeated (blockLine literal indent) { breaks }
    let text ← chomped chomping indent block
    modify (Lexer.add lexer.mark (.scalar false text))

end Lexing
end Yaml
end SqlEngine
