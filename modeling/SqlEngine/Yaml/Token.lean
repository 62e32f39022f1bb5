import SqlEngine.Yaml.Fault

/-!
# YAML tokens

A text is cut into tokens.  A place where a key may have started is kept in mind, since only the
colon behind a key tells that it is one; the tokens of the mapping and of the key are put in
front of it then.  Blocks are told by their columns: each further level of them is an indentation
that ends with a token of its own, unless it was only a margin for what follows.
-/

namespace SqlEngine
namespace Yaml

/-- What a token is. -/
inductive Symbol where
  /-- The end of the text. -/
  | streamEnd
  /-- The version of the language that a document is in. -/
  | version
  /-- A handle for tags, and what it stands for. -/
  | handle (handle meaning : String)
  /-- The mark in front of a document. -/
  | documentStart
  /-- The mark behind a document. -/
  | documentEnd
  /-- The start of a sequence of lines with dashes. -/
  | blockSequence
  /-- The start of a mapping of lines with keys. -/
  | blockMapping
  /-- The end of either. -/
  | blockEnd
  /-- An opening bracket. -/
  | flowSequence
  /-- A closing bracket. -/
  | flowSequenceEnd
  /-- An opening brace. -/
  | flowMapping
  /-- A closing brace. -/
  | flowMappingEnd
  /-- A dash. -/
  | dash
  /-- A comma. -/
  | comma
  /-- The start of a key. -/
  | key
  /-- The start of a value. -/
  | value
  /-- A reference to an anchor. -/
  | alias (name : String)
  /-- A name for the node that follows. -/
  | anchor (name : String)
  /-- A tag of the node that follows. -/
  | tag (handle rest : String)
  /-- A scalar, plain or marked as a text by quotes or the like. -/
  | scalar (plain : Bool) (text : String)
  deriving DecidableEq

/-- A token. -/
structure Token where
  /-- Where it starts. -/
  mark : Mark
  /-- What it is. -/
  symbol : Symbol

/-- A place where a key may have started. -/
structure PendingKey where
  /-- Whether there can be nothing else. -/
  required : Bool
  /-- The number of tokens in front of it. -/
  number : Nat
  /-- Where it is. -/
  mark : Mark

/-- An indentation that a further one took the place of. -/
structure Indentation where
  /-- The column. -/
  column : Int
  /-- Whether the further one is a block, which ends with a token. -/
  isBlock : Bool

/-- A text under way. -/
structure Lexer where
  /-- What was not read yet. -/
  rest : List Char
  /-- Where the reading stands. -/
  mark : Mark := {}
  /-- Whether there were only blanks on the line so far. -/
  leading : Bool := true
  /-- The tokens so far. -/
  tokens : List Token := []
  /-- For each level of flow collections, from within, the place where a key may have started. -/
  keys : List (Option PendingKey) := [none]
  /-- Whether a key can start here. -/
  keyAllowed : Bool := true
  /-- The column of the innermost block. -/
  indent : Int := -1
  /-- The indentations around it, from within. -/
  indents : List Indentation := []
  /-- The number of flow collections around. -/
  flow : Nat := 0
  /-- The place where a colon is one, whatever follows it. -/
  adjacentAt : Nat := 0
  /-- Whether a mapping in flow collections was started by a brace or by the sign of a key, and no
  mapping without braces ended since. -/
  mappingStarted : Bool := false
  /-- Whether a mapping without braces is open. -/
  bareMapping : Bool := false
  /-- The number of the next characters that were looked at. -/
  window : Nat := 0

/-- A part of the work on a text. -/
abbrev Lexing (α : Type) := StateT Lexer (Except Fault) α

/-- The last of at most `most` states that steps come to. -/
def repeatedUpTo {m : Type → Type} [Monad m] {σ : Type} (step : σ → m (Option σ)) : Nat → σ → m σ
  | 0, state => return state
  | most + 1, state => do
    match ← step state with
    | none => return state
    | some state => repeatedUpTo step most state

/-- Whether a character is a space or a tab. -/
def isBlank (c : Char) : Bool :=
  c == ' ' || c == '\t'

/-- Whether a character ends a line. -/
def isBreak (c : Char) : Bool :=
  c == '\n' || c == '\r'

/-- Whether a character ends a line or the text, which goes no further than to a null. -/
def isBreakOrEnd (c : Char) : Bool :=
  isBreak c || c == '\x00'

/-- Whether a character cannot stand in a word. -/
def isGap (c : Char) : Bool :=
  isBlank c || isBreakOrEnd c

/-- Whether a character is a sign of flow collections. -/
def isFlowSign (c : Char) : Bool :=
  c == ',' || c == '[' || c == ']' || c == '\x7b' || c == '\x7d'

/-- Whether a character can stand in the name of a directive or a handle. -/
def isWordChar (c : Char) : Bool :=
  c.isAlphanum || c == '_' || c == '-'

namespace Lexer

/-- The character a number of places further on, or a null behind the text. -/
def charAt (lexer : Lexer) (offset : Nat) : Char :=
  lexer.rest[offset]?.getD '\x00'

/-- The number of characters that are looked at together at most. -/
def windowSize : Nat :=
  16

/-- Looks at the next characters. -/
def look (count : Nat) (lexer : Lexer) : Lexer :=
  { lexer with window := max lexer.window count }

/-- Passes over blanks. -/
def passBlanks (count : Nat) (lexer : Lexer) : Lexer :=
  { lexer with
    rest := lexer.rest.drop count
    mark := ⟨lexer.mark.index + count, lexer.mark.line, lexer.mark.column + count⟩
    window := lexer.window - count }

/-- Passes over characters. -/
def pass (count : Nat) (lexer : Lexer) : Lexer :=
  { lexer.passBlanks count with leading := false }

/-- Passes over a line end, if there is one. -/
def passBreak (lexer : Lexer) : Lexer :=
  let count := match lexer.rest with
    | '\r' :: '\n' :: _ => 2
    | c :: _ => if isBreak c then 1 else 0
    | [] => 0
  if count = 0 then lexer
  else { lexer with
    rest := lexer.rest.drop count
    mark := ⟨lexer.mark.index + count, lexer.mark.line + 1, 0⟩
    leading := true
    window := lexer.window - count }

/-- Passes over the indentation of a line in a block scalar.  A window of characters is looked at
whenever all of the last one are passed over, unless that ends at the column `limit`. -/
def passIndentation (limit : Nat) (count : Nat) (lexer : Lexer) : Lexer :=
  let filled := lexer.look windowSize
  let behind := filled.passBlanks count
  if count < filled.window then behind
  else
    let left := (count - filled.window) % windowSize
    let window := if left = 0 && behind.mark.column = limit then 0 else windowSize - left
    { behind with window := max window 2 }

/-- Passes over a line of a block scalar, of which what was not looked at is counted in bytes. -/
def passLine (count : Nat) (lexer : Lexer) : Lexer :=
  if count < lexer.window then lexer.passBlanks count
  else
    let unseen := (lexer.rest.take count).drop lexer.window
    let length := unseen.foldl (fun length c => length + c.utf8Size) lexer.window
    { lexer.passBlanks count with
      mark := ⟨lexer.mark.index + length, lexer.mark.line, lexer.mark.column + length⟩
      window := 1 }

/-- Whether a mark of three equal characters stands here. -/
def atMark (lexer : Lexer) (c : Char) : Bool :=
  lexer.mark.column == 0 && lexer.rest.take 3 == [c, c, c] && isGap (lexer.charAt 3)

/-- Whether the mark of a document stands here. -/
def atDocumentMark (lexer : Lexer) : Bool :=
  lexer.atMark '-' || lexer.atMark '.'

/-- Whether the next characters can go on in a plain scalar. -/
def plainFollows (flow : Bool) (c next : Char) : Bool :=
  !isGap c && !(c == ':' && (isGap next || flow && isFlowSign next)) && !(flow && isFlowSign c)

/-- The front of a text that goes on in a plain scalar. -/
def plainRun (flow : Bool) : List Char → List Char
  | [] => []
  | c :: rest => if plainFollows flow c (rest.headD '\x00') then c :: plainRun flow rest else []

/-- Adds a token. -/
def add (mark : Mark) (symbol : Symbol) (lexer : Lexer) : Lexer :=
  { lexer with tokens := lexer.tokens ++ [⟨mark, symbol⟩] }

/-- Puts a token in front of others. -/
def insert (number : Nat) (mark : Mark) (symbol : Symbol) (lexer : Lexer) : Lexer :=
  { lexer with tokens := lexer.tokens.take number ++ ⟨mark, symbol⟩ :: lexer.tokens.drop number }

/-- Sets whether a key can start here. -/
def allowKey (allowed : Bool) (lexer : Lexer) : Lexer :=
  { lexer with keyAllowed := allowed }

/-- Sets the place where a key may have started. -/
def setKey (key : Option PendingKey) (lexer : Lexer) : Lexer :=
  { lexer with keys := key :: lexer.keys.tail }

/-- Keeps in mind that a key may start here, if one can. -/
def saveKey (lexer : Lexer) : Lexer :=
  if lexer.keyAllowed then
    let required := lexer.flow == 0 && lexer.indent == lexer.mark.column
      && lexer.indents.head?.any (·.isBlock)
    lexer.setKey (some ⟨required, lexer.tokens.length, lexer.mark⟩)
  else lexer

/-- Goes back from the innermost indentation, if it is a margin. -/
def dropMargin (lexer : Lexer) : Lexer :=
  match lexer.indents with
  | ⟨column, false⟩ :: indents => { lexer with indent := column, indents }
  | _ => lexer

/-- Goes back from all margins inside the innermost block. -/
def dropMargins (lexer : Lexer) : Lexer :=
  let margins := lexer.indents.takeWhile fun indentation => !indentation.isBlock
  { lexer with
    indent := margins.getLast?.elim lexer.indent (·.column)
    indents := lexer.indents.drop margins.length }

/-- Makes a margin of one column inside a block. -/
def addMargin (lexer : Lexer) : Lexer :=
  if lexer.flow == 0 && lexer.indents.head?.any (·.isBlock) then
    { lexer with indent := lexer.indent + 1, indents := ⟨lexer.indent, false⟩ :: lexer.indents }
  else lexer

/-- Starts a block at a column that is further right than the innermost one; its token goes in front
of others if their number is given. -/
def openBlock (column : Nat) (number : Option Nat) (mark : Mark) (symbol : Symbol) (lexer : Lexer) :
    Lexer :=
  if lexer.flow ≠ 0 then lexer
  else
    let lexer := if lexer.indent ≤ column then lexer.dropMargin else lexer
    if lexer.indent < column then
      let inner := { lexer with indent := column, indents := ⟨lexer.indent, true⟩ :: lexer.indents }
      inner.insert (number.getD lexer.tokens.length) mark symbol
    else lexer

/-- Goes back from indentations, from within, as long as they are further right than a column. -/
def leave (column : Int) (lexer : Lexer) : List Indentation → Lexer
  | [] => lexer
  | indentation :: indents =>
    if column < lexer.indent then
      let outer := { lexer with indent := indentation.column, indents }
      leave column (if indentation.isBlock then outer.add outer.mark .blockEnd else outer) indents
    else lexer

/-- Ends the blocks that are further right than a column. -/
def closeBlocks (column : Int) (lexer : Lexer) : Lexer :=
  if lexer.flow ≠ 0 then lexer else lexer.leave column lexer.indents

/-- Ends a mapping without braces, if one is open. -/
def closeBareMapping (lexer : Lexer) : Lexer :=
  if lexer.bareMapping then
    { lexer.add lexer.mark .flowMappingEnd with mappingStarted := false, bareMapping := false }
  else lexer

end Lexer

namespace Lexing

/-- Fails at a place. -/
def failAt {α : Type} (mark : Mark) (cause : Cause) : Lexing α :=
  throw ⟨cause, mark⟩

/-- Fails where the reading stands. -/
def fail {α : Type} (cause : Cause) : Lexing α := do
  failAt (← get).mark cause

/-- The next character, or a null behind the text. -/
def peek : Lexing Char := do
  return (← get).charAt 0

/-- Passes over characters. -/
def pass (count : Nat) : Lexing Unit :=
  modify (Lexer.pass count)

/-- Passes over the next blank. -/
def passBlank : Lexing Unit :=
  modify (Lexer.passBlanks 1)

/-- The longest front of characters that pass a test. -/
def span (test : Char → Bool) : Lexing (List Char) := do
  let front := (← get).rest.takeWhile test
  if !front.isEmpty then pass front.length
  return front

/-- The last of the states that steps come to, each of which reads at least one character. -/
def repeated {σ : Type} (step : σ → Lexing (Option σ)) (state : σ) : Lexing σ := do
  repeatedUpTo step ((← get).rest.length + 1) state

/-- Passes over the rest of a line. -/
def comment : Lexing Unit := do
  let _ ← span fun c => !isBreakOrEnd c

/-- Which blanks were passed over. -/
structure Blanks where
  /-- There were tabs. -/
  tabs : Bool := false
  /-- There were spaces. -/
  spaces : Bool := false

/-- Passes over one more blank or a comment on the line. -/
def lineBlank (tabsToo : Bool) (blanks : Blanks) : Lexing (Option Blanks) := do
  let c ← peek
  if c == ' ' then
    passBlank
    return some { blanks with spaces := true }
  else if c == '\t' && tabsToo then
    passBlank
    return some { blanks with tabs := true }
  else if c == '#' then
    if !blanks.tabs && !blanks.spaces then fail .commentApart
    comment
    return some blanks
  else return none

/-- Passes over blanks on the line, and over a comment behind them. -/
def lineBlanks (tabsToo : Bool) : Lexing Blanks :=
  repeated (lineBlank tabsToo) {}

/-- Gives up the place where a key may have started. -/
def dropKey : Lexing Unit := do
  if (← get).keys.head?.join.any (·.required) then fail .keyExpected
  modify (Lexer.setKey none)

/-- Passes over a blank, a line end or a comment in front of a token. -/
def gap (_ : Unit) : Lexing (Option Unit) := do
  let lexer ← get
  let c := lexer.charAt 0
  if c == '\t' && !lexer.indents.isEmpty && lexer.leading && lexer.mark.column < lexer.indent then
    let _ ← lineBlanks true
    if isBreakOrEnd (← peek) then return some () else fail .blockTab
  else if isBlank c then some <$> passBlank
  else if isBreak c then
    modify Lexer.passBreak
    if lexer.flow == 0 then modify (Lexer.allowKey true)
    return some ()
  else if c == '#' then some <$> comment
  else return none

/-- Passes over everything in front of a token. -/
def gaps : Lexing Unit :=
  repeated gap ()

end Lexing
end Yaml
end SqlEngine
