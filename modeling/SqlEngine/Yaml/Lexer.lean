import SqlEngine.Yaml.Scalar

/-!
# Cutting YAML texts into tokens

One step passes over what is in front of a token, ends the blocks that the token is left of, and reads
it.  A text with a fault still has the tokens in front of the first place where a key may have
started at the step before, since no more context can change those.
-/

namespace SqlEngine
namespace Yaml
namespace Lexing

/-- Gives up places where a key may have started if its colon cannot follow any more. -/
def dropStale : Lexing Unit := do
  let lexer ← get
  if lexer.flow = 0 then
    let stale (key : PendingKey) : Bool :=
      key.mark.line < lexer.mark.line || key.mark.index + 1024 < lexer.mark.index
    if lexer.keys.any fun key => key.any fun key => stale key && key.required then
      fail .keyWithoutColon
    set { lexer with keys := lexer.keys.map (Option.filter fun key => !stale key) }

/-- The end of the text. -/
def streamEnd : Lexing Unit := do
  let lexer ← get
  let mark := if lexer.mark.column = 0 then lexer.mark
    else ⟨lexer.mark.index, lexer.mark.line + 1, 0⟩
  set { lexer with mark }
  if lexer.keys.any fun key => key.any (·.required) then fail .keyExpected
  modify fun lexer => (lexer.closeBlocks (-1)).add mark .streamEnd

/-- The mark of a document. -/
def documentMark (symbol : Symbol) : Lexing Unit := do
  modify (Lexer.closeBlocks (-1))
  dropKey
  let mark := (← get).mark
  modify fun lexer => ((lexer.allowKey false).pass 3).add mark symbol

/-- The mark behind a document, which stands alone on its line. -/
def documentEnd : Lexing Unit := do
  documentMark .documentEnd
  let _ ← lineBlanks true
  if !isBreakOrEnd (← peek) then fail .behindDocumentEnd

/-- Passes over blanks. -/
def blanks : Lexing Unit := do
  let count := ((← get).rest.takeWhile isBlank).length
  modify (Lexer.passBlanks count)

/-- A number of a version. -/
def versionNumber (start : Mark) : Lexing Unit := do
  let digits ← span Char.isDigit
  if digits.isEmpty then failAt start .versionMissing
  if 9 < digits.length then failAt start .versionLong

/-- The version behind the name of its directive. -/
def version (start : Mark) : Lexing Symbol := do
  blanks
  versionNumber start
  if (← peek) != '.' then failAt start .versionDot
  pass 1
  versionNumber start
  return .version

/-- Whether a character can stand in an address, which tags are written like. -/
def inAddress (c : Char) : Bool :=
  isWordChar c && c != '_' || "#;/?:@&=+$,_.!~*'()[]%".toList.contains c

/-- Whether a character can stand in a tag. -/
def inTag (c : Char) : Bool :=
  inAddress c && !isFlowSign c && c != '!'

/-- A handle for tags: a word between two signs, or the sign and perhaps a word. -/
def handle (start : Mark) : Lexing (List Char) := do
  if (← peek) != '!' then failAt start .tagSign
  pass 1
  let word ← span isWordChar
  if (← peek) == '!' then
    pass 1
    return '!' :: word ++ ['!']
  else return '!' :: word

/-- A byte by its number behind a sign. -/
def byte (start : Mark) : Lexing Nat := do
  match (← get).rest.take 3 with
  | ['%', high, low] =>
    if !Numeral.isHexDigit high || !Numeral.isHexDigit low then failAt start .tagByte
    return Numeral.valueIn 16 [high, low]
  | _ => failAt start .tagByte

/-- How many bytes a character has by its first one, if it can be the first. -/
def widthOf? (first : Nat) : Option Nat :=
  if first < 0x80 then some 1
  else if first < 0xC0 then none
  else if first < 0xE0 then some 2
  else if first < 0xF0 then some 3
  else if first < 0xF8 then some 4
  else none

/-- The number of further bytes of a character, behind those of a given number. -/
def furtherBytes (start : Mark) : Nat → Nat → Lexing Nat
  | 0, number => return number
  | count + 1, number => do
    let byte ← byte start
    if byte < 0x80 || 0xC0 ≤ byte then failAt start .tagNextByte
    pass 3
    furtherBytes start count (256 * number + byte)

/-- A character by its bytes, whose number is that of all their digits together. -/
def characterByBytes (start : Mark) : Lexing Char := do
  let first ← byte start
  match widthOf? first with
  | none => failAt start .tagFirstByte
  | some width =>
    pass 3
    let number ← furtherBytes start (width - 1) first
    if number.isValidChar then return Char.ofNat number else failAt start .tagNumber

/-- The next characters of an address, all of which pass a test, unless it ends. -/
def addressPart (start : Mark) (test : Char → Bool) (reversed : List Char) :
    Lexing (Option (List Char)) := do
  let c ← peek
  if !test c then return none
  else if c == '%' then return some ((← characterByBytes start) :: reversed)
  else pass 1 *> pure (some (c :: reversed))

/-- The front of an address, of characters that pass a test. -/
def address (start : Mark) (test : Char → Bool) : Lexing (List Char) := do
  return (← repeated (addressPart start test) []).reverse

/-- What a handle stands for: an address, which may start with the sign of tags. -/
def meaning (start : Mark) : Lexing (List Char) := do
  let first ← peek
  if first == '!' then pass 1 *> (return first :: (← address start inAddress))
  else if !inTag first then failAt start .tagPrefix
  else address start inAddress

/-- A handle for tags and what it stands for, behind the name of the directive. -/
def handleMeaning (start : Mark) : Lexing Symbol := do
  blanks
  let handle ← handle start
  if handle != ['!'] && handle.getLast? != some '!' then failAt start .handleSign
  blanks
  let meaning ← meaning start
  if !isGap (← peek) then failAt start .behindTagDirective
  return .handle (String.ofList handle) (String.ofList meaning)

/-- A directive; one of an unknown name is passed over and counts as an empty handle. -/
def directive : Lexing Unit := do
  modify (Lexer.closeBlocks (-1))
  dropKey
  modify (Lexer.allowKey false)
  let start := (← get).mark
  pass 1
  let behind := (← get).mark
  let name ← span isWordChar
  if name.isEmpty then failAt behind .directiveName
  if !isGap (← peek) then failAt behind .directiveLetter
  let symbol ← if name == "YAML".toList then version start
    else if name == "TAG".toList then handleMeaning start
    else comment *> pure (.handle "" "")
  let _ ← lineBlanks true
  if !isBreakOrEnd (← peek) then failAt start .behindDirective
  modify fun lexer => lexer.passBreak.add start symbol

/-- An opening bracket or brace. -/
def openFlow (symbol : Symbol) : Lexing Unit := do
  modify fun lexer => lexer.saveKey.addMargin
  if (← get).flow = 255 then fail .tooDeep
  let start := (← get).mark
  modify fun lexer => ({ lexer with
    keys := none :: lexer.keys, flow := lexer.flow + 1, keyAllowed := true
    mappingStarted := lexer.mappingStarted || symbol = .flowMapping : Lexer }).pass 1
  let _ ← lineBlanks true
  modify (Lexer.add start symbol)

/-- A closing bracket or brace. -/
def closeFlow (symbol : Symbol) : Lexing Unit := do
  dropKey
  modify fun lexer => Lexer.closeBareMapping { lexer with
    flow := lexer.flow - 1, keyAllowed := false
    keys := if lexer.flow = 0 then lexer.keys else lexer.keys.tail }
  let start := (← get).mark
  pass 1
  let _ ← lineBlanks true
  if (← get).flow ≠ 0 then modify fun lexer => { lexer with adjacentAt := lexer.mark.index }
  modify (Lexer.add start symbol)

/-- A comma between the entries of a flow collection. -/
def comma : Lexing Unit := do
  dropKey
  modify fun lexer => (lexer.allowKey true).closeBareMapping
  let start := (← get).mark
  pass 1
  let _ ← lineBlanks true
  modify (Lexer.add start .comma)

/-- Whether a token is an anchor or a tag. -/
def isProperty : Symbol → Bool
  | .anchor _ => true
  | .tag _ _ => true
  | _ => false

/-- A dash in front of an entry of a block sequence. -/
def dash : Lexing Unit := do
  let lexer ← get
  if lexer.flow ≠ 0 then fail .dashInFlow
  if !lexer.keyAllowed then fail .dashNotAllowed
  if let some last := lexer.tokens.getLast? then
    if isProperty last.symbol && lexer.mark.column == 0 && last.mark.column == 0
        && -1 < lexer.indent then
      failAt last.mark .anchorIndentation
  pass 1
  modify (Lexer.openBlock lexer.mark.column none lexer.mark .blockSequence)
  let passed ← lineBlanks true
  let behind ← get
  if passed.tabs && behind.charAt 0 == '-' && isGap (behind.charAt 1) then fail .dashTab
  if isBreak (behind.charAt 0) || isFlowSign (behind.charAt 0) then modify Lexer.addMargin
  dropKey
  modify fun lexer => (lexer.allowKey true).add lexer.mark .dash

/-- Passes over a space, a line end or a comment behind the sign of a key. -/
def keyGap (separated : Bool) : Lexing (Option Bool) := do
  let c ← peek
  if c == ' ' then
    passBlank
    return some true
  else if isBreak c then
    modify Lexer.passBreak
    if (← get).flow = 0 then modify (Lexer.allowKey true)
    return some true
  else if c == '#' then
    comment
    return some separated
  else return none

/-- The sign in front of a key. -/
def keySign : Lexing Unit := do
  let lexer ← get
  let start := lexer.mark
  if lexer.flow = 0 then
    if !lexer.keyAllowed then fail .keyNotAllowed
    modify (Lexer.openBlock start.column none start .blockMapping)
  else set { lexer with mappingStarted := true }
  dropKey
  modify (Lexer.allowKey (lexer.flow = 0))
  pass 1
  let separated ← repeated keyGap false
  if !separated then fail .noBlank
  if (← peek) == '\t' then fail .keyTab
  modify (Lexer.add start .key)

/-- The value of a key that started at a given place; the key and the mapping get their tokens. -/
def valueOfKey (key : PendingKey) (start : Mark) : Lexing Unit := do
  modify (Lexer.insert key.number key.mark .key)
  if (← get).bareMapping then
    if key.mark.line < start.line then failAt start .colonPlace
    modify fun lexer => lexer.insert key.number lexer.mark .flowMapping
  modify (Lexer.openBlock key.mark.column (some key.number) start .blockMapping)
  modify fun lexer => ((lexer.addMargin).setKey none).allowKey false

/-- A value without a key on its line. -/
def valueAlone (start : Mark) : Lexing Unit := do
  if (← get).bareMapping then modify fun lexer => lexer.add lexer.mark .flowMapping
  let lexer ← get
  if lexer.flow = 0 then
    if !lexer.keyAllowed then failAt start .valueNotAllowed
    modify (Lexer.openBlock start.column none start .blockMapping)
  modify fun lexer => lexer.addMargin.allowKey (lexer.flow == 0)

/-- Passes over blanks behind a colon, which must not be tabs alone in front of some characters. -/
def colonGap : Lexing Unit := do
  if (← peek) != '\t' then return
  let passed ← lineBlanks true
  let c ← peek
  if !passed.spaces && (c == '-' || isWordChar c) then fail .colonTab

/-- The colon in front of a value. -/
def colon : Lexing Unit := do
  let lexer ← get
  let start := lexer.mark
  set { lexer with bareMapping := lexer.flow != 0 && !lexer.mappingStarted }
  pass 1
  colonGap
  match lexer.keys.head?.join with
  | some key => valueOfKey key start
  | none => valueAlone start
  modify (Lexer.add start .value)

/-- An anchor, or a reference to one. -/
def anchor (symbol : String → Symbol) : Lexing Unit := do
  modify fun lexer => lexer.saveKey.allowKey false
  let start := (← get).mark
  pass 1
  let name ← span fun c => !isGap c && !isFlowSign c && c != '\ufeff'
  if name.isEmpty then failAt start .anchorName
  modify (Lexer.add start (symbol (String.ofList name)))

/-- A tag in angle brackets. -/
def verbatimTag (start : Mark) : Lexing Symbol := do
  pass 2
  let address ← address start inAddress
  if (← peek) != '>' then failAt start .verbatimEnd
  pass 1
  return .tag "" (String.ofList address)

/-- A tag with a handle. -/
def shortTag (start : Mark) : Lexing Symbol := do
  let handle ← handle start
  let named := 2 ≤ handle.length && handle.getLast? == some '!'
  let rest ← address start inTag
  if named then
    if rest.isEmpty then failAt start .tagMissing
    return .tag (String.ofList handle) (String.ofList rest)
  else
    let rest := handle.tail ++ rest
    return if rest.isEmpty then .tag "" "!" else .tag "!" (String.ofList rest)

/-- A tag. -/
def tag : Lexing Unit := do
  modify fun lexer => lexer.saveKey.allowKey false
  let lexer ← get
  let start := lexer.mark
  let symbol ← if lexer.charAt 1 == '<' then verbatimTag start else shortTag start
  let c ← peek
  if !isGap c && !(lexer.flow ≠ 0 && isFlowSign c) then failAt start .behindTag
  modify (Lexer.add start symbol)

/-- A plain scalar, which may be a key. -/
def plain : Lexing Unit := do
  modify fun lexer => lexer.saveKey.allowKey false
  plainScalar

/-- A scalar between quotes, which may be a key. -/
def quoted (single : Bool) : Lexing Unit := do
  modify fun lexer => lexer.saveKey.allowKey false
  quotedScalar single

/-- A block scalar. -/
def block (literal : Bool) : Lexing Unit := do
  modify fun lexer => lexer.saveKey.allowKey true
  blockScalar literal

/-- The token that a character starts in front of another. -/
def symbolAt (lexer : Lexer) (c next : Char) : Lexing Unit :=
  let inFlow := lexer.flow != 0
  if c == '[' then openFlow .flowSequence
  else if c == '\x7b' then openFlow .flowMapping
  else if c == ']' then closeFlow .flowSequenceEnd
  else if c == '\x7d' then closeFlow .flowMappingEnd
  else if c == ',' then comma
  else if c == '-' && isGap next then dash
  else if c == '?' && isGap next then keySign
  else if c == ':' && (isGap next
      || inFlow && (isFlowSign next || lexer.mark.index == lexer.adjacentAt)) then colon
  else if c == '*' then anchor .alias
  else if c == '&' then anchor .anchor
  else if c == '!' then tag
  else if c == '|' && !inFlow then block true
  else if c == '>' && !inFlow then block false
  else if c == '\x27' then quoted true
  else if c == '\x22' then quoted false
  else if c == '%' || c == '@' || c == '\x60' then fail (.unexpected c)
  else plain

/-- The next token with those that it brings along; whether it is the last one. -/
def next : Lexing Bool := do
  gaps
  dropStale
  modify fun lexer => lexer.closeBlocks lexer.mark.column
  let lexer ← get
  if lexer.charAt 0 == '\x00' then
    streamEnd
    return true
  if lexer.mark.column == 0 && lexer.charAt 0 == '%' then directive
  else if lexer.atMark '-' then documentMark .documentStart
  else if lexer.atMark '.' then documentEnd
  else if lexer.mark.column < lexer.indent then fail .indentation
  else symbolAt lexer (lexer.charAt 0) (lexer.charAt 1)
  return false

end Lexing

/-- The tokens of a text, and the fault that ends them if they are not all. -/
structure Tokens where
  /-- The tokens. -/
  tokens : List Token
  /-- The fault, which is met behind the last token; the last one of all is an end. -/
  fault : Option Fault

/-- The number of tokens in front of the first place where a key may have started. -/
def Lexer.settled (lexer : Lexer) : Nat :=
  (lexer.keys.filterMap id).foldl (fun number key => min number key.number) lexer.tokens.length

/-- The text under way without places where a key cannot have started any more, unless all its tokens
are handed on already. -/
def Lexer.refresh (handed : Nat) (lexer : Lexer) : Except Fault Lexer :=
  if handed = lexer.tokens.length then .ok lexer else (Lexing.dropStale lexer).map (·.2)

/-- The tokens that at most so many further steps come to, of which a number are handed on already;
where a fault is met, there are no others. -/
def Lexer.run : Nat → Nat → Lexer → Tokens
  | 0, _, lexer => ⟨lexer.tokens, none⟩
  | steps + 1, handed, lexer =>
    match lexer.refresh handed with
    | .error fault => ⟨lexer.tokens.take handed, some fault⟩
    | .ok lexer =>
      match Lexing.next lexer with
      | .error fault => ⟨lexer.tokens.take lexer.settled, some fault⟩
      | .ok (true, behind) => ⟨behind.tokens, none⟩
      | .ok (false, behind) => behind.run steps lexer.settled

/-- The tokens of a text. -/
def Tokens.ofText (text : String) : Tokens :=
  Lexer.run (text.length + 1) 0 { rest := text.toList }

end Yaml
end SqlEngine
