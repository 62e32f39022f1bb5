import SqlEngine.Binary64.Text
import SqlEngine.Text.Quoting
import SqlEngine.Yaml.Lexer

/-!
# YAML nodes

Tokens are put together to nodes: scalars, sequences and mappings.  What is left out is null.  A
plain scalar is null, a truth value or a number if it looks like one, and a text otherwise; its tag, if
it has one, decides instead.  A scalar that is not what its tag says has no value, and neither has an
alias inside the node of its own anchor; a mapping takes the node behind such a one for its key.
-/

namespace SqlEngine

/-- A node. -/
inductive Yaml where
  /-- No value. -/
  | null
  /-- A truth value. -/
  | boolean (truth : Bool)
  /-- A whole number. -/
  | integer (number : Int64)
  /-- The text of a floating-point number. -/
  | real (text : String)
  /-- A text. -/
  | text (text : String)
  /-- A sequence. -/
  | list (items : List Yaml)
  /-- A mapping. -/
  | table (entries : List (Yaml × Yaml))
  /-- What has no value. -/
  | bad

namespace Yaml

/-- The texts of floating-point numbers with a dot and no digits. -/
def specialReals : List String :=
  [".inf", ".Inf", ".INF", "+.inf", "+.Inf", "+.INF", "-.inf", "-.Inf", "-.INF", ".nan", ".NAN"]

/-- Whether a text looks like a floating-point number. -/
def isReal (text : String) : Bool :=
  text ∈ specialReals || (Binary64.ofText? text).isSome

/-- A whole number in a base. -/
def basedInteger? (base : Nat) (chars : List Char) : Option Int64 :=
  let sign := (chars.take 1).filter fun c => c == '+' || c == '-'
  let digits := chars.drop sign.length
  if digits.isEmpty || !digits.all fun digit => (Numeral.hexValue? digit).any (· < base) then none
  else
    let number : Int := Numeral.valueIn base digits
    Numeral.bounded? (if sign == ['-'] then -number else number)

/-- The whole number that a text looks like. -/
def integer? (text : String) : Option Int64 :=
  let marked := match text.toList with
    | '0' :: 'x' :: chars => basedInteger? 16 chars
    | '0' :: 'o' :: chars => basedInteger? 8 chars
    | '+' :: chars => Numeral.integer? chars
    | _ => none
  marked <|> Numeral.integer? text.toList

/-- The node of a plain scalar. -/
def ofPlain (string : String) : Yaml :=
  match integer? string with
  | some number => integer number
  | none =>
    if string ∈ ["~", "null"] then null
    else if string = "true" then boolean true
    else if string = "false" then boolean false
    else if isReal string then real string
    else text string

/-- The node of a plain scalar with a tag that stands for `type` in the language itself. -/
def ofTyped (type string : String) : Yaml :=
  if type = "bool" then
    if string = "true" then boolean true else if string = "false" then boolean false else bad
  else if type = "int" then (Numeral.integer? string.toList).elim bad integer
  else if type = "float" then if isReal string then real string else bad
  else if type = "null" then if string ∈ ["~", "null"] then null else bad
  else text string

/-- A tag: what its handle stands for, and the rest. -/
structure Tag where
  /-- What the handle stands for. -/
  meaning : String
  /-- What follows it. -/
  rest : String

/-- The node of a scalar with its tag, if it has one. -/
def ofScalar (plain : Bool) (tag : Option Tag) (string : String) : Yaml :=
  if !plain then text string
  else
    match tag with
    | none => ofPlain string
    | some tag => if tag.meaning = "tag:yaml.org,2002:" then ofTyped tag.rest string else text string

mutual

/-- A node as reports show it. -/
def report : Yaml → String
  | null => "Null"
  | boolean truth => s!"Boolean({truth})"
  | integer number => s!"Integer({number.toInt})"
  | real string => "Real(" ++ Text.escaped string ++ ")"
  | text string => "String(" ++ Text.escaped string ++ ")"
  | list items => "Array([" ++ ", ".intercalate (itemReports items) ++ "])"
  | table entries => "Hash(\x7b" ++ ", ".intercalate (entryReports entries) ++ "\x7d)"
  | bad => "BadValue"

/-- Nodes as reports show them. -/
def itemReports : List Yaml → List String
  | [] => []
  | item :: items => item.report :: itemReports items

/-- Entries as reports show them. -/
def entryReports : List (Yaml × Yaml) → List String
  | [] => []
  | (key, value) :: entries => (key.report ++ ": " ++ value.report) :: entryReports entries

end

/-- A mapping under way. -/
structure Mapping where
  /-- The entries so far. -/
  entries : List (Yaml × Yaml) := []
  /-- The key of the next entry, if it was read already. -/
  key : Option Yaml := none

/-- Tokens under way to nodes. -/
structure Builder where
  /-- The tokens that are left. -/
  tokens : List Token
  /-- What is wrong behind them, if they are not all. -/
  fault : Option Fault
  /-- What the handles of tags stand for. -/
  handles : List (String × String) := []
  /-- The anchors with their nodes, of which the last one of a name counts; an anchor has no node before
  all of it is read. -/
  anchors : Array (String × Yaml) := #[]
  /-- The first key that a mapping has twice.  It counts only if nothing else is wrong. -/
  duplicate : Option Fault := none

/-- A part of the work on tokens. -/
abbrev Building (α : Type) := StateT Builder (Except Fault) α

namespace Building

/-- Fails at a place. -/
def failAt {α : Type} (mark : Mark) (cause : Cause) : Building α :=
  throw ⟨cause, mark⟩

/-- The next token, which stays where it is. -/
def peek : Building Token := do
  let builder ← get
  match builder.tokens with
  | token :: _ => return token
  | [] => throw (builder.fault.getD ⟨.noDocument, {}⟩)

/-- Passes over the next token. -/
def skip : Building Unit :=
  modify fun builder => { builder with tokens := builder.tokens.tail }

/-- The last of the states that steps come to, each of which reads at least one token. -/
def repeated {σ : Type} (step : σ → Building (Option σ)) (state : σ) : Building σ := do
  repeatedUpTo step ((← get).tokens.length + 1) state

/-- A null in front of the next token. -/
def missing : Building (Yaml × Mark) := do
  return (null, (← peek).mark)

/-- What a tag stands for. -/
def resolve (mark : Mark) (handle rest : String) : Building Tag := do
  let handles := (← get).handles
  let named := 2 ≤ handle.length && handle.toList.getLast? == some '!'
  match handles.lookup handle with
  | some meaning => return ⟨meaning, rest⟩
  | none =>
    if handle = "!!" then return ⟨"tag:yaml.org,2002:", rest⟩
    else if named then failAt mark .unknownHandle
    else return ⟨handle, rest⟩

/-- The anchor and the tag of a node. -/
structure Properties where
  /-- The number of anchors in front of the anchor. -/
  anchor : Option Nat := none
  /-- The place of the anchor. -/
  mark : Option Mark := none
  /-- The tag. -/
  tag : Option Tag := none

/-- One more anchor or tag, which a node has at most one of each. -/
def property (properties : Properties) : Building (Option Properties) := do
  let token ← peek
  match token.symbol with
  | .anchor name =>
    if properties.anchor.isSome then return none
    skip
    let number := (← get).anchors.size
    modify fun builder => { builder with anchors := builder.anchors.push (name, bad) }
    return some { properties with anchor := number, mark := token.mark }
  | .tag handle rest =>
    if properties.tag.isSome then return none
    skip
    return some { properties with tag := ← resolve (properties.mark.getD token.mark) handle rest }
  | _ => return none

/-- A mapping with one more node: a key, or the value of the key before it.  Keys are equal if reports
show them alike. -/
def addNode (mapping : Mapping) (node : Yaml × Mark) : Building Mapping := do
  match mapping.key, node.1 with
  | none, .bad => return mapping
  | none, key => return { mapping with key }
  | some key, item =>
    let report := key.report
    if mapping.entries.any fun entry => entry.1.report == report then
      modify fun builder =>
        { builder with duplicate := builder.duplicate <|> some ⟨.duplicate report, node.2⟩ }
    return { entries := mapping.entries ++ [(key, item)] }

/-- One more item of a block sequence, unless it ends. -/
def blockItem (item : Building (Yaml × Mark)) (items : List Yaml) : Building (Option (List Yaml)) := do
  let token ← peek
  match token.symbol with
  | .blockEnd => return none
  | .dash =>
    skip
    let value ← match (← peek).symbol with
      | .dash => missing
      | .blockEnd => missing
      | _ => item
    return some (value.1 :: items)
  | _ => failAt token.mark .noDash

/-- One more item of a block sequence in the place of the value of a key, unless it ends. -/
def bareItem (item : Building (Yaml × Mark)) (items : List Yaml) : Building (Option (List Yaml)) := do
  match (← peek).symbol with
  | .dash =>
    skip
    let value ← match (← peek).symbol with
      | .dash => missing
      | .key => missing
      | .value => missing
      | .blockEnd => missing
      | _ => item
    return some (value.1 :: items)
  | _ => return none

/-- A node, or null if it is left out in front of a part of a block mapping. -/
def blockNode (item : Building (Yaml × Mark)) : Building (Yaml × Mark) := do
  match (← peek).symbol with
  | .key => missing
  | .value => missing
  | .blockEnd => missing
  | _ => item

/-- The value behind a key of a block mapping. -/
def blockValue (item : Building (Yaml × Mark)) : Building (Yaml × Mark) := do
  match (← peek).symbol with
  | .value => skip *> blockNode item
  | _ => missing

/-- One more entry of a block mapping, unless it ends. -/
def blockEntry (item : Building (Yaml × Mark)) (mapping : Mapping) : Building (Option Mapping) := do
  let token ← peek
  match token.symbol with
  | .blockEnd => return none
  | .key =>
    let mapping ← addNode mapping (← skip *> blockNode item)
    return some (← addNode mapping (← blockValue item))
  | .value =>
    let mapping ← addNode mapping (null, token.mark)
    return some (← addNode mapping (← blockValue item))
  | _ => failAt token.mark .noBlockKey

/-- The value behind a key in a flow collection with a given end. -/
def flowValue (closing : Symbol) (item : Building (Yaml × Mark)) : Building (Yaml × Mark) := do
  let token ← peek
  if token.symbol ≠ .value then return (null, token.mark)
  skip
  let next := (← peek).symbol
  if next = .comma || next = closing then return (null, token.mark) else item

/-- A comma in front of every entry of a flow collection but the first one. -/
def separator (first : Bool) (cause : Cause) : Building Unit := do
  if !first then
    let token ← peek
    if token.symbol = .comma then skip else failAt token.mark cause

/-- A mapping with one more entry of a flow mapping. -/
def flowPair (item : Building (Yaml × Mark)) (mapping : Mapping) : Building Mapping := do
  let token ← peek
  match token.symbol with
  | .key =>
    skip
    let next := (← peek).symbol
    let key ← if next ∈ [.value, .comma, .flowMappingEnd] then missing else item
    let mapping ← addNode mapping key
    addNode mapping (← flowValue .flowMappingEnd item)
  | .value =>
    let mapping ← addNode mapping (null, token.mark)
    addNode mapping (← flowValue .flowMappingEnd item)
  | _ =>
    let mapping ← addNode mapping (← item)
    addNode mapping (← missing)

/-- A flow mapping under way. -/
structure FlowMapping where
  /-- Whether nothing of it was read. -/
  first : Bool := true
  /-- The mapping so far. -/
  mapping : Mapping := {}
  /-- The place of the comma behind the last entry. -/
  comma : Option Mark := none

/-- One more entry of a flow mapping, unless it ends. -/
def flowEntry (item : Building (Yaml × Mark)) (state : FlowMapping) :
    Building (Option FlowMapping) := do
  let token ← peek
  if token.symbol = .flowMappingEnd then return none
  separator state.first .noMappingEnd
  if (← peek).symbol = .flowMappingEnd then return some { state with comma := token.mark }
  return some { first := false, mapping := ← flowPair item state.mapping }

/-- A mapping of one entry in a flow sequence, behind the sign of its key. -/
def singlePair (item : Building (Yaml × Mark)) : Building Yaml := do
  let next := (← peek).symbol
  let key ← if next ∈ [.value, .comma, .flowSequenceEnd] then missing <* skip else item
  let mapping ← addNode {} key
  let mapping ← addNode mapping (← flowValue .flowSequenceEnd item)
  return table mapping.entries

/-- One more item of a flow sequence, unless it ends. -/
def flowItem (item : Building (Yaml × Mark)) (state : Bool × List Yaml) :
    Building (Option (Bool × List Yaml)) := do
  if (← peek).symbol = .flowSequenceEnd then return none
  separator state.1 .noSequenceEnd
  match (← peek).symbol with
  | .flowSequenceEnd => return none
  | .key => return some (false, (← skip *> singlePair item) :: state.2)
  | _ => return some (false, (← item).1 :: state.2)

/-- The mark of the last token of a collection, which is passed over. -/
def ending : Building Mark := do
  (return (← peek).mark) <* skip

/-- The content of a node without properties, of which `inFlow`, `inBlock` and `asValue` read nodes
inside: in a flow collection, in a block, and as the key or the value of a block. -/
def content (inFlow inBlock asValue : Building (Yaml × Mark)) (block indentless : Bool)
    (properties : Properties) : Building (Yaml × Mark) := do
  let token ← peek
  match token.symbol, block, indentless with
  | .scalar plain string, _, _ => skip *> pure (ofScalar plain properties.tag string, token.mark)
  | .flowSequence, _, _ =>
    let (_, items) ← skip *> repeated (flowItem inFlow) (true, [])
    return (list items.reverse, ← ending)
  | .flowMapping, _, _ =>
    let state ← skip *> repeated (flowEntry inFlow) {}
    let mark ← ending
    return (table state.mapping.entries, state.comma.getD mark)
  | .blockSequence, true, _ =>
    let items ← skip *> repeated (blockItem inBlock) []
    return (list items.reverse, ← ending)
  | .blockMapping, true, _ =>
    let mapping ← skip *> repeated (blockEntry asValue) {}
    return (table mapping.entries, ← ending)
  | .dash, _, true =>
    let items ← repeated (bareItem inBlock) []
    return (list items.reverse, (← peek).mark)
  | _, _, _ =>
    if properties.anchor.isNone && properties.tag.isNone then failAt token.mark .noNode
    else return (ofScalar true properties.tag "", token.mark)

/-- A node with nodes of at most so many levels inside. -/
def node : Nat → Bool → Bool → Building (Yaml × Mark)
  | 0, _, _ => do failAt (← peek).mark .noNode
  | depth + 1, block, indentless => do
    let token ← peek
    match token.symbol with
    | .alias name =>
      match (← get).anchors.toList.reverse.lookup name with
      | some value => skip *> pure (value, token.mark)
      | none => failAt token.mark .unknownAnchor
    | _ =>
      let properties ← repeated property {}
      let value ← content (node depth false false) (node depth true false) (node depth true true)
        block indentless properties
      if let some number := properties.anchor then
        modify fun builder =>
          { builder with anchors := builder.anchors.modify number fun (name, _) => (name, value.1) }
      return value

end Building
end Yaml
end SqlEngine
