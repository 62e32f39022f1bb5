import SqlEngine.Datum
import SqlEngine.Yaml.Node

/-!
# YAML documents

A text holds documents, of which each but the first starts with a mark.  As data a text is its only
document, and without one an empty table.
-/

namespace SqlEngine
namespace Yaml
namespace Building

/-- A directive in front of a document; the last one decides on the handles. -/
def directive (versioned : Bool) : Building (Option Bool) := do
  let token ← peek
  match token.symbol with
  | .version =>
    if versioned then failAt token.mark .versionTwice
    skip
    modify fun builder => { builder with handles := [] }
    return some true
  | .handle handle meaning =>
    skip
    modify fun builder => { builder with handles := [(handle, meaning)] }
    return some versioned
  | _ => return none

/-- Whether a token is a directive. -/
def isDirective : Symbol → Bool
  | .version => true
  | .handle _ _ => true
  | _ => false

/-- Whether a token stands between documents. -/
def isOutside (symbol : Symbol) : Bool :=
  isDirective symbol || symbol ∈ [.documentStart, .documentEnd, .streamEnd]

/-- A node on its own. -/
def root : Building Yaml := do
  return (← node ((← get).tokens.length + 1) true false).1

/-- The content of a document behind the mark in front of it. -/
def marked : Building Yaml := do
  let _ ← repeated directive false
  let token ← peek
  if token.symbol ≠ .documentStart then failAt token.mark .noDocument
  skip
  if isOutside (← peek).symbol then return null else root

/-- Passes over the end of a document; whether a mark ends it. -/
def documentEnd : Building Bool := do
  let token ← peek
  modify fun builder => { builder with handles := [] }
  if token.symbol = .documentEnd then
    skip
    return true
  if isDirective token.symbol then failAt token.mark .directiveInside
  return false

/-- Passes over a mark behind a document. -/
def extraEnd (_ : Unit) : Building (Option Unit) := do
  if (← peek).symbol = .documentEnd then some <$> skip else return none

/-- One more document, unless the text ends; the state tells whether it can be without a mark. -/
def document (state : Bool × List Yaml) : Building (Option (Bool × List Yaml)) := do
  repeated extraEnd ()
  let symbol := (← peek).symbol
  if symbol = .streamEnd then return none
  modify fun builder => { builder with anchors := #[] }
  let value ← if state.1 && !isOutside symbol then root else marked
  return some (← documentEnd, value :: state.2)

/-- All documents. -/
def documents : Building (List Yaml) := do
  let (_, documents) ← repeated document (true, [])
  if let some fault := (← get).duplicate then throw fault
  return documents.reverse

end Building

/-- The name of an entry by its key. -/
def name : Yaml → String
  | text string => string
  | integer number => toString number.toInt
  | key => key.report

mutual

/-- A node as data, or the report on a number that cannot be read. -/
def datum : Yaml → Except String Datum
  | null => .ok .null
  | boolean truth => .ok (.boolean truth)
  | integer number => .ok (.integer number)
  | real string =>
    (Binary64.ofText? string).elim
      (.error s!"Parsing {string} as floating point number failed") fun number => .ok (.float number)
  | text string => .ok (.text string)
  | list items => (itemData items).map .list
  | table entries => (entryData entries).map .table
  | bad => .ok .null

/-- Nodes as data. -/
def itemData : List Yaml → Except String (List Datum)
  | [] => .ok []
  | item :: items => do return (← item.datum) :: (← itemData items)

/-- Entries as data. -/
def entryData : List (Yaml × Yaml) → Except String (List (String × Datum))
  | [] => .ok []
  | (key, value) :: entries => do return (key.name, ← value.datum) :: (← entryData entries)

end

/-- The documents of a text, or its first fault. -/
def documents (text : String) : Except Fault (List Yaml) :=
  let tokens := Tokens.ofText text
  (Building.documents.run { tokens := tokens.tokens, fault := tokens.fault }).map (·.1)

/-- The data of a text, or the report on why there are none. -/
def parse (text : String) : Except String Datum :=
  match documents text with
  | .error fault => .error fault.report
  | .ok [] => .ok (.table [])
  | .ok [root] => root.datum
  | .ok roots => .error s!"Got {roots.length} YAML documents, expected 1"

end Yaml
end SqlEngine
