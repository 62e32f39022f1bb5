import SqlEngine.Ron.Scalar

/-!
# Reading RON values

Scalars, options, lists and tuples, structures with and without names, and tables.  In front of the
value a text can have settings for its reader.
-/

namespace SqlEngine
namespace Ron.Source

/-- A nested value, if one is allowed. -/
def nestedValue : Option (Source Ron) → Source Ron
  | none => failHere .tooDeep
  | some item => item

/-- What is read up to a closing bracket, and whether a comma was last. -/
def nextItem {α : Type} (closing : Char) (item : Source α) (state : Bool × List α) :
    Source (Option (Bool × List α)) := do
  blanks
  let c ← peek
  if c == closing then return none
  if !state.1 then failHere .noComma
  let value ← item
  return some (← comma, value :: state.2)

/-- Items with commas between them, up to and with a closing bracket. -/
def items {α : Type} (closing : Char) (item : Source α) : Source (List α) := do
  let (_, items) ← iterate (nextItem closing item) (true, [])
  skip 1
  return items.reverse

/-- A key and its value. -/
def entry (key value : Source Ron) : Source (Ron × Ron) := do
  let key ← key
  blanks
  if !(← consume ":") then failHere .noColon
  blanks
  return (key, ← value)

/-- The name of a field. -/
def fieldName : Source Ron := do
  return .text (← name)

/-- Whether the value in the bracket that follows has fields with names. -/
def hasFields : Source Bool :=
  ahead do
    skip 1
    blanks
    match ← maybeName with
    | none => return false
    | some _ =>
      blanks
      return (← peek) == ':'

/-- What follows a name or stands in its place: a structure, a tuple, or nothing. -/
def behindName (once twice : Option (Source Ron)) : Source Ron := do
  if (← peek?) != some '(' then return .unit
  let fields ← hasFields
  skip 1
  if once.isNone then failHere .tooDeep
  let item := nestedValue twice
  if !fields then return .list (← items ')' item)
  let key := if twice.isNone then item else fieldName
  return tableOf (← items ')' (entry key item))

/-- The value behind the word for one that is there: in brackets or, where that is allowed, without. -/
def optional (bare : Bool) (once : Option (Source Ron)) : Source Ron := do
  blanks
  if ← consume "(" then
    blanks
    let value ← nestedValue once
    let _ ← comma
    if ← consume ")" then return .present value else failHere .noOptionEnd
  else if bare then return .present (← nestedValue once)
  else failHere .noOption

/-- A value without a name. -/
def unnamed (once twice : Option (Source Ron)) : Source Ron := do
  let c ← peek
  if c == '(' then behindName once twice
  else if c == '[' || c == '\x7b' then
    skip 1
    if once.isNone then failHere .tooDeep
    let item := nestedValue twice
    if c == '[' then return .list (← items ']' item)
    else return tableOf (← items '\x7d' (entry item item))
  else if c.isDigit || c == '+' || c == '-' then number
  else if c == '.' then return .float (← float)
  else if c == '\x22' then return .text (← skip 1 *> string)
  else if c == 'r' then return .text (← skip 1 *> rawString)
  else if c == '\x27' then return .character (← skip 1 *> character)
  else failHere (unexpected c)

/-- A value, with values nested in it by one step or by two; `bare` allows options without brackets. -/
def valueAround (bare : Bool) (once twice : Option (Source Ron)) : Source Ron := do
  if ← word "true" then return .boolean true
  if ← word "false" then return .boolean false
  if ← word "Some" then return ← optional bare once
  if ← word "None" then return .absent
  if ← consume "()" then return .unit
  match ← wordOf? ["inf", "-inf", "NaN"] with
  | some word => return .float ((Binary64.ofText? word).getD .nan)
  | none =>
    match ← maybeName with
    | some _ => blanks *> behindName once twice
    | none => unnamed once twice

/-- A value with at most `steps` steps of nesting in it. -/
def value (bare : Bool) : Nat → Source Ron
  | 0 => valueAround bare none none
  | 1 => valueAround bare (some (value bare 0)) none
  | steps + 2 => valueAround bare (some (value bare (steps + 1))) (some (value bare steps))

/-- The settings that a text has for its reader. -/
def extensions : List String :=
  ["unwrap_newtypes", "implicit_some", "unwrap_variant_newtypes"]

/-- A setting for the reader, unless the list of them ends. -/
def extension (state : Bool × List String) : Source (Option (Bool × List String)) := do
  if !state.1 then return none
  let name ← name
  if name ∉ extensions then failHere (.noExtension name)
  let comma ← comma
  let more := (← peek?).any inName
  if !comma && more then failHere .noComma
  return some (comma && more, name :: state.2)

/-- A list of settings for the reader, if one follows. -/
def attribute? : Source (Option (List String)) := do
  if (← peek?) != some '#' then return none
  if !(← marks ["#", "!", "[", "enable", "("]) then failHere .noAttribute
  let (_, names) ← iterate extension (true, [])
  blanks
  if !(← marks [")", "]"]) then failHere .noAttributeEnd
  return some names

/-- A value alone. -/
def document : Source Ron := do
  blanks
  let names ← collect (attribute? <* blanks)
  let value ← value (names.flatten.contains "implicit_some") 128
  blanks
  match ← peek? with
  | none => return value
  | some _ => failHere .trailing

end Ron.Source

/-- The data of a text, or the report on its fault. -/
def Ron.parse (text : String) : Except String Datum :=
  match Source.document ⟨text.toList, {}⟩ with
  | .ok (value, _) => value.datum
  | .error fault => .error fault.report

end SqlEngine
