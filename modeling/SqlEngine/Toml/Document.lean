import SqlEngine.Toml.Scalar

/-!
# TOML documents

A document is read from line to line: headers of tables and entries.  Each line changes the table of
all entries before the next one is read, so the first fault of a document is the one that counts.
-/

namespace SqlEngine
namespace Toml.Source

/-- A list of values. -/
def array (item : Source Toml) : Source Toml := do
  char '['
  let items ← final do
    if (← Reader.peek) == some ']' then return []
    let items ← separated (char ',') (gap *> item <* gap)
    if !items.isEmpty then
      let _ ← possibly (char ',')
    gap
    return items
  expecting (marks [']']) (within "array" (final (char ']')))
  return .array items

/-- A key and a value. -/
def entry (item : Source Toml) : Source (Key × Toml) := do
  let key ← key
  final do
    expecting (marks ['.', '=']) (char '=')
    blanks
    return (key, ← item)

/-- The entries of keys and values one after the other. -/
def inlineEntries (pairs : List (Key × Toml)) : Except Breach Entries :=
  pairs.foldlM (fun entries (key, value) => entries.defineInline key value) []

/-- A table written as a value. -/
def inlineTable (item : Source Toml) : Source Toml := do
  char '\x7b'
  let entries ← final <| checked inlineEntries <|
    separated (char ',') (entry item <* blanks) <* blanks
  expecting (marks ['\x7d']) (within "inline table" (final (char '\x7d')))
  return .inline entries

/-- A value, of which a nested one is read by `nested` where one is allowed. -/
def valueAround (nested : Option (Source Toml)) : Source Toml := do
  match ← Reader.peek with
  | none => fail
  | some first =>
    if first == '[' || first == '\x7b' then
      match nested with
      | none => final (Reader.fail { breach := some .tooDeep })
      | some item => if first == '[' then array item else inlineTable item
    else scalar first

/-- A value with at most `depth` values around one in it. -/
def value : Nat → Source Toml
  | 0 => valueAround none
  | depth + 1 => valueAround (some (value depth))

/-- A document under way: the path of the last header, and all entries. -/
structure Progress where
  /-- The path of the last header. -/
  path : List String := []
  /-- The entries of the document. -/
  entries : Entries := []

/-- What stands behind a header or an entry. -/
def trailing : Source Unit :=
  expecting ("newline" :: marks ['#']) lineRest

/-- A header between brackets, which changes the entries. -/
def bracketed (opening closing : String) (change : Key → Entries → Except Breach Entries)
    (progress : Progress) : Source Progress :=
  checked (fun (header : Key) => do
      return ⟨header.parts, ← change header progress.entries⟩) do
    exactly opening
    let header ← final key
    expecting (marks ['.'] ++ ["\x60" ++ closing ++ "\x60"]) (final (exactly closing))
    final trailing
    return header

/-- The header of a table or of one more table of a list. -/
def header (progress : Progress) : Source Progress :=
  within "table header" fun chars =>
    match chars with
    | '[' :: '[' :: _ => bracketed "[[" "]]" (fun header => Entries.openNext header) progress chars
    | _ :: _ :: _ => bracketed "[" "]" (fun header => Entries.openTable header) progress chars
    | _ => fail chars

/-- An entry on a line of its own. -/
def entryLine (progress : Progress) : Source Progress :=
  checked (fun (pair : Key × Toml) => do
      return { progress with entries := ← progress.entries.define progress.path pair.1 pair.2 }) do
    let pair ← entry (value (levels - 1))
    final trailing
    return pair

/-- The next line of a document, if there is one. -/
def line (progress : Progress) : Source (Option Progress) := do
  match ← Reader.peek with
  | none => return none
  | some '#' => final (comment *> endOfLine) *> blanks *> pure (some progress)
  | some '[' => some <$> (final (header progress) <* blanks)
  | some '\n' => lineEnd *> blanks *> pure (some progress)
  | some '\r' => return (← possibly (lineEnd *> blanks)).map fun _ => progress
  | some _ => some <$> (final (entryLine progress) <* blanks)

/-- A document, which may have a byte order mark in front. -/
def document : Source Entries := do
  let _ ← possibly (char '\ufeff')
  blanks
  let progress ← Reader.iterate line {}
  atEnd
  return progress.entries

end Toml.Source

/-- The entries of a document, or the report on its first fault. -/
def Toml.parse (text : String) : Except String Toml.Entries :=
  match Source.document text.toList with
  | .ok (entries, _) => .ok entries
  | .error failure => .error (failure.fault.report text failure.rest)

mutual

/-- A value as data. -/
def Toml.datum : Toml → Datum
  | .string text => .text text
  | .integer number => .integer number
  | .float number => .float number
  | .boolean truth => .boolean truth
  | .moment text => .text text
  | .array items => .list (Toml.itemData items)
  | .inline entries => .table (Toml.entryData entries)
  | .table _ entries => .table (Toml.entryData entries)
  | .tables earlier last => .list (Toml.tableData earlier ++ [.table (Toml.entryData last)])

/-- Values as data. -/
def Toml.itemData : List Toml → List Datum
  | [] => []
  | item :: items => item.datum :: Toml.itemData items

/-- Entries as data. -/
def Toml.entryData : List (String × Toml) → List (String × Datum)
  | [] => []
  | (name, value) :: entries => (name, value.datum) :: Toml.entryData entries

/-- Tables as data. -/
def Toml.tableData : List (List (String × Toml)) → List Datum
  | [] => []
  | first :: others => .table (Toml.entryData first) :: Toml.tableData others

end

end SqlEngine
