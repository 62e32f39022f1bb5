import SqlEngine.Datum
import SqlEngine.Text.Blank
import SqlEngine.Text.Numeral
import SqlEngine.Text.Place
import SqlEngine.Text.Reader

/-!
# INI files

An INI file has entries, each a key and a text behind an equals sign or a colon, and headers of
sections between brackets.  What stands in front of the first header belongs to no section.  Comments
take lines of their own.
-/

namespace SqlEngine

/-- What ends a piece of an INI file. -/
inductive Ini.Ending where
  /-- The sign between a key and its value. -/
  | sign
  /-- The bracket behind the name of a section. -/
  | bracket
  /-- A quote. -/
  | quote (quote : Char)
  /-- The end of the line or of the file. -/
  | line
  deriving DecidableEq

namespace Ini.Ending

/-- Whether a character ends a piece. -/
def isMet : Ending → Char → Bool
  | sign, c => c == '=' || c == ':'
  | bracket, c => c == ']'
  | quote q, c => c == q
  | line, c => c == '\n' || c == '\r'

/-- What ends a piece, in the words of reports. -/
def description : Ending → String
  | sign => "[Some('='), Some(':')]"
  | bracket => "[Some(']')]"
  | quote q => "[Some(" ++ Text.escapedAlone q ++ ")]"
  | line => "[Some('\\n'), Some('\\r'), None]"

end Ini.Ending

/-- What is wrong with a text that is no INI file. -/
inductive Ini.Fault where
  /-- The text ends inside a piece. -/
  | unfinished (ending : Ini.Ending)
  /-- A comment stands behind something else on its line. -/
  | lateComment
  /-- A value has no key. -/
  | noKey
  /-- There is no character with the number behind a backslash. -/
  | noCharacter
  /-- A backslash in the number of a character does not stand at the end of a line. -/
  | noLineEnd (found : Option Char)

/-- The wording of a fault. -/
def Ini.Fault.message : Ini.Fault → String
  | unfinished ending => "expecting \"" ++ ending.description ++ "\" but found EOF."
  | lateComment => "doesn't support inline comment"
  | noKey => "missing key"
  | noCharacter => "unknown character in \\xHH form"
  | noLineEnd found =>
    let found := found.elim "None" fun c => "Some(" ++ Text.escapedAlone c ++ ")"
    "expecting \"\\\\n\" but found \"" ++ found ++ "\"."

/-- The report on a fault, with the place behind the character where the reading stopped. -/
def Ini.Fault.report (fault : Fault) (text : String) (rest : List Char) : String :=
  let place := Place.before (fun _ => 1) text.toList (rest.drop 1)
  s!"{place.line}:{place.column + 1} {fault.message}"

/-- A reader of a part of an INI file. -/
abbrev Ini.Source (α : Type) := Reader Ini.Fault α

namespace Ini.Source

/-- The number of a character, of which `count` more characters follow the first one of `chars`, and
what starts with its last one. -/
def code (ending : Ending) : Nat → List Char → Except (Failure Fault) (List Char × List Char)
  | 0, chars => .ok ([], chars)
  | count + 1, chars =>
    match chars.tail with
    | [] => .error ⟨.unfinished ending, []⟩
    | '\\' :: rest =>
      if rest.head? = some '\n' then
        (code ending count rest).map fun (code, last) => ('\\' :: code, last)
      else .error ⟨.noLineEnd rest.head?, rest⟩
    | c :: rest => (code ending count (c :: rest)).map fun (code, last) => (c :: code, last)

/-- A character by its number in four characters, which follow a letter. -/
def numbered (ending : Ending) : Source Char := fun chars =>
  match code ending 4 chars with
  | .error failure => .error failure
  | .ok (code, last) =>
    let digits := if code.head? = some '+' then code.tail else code
    let number := Numeral.valueIn 16 digits
    if digits.all Numeral.isHexDigit && number.isValidChar then .ok (Char.ofNat number, last.tail)
    else .error ⟨.noCharacter, last⟩

/-- What stands behind a backslash: a line end there is passed over. -/
def escape (ending : Ending) : Source (List Char) := do
  match ← Reader.peek with
  | none => Reader.fail (.unfinished ending)
  | some '0' => Reader.skip 1 *> pure ['\x00']
  | some 'a' => Reader.skip 1 *> pure ['\x07']
  | some 'b' => Reader.skip 1 *> pure ['\x08']
  | some 't' => Reader.skip 1 *> pure ['\t']
  | some 'r' => Reader.skip 1 *> pure ['\r']
  | some 'n' => Reader.skip 1 *> pure ['\n']
  | some '\n' => Reader.skip 1 *> pure []
  | some 'x' => return [← numbered ending]
  | some c => Reader.skip 1 *> pure [c]

/-- The next characters of a piece, unless it ends. -/
def part (ending : Ending) : Source (Option (List Char)) := do
  match ← Reader.peek with
  | none => if ending = .line then return none else Reader.fail (.unfinished ending)
  | some c =>
    if ending.isMet c then return none
    else if c = '\\' then Reader.skip 1 *> (return some (← escape ending))
    else return some (← Reader.span fun c => !ending.isMet c && c != '\\')

/-- A piece, without what ends it. -/
def piece (ending : Ending) : Source (List Char) := do
  return (← Reader.collect (part ending)).flatten

/-- What stands between quotes, if it starts there. -/
def quoted : Source (List Char) := do
  match ← Reader.peek with
  | some '\x22' => Reader.skip 1 *> piece (.quote '\x22') <* Reader.skip 1
  | some '\x27' => Reader.skip 1 *> piece (.quote '\x27') <* Reader.skip 1
  | _ => return []

/-- A value behind its sign: what stands between quotes there, and the rest of the line. -/
def value : Source String := do
  let _ ← Reader.span fun c => Text.isBlank c && c != '\n' && c != '\r'
  let front ← quoted
  let line ← piece .line
  return String.ofList (Text.trim (front ++ line))

/-- A file under way. -/
structure Progress where
  /-- The entries in front of the first header and the finished sections. -/
  finished : List (String × Datum) := []
  /-- The name of the section at hand, if there is one. -/
  name : Option String := none
  /-- The entries of the section at hand. -/
  entries : List (String × Datum) := []
  /-- The key that was read last and has no value yet. -/
  key : String := ""

/-- All entries, if there are no further ones. -/
def Progress.all (progress : Progress) : List (String × Datum) :=
  progress.finished ++
    match progress.name with
    | some name => [(name, .table progress.entries)]
    | none => progress.entries

/-- A comment, which starts its line. -/
def comment (text : List Char) : Source Unit := do
  if (Place.before (fun _ => 1) text (← get)).column ≠ 0 then Reader.fail .lateComment
  let _ ← Reader.span (· != '\n')

/-- The next header, key, value or comment of a file, if there is one. -/
def next (text : List Char) (progress : Progress) : Source (Option Progress) := do
  let _ ← Reader.span Text.isBlank
  match ← Reader.peek with
  | none => return none
  | some c =>
    if c = ';' ∨ c = '#' then comment text *> pure (some progress)
    else if c = '[' then
      let name ← Reader.skip 1 *> piece .bracket <* Reader.skip 1
      return some { finished := progress.all, name := String.ofList (Text.trim name), key := progress.key }
    else if c = '=' ∨ c = ':' then
      if progress.key.isEmpty then Reader.fail .noKey
      let value ← Reader.skip 1 *> value
      return some { progress with entries := progress.entries ++ [(progress.key, .text value)], key := "" }
    else
      let key ← piece .sign
      return some { progress with key := String.ofList (Text.trim key) }

end Ini.Source

/-- The entries and sections of a file, or the report on its fault. -/
def Ini.parse (text : String) : Except String (List (String × Datum)) :=
  match Reader.iterate (Source.next text.toList) {} text.toList with
  | .ok (progress, _) => .ok progress.all
  | .error failure => .error (failure.fault.report text failure.rest)

end SqlEngine
