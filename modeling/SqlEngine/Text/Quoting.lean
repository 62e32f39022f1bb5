import SqlEngine.Text.Visible

/-!
# Quoting

Two ways to put a text between quotes: in a statement a quote inside the text is written twice; in
a report on an error it stands behind a backslash, and hidden characters are written by number.
-/

namespace SqlEngine
namespace Text

/-- The characters with every single quote written twice. -/
def doubleQuotes : List Char → List Char
  | [] => []
  | c :: rest => if c = '\x27' then c :: c :: doubleQuotes rest else c :: doubleQuotes rest

/-- A text as a string literal of a statement. -/
def quoted (text : String) : String :=
  String.ofList ('\x27' :: doubleQuotes text.toList ++ ['\x27'])

/-- A character by its number, in hexadecimal. -/
def byNumber (c : Char) : List Char :=
  ['\\', 'u', '\x7b'] ++ Nat.toDigits 16 c.toNat ++ ['\x7d']

/-- A character as reports show it between double quotes. -/
def escapedChar (c : Char) : List Char :=
  if c = '\x00' then ['\\', '0']
  else if c = '\t' then ['\\', 't']
  else if c = '\r' then ['\\', 'r']
  else if c = '\n' then ['\\', 'n']
  else if c = '\x22' then ['\\', c]
  else if c = '\\' then ['\\', c]
  else if isVisible c then [c]
  else byNumber c

/-- A text as reports show it, between double quotes. -/
def escaped (text : String) : String :=
  String.ofList ('\x22' :: text.toList.flatMap escapedChar ++ ['\x22'])

/-- A character as reports show it, between single quotes. -/
def escapedAlone (c : Char) : String :=
  let chars := if c = '\x27' then ['\\', c] else if c = '\x22' then [c] else escapedChar c
  String.ofList ('\x27' :: chars ++ ['\x27'])

end Text
end SqlEngine
