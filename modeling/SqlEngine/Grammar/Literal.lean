import SqlEngine.Grammar.Words

/-!
# Literals

The values that a statement can contain: null, truth values, the current time, strings and numbers.
-/

namespace SqlEngine
namespace Grammar

/-- The rest of a string behind its first quote; a quote inside it is written twice. -/
def stringRest : List Char → Option (List Char × List Char)
  | [] => none
  | c :: rest =>
    if c = '\x27' then
      match rest with
      | d :: others =>
        if d = '\x27' then (stringRest others).map fun (content, left) => (d :: content, left)
        else some ([], rest)
      | [] => some ([], [])
    else (stringRest rest).map fun (content, left) => (c :: content, left)

/-- A string between single quotes. -/
def stringLiteral : Scan String := do
  Scan.char '\x27'
  let content ← show Scan (List Char) from fun chars => .ofOption (stringRest chars)
  return String.ofList content

/-- The digits of a whole number. -/
def digits : Scan String := do
  return String.ofList (← Scan.span1 Char.isDigit)

/-- A point with digits behind it. -/
def fraction : Scan (List Char) := do
  Scan.char '.'
  return '.' :: (← Scan.span1 Char.isDigit)

/-- A number with an optional minus sign and an optional fraction. -/
def number : Scan String := do
  let minus ← (Scan.char '-' *> pure ['-']) <|> pure []
  let whole ← Scan.span1 Char.isDigit
  let fraction ← fraction <|> pure []
  return String.ofList (minus ++ whole ++ fraction)

/-- The current time, as it is written. -/
def currentTime : Scan String :=
  Scan.consumed (letters "NOW" *> sign '(' *> Scan.char ')') <|> letters "CURRENT_TIMESTAMP"

/-- A node for a literal. -/
def literal : Scan Tree :=
  spaced <|
    wordNode .nullWord "NULL"
      <|> wordNode .trueWord "TRUE"
      <|> wordNode .falseWord "FALSE"
      <|> (return { token := .now, lexeme := ← currentTime })
      <|> (return { token := .stringLit, lexeme := ← stringLiteral })
      <|> (return { token := .number, lexeme := ← number })

end Grammar
end SqlEngine
