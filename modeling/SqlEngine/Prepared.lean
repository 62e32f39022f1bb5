import SqlEngine.Statement.Quote
import SqlEngine.Value
import SqlEngine.Error

/-!
# Prepared statements

A template is a script with placeholders outside quotes: a question mark stands for the next argument,
and a dollar sign with a number for the argument of that number.  Arguments take their places as
literals.
-/

namespace SqlEngine
namespace Prepared

/-- A piece of a template. -/
inductive Piece where
  /-- A character that stands for itself. -/
  | plain (c : Char)
  /-- A placeholder for the argument at a place, counted from zero, as it is written. -/
  | placeholder (argument : Nat) (written : List Char)
  deriving DecidableEq

/-- The argument that a number behind a dollar sign stands for, if it stands for one. -/
def numbered? (digits : List Char) : Option Nat :=
  let number := Numeral.value digits
  if 0 < number && number < 18446744073709551616 then some (number - 1) else none

/-- The pieces of a template, given the open quote and the number of question marks so far. -/
def pieces (quote : OpenQuote) (questions : Nat) : List Char → List Piece
  | [] => []
  | c :: rest =>
    if quote = none ∧ c = '?' then .placeholder questions [c] :: pieces none (questions + 1) rest
    else if quote = none ∧ c = '$' then
      match numbered? (rest.takeWhile Char.isDigit) with
      | some argument =>
        .placeholder argument (c :: rest.takeWhile Char.isDigit) ::
          pieces none questions (rest.dropWhile Char.isDigit)
      | none => .plain c :: pieces none questions rest
    else .plain c :: pieces (quote.after c) questions rest
termination_by chars => chars.length
decreasing_by
  all_goals simp only [List.length_cons]
  all_goals
    have := (List.dropWhile_suffix (l := rest) Char.isDigit).length_le
    omega

/-- The pieces of a template. -/
def ofTemplate (template : String) : List Piece :=
  pieces none 0 template.toList

/-- The number of arguments that a piece needs. -/
def Piece.inputs : Piece → Nat
  | plain _ => 0
  | placeholder argument _ => argument + 1

/-- The number of arguments that a template takes. -/
def inputs (template : String) : Nat :=
  ((ofTemplate template).map Piece.inputs).foldl max 0

/-- A piece with its argument in place, if there is one. -/
def Piece.fill (arguments : List Value) : Piece → List Char
  | plain c => [c]
  | placeholder argument written =>
    match arguments[argument]? with
    | some value => value.literal.toList
    | none => written

/-- A template with arguments in place of placeholders. -/
def substitute (template : String) (arguments : List Value) : String :=
  String.ofList ((ofTemplate template).flatMap (·.fill arguments))

/-- The script of a template and as many arguments as it takes. -/
def bind (template : String) (arguments : List Value) : Except Error String :=
  if arguments.length ≠ inputs template then
    .error (.shape (.argumentCount (inputs template) arguments.length))
  else .ok (substitute template arguments)

end Prepared
end SqlEngine
