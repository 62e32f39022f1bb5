import SqlEngine.Error
import SqlEngine.Grammar.Statement
import SqlEngine.Statement.Quote
import SqlEngine.Text.Blank

/-!
# Scripts

A script is a text of statements with semicolons between them.  It is read as a whole: a fault in
one of its statements is a fault of the script, and where the reading of a statement breaks, so does
that of the script.
-/

namespace SqlEngine
namespace Script

/-- The parts of a text between the semicolons that lie outside quotes. -/
def pieces (quote : OpenQuote) : List Char → List (List Char)
  | [] => [[]]
  | c :: rest =>
    if quote = none ∧ c = ';' then [] :: pieces none rest
    else
      match pieces (quote.after c) rest with
      | piece :: others => (c :: piece) :: others
      | [] => [[c]]

/-- The texts of the statements of a script. -/
def statements (text : String) : List (List Char) :=
  ((pieces none text.toList).map Text.trim).filter (!·.isEmpty)

/-- The statement that trimmed characters stand for. -/
def ofTrimmed (chars : List Char) : Except Error Tree :=
  match Grammar.statement chars with
  | .miss => .error (.parse (.unreadable (String.ofList chars)))
  | .broken => .error .broken
  | .done (tree, rest) =>
    let rest := Text.trim rest
    if rest.isEmpty then .ok tree else .error (.parse (.leftover (String.ofList rest)))

/-- The one statement that a text stands for. -/
def parseStatement (text : String) : Except Error Tree :=
  ofTrimmed (Text.trim text.toList)

/-- The statements of a script, of which there must be at least one. -/
def parse (text : String) : Except Error (List Tree) :=
  match statements text with
  | [] => .error (.parse .noStatement)
  | first :: others => (first :: others).mapM ofTrimmed

/-- Whether the reading of a script breaks. -/
def breaks (text : String) : Bool :=
  match parse text with
  | .ok _ => false
  | .error error => error.isCrash

end Script
end SqlEngine
