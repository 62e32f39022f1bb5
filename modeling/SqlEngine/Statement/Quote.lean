/-!
# Quotes

A text of statements may hold strings and names between quotes.  Whether a place lies between quotes
is found by following the text from its start: a quote opens, and only the same quote closes.
-/

namespace SqlEngine

/-- The quote that is open at a place of a text, if one is. -/
abbrev OpenQuote := Option Char

namespace OpenQuote

/-- Whether a character opens a quote. -/
def opens (c : Char) : Bool :=
  c == '\x27' || c == '\x22' || c == '\x60'

/-- The open quote behind one more character. -/
def after (quote : OpenQuote) (c : Char) : OpenQuote :=
  match quote with
  | none => if opens c then some c else none
  | some opened => if c = opened then none else some opened

end OpenQuote
end SqlEngine
