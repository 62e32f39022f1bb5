import SqlEngine.Binary64.Text
import SqlEngine.Text.Quoting

/-!
# Data of a file

What files in the several forms of settings hold: scalars, lists, and tables of named entries.
-/

namespace SqlEngine

/-- A piece of data. -/
inductive Datum where
  /-- No value. -/
  | null
  /-- A truth value. -/
  | boolean (truth : Bool)
  /-- A whole number. -/
  | integer (number : Int64)
  /-- A floating-point number. -/
  | float (number : Binary64)
  /-- A text. -/
  | text (text : String)
  /-- A list. -/
  | list (items : List Datum)
  /-- A table, in which the last entry of a name counts. -/
  | table (entries : List (String × Datum))

/-- The kind of a piece of data, and the data itself if it is a scalar, in the words of reports. -/
def Datum.kind : Datum → String
  | null => "unit value"
  | boolean truth => s!"boolean \x60{truth}\x60"
  | integer number => s!"64-bit integer \x60{number.toInt}\x60"
  | float number => s!"floating point \x60{number.toText}\x60"
  | text characters => "string " ++ Text.escaped characters
  | list _ => "sequence"
  | table _ => "map"

end SqlEngine
