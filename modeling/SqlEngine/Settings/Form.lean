import SqlEngine.Ini
import SqlEngine.Json.Value
import SqlEngine.Json5.Value
import SqlEngine.Ron.Value
import SqlEngine.Toml.Document
import SqlEngine.Yaml.Document

/-!
# Forms of settings files

The ending of its name tells the form of a settings file.  In every form the settings are the
entries of one table.
-/

namespace SqlEngine
namespace Settings

/-- A form of settings files. -/
inductive Form where
  /-- Lines of keys and values under headers. -/
  | toml
  /-- One value of a small syntax. -/
  | json
  /-- Lines of keys and values, with blocks that are told by their columns. -/
  | yaml
  /-- Lines of keys and texts under headers. -/
  | ini
  /-- One value of a syntax for structures. -/
  | ron
  /-- One value of the small syntax, with more liberties. -/
  | json5
  deriving DecidableEq

namespace Form

/-- The form that an ending stands for. -/
def ofEnding? (ending : String) : Option Form :=
  if ending = "toml" then some toml
  else if ending = "json" then some json
  else if ending = "yaml" || ending = "yml" then some yaml
  else if ending = "ini" then some ini
  else if ending = "ron" then some ron
  else if ending = "json5" then some json5
  else none

/-- The data of a file, or the report on its fault. -/
def parse (form : Form) (content : String) : Except String Datum :=
  match form with
  | toml => (Toml.parse content).map fun entries => .table (Toml.entryData entries)
  | json => Json.parse content
  | yaml => Yaml.parse content
  | ron => Ron.parse content
  | json5 => Json5.parse content
  | ini => (Ini.parse content).map .table

/-- The entries of a table, of which the last of a name counts. -/
def entriesOf (entries : List (String × Datum)) : List (String × Datum) :=
  entries.foldr (fun entry later => if later.any (·.1 == entry.1) then later else entry :: later) []

/-- The entries of a file, or the report on why there are none. -/
def entries (form : Form) (path content : String) : Except String (List (String × Datum)) := do
  match ← parse form content with
  | .table entries => return entriesOf entries
  | datum => .error s!"invalid type: {datum.kind}, expected a map in {path}"

end Form
end Settings
end SqlEngine
