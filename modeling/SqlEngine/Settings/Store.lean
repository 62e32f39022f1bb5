import SqlEngine.Datum
import SqlEngine.Settings.Key

/-!
# The store of settings

Settings are assigned one after the other, and a later one takes the place of an earlier one of the
same name.  A setting that is put together from several assignments stands in no single place.
-/

namespace SqlEngine
namespace Settings

/-- A setting to be assigned. -/
structure Assignment where
  /-- The key, as it is written. -/
  key : String
  /-- The value. -/
  value : Datum
  /-- The place where it stands. -/
  origin : String

/-- What a store has under a name. -/
inductive Held where
  /-- A value that was assigned as a whole. -/
  | value (datum : Datum) (origin : String)
  /-- A table that was put together. -/
  | table
  /-- A list that was put together. -/
  | list

namespace Held

/-- The kind of what is held, in the words of reports. -/
def kind : Held → String
  | value datum _ => datum.kind
  | table => "map"
  | list => "sequence"

/-- The place of what is held, if it is a single one. -/
def origin? : Held → Option String
  | value _ origin => some origin
  | table => none
  | list => none

/-- What is held behind an assignment to a part of a setting or to the whole; a table is merged into
what is there, and an item goes into the list that is there. -/
def assign (held : Option Held) (target : Target) (value : Datum) (origin : String) : Held :=
  match target, value, held with
  | .entry, _, _ => table
  | .item, _, some (.value (.list items) place) => .value (.list items) place
  | .item, _, _ => list
  | .whole, .table [], some held => held
  | .whole, .table _, _ => table
  | .whole, value, _ => .value value origin

end Held

/-- Settings by their names. -/
abbrev Store :=
  List (String × Held)

namespace Store

/-- The store behind an assignment. -/
def assign (store : Store) (assignment : Assignment) : Store :=
  let key := Key.read assignment.key
  let held := Held.assign (store.lookup key.name) key.target assignment.value assignment.origin
  (key.name, held) :: store.filter (·.1 != key.name)

/-- The store that assignments come to. -/
def ofList (assignments : List Assignment) : Store :=
  assignments.foldl assign []

end Store
end Settings
end SqlEngine
