import Std.Data.ExtTreeMap
import SqlEngine.Relation

/-!
# Databases

A database is a set of tables with distinct names.
-/

namespace SqlEngine

/-- A set of tables, each under its name. -/
structure Database where
  /-- The tables by name. -/
  relations : Std.ExtTreeMap String Relation := ∅

namespace Database

/-- The database without tables. -/
def empty : Database :=
  {}

/-- Whether there is a table of a name. -/
def contains (database : Database) (name : String) : Bool :=
  database.relations.contains name

/-- The table of a name, if there is one. -/
def find? (database : Database) (name : String) : Option Relation :=
  database.relations[name]?

/-- The table of a name. -/
def relation (database : Database) (name : String) : Except Error Relation :=
  match database.find? name with
  | some relation => .ok relation
  | none => .error (.notFound name)

/-- The database with a table in place of the one of its name. -/
def put (database : Database) (relation : Relation) : Database :=
  ⟨database.relations.insert relation.name relation⟩

/-- The database with a new table. -/
def create (database : Database) (relation : Relation) : Except Error Database :=
  if database.contains relation.name then .error (.alreadyExists relation.name)
  else .ok (database.put relation)

/-- The table of a name, and the database without it. -/
def drop (database : Database) (name : String) : Except Error (Relation × Database) := do
  let relation ← database.relation name
  return (relation, ⟨database.relations.erase name⟩)

/-- The names of the tables, in order. -/
def names (database : Database) : List String :=
  database.relations.keys

end Database
end SqlEngine
