import SqlEngine.Datum

/-!
# RON values

Scalars, lists and tuples, structures whose fields have names, and tables, in which any value can be
a key.  The entries of a table are in the order of their keys, and of two entries with equal keys the
last one counts.  As data a table has texts for its keys.
-/

namespace SqlEngine

/-- A value. -/
inductive Ron where
  /-- A value without parts. -/
  | unit
  /-- A truth value. -/
  | boolean (truth : Bool)
  /-- A single character. -/
  | character (c : Char)
  /-- A whole number. -/
  | integer (number : Int64)
  /-- A floating-point number. -/
  | float (number : Binary64)
  /-- A text. -/
  | text (characters : String)
  /-- The option that no value is there. -/
  | absent
  /-- The option that a value is there. -/
  | present (value : Ron)
  /-- A list or a tuple. -/
  | list (items : List Ron)
  /-- A table or a structure. -/
  | table (entries : List (Ron × Ron))

namespace Ron

/-- The place of a kind of values among the kinds. -/
def rank : Ron → Nat
  | boolean _ => 0
  | character _ => 1
  | table _ => 2
  | integer _ => 3
  | float _ => 4
  | absent => 5
  | present _ => 6
  | text _ => 7
  | list _ => 8
  | unit => 9

/-- The order of floating-point numbers, in which what is not a number comes first. -/
def compareFloats (left right : Binary64) : Ordering :=
  match left, right with
  | .nan, .nan => .eq
  | .nan, _ => .lt
  | _, .nan => .gt
  | _, _ => (Binary64.compare? left right).getD .eq

mutual

/-- The order of values. -/
def compare : Ron → Ron → Ordering
  | boolean left, boolean right => Ord.compare left right
  | character left, character right => Ord.compare left right
  | table left, table right => compareEntries left right
  | integer left, integer right => Ord.compare left right
  | float left, float right => compareFloats left right
  | present left, present right => compare left right
  | text left, text right => Ord.compare left right
  | list left, list right => compareItems left right
  | left, right => Ord.compare left.rank right.rank

/-- The order of lists of values, which is that of the first items that differ. -/
def compareItems : List Ron → List Ron → Ordering
  | [], [] => .eq
  | [], _ => .lt
  | _, [] => .gt
  | left :: lefts, right :: rights => (compare left right).then (compareItems lefts rights)

/-- The order of lists of entries, which is that of the first keys or values that differ. -/
def compareEntries : List (Ron × Ron) → List (Ron × Ron) → Ordering
  | [], [] => .eq
  | [], _ => .lt
  | _, [] => .gt
  | (key, left) :: lefts, (key', right) :: rights =>
    ((compare key key').then (compare left right)).then (compareEntries lefts rights)

end

/-- Entries in order with one more entry; the value under an equal key is replaced. -/
def insert (entry : Ron × Ron) : List (Ron × Ron) → List (Ron × Ron)
  | [] => [entry]
  | first :: others =>
    match compare entry.1 first.1 with
    | .lt => entry :: first :: others
    | .eq => (first.1, entry.2) :: others
    | .gt => first :: insert entry others

/-- The table of entries that come one after the other. -/
def tableOf (entries : List (Ron × Ron)) : Ron :=
  table (entries.foldl (fun entries entry => insert entry entries) [])

/-- The report on a key of a given kind, which is no text. -/
def badKey (kind : String) : Except String String :=
  .error s!"Expected a string but found {kind} instead"

/-- The text of a key, or the report on one that is no text. -/
def keyText : Ron → Except String String
  | unit => badKey "a unit value"
  | boolean truth => badKey s!"the boolean \x60{truth}\x60"
  | character c => .ok (String.ofList [c])
  | integer number => badKey s!"the signed integer \x60{number.toInt}\x60"
  | float number => badKey s!"the floating point number \x60{number.toText}\x60"
  | text characters => .ok characters
  | absent => badKey "an optional value"
  | present _ => badKey "an optional value"
  | list _ => badKey "a sequence"
  | table _ => badKey "a map"

mutual

/-- A value as data, or the report on a key that is no text. -/
def datum : Ron → Except String Datum
  | unit => .ok .null
  | boolean truth => .ok (.boolean truth)
  | character c => .ok (.text (String.ofList [c]))
  | integer number => .ok (.integer number)
  | float number => .ok (.float number)
  | text characters => .ok (.text characters)
  | absent => .ok .null
  | present value => value.datum
  | list items => (itemData items).map .list
  | table entries => (entryData entries).map .table

/-- Values as data. -/
def itemData : List Ron → Except String (List Datum)
  | [] => .ok []
  | item :: items => do return (← item.datum) :: (← itemData items)

/-- Entries as data. -/
def entryData : List (Ron × Ron) → Except String (List (String × Datum))
  | [] => .ok []
  | (key, value) :: entries => do
    return (← key.keyText, ← value.datum) :: (← entryData entries)

end

end Ron
end SqlEngine
