import SqlEngine.Error
import SqlEngine.Settings.Basic
import SqlEngine.Settings.Form
import SqlEngine.Settings.Location
import SqlEngine.Settings.Store

/-!
# Reading the settings

Settings come from a file and from the environment, which wins.  A variable counts if its name starts
with `INMEMSQL_` in any case; what follows is its key.  Keys that no setting has are passed over.
Values are converted: a number may be written as a text, a truth value or a fraction, which is
rounded, and a text as a number or a truth value.
-/

namespace SqlEngine
namespace Settings

/-- The settings of a file. -/
def ofFile (path content : String) : Except Error (List Assignment) :=
  match (ending? path).bind Form.ofEnding? with
  | none => .error (.config (.fileForm path))
  | some form =>
    match form.entries path content with
    | .ok entries => .ok (entries.map fun (key, value) => ⟨key, value, path⟩)
    | .error report => .error (.config (.document report path))

/-- The settings of the file that a walk has come to. -/
def ofSource : Source → Except Error (List Assignment)
  | .absent => .ok []
  | .noFile name => .error (.config (.noFile name))
  | .file path content => ofFile path content

/-- The setting of a variable, if it is one. -/
def ofVariable? (name value : String) : Option Assignment := do
  let key ← Scan.strip? (fun letter c => letter == c.toLower) "inmemsql_".toList name.toList
  return ⟨String.ofList key, .text value, "the environment"⟩

/-- The number of a text. -/
def numberOfText? (text : String) : Option Nat :=
  if folded text ∈ ["true", "on", "yes"] then some 1
  else if folded text ∈ ["false", "off", "no"] then some 0
  else Numeral.unsigned? text.toList

/-- The whole number nearest to a floating-point number, within 64 bits. -/
def numberOfFloat : Binary64 → Nat
  | .nan => 0
  | .signed true _ => 0
  | .signed false rank => min rank.toNat 18446744073709551615

/-- The number of a setting, or what was expected in its place. -/
def number : Held → Except String Nat
  | .value (.integer number) _ =>
    if number < 0 then .error "an unsigned 64 bit or less integer" else .ok number.toInt.toNat
  | .value (.float number) _ => .ok (numberOfFloat number)
  | .value (.boolean truth) _ => .ok truth.toNat
  | .value (.text text) _ => (numberOfText? text).elim (.error "an integer") .ok
  | _ => .error "an integer"

/-- The text of a setting, or what was expected in its place. -/
def text : Held → Except String String
  | .value (.text text) _ => .ok text
  | .value (.integer number) _ => .ok (toString number.toInt)
  | .value (.float number) _ => .ok number.toText
  | .value (.boolean truth) _ => .ok (toString truth)
  | _ => .error "a string"

/-- A setting of a store, read by `read`, or a value in its absence. -/
def Store.getOr {α : Type} (store : Store) (key : String) (read : Held → Except String α)
    (absent : α) : Except Error α :=
  match store.lookup key with
  | none => .ok absent
  | some held =>
    match read held with
    | .ok value => .ok value
    | .error expected => .error (.config (.setting held.kind expected key held.origin?))

/-- The settings that a store comes to. -/
def ofStore (store : Store) : Except Error Settings := do
  let absent : Settings := {}
  return {
    channelCapacity := ← Store.getOr store "channel_capacity" number absent.channelCapacity
    logLevel := ← Store.getOr store "log_level" text absent.logLevel
    defaultTimeoutMs := ← Store.getOr store "default_timeout_ms" number absent.defaultTimeoutMs }

/-- The settings of a file, if there is one, and of variables. -/
def read (source : Source) (environment : List (String × String)) : Except Error Settings := do
  let fromFile ← ofSource source
  let fromEnvironment := environment.filterMap fun (name, value) => ofVariable? name value
  ofStore (Store.ofList (fromFile ++ fromEnvironment))

end Settings
end SqlEngine
