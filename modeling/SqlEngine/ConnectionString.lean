import SqlEngine.Error
import SqlEngine.Text.Split

/-!
# Connection strings

A connection string is `PROTOCOL:ADDRESS,OPTION=VALUE*DATABASE/USER/PASSWORD`.  The part up to the
star is optional, and so are its options.  A part without its colon, or without both of its slashes,
leaves its fields empty; an option that is not known, or a timeout that is no duration, is an error.
-/

namespace SqlEngine

/-- The fields of a connection string. -/
structure ConnectionString where
  /-- The protocol. -/
  protocol : String := ""
  /-- The address. -/
  address : String := ""
  /-- The local address. -/
  localAddress : String := ""
  /-- The database. -/
  database : String := ""
  /-- The user. -/
  user : String := ""
  /-- The password. -/
  password : String := ""
  /-- The longest time a request may take. -/
  timeout : Option Duration := none
  deriving DecidableEq

namespace ConnectionString

/-- The name under which the engine of a connection string is known. -/
def key (text : String) : String :=
  if text.isEmpty then "default" else text

/-- The fields with one more option; one without a value stands for the value `true`. -/
def withOption (fields : ConnectionString) (option : List Char) :
    Except Error ConnectionString :=
  let (name, value) := (Text.splitFirst? '=' option).getD (option, "true".toList)
  let name := String.ofList name
  let value := String.ofList value
  if name = "laddr" then .ok { fields with localAddress := value }
  else if name = "timeout" then
    match Duration.ofText value with
    | .ok duration =>
      .ok { fields with timeout := if duration = 0 then none else some duration }
    | .error fault => .error (.config (.duration fault value))
  else .error (.unsupported (.connectionOption name))

/-- The fields with those of the part behind the star. -/
def withDatabase (fields : ConnectionString) (part : List Char) : ConnectionString :=
  match Text.splitFirst? '/' part with
  | none => fields
  | some (database, rest) =>
    match Text.splitFirst? '/' rest with
    | none => fields
    | some (user, password) =>
      { fields with
        database := String.ofList database
        user := String.ofList user
        password := String.ofList password }

/-- The fields of a protocol and of an address with options. -/
def ofProtocol (protocol address : List Char) : Except Error ConnectionString :=
  match Text.splitAll ',' address with
  | [] => .ok { protocol := String.ofList protocol }
  | address :: options =>
    options.foldlM withOption
      { protocol := String.ofList protocol, address := String.ofList address }

/-- The fields of a connection string. -/
def parse (text : String) : Except Error ConnectionString :=
  let chars := (key text).toList
  match Text.splitFirst? '*' chars with
  | none => .ok (withDatabase {} chars)
  | some (front, part) =>
    match Text.splitFirst? ':' front with
    | none => .ok {}
    | some (protocol, address) => do
      return (← ofProtocol protocol address).withDatabase part

end ConnectionString
end SqlEngine
