import SqlEngine.Text.Split

/-!
# Command lines

Every option is given at most once, has a value, and is written `--name value` or `--name=value`; the
command also `-c value` or `-cvalue`.  A value that stands by itself does not begin with a dash unless
it is only a dash.  There are no other arguments.
-/

namespace SqlEngine
namespace CommandLine

/-- An option. -/
inductive Flag where
  /-- The connection string. -/
  | dsn
  /-- The level of logging. -/
  | logLevel
  /-- The file of settings. -/
  | config
  /-- A command to run. -/
  | command
  deriving DecidableEq

/-- The option of a name. -/
def Flag.ofName? (name : String) : Option Flag :=
  if name = "dsn" then some dsn
  else if name = "log-level" then some logLevel
  else if name = "config" then some config
  else if name = "command" then some command
  else none

/-- The values of the options. -/
structure Options where
  /-- The connection string. -/
  dsn : Option String := none
  /-- The level of logging. -/
  logLevel : Option String := none
  /-- The file of settings. -/
  config : Option String := none
  /-- A command to run. -/
  command : Option String := none
  deriving DecidableEq

/-- The options with a value for one more; no file has the empty name. -/
def Options.set (options : Options) (value : String) : Flag → Option Options
  | .dsn => if options.dsn.isSome then none else some { options with dsn := value }
  | .logLevel => if options.logLevel.isSome then none else some { options with logLevel := value }
  | .config =>
    if options.config.isSome || value.isEmpty then none else some { options with config := value }
  | .command => if options.command.isSome then none else some { options with command := value }

/-- What an argument is. -/
inductive Argument where
  /-- An option with its value. -/
  | complete (flag : Flag) (value : String)
  /-- An option whose value is the next argument. -/
  | open (flag : Flag)
  /-- A request for help. -/
  | help
  /-- The end of the options. -/
  | ending
  /-- Something that does not belong here. -/
  | unknown
  deriving DecidableEq

/-- What an argument behind two dashes is. -/
def Argument.ofLong (chars : List Char) : Argument :=
  match Text.splitFirst? '=' chars with
  | none =>
    let name := String.ofList chars
    if name = "help" then help else (Flag.ofName? name).elim unknown Argument.open
  | some (name, value) =>
    (Flag.ofName? (String.ofList name)).elim unknown fun flag =>
      complete flag (String.ofList value)

/-- What an argument is. -/
def Argument.read (argument : String) : Argument :=
  match argument.toList with
  | ['-', '-'] => ending
  | '-' :: '-' :: long => ofLong long
  | '-' :: 'h' :: _ => help
  | ['-', 'c'] => Argument.open .command
  | '-' :: 'c' :: '=' :: value => complete .command (String.ofList value)
  | '-' :: 'c' :: value => complete .command (String.ofList value)
  | _ => unknown

/-- Whether an argument can be the value of the option in front of it. -/
def isValue (argument : String) : Bool :=
  match argument.toList with
  | '-' :: _ :: _ => false
  | _ => true

/-- What a command line asks for. -/
inductive Wish where
  /-- To run with options. -/
  | run (options : Options)
  /-- To be told about the options. -/
  | help
  /-- Nothing that is understood. -/
  | wrong
  deriving DecidableEq

/-- What arguments ask for, given the options in front of them. -/
def read (options : Options) : List String → Wish
  | [] => .run options
  | argument :: arguments =>
    match Argument.read argument with
    | .unknown => .wrong
    | .help => .help
    | .ending => if arguments.isEmpty then .run options else .wrong
    | .complete flag value =>
      match options.set value flag with
      | some options => read options arguments
      | none => .wrong
    | .open flag =>
      match arguments with
      | [] => .wrong
      | value :: arguments =>
        if isValue value then
          match options.set value flag with
          | some options => read options arguments
          | none => .wrong
        else .wrong

/-- What is said about the options. -/
def help : String :=
  "\n".intercalate
    ["Interactive shell for the in-memory SQL engine", "", "Usage: inmemsql [OPTIONS]", "", "Options:",
     "      --dsn <DSN>              Connection string [default: ]",
     "      --log-level <LOG_LEVEL>  Log level (off, error, warn, info, debug, trace)",
     "      --config <CONFIG>        Configuration file [default: inmemsql.toml]",
     "  -c, --command <COMMAND>      Run one command and exit",
     "  -h, --help                   Print help", ""]

end CommandLine
end SqlEngine
