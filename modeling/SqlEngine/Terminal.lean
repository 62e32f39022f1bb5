import SqlEngine.CommandLine
import SqlEngine.Settings.Reading
import SqlEngine.Shell

/-!
# The program

The program reads its settings, opens one session, and gives it either one command or line after line
of its input.  Everything that it does between reading and writing is a function here.
-/

namespace SqlEngine

/-- What was written. -/
structure Written where
  /-- On the output. -/
  output : String := ""
  /-- On the output for errors. -/
  errors : String := ""
  deriving DecidableEq

/-- What was written first and then. -/
def Written.append (first second : Written) : Written :=
  ⟨first.output ++ second.output, first.errors ++ second.errors⟩

/-- How a run of the program ends. -/
structure Exit where
  /-- The code. -/
  code : Nat
  /-- What was written. -/
  written : Written
  deriving DecidableEq

/-- The same end with more written in front. -/
def Exit.after (written : Written) (exit : Exit) : Exit :=
  { exit with written := written.append exit.written }

namespace Terminal

/-- The end of a run that an error cuts short. -/
def failed (report : String) : Exit :=
  ⟨1, { errors := "Error: " ++ report ++ "\n" }⟩

/-- The end of a run in the middle.  The report on it is not the program's own, and left out. -/
def crashed : Exit :=
  ⟨101, {}⟩

/-- The levels of logging. -/
def levels : List String :=
  ["off", "error", "warn", "info", "debug", "trace"]

/-- The session of a run with given options, settings file and variables. -/
def start (options : CommandLine.Options) (source : Settings.Source)
    (environment : List (String × String)) : Except Exit Shell.State :=
  match Settings.read source environment with
  | .error error => .error (failed error.report)
  | .ok settings =>
    let level := options.logLevel.getD settings.logLevel
    if Settings.folded level ∉ levels then .error (failed "ParseLevelError(())")
    else
      let registry : Registry := { settings := { settings with logLevel := level } }
      match registry.openSession (options.dsn.getD "") with
      | (.error error, _) => .error (failed error.report)
      | (.ok session, registry) => .ok { registry, session }

/-- A run with one command. -/
def command (occasion : Occasion) (state : Shell.State) (line : String) : Exit :=
  match (Shell.run occasion state line).1 with
  | .ok text => ⟨0, { output := text ++ "\n" }⟩
  | .error error => if error.isCrash then crashed else failed error.report

/-- What is written before the first line. -/
def greeting (state : Shell.State) : Written :=
  let key := (state.registry.server? state.session).elim "" (·.key)
  { output := s!"inmemsql 0.4.0 - engine '{key}'\nType \\? for help, \\q to quit.\n\n" }

/-- What is written on a request for help. -/
def help : String :=
  "\n".intercalate
    ["Meta-commands:", "  \\q, \\quit          - Quit", "  \\?, \\h, \\help      - Show this help", "",
     "SQL: CREATE, DROP, TRUNCATE, INSERT, SELECT, UPDATE, DELETE,",
     "     BEGIN / COMMIT / ROLLBACK (buffered, applied on commit)", ""]

/-- The end of a run behind the last line. -/
def farewell (state : Shell.State) : Exit :=
  ⟨0, if state.transaction.isSome then { output := "open transaction discarded\n" } else {}⟩

/-- What is written on a line, and the state behind it, unless the line ends the run. -/
def enter (occasion : Occasion) (state : Shell.State) (line : String) :
    Except Exit (Written × Shell.State) :=
  let line := String.ofList (Text.trim line.toList)
  if line.isEmpty then .ok ({}, state)
  else if line ∈ ["\\q", "\\quit", "quit", "exit"] then .error (farewell state)
  else if line ∈ ["\\?", "\\h", "\\help"] then .ok ({ output := help }, state)
  else
    match Shell.run occasion state line with
    | (.ok text, state) => .ok ({ output := text ++ "\n" }, state)
    | (.error error, state) =>
      if error.isCrash then .error crashed
      else .ok ({ errors := s!"ERROR: {error.message}\n" }, state)

/-- The end of a run with lines, each entered on the occasion of its number. -/
def enterAll (occasions : Nat → Occasion) (number : Nat) (state : Shell.State) :
    List String → Exit
  | [] => farewell state
  | line :: lines =>
    match enter (occasions number) state line with
    | .error exit => exit
    | .ok (written, state) => (enterAll occasions (number + 1) state lines).after written

/-- The lines of an input. -/
def linesOf (input : String) : List String :=
  (Text.splitAll '\n' input.toList).map String.ofList

/-- The name of the settings file. -/
def settingsFile (options : CommandLine.Options) : String :=
  options.config.getD "inmemsql.toml"

/-- A run of the program with arguments, files, variables and an input. -/
def run (occasions : Nat → Occasion) (arguments : List String) (files : Settings.Files)
    (environment : List (String × String)) (input : String) : Exit :=
  match CommandLine.read {} arguments with
  | .wrong => ⟨2, {}⟩
  | .help => ⟨0, { output := CommandLine.help }⟩
  | .run options =>
    match start options (Settings.locate files (settingsFile options)) environment with
    | .error exit => exit
    | .ok state =>
      match options.command with
      | some line => command (occasions 0) state line
      | none => (enterAll occasions 0 state (linesOf input)).after (greeting state)

end Terminal
end SqlEngine
