import Std.Time.DateTime
import SqlEngine.Terminal

/-!
# Running the program

The outer layer: arguments, environment, files, clock, input and output.
-/

namespace SqlEngine

/-- The present moment in universal time. -/
def presentMoment : IO Timestamp := do
  let sinceEpoch := (← Std.Time.Timestamp.now).toNanosecondsSinceUnixEpoch
  let moment := Std.Time.PlainDateTime.ofWallTime (.ofNanoseconds sinceEpoch)
  let date := Date.of? moment.year.toInt moment.month.toNat moment.day.toNat
  let time := Time.of? moment.hour.toNat moment.minute.toNat moment.second.toNat
    moment.nanosecond.toNat
  match date, time with
  | some date, some time => return ⟨date, time⟩
  | some date, none => return date.atMidnight
  | none, _ => throw (IO.userError "the clock shows a year out of reach")

/-- The variables of the environment that are settings, in capitals or in small letters. -/
def settingVariables : IO (List (String × String)) := do
  let names := ["INMEMSQL_CHANNEL_CAPACITY", "INMEMSQL_LOG_LEVEL", "INMEMSQL_DEFAULT_TIMEOUT_MS"]
  let found ← (names ++ names.map Settings.folded).mapM fun name => do
    return (← IO.getEnv name).map (name, ·)
  return found.filterMap id

/-- What there is under a name. -/
def look (name : String) : IO Settings.Source := do
  match ← (IO.FS.readFile name).toBaseIO with
  | .ok content => return .file (Settings.shortForm name) content
  | .error (.noFileOrDirectory ..) => return .absent
  | .error _ => return .noFile name

/-- What there is under the name of the settings file, or beside it if it is no file. -/
def lookForSettings (name : String) : IO Settings.Source := do
  match ← look name with
  | .noFile name =>
    for candidate in Settings.candidates name do
      if let .file path content ← look candidate then return .file path content
    return .noFile name
  | source => return source

/-- Writes what is to be written. -/
def write (written : Written) : IO Unit := do
  let output ← IO.getStdout
  output.putStr written.output
  output.flush
  let errors ← IO.getStderr
  errors.putStr written.errors
  errors.flush

/-- Ends the run. -/
def finish (exit : Exit) : IO UInt32 := do
  write exit.written
  return exit.code.toUInt32

/-- What comes of a line, which is late if that takes longer than the session waits. -/
def onTime {α : Type} (state : Shell.State) (act : Occasion → α) : IO α := do
  let now ← presentMoment
  let begun ← IO.monoNanosNow
  let outcome ← IO.lazyPure fun _ => act { now }
  let ended ← IO.monoNanosNow
  match (state.registry.server? state.session).bind Server.limit? with
  | some limit =>
    return if ended - begun ≤ limit then outcome else act { now, wait := .late }
  | none => return outcome

/-- Enters lines until one ends the run or there are no more. -/
partial def enterLines (input : IO.FS.Stream) (state : Shell.State) : IO UInt32 := do
  let line ← input.getLine
  if line.isEmpty then finish (Terminal.farewell state)
  else
    match ← onTime state (Terminal.enter · state line) with
    | .error exit => finish exit
    | .ok (written, state) => do
      write written
      enterLines input state

/-- Runs the program with options. -/
def runWith (options : CommandLine.Options) : IO UInt32 := do
  let source ← lookForSettings (Terminal.settingsFile options)
  match Terminal.start options source (← settingVariables) with
  | .error exit => finish exit
  | .ok state =>
    match options.command with
    | some line => finish (← onTime state (Terminal.command · state line))
    | none =>
      write (Terminal.greeting state)
      enterLines (← IO.getStdin) state

end SqlEngine

open SqlEngine in
/-- Runs the program. -/
def main (arguments : List String) : IO UInt32 := do
  match CommandLine.read {} arguments with
  | .run options => runWith options
  | .help => finish ⟨0, { output := CommandLine.help }⟩
  | .wrong => finish ⟨2, { errors := CommandLine.help }⟩
