import SqlEngine.Text.Split

/-!
# Where the settings stand

The name of the settings file is a path from the working directory.  It is walked step by step, as
directories are: through a file or through nothing no path leads.  A directory in the place of
the file stands for a file beside it whose name has one of the known endings more.
-/

namespace SqlEngine
namespace Settings

/-- Files of the working directory and below it, by their paths, each with its content. -/
abbrev Files :=
  List (String × String)

/-- What there is under the name of the settings file. -/
inductive Source where
  /-- Nothing. -/
  | absent
  /-- Something that is no file. -/
  | noFile (name : String)
  /-- A file, with its path in short form. -/
  | file (path content : String)
  deriving DecidableEq

/-- The steps of a path. -/
def steps (path : String) : List String :=
  (Text.splitAll '/' path.toList).map String.ofList

/-- The steps of a path that leave the directory at hand. -/
def moves (path : String) : List String :=
  (steps path).filter fun step => step ∉ ["", "."]

/-- A path in short form. -/
def shortForm (path : String) : String :=
  "/".intercalate (moves path)

/-- The ending of a file name, if it has one. -/
def ending? (path : String) : Option String := do
  let name ← (moves path).getLast?
  let (reversed, front) ← Text.splitFirst? '.' name.toList.reverse
  if front.isEmpty then none else return String.ofList reversed.reverse

/-- The endings of the names of settings files. -/
def endings : List String :=
  ["toml", "json", "yaml", "yml", "ini", "ron", "json5"]

/-- A path with each of the endings more, if it ends in a name. -/
def candidates (path : String) : List String :=
  match (moves path).getLast? with
  | none => []
  | some ".." => []
  | some _ => endings.map (shortForm path ++ "." ++ ·)

/-- Where a walk along a path has come to. -/
inductive Spot where
  /-- The working directory or one below it. -/
  | inside (moves : List String)
  /-- A directory around the working directory. -/
  | outside
  /-- A file with its content. -/
  | file (content : String)

namespace Spot

/-- The spot behind one more name. -/
def enter (files : Files) (place : List String) (name : String) : Option Spot :=
  let place := place ++ [name]
  match files.find? fun (path, _) => moves path == place with
  | some (_, content) => some (file content)
  | none =>
    if files.any fun (path, _) => place.isPrefixOf (moves path) then some (inside place) else none

/-- The spot behind one more step, if there is one. -/
def follow (files : Files) (spot : Spot) (step : String) : Option Spot :=
  match spot with
  | file _ => none
  | outside => if step ∈ ["", ".", ".."] then some outside else none
  | inside place =>
    if step ∈ ["", "."] then some spot
    else if step = ".." then
      if place.isEmpty then some outside else some (inside place.dropLast)
    else enter files place step

/-- The spot at the end of a path, if there is one. -/
def find? (files : Files) (path : String) : Option Spot :=
  (steps path).foldlM (follow files) (inside [])

end Spot

/-- Paths from the root that every system has and that no settings can be read from. -/
def common : List String :=
  ["/", "/bin", "/dev", "/dev/null", "/etc", "/home", "/proc", "/root", "/tmp", "/usr", "/var"]

/-- The content of a file at the end of a path. -/
def contentAt? (files : Files) (path : String) : Option String :=
  match Spot.find? files path with
  | some (.file content) => some content
  | _ => none

/-- A file beside the directory at the end of a path, whose name has an ending more. -/
def beside (files : Files) (path : String) : Source :=
  match (candidates path).findSome? fun name => (contentAt? files name).map (name, ·) with
  | some (name, content) => .file name content
  | none => .noFile path

/-- What there is under a name. -/
def locate (files : Files) (name : String) : Source :=
  if name.toList.head? == some '/' then
    if name ∈ common then .noFile name else .absent
  else
    match Spot.find? files name with
    | none => .absent
    | some (.file content) => .file (shortForm name) content
    | some _ => beside files name

end Settings
end SqlEngine
