import Telemetry.Config.Error
import Telemetry.Text.Utf8
import Telemetry.Yaml.Document

/-!
The files that a configuration may name. A path goes from the root, or, if it is relative, from the
directory in which it is looked up.
-/

namespace Telemetry

/-- What stands at a place, given by the names on the way there from the root. -/
structure Files where
  regular : List (List String × List UInt8)
  directories : List (List String)

namespace Files

def empty : Files := ⟨[], []⟩

inductive Place
  | directory
  | file (content : List UInt8)

/-- A directory is there if it is named, or if there is something below it. -/
def place? (fs : Files) (names : List String) : Option Place :=
  match fs.regular.find? (·.1 == names) with
  | some (_, content) => some (.file content)
  | none =>
    if names = [] ∨ fs.directories.contains names ∨
        fs.regular.any (fun e => names.isPrefixOf e.1) then some .directory
    else none

/-- Follows the parts of a path. Only a directory has parts behind it. -/
def follow (fs : Files) : List String → List String → Option Place
  | names, [] => fs.place? names
  | names, part :: rest =>
    match fs.place? names with
    | some .directory =>
      if part = "" ∨ part = "." then follow fs names rest
      else if part = ".." then follow fs names.dropLast rest
      else follow fs (names ++ [part]) rest
    | _ => none

def find? (fs : Files) (path : String) : Option Place := fs.follow [] (path.splitOn "/")

/-- The text of a regular file in UTF-8. -/
def text? (fs : Files) (path : String) : Option String :=
  match fs.find? path with
  | some (.file content) => (Text.Utf8.decode? content).map String.ofList
  | _ => none

/-- The empty directory is the one in which relative paths are looked up anyway. -/
def joinPath (directory path : String) : String :=
  if path.startsWith "/" then path
  else if directory = "" then path
  else if directory.endsWith "/" then directory ++ path
  else directory ++ "/" ++ path

end Files

/-- The first document of a YAML text. -/
def loadText (text : String) : Except ConfigError Yaml :=
  (Yaml.load? text).elim (.error .malformed) .ok

/-- The first document of a YAML file. -/
def Files.load (fs : Files) (path : String) : Except ConfigError Yaml :=
  match fs.text? path with
  | none => .error (.unreadableFile path)
  | some text => match loadText text with
    | .ok doc => .ok doc
    | .error e => .error (.inYamlFile path e)

end Telemetry
