import BuildScheduler.Config.Document
import BuildScheduler.Json.Printer
import BuildScheduler.Stores

/-!
# The command line

The program takes the path of a configuration file. What it prints is decided here, from the
bytes of that file.
-/

namespace BuildScheduler.CommandLine

def usage : String := "usage: --config PATH"

/-- The path in a list of arguments; of repeated ones the last counts. -/
def path? : List String → Option String
  | ["--config", path] => some path
  | "--config" :: _ :: rest => path? rest
  | _ => none

/-- What the program reports: text for its output, or text for its errors. -/
abbrev Report := Except String String

/-- Why the file at a path was refused. -/
def refusal (path reason : String) : String := "failed to load " ++ path ++ ": " ++ reason

/-- Reports on a file: the configuration as JSON, if its stores could be opened. -/
def report (connects : String → Bool) (path : String) (bytes : Option ByteArray) : Report :=
  match Config.ofFile bytes with
  | .error error => .error (refusal path error.message)
  | .ok config =>
      match config.openStores connects with
      | .error error => .error error.message
      | .ok _ => .ok config.toJson.render

end BuildScheduler.CommandLine
