import BuildScheduler.CommandLine

/-!
# The program

Reads the configuration file and prints what it sets up, or why it cannot be used. No database
is in reach of the program.
-/

open BuildScheduler

/-- The bytes of a file, if there is one. -/
def readBytes? (path : String) : IO (Option ByteArray) := do
  try
    let bytes ← IO.FS.readBinFile path
    pure (some bytes)
  catch _ => pure none

def main (arguments : List String) : IO UInt32 := do
  match CommandLine.path? arguments with
  | none =>
      IO.eprintln CommandLine.usage
      pure 2
  | some path =>
      let bytes ← readBytes? path
      match CommandLine.report (fun _ => false) path bytes with
      | .ok text =>
          IO.println text
          pure 0
      | .error text =>
          IO.eprintln text
          pure 1
