import FontScores.Command.Run

/-!
# The program

Reads the command line, carries it out on the files of the machine and ends with 0 if it succeeded,
1 if it failed and 2 if the command line was wrong.
-/

namespace FontScores

open Command

/-- The variable of the environment that can name the directory of the data files. -/
def dataVariable : String := "FONTTAG_DATA_DIR"

def usage : String :=
  "usage: fonttag [--data DIR] [--taggings FILE] [-v] lint|exemplars|similar|export|serve ..."

def storageFailure : IO.Error → StorageFailure
  | .noFileOrDirectory _ _ _ => .missing
  | .inappropriateType _ 20 _ => .notDirectory
  | .inappropriateType _ 21 _ => .isDirectory
  | failure => .other failure.toString

def readText (path : String) : IO (Except StorageFailure String) := do
  try
    return .ok (← IO.FS.readFile path)
  catch failure =>
    return .error (storageFailure failure)

instance : Storage IO where
  read := readText
  exists? path := do
    match ← readText path with
    | .error .missing => return false
    | .error .notDirectory => return false
    | _ => return true
  write path text := do
    try
      IO.FS.writeFile path text
      return .ok ()
    catch failure =>
      return .error (storageFailure failure)

end FontScores

open FontScores in
def main (words : List String) : IO UInt32 := do
  match ← (Command.run (← IO.getEnv dataVariable) words : IO Command.Outcome) with
  | .done output =>
    IO.print output
    return 0
  | .failed failure =>
    IO.eprintln failure.message
    return 1
  | .usageError =>
    IO.eprintln usage
    return 2
  | .serving _ address =>
    IO.eprintln (Command.Failure.listen address "no network to listen on").message
    return 1
