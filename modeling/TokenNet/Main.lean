import TokenNet.CommandLine.Log
import TokenNet.CommandLine.Run

/-!
# The command

Reads the files that the arguments name, runs the command line on them, and prints
what it leaves behind.
-/

open TokenNet

/-- Why a file cannot be read. -/
def readFailure : IO.Error → String
  | .noFileOrDirectory .. => CommandLine.ReadError.missing.message
  | .inappropriateType _ number details => details ++ " (os error " ++ toString number ++ ")"
  | .permissionDenied _ number details => details ++ " (os error " ++ toString number ++ ")"
  | error => error.toString

/-- The text of a file, or why it cannot be read. -/
def readText (name : String) : IO (Except String String) := do
  try
    let bytes ← IO.FS.readBinFile name
    match String.fromUTF8? bytes with
    | some text => return .ok text
    | none => return .error "stream did not contain valid UTF-8"
  catch error => return .error (readFailure error)

/-- The files that the arguments name, with their texts. -/
def readFiles (arguments : List String) : IO (List (String × Except String String)) :=
  match CommandLine.request arguments with
  | .run options => options.files.mapM fun name => return (name, ← readText name)
  | _ => return []

/-- The command. -/
def main (arguments : List String) : IO UInt32 := do
  let texts ← readFiles arguments
  let files : CommandLine.Files := fun name =>
    (texts.lookup name).getD (.error CommandLine.ReadError.missing.message)
  let transcript := CommandLine.run files arguments
  (← IO.getStdout).putStr transcript.output
  for error in transcript.errors do
    for line in CommandLine.logLines error do
      (← IO.getStderr).putStrLn line
  return transcript.exit.toUInt32
