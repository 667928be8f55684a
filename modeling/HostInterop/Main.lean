import HostInterop.Cli.Outcome

/-!
# The command

Reads the files a command names, runs it, and prints what it gives. All decisions are made by
`HostInterop.Cli.runCommandLine`; this layer only reads files and writes the two streams.
-/

open HostInterop.Cli HostInterop.Script

/-- The system's error number behind a failed read, where it has one. File operations report
it negated, as a 32-bit word, so it is turned back into the positive number. -/
def osCode? (e : IO.Error) : Option UInt32 :=
  let positive (code : UInt32) : UInt32 := if code ≥ 0x80000000 then 0 - code else code
  match e with
  | .noFileOrDirectory _ code _ | .inappropriateType _ code _ | .invalidArgument _ code _
  | .permissionDenied _ code _ | .resourceExhausted _ code _ | .noSuchThing _ code _
  | .otherError code _ => some (positive code)
  | _ => none

/-- The system's words for the error numbers a read may end with. -/
def osErrorWords : UInt32 → Option String
  | 2 => some "No such file or directory"
  | 13 => some "Permission denied"
  | 20 => some "Not a directory"
  | 21 => some "Is a directory"
  | 36 => some "File name too long"
  | 40 => some "Too many levels of symbolic links"
  | _ => none

/-- The system's account of a failed read, in the words the command reports. -/
def readFailureText (e : IO.Error) : String :=
  match osCode? e with
  | some code =>
    match osErrorWords code with
    | some words => words ++ " (os error " ++ toString code ++ ")"
    | none => toString e
  | none => toString e

/-- Read a file, keeping a failure as its text. -/
def readForCommand (path : String) : IO (Except String String) := do
  try
    pure (.ok (← IO.FS.readFile path))
  catch e =>
    pure (.error (readFailureText e))

/-- The paths a command line may read: the script file and the configuration file. -/
def pathsOf (words : List String) : List String :=
  match Invocation.read words with
  | .ok ⟨.run file config, _⟩ => file :: config.toList
  | .ok ⟨.call _ _ config, _⟩ => config.toList
  | _ => []

/-- Run the command line and print its outcome. -/
def main (args : List String) : IO UInt32 := do
  let mut files : List (String × Except String String) := []
  for path in pathsOf args do
    files := files ++ [(path, ← readForCommand path)]
  let read : Reader := fun p =>
    match files.find? (·.1 == p) with
    | some (_, r) => r
    | none => .error "No such file or directory (os error 2)"
  let outcome := runCommandLine read args
  let stdout ← IO.getStdout
  stdout.putStr outcome.stdout
  stdout.flush
  let stderr ← IO.getStderr
  if let some report := outcome.report then
    stderr.putStrLn ("Error: " ++ report.header)
    if let some location := report.location then
      stderr.putStrLn ("   at " ++ location ++ (match report.label with
        | some l => ": " ++ l
        | none => ""))
  for line in outcome.stderr do
    stderr.putStrLn line
  pure (UInt32.ofNat outcome.status)
