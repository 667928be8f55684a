import HostInterop.Cli.Invocation
import HostInterop.Script.Runner
import HostInterop.Script.Report
import HostInterop.Config.Toml
import HostInterop.Host.Standard
import HostInterop.Text.Quoted
import HostInterop.Text.Blank

/-!
# Running a command

What a command gives: an exit status, the text on standard output, a report of a failed script,
and the lines on standard error. A failure ends with the line `Error: …` and status 1.

* `run FILE` reads the file, then the configuration, and runs the script in a session over the
  standard classes. Each successful call prints a line as it runs: `NAME = value` when it binds
  a name, the value otherwise. A failure is reported against the file.
* `call OP ARG...` joins the operation and its arguments into one script line, quoting an
  argument that is empty or holds white space, then reads the configuration and runs the line.
  Its values are printed only when the whole line succeeds. A failure other than a failed call
  is reported against the line, under the name `<args>`.
* `classes` lists each standard class, its constructors and its public methods.

Files come from a `Reader`: the command sees a file's text or the system's account of why it
cannot be read, nothing else of the system.
-/

namespace HostInterop.Cli

open HostInterop.Script HostInterop.Host HostInterop.Text

/-- How a command reads a file: its text, or why it cannot be read. -/
abbrev Reader := String → Except String String

/-- A working directory that holds plain files by name, and nothing else. -/
structure Directory where
  files : List (String × String)

/-- The most bytes a name in a directory may have. -/
def nameMax : Nat := 255

/-- The fewest bytes a path may not have: the system takes paths of fewer bytes only. -/
def pathMax : Nat := 4096

/-- Where a path leads, walked one component at a time from the working directory or, for a
path that starts with a slash, from the root. -/
inductive Place where
  /-- A directory: the working directory or one of its ancestors, `up` levels above it. -/
  | dir (up : Nat)
  /-- The root directory, which is its own parent. -/
  | root
  /-- A file of the working directory. -/
  | file (text : String)
  /-- Nothing: a name that is not there. -/
  | missing
  /-- A path that goes on through a file. -/
  | throughFile
  /-- A name longer than any name in a directory can be. -/
  | tooLong

/-- Where a name looked up in a directory leads: a name of more than `nameMax` bytes is refused
before anything is looked up, a file of the working directory is found, and what lies outside
the working directory is not known, so names there are missing. -/
def Directory.enter (d : Directory) (atWork : Bool) (name : String) : Place :=
  if name.utf8ByteSize > nameMax then .tooLong
  else if atWork then
    match d.files.find? (·.1 == name) with
    | some (_, text) => .file text
    | none => .missing
  else .missing

/-- One step of a path: `.` and empty components stay, `..` goes up (and stays at the root), a
name goes into the directory. A path that has failed stays failed. -/
def Directory.walk (d : Directory) : Place → String → Place
  | .dir up, "" => .dir up
  | .dir up, "." => .dir up
  | .dir up, ".." => .dir (up + 1)
  | .dir up, name => d.enter (up == 0) name
  | .root, "" => .root
  | .root, "." => .root
  | .root, ".." => .root
  | .root, name => d.enter false name
  | .file _, _ => .throughFile
  | p, _ => p

/-- Read a file of the directory by its path, with the system's account of a failure: a path of
`pathMax` bytes or more is refused whole, a directory cannot be read as text, a path through a
file is no directory, and anything else that is not there is missing. -/
def Directory.read (d : Directory) (path : String) : Except String String :=
  if path.utf8ByteSize ≥ pathMax then .error "File name too long (os error 36)"
  else
    let start : Place := if path.isEmpty then .missing else if path.startsWith "/" then .root else .dir 0
    match ((path.splitOn "/").foldl d.walk start) with
    | .file text => .ok text
    | .dir _ | .root => .error "Is a directory (os error 21)"
    | .throughFile => .error "Not a directory (os error 20)"
    | .missing => .error "No such file or directory (os error 2)"
    | .tooLong => .error "File name too long (os error 36)"

/-- What a command gives. -/
structure Outcome where
  /-- The exit status. -/
  status : Nat
  /-- Everything printed on standard output. -/
  stdout : String
  /-- The report of a failed script that shows the source, printed on standard error before
  the other lines. -/
  report : Option Report
  /-- The lines printed on standard error after the report. -/
  stderr : List String
  deriving DecidableEq

/-- A failure with its message, after its report if there is one. The message line is printed
as it is, so a message that holds line feeds spans several lines. A report that cannot show the
source is only its header line, which then comes first among the plain lines. -/
def Outcome.failure (message : String) (stdout : String) (report : Option Report) : Outcome :=
  let lines := Text.printedLines ("Error: " ++ message)
  match report with
  | some r =>
    if r.location.isSome then ⟨1, stdout, some r, lines⟩
    else ⟨1, stdout, none, ("Error: " ++ r.header) :: lines⟩
  | none => ⟨1, stdout, none, lines⟩

/-- The configuration a command runs with: the defaults without a file. -/
def loadConfig (read : Reader) : Option String → Except String Config
  | none => .ok {}
  | some path =>
    match read path with
    | .error e => .error ("Failed to read config " ++ path ++ ": " ++ e)
    | .ok text =>
      match Config.ofToml? text with
      | some c => .ok c
      | none => .error "Invalid config: the document is no configuration"

/-- The line printed for a result. -/
def resultLine (binding : Option String) (v : Value) : String :=
  match binding with
  | some name => name ++ " = " ++ v.text ++ "\n"
  | none => v.text ++ "\n"

/-- Run the script in a file. -/
def runFile (read : Reader) (file : String) (config : Option String) : Outcome :=
  match read file with
  | .error e => .failure e "" none
  | .ok source =>
    match loadConfig read config with
    | .error e => .failure e "" none
    | .ok cfg =>
      let r := runScript (Session.standard cfg) Bindings.empty source
      let out := String.join (r.results.map fun p => resultLine p.1 p.2)
      match r.error with
      | none => ⟨0, out, none, []⟩
      | some e => .failure e.display out (some (e.report file source))

/-- An argument of `call` as written into the script line: quoted when empty or when it holds
white space, else as given. -/
def argumentText (a : String) : String :=
  if a.isEmpty || a.toList.any isBlank then quote a else a

/-- The script line of an operation and its arguments. -/
def callLine (operation : String) (args : List String) : String :=
  args.foldl (fun line a => line ++ " " ++ argumentText a) operation

/-- Run one operation. -/
def callOperation (read : Reader) (operation : String) (args : List String) (config : Option String) :
    Outcome :=
  let line := callLine operation args
  match loadConfig read config with
  | .error e => .failure e "" none
  | .ok cfg =>
    let r := runScript (Session.standard cfg) Bindings.empty line
    match r.error with
    | none => ⟨0, String.join (r.results.map fun p => resultLine none p.2), none, []⟩
    | some (.runtime e s) => .failure (ScriptError.runtime e s).display "" none
    | some e => .failure e.display "" (some (e.report "<args>" line))

/-- The listing of a class path: each class by name, in order of names, then its constructors
and public methods in declaration order; with `hidden`, also its other methods. -/
def classListing (cp : ClassPath) (hidden : Bool) : List String :=
  cp.names.flatMap fun name =>
    match cp.find? name with
    | none => []
    | some c =>
      name :: (c.constructors.map fun k => "  new " ++ k.text) ++
        (c.publicMethods.map fun m => "  " ++ m.text) ++
        (if hidden then (c.methods.filter (!·.isPublic)).map fun m => "  private " ++ m.text else [])

/-- The version line. -/
def versionText : String := "hostcall 0.1.0\n"

/-- Run a command. -/
def Invocation.run (read : Reader) (inv : Invocation) : Outcome :=
  match inv.command with
  | .run file config => runFile read file config
  | .call op args config => callOperation read op args config
  | .classes => ⟨0, String.join ((classListing ClassPath.standard false).map (· ++ "\n")), none, []⟩

/-- Run a command line. -/
def runCommandLine (read : Reader) (words : List String) : Outcome :=
  match Invocation.read words with
  | .ok inv => inv.run read
  | .error .version => ⟨0, versionText, none, []⟩
  | .error (.help page) => ⟨0, page.text, none, []⟩
  | .error .bare => ⟨2, "", none, Page.top.lines⟩
  | .error (.usage c) => ⟨2, "", none, c.lines⟩

end HostInterop.Cli
