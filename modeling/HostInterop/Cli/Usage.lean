import HostInterop.Text.Similar
import HostInterop.Text.Lines

/-!
# What a command line may hold, and how it complains

The program reads its command line in scopes. The top scope holds the logging options, `--help`
and `--version`, and the name of a command; each command then has a scope of its own, where the
logging options may be given again along with the command's options and positional arguments.

| scope     | options                                     | positionals                |
|-----------|---------------------------------------------|----------------------------|
| top       | `-v` `-q` `--log-level` `-h` `-V`            | the command                |
| `run`     | `--config` `-v` `-q` `--log-level` `-h`      | `<FILE>`                   |
| `call`    | `--config` `-v` `-q` `--log-level` `-h`      | `<OPERATION> [ARGS]...`    |
| `classes` | `-v` `-q` `--log-level` `-h`                 |                            |

A usage error is a `Complaint`: a message, tips, and perhaps a usage line. It is shown as

    error: MESSAGE
                                   (a blank line, then one "  tip: ..." line per tip)
    Usage: USAGE                   (after a blank line, when there is one)

    For more information, try '--help'.

A usage line names the scope and, when no argument was given yet, `[OPTIONS]` and the
positionals. Once arguments were given it names the options given in place of `[OPTIONS]`, in
the order they were given (a repeated `-v` counts where it was last given), and the scope's
group `<A|B|C>` in place of its members once one of them was given.

The help pages are fixed texts; a help line is never wrapped.
-/

namespace HostInterop.Cli

/-- A command by its name. -/
inductive CommandName where
  | run | call | classes
  deriving DecidableEq

/-- A command by its name on the command line. -/
def CommandName.ofName? : String → Option CommandName
  | "run" => some .run
  | "call" => some .call
  | "classes" => some .classes
  | _ => none

/-- The name of a command. -/
def CommandName.name : CommandName → String
  | .run => "run"
  | .call => "call"
  | .classes => "classes"

/-- Where on the command line a word is read. -/
inductive Scope where
  /-- Before the command's name. -/
  | top
  /-- After the name of a command. -/
  | command (c : CommandName)
  deriving DecidableEq

/-- Something a command line may give. -/
inductive Param where
  | verbose | quiet | logLevel | help | version | config | file | operation | args
  deriving DecidableEq

/-- How messages and usage lines show a parameter. -/
def Param.shown : Param → String
  | .verbose => "--verbose..."
  | .quiet => "--quiet"
  | .logLevel => "--log-level <LOG_LEVEL>"
  | .help => "--help"
  | .version => "--version"
  | .config => "--config <CONFIG>"
  | .file => "<FILE>"
  | .operation => "<OPERATION>"
  | .args => "[ARGS]..."

/-- The long name of an option. -/
def Param.long? : Param → Option String
  | .verbose => some "verbose"
  | .quiet => some "quiet"
  | .logLevel => some "log-level"
  | .help => some "help"
  | .version => some "version"
  | .config => some "config"
  | _ => none

/-- Whether an option takes a value. -/
def Param.takesValue (p : Param) : Bool := p == .config || p == .logLevel

/-- Whether a parameter is positional. -/
def Param.isPositional (p : Param) : Bool := p == .file || p == .operation || p == .args

/-- The names of the log levels, in the order the command line lists them. -/
def levelNames : List String := ["error", "warn", "info", "debug", "trace"]

/-- The options of a scope, in the order they are searched. -/
def Scope.options : Scope → List Param
  | .top => [.verbose, .quiet, .logLevel, .help, .version]
  | .command .run => [.config, .verbose, .quiet, .logLevel, .help]
  | .command .call => [.config, .verbose, .quiet, .logLevel, .help]
  | .command .classes => [.verbose, .quiet, .logLevel, .help]

/-- The positionals of a scope, in order. -/
def Scope.positionals : Scope → List Param
  | .top => []
  | .command .run => [.file]
  | .command .call => [.operation, .args]
  | .command .classes => []

/-- The long names of a scope's options. -/
def Scope.longs (s : Scope) : List String := s.options.filterMap Param.long?

/-- The option of a long name. -/
def Scope.long? (s : Scope) (name : String) : Option Param :=
  s.options.find? (·.long? == some name)

/-- The option of a short name. -/
def Scope.short? (s : Scope) (c : Char) : Option Param :=
  match c with
  | 'v' => some .verbose
  | 'q' => some .quiet
  | 'h' => some .help
  | 'V' => if s == .top then some .version else none
  | _ => none

/-- Whether the positional at `place` takes words that start with a hyphen: the arguments of
`call`. -/
def Scope.hyphensAt (s : Scope) (place : Nat) : Bool :=
  s.positionals[place]? == some .args

/-- The names of the commands, as suggestions know them. -/
def commandNames : List String := ["run", "call", "classes", "help"]

/-- The program and command a usage line starts with. -/
def Scope.name : Scope → String
  | .top => "hostcall"
  | .command c => "hostcall " ++ c.name

/-- The positionals as a usage line shows them. -/
def Scope.positionalsShown : Scope → List String
  | .top => ["<COMMAND>"]
  | .command .run => ["<FILE>"]
  | .command .call => ["<OPERATION>", "[ARGS]..."]
  | .command .classes => []

/-- The parameters of a scope that form one group: the options of the program itself at the
top, the command's own parameters in a command. Once one of them is given, the group counts as
given too. -/
def Scope.group : Scope → List Param
  | .top => [.verbose, .quiet, .logLevel]
  | .command .run => [.file, .config]
  | .command .call => [.operation, .args, .config]
  | .command .classes => []

/-- What a scope records as given: a parameter, or its group. -/
inductive Mark where
  | param (p : Param)
  | group
  deriving DecidableEq

/-- How a group shows a parameter: a positional by its bare name. -/
def Param.inGroup : Param → String
  | .file => "FILE"
  | .operation => "OPERATION"
  | .args => "ARGS"
  | p => p.shown

/-- The usage line of a scope, given what was given so far. With nothing given it shows
`[OPTIONS]` and the positionals; otherwise the options given, then the group if it was given
(standing for its members), then the positionals that are not in it. -/
def Scope.usage (s : Scope) (given : List Mark) : String :=
  if given.isEmpty then " ".intercalate (s.name :: "[OPTIONS]" :: s.positionalsShown)
  else
    let grouped := given.contains .group
    let members := if grouped then s.group else []
    let options := given.foldl (fun acc m =>
      match m with
      | .param p => if p.isPositional || members.contains p || acc.contains p.shown then acc else acc ++ [p.shown]
      | .group => acc) []
    let group := if grouped then ["<" ++ "|".intercalate (s.group.map Param.inGroup) ++ ">"] else []
    let positionals := (s.positionals.filter (!members.contains ·)).map Param.shown
    let last := if s == .top then ["<COMMAND>"] else []
    " ".intercalate (s.name :: options ++ group ++ positionals ++ last)

/-- A usage error: the message, the tips, the usage line if there is one, and whether it points
at `--help` (the help command has no such option). -/
structure Complaint where
  message : String
  tips : List String
  usage : Option String
  offersHelp : Bool

/-- The complaint as it is printed, line by line. -/
def Complaint.lines (c : Complaint) : List String :=
  let tips := if c.tips.isEmpty then "" else "\n" ++ String.join (c.tips.map ("\n  tip: " ++ ·))
  let usage := match c.usage with
    | some u => "\n\nUsage: " ++ u
    | none => ""
  let hint := if c.offersHelp then "\n\nFor more information, try '--help'." else ""
  Text.printedLines ("error: " ++ c.message ++ tips ++ usage ++ hint)

/-- The list of the possible log levels, as a complaint shows it. -/
def levelList : String := "\n  [possible values: " ++ ", ".intercalate levelNames ++ "]"

/-- An option or positional given no value, or an empty one where a path is needed. -/
def Complaint.noValue (p : Param) : Complaint :=
  ⟨"a value is required for '" ++ p.shown ++ "' but none was supplied" ++
    (if p == .logLevel then levelList else ""), [], none, true⟩

/-- A log level that is none of the five. -/
def Complaint.badLevel (v : String) : Complaint :=
  if v.isEmpty then .noValue .logLevel
  else ⟨"invalid value '" ++ v ++ "' for '" ++ Param.logLevel.shown ++ "'" ++ levelList,
    (Text.mostSimilar? v levelNames).toList.map (fun l => "a similar value exists: '" ++ l ++ "'"),
    none, true⟩

/-- An option given twice in one scope. -/
def Complaint.twice (s : Scope) (p : Param) : Complaint :=
  ⟨"the argument '" ++ p.shown ++ "' cannot be used multiple times", [], some (s.usage []), true⟩

/-- A value attached to an option that takes none. -/
def Complaint.valueOfFlag (s : Scope) (v : String) (p : Param) (given : List Mark) : Complaint :=
  ⟨"unexpected value '" ++ v ++ "' for '" ++ p.shown ++ "' found; no more were expected", [],
    some (s.usage given), true⟩

/-- The tip for passing a word that looks like an option as a value. -/
def asValueTip (w : String) : String := "to pass '" ++ w ++ "' as a value, use '-- " ++ w ++ "'"

/-- A word that is nothing in its scope. -/
def Complaint.unexpected (w : String) (tips : List String) (usage : String) : Complaint :=
  ⟨"unexpected argument '" ++ w ++ "' found", tips, some usage, true⟩

/-- The tip naming similar commands. -/
def commandTip (names : List String) : String :=
  match names with
  | [n] => "a similar subcommand exists: '" ++ n ++ "'"
  | _ => "some similar subcommands exist: " ++ ", ".intercalate (names.map fun n => "'" ++ n ++ "'")

/-- A word at the top that names no command. -/
def Complaint.noCommand (w : String) (usage : String) : Complaint :=
  let similar := Text.similarNames w commandNames
  ⟨"unrecognized subcommand '" ++ w ++ "'", if similar.isEmpty then [] else [commandTip similar],
    some usage, true⟩

/-- A command's name after `--`. -/
def Complaint.escapedCommand (w : String) : Complaint :=
  ⟨"unexpected argument '" ++ w ++ "' found",
    ["subcommand '" ++ w ++ "' exists; to use it, remove the '--' before it"], some (Scope.top.usage []),
    true⟩

/-- A positional that was not given. -/
def Complaint.missing (s : Scope) (p : Param) (given : List Mark) : Complaint :=
  ⟨"the following required arguments were not provided:\n  " ++ p.shown, [],
    some (s.usage (given ++ [.param p])), true⟩

/-- Options but no command. -/
def Complaint.noCommandGiven : Complaint :=
  ⟨"'hostcall' requires a subcommand but one was not provided\n  [subcommands: " ++
    ", ".intercalate commandNames ++ "]", [], some (Scope.top.usage []), true⟩

/-- A help page. -/
inductive Page where
  | top
  | command (c : CommandName)
  /-- The page of the help command itself. -/
  | help
  deriving DecidableEq

/-- The lines every command shares at the end of its options. -/
def loggingLines : List String :=
  ["  -v, --verbose...             Increase log verbosity (-v debug, -vv trace)",
   "  -q, --quiet                  Only log errors",
   "      --log-level <LOG_LEVEL>  Log level, overriding -v and -q [possible values: error, warn, info, debug, trace]"]

/-- The lines of a help page. -/
def Page.lines : Page → List String
  | .top =>
    ["Call host classes from interpreter values", "",
     "Usage: hostcall [OPTIONS] <COMMAND>", "",
     "Commands:",
     "  run      Run a call script against the demo classes",
     "  call     Run one foreign operation",
     "  classes  List the demo classes and their public members",
     "  help     Print this message or the help of the given subcommand(s)", "",
     "Options:"] ++ loggingLines ++
    ["  -h, --help                   Print help",
     "  -V, --version                Print version"]
  | .command .run =>
    ["Run a call script against the demo classes", "",
     "Usage: hostcall run [OPTIONS] <FILE>", "",
     "Arguments:",
     "  <FILE>  Script file", "",
     "Options:",
     "      --config <CONFIG>        Bridge configuration (TOML)"] ++ loggingLines ++
    ["  -h, --help                   Print help"]
  | .command .call =>
    ["Run one foreign operation", "",
     "Usage: hostcall call [OPTIONS] <OPERATION> [ARGS]...", "",
     "Arguments:",
     "  <OPERATION>  Operation name, e.g. invoke-static",
     "  [ARGS]...    Arguments, in call script notation", "",
     "Options:",
     "      --config <CONFIG>        "] ++ loggingLines ++
    ["  -h, --help                   Print help"]
  | .command .classes =>
    ["List the demo classes and their public members", "",
     "Usage: hostcall classes [OPTIONS]", "",
     "Options:"] ++ loggingLines ++
    ["  -h, --help                   Print help"]
  | .help =>
    ["Print this message or the help of the given subcommand(s)", "",
     "Usage: hostcall help [COMMAND]...", "",
     "Arguments:",
     "  [COMMAND]...  Print help for the subcommand(s)"]

/-- The text of a help page. -/
def Page.text (p : Page) : String := String.join (p.lines.map (· ++ "\n"))

/-- The usage line of a help page's scope, for complaints about the words after `help`. -/
def Page.usage : Page → String
  | .top => Scope.top.usage []
  | .command c => (Scope.command c).usage []
  | .help => "hostcall help [COMMAND]..."

/-- A word after `help` that names no command of the page reached so far. -/
def Complaint.unknownCommand (w : String) (page : Page) : Complaint :=
  ⟨"unrecognized subcommand '" ++ w ++ "'", [], some page.usage, page != .help⟩

end HostInterop.Cli
