import HostInterop.Cli.Usage

/-!
# Command lines

A command line names one command: `run FILE [--config F]` runs a call script, `call OP ARG...
[--config F]` runs one operation, `classes` lists the standard classes. Before the command,
`--version` (or `-V`) asks for the version, and `--help`, `-h` or `help [COMMAND]` for a help
page. The logging options `-v` (repeatable), `-q` and `--log-level LEVEL` may stand before the
command and again after it; given after it, they override what was given before. Short flags
may be grouped (`-vq`), and a long option takes its value after `=` or as the next word.

Words are read one at a time, in the scope of the top or of the command (see `Usage`):

* A word that starts with `-` names options. An option that takes a value and is not given one
  after `=` takes the next word, unless that word is itself an option or `--`.
* The values of an option or positional are held until the next option, positional or the
  end, and only then checked: a missing value, an option given twice, an empty path, a log level
  that is none of the five. So a complaint about a value can come after the word that follows
  it.
* At the top, the first word that names a command hands the rest of the line to that command,
  unless an option waits for its value: then the word is that value.
* The arguments of `call` start at the first word after the operation that is not an option of
  `call`: a word that starts with a hyphen but names no option counts as an argument there, so
  `call max example.Util -3 11` passes `-3`. From the first argument on, every word is an
  argument, options included; `--` makes every later word positional too.

A command line that fits none of this stops with a `Complaint`. With no words at all, the top
help page is the complaint.
-/

namespace HostInterop.Cli

/-- The level below which log events are dropped. -/
inductive LogLevel where
  | error | warn | info | debug | trace
  deriving DecidableEq

/-- A level by its name on the command line. -/
def LogLevel.ofName? : String → Option LogLevel
  | "error" => some .error
  | "warn" => some .warn
  | "info" => some .info
  | "debug" => some .debug
  | "trace" => some .trace
  | _ => none

/-- The logging options given. -/
structure Logging where
  /-- How often `-v` was given. -/
  verbose : Nat := 0
  /-- Whether `-q` was given. -/
  quiet : Bool := false
  /-- The level given by `--log-level`. -/
  level : Option LogLevel := none
  deriving DecidableEq

/-- The level logging runs at: `--log-level` wins, then `-q` (errors only), then `-v` (debug
once, trace twice or more); warnings by default. -/
def Logging.filter (l : Logging) : LogLevel :=
  match l.level with
  | some level => level
  | none =>
    if l.quiet then .error
    else match l.verbose with
      | 0 => .warn
      | 1 => .debug
      | _ => .trace

/-- A command. -/
inductive Command where
  /-- Run the call script in a file, perhaps with a configuration file. -/
  | run (file : String) (config : Option String)
  /-- Run one operation on arguments written in script notation. -/
  | call (operation : String) (args : List String) (config : Option String)
  /-- List the standard classes. -/
  | classes
  deriving DecidableEq

/-- A command with its logging options. -/
structure Invocation where
  command : Command
  logging : Logging
  deriving DecidableEq

/-- Why reading a command line stops before it gives an invocation. -/
inductive Stop where
  /-- `--version` or `-V`. -/
  | version
  /-- `--help`, `-h` or `help`: the page asked for. -/
  | help (page : Page)
  /-- No words at all: the top help page, shown as a usage error. -/
  | bare
  /-- The command line fits no command. -/
  | usage (c : Complaint)

/-- What one scope has taken. -/
structure Taken where
  /-- The parameters given and the group, in the order they were taken; `-v` moves to the end
  each time it is given again. -/
  given : List Mark := []
  /-- How often `-v` was given. -/
  verbose : Nat := 0
  /-- Whether `-q` was given. -/
  quiet : Bool := false
  /-- The level given by `--log-level`. -/
  level : Option LogLevel := none
  /-- The configuration file. -/
  config : Option String := none
  /-- The script file. -/
  file : Option String := none
  /-- The operation of `call`. -/
  operation : Option String := none
  /-- The arguments of `call`. -/
  args : List String := []

/-- The state of reading one scope. -/
structure Reading where
  /-- What has been taken. -/
  taken : Taken := {}
  /-- The option or positional whose values wait to be checked, with its values. -/
  held : Option (Param × List String) := none
  /-- The option that takes the next word as its value. -/
  awaiting : Option Param := none
  /-- Whether every word is now positional: after `--`, or from the first argument of `call`. -/
  escaped : Bool := false
  /-- The place of the next positional. -/
  place : Nat := 0

/-- What one word does: the reading goes on, or a command's scope begins. -/
inductive Step where
  | next (r : Reading)
  | enter (c : CommandName)

/-- The help page of a scope. -/
def Scope.page : Scope → Page
  | .top => .top
  | .command c => .command c

namespace Reading

/-- Record `p` as given, after what was given before unless it already was, and the scope's
group with it when `p` belongs to the group. -/
def note (s : Scope) (r : Reading) (p : Param) : Reading :=
  let given := r.taken.given
  let given := if given.contains (.param p) then given else given ++ [.param p]
  let given := if s.group.contains p && !given.contains .group then given ++ [.group] else given
  { r with taken := { r.taken with given := given } }

/-- Record `p` as not given; the group stays. -/
def forget (r : Reading) (p : Param) : Reading :=
  { r with taken := { r.taken with given := r.taken.given.filter (· != .param p) } }

/-- Whether `p` was given. -/
def has (r : Reading) (p : Param) : Bool := r.taken.given.contains (.param p)

/-- What was given, without the group: the usage line of most complaints. -/
def plainGiven (r : Reading) : List Mark := r.taken.given.filter (· != .group)

/-- Check and take the values held for an option or positional. -/
def accept (s : Scope) (r : Reading) (p : Param) (vals : List String) : Except Complaint Reading :=
  match vals with
  | [] => .error (.noValue p)
  | v :: _ =>
    if p.takesValue && r.has p then .error (.twice s p)
    else
      let r := r.note s p
      let t := r.taken
      match p with
      | .config => if v.isEmpty then .error (.noValue p) else .ok { r with taken := { t with config := some v } }
      | .file => if v.isEmpty then .error (.noValue p) else .ok { r with taken := { t with file := some v } }
      | .logLevel =>
        match LogLevel.ofName? v with
        | some l => .ok { r with taken := { t with level := some l } }
        | none => .error (.badLevel v)
      | .operation => .ok { r with taken := { t with operation := some v } }
      | .args => .ok { r with taken := { t with args := t.args ++ vals } }
      | _ => .ok r

/-- Check and take the held values, if any. -/
def settle (s : Scope) (r : Reading) : Except Complaint Reading :=
  match r.held with
  | none => .ok r
  | some (p, vals) => accept s { r with held := none } p vals

/-- Take the held values where a complaint about something else follows anyway: a failed check
is dropped, leaving the parameter given when only its value was wrong, and not given when it
was given twice. -/
def settleQuietly (s : Scope) (r : Reading) : Reading :=
  match r.held with
  | none => r
  | some (p, vals) =>
    let r := { r with held := none }
    match accept s r p vals with
    | .ok r' => r'
    | .error _ =>
      if vals.isEmpty then r
      else if p.takesValue && r.has p then r.forget p
      else r.note s p

/-- A complaint as a reason to stop. -/
def stop {α : Type} : Except Complaint α → Except Stop α
  | .ok a => .ok a
  | .error c => .error (.usage c)

/-- Take an option that takes no value. -/
def flag (s : Scope) (r : Reading) (p : Param) : Except Stop Reading := do
  let r ← stop (r.settle s)
  match p with
  | .verbose =>
    let r := (r.forget .verbose).note s .verbose
    pure { r with taken := { r.taken with verbose := r.taken.verbose + 1 } }
  | .quiet =>
    if r.has .quiet then throw (.usage (.twice s .quiet))
    else
      let r := r.note s .quiet
      pure { r with taken := { r.taken with quiet := true } }
  | .help => throw (.help s.page)
  | .version => throw .version
  | _ => pure r

/-- A word where no positional is left, or no command of that name. -/
def stray (r : Reading) (s : Scope) (w : String) : Complaint :=
  if s == .top then
    if r.escaped && commandNames.contains w then .escapedCommand w
    else .noCommand w (s.usage [])
  else
    let optionLike := w.startsWith "-" && w != "-" && w != "--"
    .unexpected w (if !r.escaped && !s.positionals.isEmpty && optionLike then [asValueTip w] else [])
      (s.usage [])

/-- Take a positional. -/
def positional (s : Scope) (r : Reading) (w : String) : Except Stop Reading :=
  match s.positionals[r.place]? with
  | some .args => do
    let r ← stop (r.settle s)
    let r := r.note s .args
    pure { r with taken := { r.taken with args := r.taken.args ++ [w] }, escaped := true }
  | some p => do
    let r ← stop (r.settle s)
    pure { r with held := some (p, [w]), place := r.place + 1 }
  | none => throw (.usage ((r.settleQuietly s).stray s w))

/-- Take a word that names no option here: the value of the option waiting for one, or a
positional. -/
def plain (s : Scope) (r : Reading) (w : String) : Except Stop Reading :=
  match r.awaiting with
  | some p => pure { r with held := some (p, [w]), awaiting := none }
  | none => r.positional s w

/-- The complaint about a long option the scope does not know, with a tip: a similar option of
the scope, else (at the top) a similar option of a command named later on the line, else how to
pass the word as a value. -/
def unknownLong (r : Reading) (s : Scope) (name : String) (rest : List String) : Complaint :=
  let own := Text.mostSimilar? name s.longs
  let inCommand : Option (String × String) :=
    if s != .top || own.isSome then none
    else
      let found := [CommandName.run, .call, .classes].filterMap fun c =>
        match Text.mostSimilar? name (Scope.command c).longs, rest.idxOf? c.name with
        | some l, some i => some (i, c.name, l)
        | _, _ => none
      (found.foldl (fun (best : Option (Nat × String × String)) x =>
        match best with
        | some b => if x.1 < b.1 then some x else some b
        | none => some x) none).map (·.2)
  let r := match own.bind s.long? with
    | some p => r.note s p
    | none => r
  let similar := match own, inCommand with
    | some l, _ => ["a similar argument exists: '--" ++ l ++ "'"]
    | none, some (c, l) => ["'" ++ c ++ " --" ++ l ++ "' exists"]
    | none, none => []
  -- a similar name makes the hint to pass the word as a value needless, except where the
  -- positionals end in the arguments of `call`, which take any word
  let asValue :=
    if !s.positionals.isEmpty && (similar.isEmpty || s.positionals.contains .args) then
      [asValueTip ("--" ++ name)]
    else []
  .unexpected ("--" ++ name) (similar ++ asValue) (s.usage r.plainGiven)

/-- Take a long option `--name` or `--name=value`. -/
def long (s : Scope) (r : Reading) (w : String) (body : List Char) (rest : List String) :
    Except Stop Reading :=
  let name := String.ofList (body.takeWhile (· != '='))
  let value := match body.dropWhile (· != '=') with
    | _ :: v => some (String.ofList v)
    | [] => none
  match s.long? name with
  | some p =>
    if p.takesValue then
      match value with
      | some v => stop (do let r ← r.settle s; r.accept s p [v])
      | none => stop (do let r ← r.settle s; pure { r with held := some (p, []), awaiting := some p })
    else
      match value with
      | some v => throw (.usage (.valueOfFlag s v p (r.taken.given ++ [.param p])))
      | none => r.flag s p
  | none =>
    if s.hyphensAt r.place then r.plain s w
    else throw (.usage ((r.settleQuietly s).unknownLong s name rest))

/-- Take a group of short flags `-abc`; where the arguments of `call` may start, a group that
holds a letter of no flag is an argument. -/
def short (s : Scope) (r : Reading) (w : String) (flags : List Char) : Except Stop Reading :=
  if s.hyphensAt r.place && flags.any (fun c => (s.short? c).isNone) then r.plain s w
  else flags.foldlM (fun r c =>
    match s.short? c with
    | some p => r.flag s p
    | none =>
      let f := "-" ++ c.toString
      throw (.usage (.unexpected f (if s.positionals.isEmpty then [] else [asValueTip f]) (s.usage []))))
    r

/-- The page `help` asks for, following the command names after it. -/
def helpPage : Page → List String → Stop
  | p, [] => .help p
  | .top, w :: ws =>
    match CommandName.ofName? w with
    | some c => helpPage (.command c) ws
    | none => if w == "help" then helpPage .help ws else .usage (.unknownCommand w .top)
  | p, w :: _ => .usage (.unknownCommand w p)

/-- Read one word, with the words after it. -/
def word (s : Scope) (r : Reading) (w : String) (rest : List String) : Except Stop Step :=
  if r.escaped then .next <$> r.positional s w
  else
    -- a command's name is the value of an option that waits for one
    match s, CommandName.ofName? w, r.awaiting with
    | .top, some c, none => pure (.enter c)
    | _, _, _ =>
      if s == .top && w == "help" && r.awaiting.isNone then throw (helpPage .top rest)
      else
        match w.toList with
        | ['-', '-'] => pure (.next { r with escaped := true })
        | '-' :: '-' :: body => .next <$> r.long s w body rest
        | '-' :: c :: more => .next <$> r.short s w (c :: more)
        | _ => .next <$> r.plain s w

end Reading

/-- Read the words of one scope, up to the name of a command at the top. -/
def readWords (s : Scope) : List String → Reading → Except Stop (Reading × Option (CommandName × List String))
  | [], r => pure (r, none)
  | w :: ws, r => do
    match ← r.word s w ws with
    | .next r => readWords s ws r
    | .enter c => pure (r, some (c, ws))

/-- The end of a command's words: the held values are checked, then its positionals. -/
def finishCommand (c : CommandName) (r : Reading) : Except Stop Taken := do
  let r ← Reading.stop (r.settle (.command c))
  match c, r.taken.file, r.taken.operation with
  | .run, none, _ => throw (.usage (.missing (.command .run) .file r.plainGiven))
  | .call, _, none => throw (.usage (.missing (.command .call) .operation r.plainGiven))
  | _, _, _ => pure r.taken

/-- The logging options, those given after the command winning over those given before. -/
def Taken.logging (top sub : Taken) : Logging :=
  { verbose := if sub.given.contains (.param .verbose) then sub.verbose else top.verbose
    quiet := if sub.given.contains (.param .quiet) then sub.quiet else top.quiet
    level := if sub.given.contains (.param .logLevel) then sub.level else top.level }

/-- The command a command's scope took. -/
def Taken.command (c : CommandName) (t : Taken) : Command :=
  match c with
  | .run => .run (t.file.getD "") t.config
  | .call => .call (t.operation.getD "") t.args t.config
  | .classes => .classes

/-- Read a command line (the words after the program's name). -/
def Invocation.read (words : List String) : Except Stop Invocation := do
  let (top, entered) ← readWords .top words {}
  match entered with
  | none =>
    let top ← Reading.stop (top.settle .top)
    if top.taken.given.isEmpty then throw .bare else throw (.usage .noCommandGiven)
  | some (c, rest) =>
    let (sub, _) ← readWords (.command c) rest {}
    let sub ← finishCommand c sub
    let top ← Reading.stop (top.settle .top)
    pure ⟨sub.command c, top.taken.logging sub⟩

end HostInterop.Cli
