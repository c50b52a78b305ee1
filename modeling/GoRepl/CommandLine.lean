import GoRepl.Config

/-! # The command line

Reading the arguments of the program: global options, before or after the name of a command, and the
command's own arguments. -/

namespace GoRepl

/-- The options, each of which takes precedence over the setting of its name. -/
structure Overrides where
  config : Option Text := none
  go : Option Text := none
  timeout : Option Nat := none
  template : Option Text := none
  cacheDir : Option Text := none
deriving DecidableEq, Repr

namespace Overrides

/-- The options of two levels; those given after the command's name win. -/
def within (outer inner : Overrides) : Overrides where
  config := inner.config <|> outer.config
  go := inner.go <|> outer.go
  timeout := inner.timeout <|> outer.timeout
  template := inner.template <|> outer.template
  cacheDir := inner.cacheDir <|> outer.cacheDir

def apply (o : Overrides) (c : Config) : Config := { c with
  go := o.go.getD c.go
  timeoutSecs := o.timeout.getD c.timeoutSecs
  template := o.template <|> c.template
  cacheDir := o.cacheDir <|> c.cacheDir }

end Overrides

namespace CommandLine

/-- The names of the commands, one of which explains the others. -/
inductive Topic where
  | program
  | repl
  | run
  | init
  | help
deriving DecidableEq, Repr

inductive Request where
  | repl (options : Overrides)
  | run (options : Overrides) (script : Text)
  | init
  | help (topic : Topic)
  | version
deriving DecidableEq, Repr

/-- A number that fits in 64 bits. -/
def count? (t : Text) : Option Nat :=
  let ds := (Text.after? ['+'] t).getD t
  let n := ds.foldl (fun n c => n * 10 + (c.toNat - '0'.toNat)) 0
  if ds ≠ [] && ds.all Text.isDigit && n < Nat.pow 2 64 then some n else none

def path? (t : Text) : Option Text := if t = [] then none else some t

/-- Set an option to a value; each is given once at its level, and a path is not empty. -/
def set? (o : Overrides) (name : String) (value : Text) : Option Overrides :=
  match name with
  | "config" => if o.config.isSome then none else (path? value).map fun p => { o with config := p }
  | "go" => if o.go.isSome then none else some { o with go := value }
  | "timeout" =>
    if o.timeout.isSome then none else (count? value).map fun n => { o with timeout := n }
  | "template" =>
    if o.template.isSome then none else (path? value).map fun p => { o with template := p }
  | "cache-dir" =>
    if o.cacheDir.isSome then none else (path? value).map fun p => { o with cacheDir := p }
  | _ => none

def isOption : Text → Bool
  | '-' :: _ :: _ => true
  | _ => false

/-- An option as it is given. -/
structure Given where
  name : Text
  value : Text
  /-- Is the value part of the argument that names the option? -/
  attached : Bool
  /-- The arguments after it. -/
  rest : List Text

def isName (name : Text) : Bool :=
  ["config", "go", "timeout", "template", "cache-dir"].any (·.toList = name)

/-- Take an option with its value from the arguments; the first argument begins with two dashes,
which are left out. -/
def given? (arg : Text) (args : List Text) : Option Given :=
  match Text.cutAt? '=' arg with
  | some (name, value) => if isName name then some ⟨name, value, true, args⟩ else none
  | none =>
    match args with
    | value :: args =>
      if isName arg && !isOption value then some ⟨arg, value, false, args⟩ else none
    | [] => none

theorem length_rest_given?_le {arg : Text} {args : List Text} {g : Given}
    (h : given? arg args = some g) : g.rest.length ≤ args.length := by
  unfold given? at h
  split at h
  · split at h
    · cases h
      exact Nat.le_refl _
    · cases h
  · split at h
    · split at h
      · cases h
        exact Nat.le_succ _
      · cases h
    · cases h

/-- The options after one more is set, or none if it may not be set to its value. -/
def Given.set? (g : Given) (o : Overrides) : Option Overrides :=
  CommandLine.set? o (String.ofList g.name) g.value

/-- Does an argument ask for help? Of letters behind one dash the first decides. -/
def asksHelp (arg : Text) : Bool := arg = "--help".toList || "-h".toList.isPrefixOf arg

/-- Does an argument ask for the version? -/
def asksVersion (arg : Text) : Bool := arg = "--version".toList || "-V".toList.isPrefixOf arg

/-- The arguments after a command's name: options and at most `limit` positional arguments in any
order, or a request for help. After two dashes all arguments are positional, and none is empty. -/
def arguments? (limit : Nat) (o : Overrides) (positional : List Text) :
    List Text → Option (Option (Overrides × List Text))
  | [] => some (some (o, positional.reverse))
  | arg :: args =>
    if asksHelp arg then some none
    else if arg = "--".toList then
      if positional.length + args.length ≤ limit && args.all (· ≠ []) then
        some (some (o, positional.reverse ++ args))
      else none
    else match Text.after? "--".toList arg with
      | some name =>
        match h : given? name args with
        | some g =>
          have := length_rest_given?_le h
          match g.set? o with
          | some o => arguments? limit o positional g.rest
          | none => none
        | none => none
      | none =>
        if isOption arg || arg = [] || limit ≤ positional.length then none
        else arguments? limit o (arg :: positional) args
termination_by args => args.length

def topic? (name : Text) : Option Topic :=
  match String.ofList name with
  | "repl" => some .repl
  | "run" => some .run
  | "init" => some .init
  | "help" => some .help
  | _ => none

/-- How many positional arguments a command takes. -/
def Topic.arity : Topic → Nat
  | .run => 1
  | _ => 0

/-- The request of a command with its arguments. -/
def command? (outer : Overrides) (topic : Topic) (args : List Text) : Option Request :=
  match topic with
  | .help =>
    match args with
    | [] => some (.help .program)
    | [name] => (topic? name).map .help
    | _ => none
  | _ =>
    match arguments? topic.arity {} [] args with
    | none => none
    | some none => some (.help topic)
    | some (some (inner, positional)) =>
      let options := outer.within inner
      match topic, positional with
      | .repl, [] => some (.repl options)
      | .run, [script] => some (.run options script)
      | .init, [] => some .init
      | _, _ => none

/-- The options after the one that still waits is set. -/
def settled? (o : Overrides) : (waiting : Option Given) → Option Overrides
  | some g => g.set? o
  | none => some o

/-- The request that the arguments make after some options. The value of an option that has an
argument of its own is looked at when the next option comes or the command has been read, which may
be a request for help. -/
def requestFrom? (o : Overrides) (waiting : Option Given) : List Text → Option Request
  | [] => (settled? o waiting).map .repl
  | arg :: args =>
    match topic? arg, settled? o waiting with
    | some topic, some o => command? o topic args
    | some topic, none =>
      match command? o topic args with
      | some (.help topic) => some (.help topic)
      | _ => none
    | none, none => none
    | none, some o =>
      if asksHelp arg then some (.help .program)
      else if asksVersion arg then some .version
      else if arg = "--".toList then (if args = [] then some (.repl o) else none)
      else match Text.after? "--".toList arg with
        | some name =>
          match h : given? name args with
          | some g =>
            have := length_rest_given?_le h
            if g.attached then
              match g.set? o with
              | some o => requestFrom? o none g.rest
              | none => none
            else requestFrom? o (some g) g.rest
          | none => none
        | none => none
termination_by args => args.length

/-- The request that the arguments make, if they are well formed. Without a command it is the
interactive one. -/
def parse? (args : List Text) : Option Request := requestFrom? {} none args

/-! ## Help -/

def versionText : Text := "gonsole 0.1.0".toList

def optionHelp : List String :=
  [ "Options:",
    "      --config <CONFIG>        Read configuration from this file instead of searching for one",
    "      --go <GO>                Go binary to build and run programs with",
    "      --timeout <TIMEOUT>      Seconds a program may run before it is killed",
    "      --template <TEMPLATE>    Program template with the three placeholder regions",
    "      --cache-dir <CACHE_DIR>  Directory for the generated main.go",
    "  -h, --help                   Print help" ]

def helpLines : Topic → List String
  | .program =>
    [ "An incremental Go REPL",
      "",
      "Usage: gonsole [OPTIONS] [COMMAND]",
      "",
      "Commands:",
      "  repl  Start the interactive shell (default)",
      "  run   Feed a file of REPL input through a session",
      "  init  Write a default gonsole.toml in the current directory",
      "  help  Print this message or the help of the given subcommand(s)",
      "" ] ++ optionHelp ++ ["  -V, --version                Print version"]
  | .repl =>
    [ "Start the interactive shell (default)",
      "",
      "Usage: gonsole repl [OPTIONS]",
      "" ] ++ optionHelp
  | .run =>
    [ "Feed a file of REPL input through a session",
      "",
      "Usage: gonsole run [OPTIONS] <SCRIPT>",
      "",
      "Arguments:",
      "  <SCRIPT>  Path to the script",
      "" ] ++ optionHelp
  | .init =>
    [ "Write a default gonsole.toml in the current directory",
      "",
      "Usage: gonsole init [OPTIONS]",
      "" ] ++ optionHelp
  | .help =>
    [ "Print this message or the help of the given subcommand(s)",
      "",
      "Usage: gonsole help [COMMAND]...",
      "",
      "Arguments:",
      "  [COMMAND]...  Print help for the subcommand(s)" ]

def helpText (topic : Topic) : Text := Text.unlines ((helpLines topic).map String.toList)

end CommandLine
end GoRepl
