import GoRepl.CommandLine
import GoRepl.Config
import GoRepl.Script

/-! # The application

What the program does with its arguments: it reads its settings and its template, and then it
answers lines or plays a script. What it asks of the system that it runs on is all in `System`. -/

namespace GoRepl

/-- The system that the program runs on, as the program sees it from its working directory: files by
their paths, the lines of the input that have not been read yet, the streams that it prints to, and
the host that its settings choose for a session. -/
structure System (m : Type → Type) where
  isFile : (path : Text) → m Bool
  isThere : (path : Text) → m Bool
  read : (path : Text) → m (Except Fault Text)
  write : (path contents : Text) → m (Except Fault Unit)
  createDirectories : (path : Text) → m Unit
  input : m (List SourceItem)
  print : List Printed → m Unit
  host : Config → Host m

/-- Where and with what the program is started. -/
structure Launch where
  args : List Text
  /-- The names on the way to the working directory, and the path of the home directory. -/
  directory : List Text
  home : Text
  /-- The history file that the environment asks for. -/
  historyPath : Option Text := none

inductive ConfigError where
  | unreadable (path : Text) (fault : Fault)
  | malformed (path : Text)
deriving DecidableEq, Repr

def ConfigError.message : ConfigError → Text
  | unreadable path fault => "cannot read '".toList ++ path ++ "': ".toList ++ fault.message
  | malformed path => "invalid toml in '".toList ++ path ++ ['\'']

/-- The settings in a file, given what came of reading it. -/
def Config.ofFile (path : Text) : Except Fault Text → Except ConfigError Config
  | .error fault => .error (.unreadable path fault)
  | .ok t =>
    match read? t with
    | some c => .ok c
    | none => .error (.malformed path)

/-- The template in a file, given what came of reading it. -/
def Template.ofFile (path : Text) : Except Fault Text → Except TemplateError Template
  | .error fault => .error (.unreadable path fault)
  | .ok t => parse t

namespace History

/-- The part of a path below a leading `~`, if it has one. -/
def belowTilde? (path : Text) : Option Text :=
  match Path.parts path with
  | ['~'] :: rest => some (Path.ofParts false rest)
  | _ => none

/-- The history file. A leading `~` and relative paths lead below the home directory, absolute
paths are kept, and nothing requested means a file in a directory of its own. -/
def file (home : Text) (requested : Option Text) : Text :=
  match requested.filter (· ≠ []) with
  | none => Path.join (Path.join home ".gonsole".toList) "repl_history".toList
  | some path =>
    if Path.isAbsolute path then path
    else match belowTilde? path with
      | some [] => home
      | some rest => Path.join home rest
      | none => Path.join home path

/-- The environment's request, unless it is blank, or else that of the settings. -/
def requested (environment configured : Option Text) : Option Text :=
  (environment.map Text.trim).filter (· ≠ []) <|> configured

end History

variable {m : Type → Type} [Monad m]

namespace Repl

def greeting : Printed :=
  ⟨.stdout, Colour.gray "Gonsole: type Go statements, `exit` to quit.".toList⟩

def farewell : Printed := ⟨.stdout, Colour.cyan "bye".toList⟩

def hint : Printed := ⟨.stdout, Colour.gray "(Ctrl-D or `exit` to quit)".toList⟩

/-- Answer the lines of the input, until they end, cannot be read, or one of them is `exit`. -/
def answer (host : Host m) (print : List Printed → m Unit) (s : Session) : List SourceItem → m Unit
  | [] => return
  | .interrupt :: source => do
    print [hint]
    answer host print s source
  | .fault reason :: _ => print [⟨.stderr, Colour.errorLine reason⟩]
  | .line line :: source => do
    let start := s.start line source
    let (outcome, s) ← host.finish start.step
    if outcome = .exit then return
    print outcome.report
    answer host print s start.rest
termination_by source => source.length
decreasing_by
  · exact Nat.lt_succ_self _
  · exact Nat.lt_succ_of_le (Session.length_start_rest_le ..)

end Repl

namespace Launch

variable (l : Launch) (system : System m)

/-- End with a message. -/
def fail (message : Text) : m Nat := do
  system.print [⟨.stderr, Colour.errorLine message⟩]
  return 1

/-- Print a text and end. -/
def say (t : Text) : m Nat := do
  system.print [⟨.stdout, t⟩]
  return 0

/-- Write a settings file, unless there is one. -/
def initialise : m Nat := do
  if ← system.isThere Config.fileName then
    return ← fail system (Config.fileName ++ " already exists, not overwriting".toList)
  match ← system.write Config.fileName Config.initial with
  | .error fault =>
    fail system ("writing ".toList ++ Config.fileName ++ ": ".toList ++ fault.message)
  | .ok () => say system (Colour.statusLabel "Created".toList ++ [' '] ++ Config.fileName)

/-- The settings of the file that is asked for, or else of the one that is found, or else none. -/
def settings (requested : Option Text) : m (Except ConfigError Config) := do
  let candidates := Config.candidates (Path.ofParts true l.directory) l.home
  match requested <|> (← candidates.findM? system.isFile) with
  | some path => return Config.ofFile path (← system.read path)
  | none => return .ok {}

def template (c : Config) : m (Except TemplateError Template) := do
  match c.template with
  | some path => return Template.ofFile path (← system.read path)
  | none => return .ok .standard

/-- The settings and a session that follows them, or the message that tells why there is none. -/
def prepare (options : Overrides) : m (Except Text (Config × Session)) := do
  match ← l.settings system options.config with
  | .error e => return .error e.message
  | .ok c =>
    let c := options.apply c
    match ← template system c with
    | .error e => return .error e.message
    | .ok template => return .ok (c, .new c.defaultImports template c.programFile)

/-- Answer the input. The directory of the history file is made in the end. -/
def interact (options : Overrides) : m Nat := do
  match ← l.prepare system options with
  | .error message => fail system message
  | .ok (c, s) =>
    system.print [Repl.greeting]
    Repl.answer (system.host c) system.print s (← system.input)
    let history := History.file l.home (History.requested l.historyPath c.history)
    if let some parent := Path.parent? history then system.createDirectories parent
    system.print [Repl.farewell]
    return 0

/-- The last line of a script that had failures. -/
def verdict (s : Script.Summary) : List Printed :=
  if s.failures = 0 then []
  else [⟨.stderr, Colour.errorLine
    (decimal s.failures ++ " of ".toList ++ decimal s.turns ++ " turns failed".toList)⟩]

def runScript (options : Overrides) (script : Text) : m Nat := do
  match ← l.prepare system options with
  | .error message => fail system message
  | .ok (c, s) =>
    match ← system.read script with
    | .error fault =>
      fail system ("cannot read script '".toList ++ script ++ "': ".toList ++ fault.message)
    | .ok t =>
      let (p, _) ← Script.perform (system.host c) system.print { session := s } (Script.ofText t)
      system.print (verdict p.summary)
      return if p.summary.failures = 0 then 0 else 1

/-- Run the program. The number is the status with which it ends; arguments that make no request end
it at once. -/
def run : m Nat :=
  match CommandLine.parse? l.args with
  | none => return 2
  | some .version => say system CommandLine.versionText
  | some (.help topic) => say system (CommandLine.helpText topic)
  | some .init => initialise system
  | some (.repl options) => l.interact system options
  | some (.run options script) => l.runScript system options script

end Launch
end GoRepl
