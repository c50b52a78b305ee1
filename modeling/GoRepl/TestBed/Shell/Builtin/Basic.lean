import GoRepl.TestBed.Command.Values
import GoRepl.TestBed.Shell.Comparison

/-! # Test bed: commands of a shell itself

The commands that a shell carries out without starting another one: what they have in common, and
those that print, compare and go to other directories. -/

namespace GoRepl.Machine.Shell

/-- A command of the shell, given its name and arguments. -/
abbrev Builtin := (name : Text) → (args : List Text) → Run Unit

namespace Builtin

def complainAs (name message : Text) (status : Nat) : Run Unit := do
  Shell.complainAs name message
  setStatus status

/-- Complain about a command whose failure ends the shell. -/
def fatalAs {α : Type} (name message : Text) : Run α := do
  complainAs name message 2
  throw .fault

/-- Complain about a command whose failure ends the plain shell only. -/
def refuseAs (name : Text) (plain extended : Text) (status : Nat := 1) : Run Unit := do
  if (← get).isExtended then complainAs name extended status else fatalAs name plain

/-- How commands are called, for those that are told about wrong options. -/
def usages : List (String × String) :=
  [("cd", "cd [-L|[-P [-e]] [-@]] [dir]"), ("pwd", "pwd [-LP]"),
    ("set", "set [-abefhkmnptuvxBCEHPT] [-o option-name] [--] [-] [arg ...]"),
    ("export", "export [-fn] [name[=value] ...] or export -p"),
    ("readonly", "readonly [-aAf] [name[=value] ...] or readonly -p"),
    ("unset", "unset [-f] [-v] [-n] [name ...]"),
    ("declare", "declare [-aAfFgiIlnrtux] [name[=value] ...] or " ++
      "declare -p [-aAfFilnrtux] [name ...]"),
    ("typeset", "typeset [-aAfFgiIlnrtux] name[=value] ... or " ++
      "typeset -p [-aAfFilnrtux] [name ...]"),
    ("local", "local [option] name[=value] ..."),
    ("read", "read [-ers] [-a array] [-d delim] [-i text] [-n nchars] [-N nchars] [-p prompt] " ++
      "[-t timeout] [-u fd] [name ...]"),
    ("printf", "printf [-v var] format [arguments]"),
    ("getopts", "getopts optstring name [arg ...]"),
    ("mapfile", "mapfile [-d delim] [-n count] [-O origin] [-s count] [-t] [-u fd] " ++
      "[-C callback] [-c quantum] [array]"),
    ("readarray", "readarray [-d delim] [-n count] [-O origin] [-s count] [-t] [-u fd] " ++
      "[-C callback] [-c quantum] [array]"),
    ("shopt", "shopt [-pqsu] [-o] [optname ...]"), ("umask", "umask [-p] [-S] [mode]"),
    ("ulimit", "ulimit [-SHabcdefiklmnpqrstuvxPRT] [limit]"),
    ("trap", "trap [-lp] [[arg] signal_spec ...]"), ("type", "type [-afptP] name [name ...]"),
    ("alias", "alias [-p] [name[=value] ... ]"), ("unalias", "unalias [-a] name [name ...]"),
    ("hash", "hash [-lr] [-p pathname] [-dt] [name ...]"), ("wait", "wait [-fn] [-p var] [id ...]"),
    ("kill", "kill [-s sigspec | -n signum | -sigspec] pid | jobspec ... or kill -l [sigspec]"),
    ("pushd", "pushd [-n] [+N | -N | dir]"), ("popd", "popd [-n] [+N | -N]"),
    ("dirs", "dirs [-clpv] [+N] [-N]"), ("command", "command [-pVv] command [arg ...]"),
    ("exec", "exec [-cl] [-a name] [command [argument ...]] [redirection ...]"),
    ("let", "let arg [arg ...]"), ("enable", "enable [-a] [-dnps] [-f filename] [name ...]"),
    ("builtin", "builtin [shell-builtin [arg ...]]"), (".", ". filename [arguments]"),
    ("source", "source filename [arguments]"), ("jobs", "jobs [-lnprs] [jobspec ...]"),
    ("disown", "disown [-h] [-ar] [jobspec ... | pid ...]"),
    ("caller", "caller [expr]"), ("times", "times") ]

/-- Say how a command is called. -/
def showUsage (name : Text) : Run Unit := do
  match usages.find? (·.1.toList = name) with
  | some (_, t) => put 2 (name ++ ": usage: ".toList ++ t.toList ++ ['\n'])
  | none => pure ()
  setStatus 2

/-- Complain about an option that a command does not know. -/
def unknownOption (name option : Text) : Run Unit := do
  if (← get).isExtended then
    Shell.complainAs name (option ++ ": invalid option".toList)
    showUsage name
  else fatalAs name ("Illegal option ".toList ++ option)

/-- Read the options at the start of arguments, of which some have values. The plain shell ends at
one that is not known, unless it is harmless to do without. -/
def withOptions (letters valued : String) (name : Text) (args : List Text)
    (go : Options → Run Unit) : Run Unit := do
  let rules : OptionRules := { flags := letters, valued }
  let rec split : List Text → Except Text (List (Char × Text) × List Text)
    | ['-', '-'] :: args => .ok ([], args)
    | ('-' :: c :: t) :: args =>
      match Options.letters rules (c :: t), args with
      | .error message, _ => .error message
      | .ok (given, none), args => (split args).map fun (more, rest) => (given ++ more, rest)
      | .ok (_, some (_, missing)), [] => .error missing
      | .ok (given, some (k, _)), v :: args =>
        (split args).map fun (more, rest) => (given ++ (k, v) :: more, rest)
    | args => .ok ([], args)
  match split args with
  | .ok (given, operands) => go ⟨given, operands⟩
  | .error message =>
    let c := (message.dropLast.getLast?).getD ' '
    if "invalid".toList.isPrefixOf message then unknownOption name ['-', c]
    else if (← get).isExtended then
      Shell.complainAs name (['-', c] ++ ": option requires an argument".toList)
      showUsage name
    else fatalAs name ("No arg for -".toList ++ [c] ++ " option".toList)

/-! ## Output -/

/-- Print for a command, if there is room. -/
def output (name t : Text) : Run Unit := do
  let s ← get
  let result ← match s.streams.lookup 1 with
    | some id => work (Machine.put id t)
    | none => pure (if t = [] then .ok () else .error (.other "Bad file descriptor".toList))
  match result with
  | .ok () => return
  | .error fault =>
    complainAs name (if s.isExtended then "write error: ".toList ++ Call.reason fault
      else name ++ ": I/O error".toList) 1

/-- Print for a command that succeeds by that. -/
def answer (name t : Text) : Run Unit := do
  setStatus 0
  output name t

def echo : Builtin := fun name args => do
  if (← get).isExtended then answer name (Values.echoed args)
  else
    let (ending, args) := match args with
      | ['-', 'n'] :: args => (([] : Text), args)
      | args => (['\n'], args)
    let line := List.intercalate [' '] args
    let (shown, stops) := unescape false (line.length + 1) line
    answer name (shown ++ if stops then [] else ending)

/-- What is wrong with an argument of `printf`, in the words of a shell. -/
def formatFault (d : Dialect) : FormatFault → Text
  | .notNumeric arg => arg ++ (match d with
    | .plain => ": expected numeric value"
    | .extended => ": invalid number").toList
  | .partlyNumeric arg => arg ++ (match d with
    | .plain => ": not completely converted"
    | .extended => ": invalid number").toList
  | .outOfRange arg =>
    (if d = .extended then "warning: " else "").toList ++ arg ++
      ": Numerical result out of range".toList
  | .invalid directive =>
    match d with
    | .plain => directive ++ ": invalid directive".toList
    | .extended =>
      "`".toList ++ directive.getLast?.toList ++ "': invalid format character".toList
  | .unfinished directive =>
    (match d with
    | .plain => []
    | .extended => "`".toList ++ directive ++ "': ".toList) ++ "missing format character".toList

/-- A name, perhaps with an index in brackets. -/
def nameAndIndex (t : Text) : Text × Option Text :=
  match Text.cutAt? '[' t with
  | some (name, rest) =>
    if 1 < rest.length && rest.getLast? = some ']' then (name, some rest.dropLast) else (t, none)
  | none => (t, none)

/-- Give a value to a variable or an element that is named in an argument. -/
def assignTo (t value : Text) : Run Unit := do
  let (name, index) := nameAndIndex t
  match index with
  | none => discard (assignOr 1 name value)
  | some i =>
    let s ← get
    let isTable := (s.bindings.get? (s.targetName name)).any fun v => v.value.isTable
    let i ← if isTable then pure i else do pure (Expression.shown (← calculateText [] i))
    assignAt 8 name (some i) false value

def printf : Builtin := fun name args => do
  let s ← get
  let d := s.dialect
  match if args.head? = some ['-', '-'] then args.tail else args with
  | [] =>
    if d = .plain then complainAs name "usage: printf format [arg ...]".toList 2
    else showUsage name
  | ['-', 'v'] :: n :: format :: rest =>
    if d = .plain then fatalAs name "Illegal option -v".toList
    else do
      setStatus 0
      let m ← machine
      assignTo n (Formatting.run true format rest (some (time m))).text
  | format :: rest =>
    if format.head? = some '-' && 1 < format.length && args.head? ≠ some ['-', '-'] then
      unknownOption name (format.take 2)
    else do
      let m ← machine
      let clock := if s.isExtended then some (time m) else none
      let f := Formatting.run s.isExtended format rest clock
      for fault in f.faults do
        Shell.complainAs name (formatFault d fault)
      let isInvalid := f.faults.any (· matches .invalid _ | .unfinished _)
      let isHarmless (fault : FormatFault) := d = .extended && fault matches .outOfRange _
      setStatus (if isInvalid && d = .plain then 2 else if f.faults.all isHarmless then 0 else 1)
      output name f.text
where
  /-- A time in some form. -/
  time (m : Machine) (seconds : Option Int) (form : Text) : Text :=
    let micros := (seconds.map (· * 1000000)).getD m.clock
    Calendar.write (Calendar.ofMicros micros) (if form = [] then "%X".toList else form)

/-! ## Conditions -/

def conditionFault (d : Dialect) : Condition.Fault → Text
  | .illegalNumber t => match d with
    | .plain => "Illegal number: ".toList ++ t
    | .extended => t ++ ": integer expression expected".toList
  | .argumentExpected t => t ++ ": argument expected".toList
  | .closingExpected none => match d with
    | .plain => "closing paren expected".toList
    | .extended => "`)' expected".toList
  | .closingExpected (some t) => "`)' expected, found ".toList ++ t
  | .unaryExpected t => t ++ ": unary operator expected".toList
  | .binaryExpected t => t ++ ": binary operator expected".toList
  | .unexpected t => match d with
    | .plain => (if t = [] then [] else t ++ [':', ' ']) ++ "unexpected operator".toList
    | .extended => "syntax error: `".toList ++ t ++ "' unexpected".toList
  | .tooMany _ => "too many arguments".toList

def test : Builtin := fun name args => do
  let s ← get
  let bracket := name = ['[']
  if bracket && args.getLast? ≠ some [']'] then
    complainAs name (match s.dialect with
      | .plain => "missing ]"
      | .extended => "missing `]'").toList 2
  else
    let args := if bracket then args.dropLast else args
    let setting := s.setting (← machine)
    let result := match s.dialect with
      | .plain => Condition.Lexical.ask setting (args.length + 2) args
      | .extended => Condition.ask setting args
    match result with
    | .ok a => setStatus (if a then 0 else 1)
    | .error fault => complainAs name (conditionFault s.dialect fault) 2

/-! ## Directories -/

/-- A path without dots and doubled slashes; two dots take a step back. -/
def normalized (path : Text) : Text :=
  let steps := (path.splitOn '/').foldl (fun (kept : List Text) step =>
    if step = [] || step = ['.'] then kept
    else if step = ['.', '.'] then kept.tail
    else step :: kept) []
  '/' :: List.intercalate ['/'] steps.reverse

/-- The working directory as it was reached. -/
def here (s : Shell) : Text := s.reached.getD (Narrow.ofText (Path.ofParts true s.place))

/-- Why a shell does not go to a directory. -/
def cdFailure (name target : Text) (fault : Fault) : Run Unit := do
  if (← get).isExtended then complainAs name (target ++ ": ".toList ++ Call.reason fault) 1
  else complainAs name ("can't cd to ".toList ++ target) 2

/-- Go to a directory that is given by its path: was that possible? -/
def goTo (name target path : Text) (physical : Bool) : Run Bool := do
  let s ← get
  let reached := normalized (if path.head? = some '/' then path else Files.joined (here s) path)
  let d := (← machine).disk
  let found := match d.locate s.place (Call.path path), physical with
    | .ok _, false => d.locate s.place (Call.path reached)
    | r, _ => r
  match found with
  | .error fault =>
    cdFailure name target fault
    return false
  | .ok spot =>
    if (d.entries? spot.id).isNone then
      cdFailure name target .notDirectory
      return false
    else if !d.allows spot.id 1 then
      cdFailure name target .permissionDenied
      return false
    else
      let old := here s
      let new := if physical then Narrow.ofText (Path.ofParts true spot.place) else reached
      modify ({ · with place := spot.place, reached := some new })
      assign "OLDPWD".toList old
      assign "PWD".toList new
      return true

def cd : Builtin := fun name args => do
  let s ← get
  withOptions (if s.isExtended then "LPe@" else "LP") "" name args fun o => do
    let physical := (o.given.reverse.find? fun ((c, _) : Char × Text) => c = 'P' || c = 'L').any
      (·.1 = 'P')
    match o.operands with
    | _ :: _ :: _ =>
      if s.isExtended then complainAs name "too many arguments".toList 1
      else go name o.operands physical
    | _ => go name o.operands physical
where
  go (name : Text) (operands : List Text) (physical : Bool) : Run Unit := do
    let s ← get
    let value (n : String) : Option Text := s.value? n.toList
    match operands with
    | [] => match value "HOME" with
      | some home => if home = [] then setStatus 0 else finish name home home physical false
      | none => if s.isExtended then complainAs name "HOME not set".toList 1 else setStatus 0
    | ['-'] :: _ => match value "OLDPWD" with
      | some old => finish name old old physical true
      | none =>
        if s.isExtended then complainAs name "OLDPWD not set".toList 1
        else finish name [] (here s) physical true
    | target :: _ =>
      if target = [] then setStatus 0
      else
        let isPlainName := target.head? ≠ some '/' && target.head? ≠ some '.'
        let searched := if isPlainName then ((value "CDPATH").getD []).splitOn ':' else []
        let d := (← machine).disk
        let hit := (searched.filter (· ≠ [])).find? fun dir =>
          d.isDirectory s.place (Call.path (Files.joined dir target))
        match hit with
        | some dir => finish name target (Files.joined dir target) physical true
        | none => finish name target target physical false
  finish (name target path : Text) (physical told : Bool) : Run Unit := do
    if ← goTo name target path physical then
      setStatus 0
      if told then
        let s ← get
        output name (here s ++ ['\n'])

def pwd : Builtin := fun name args => do
  withOptions "LP" "" name args fun o => do
    let s ← get
    let physical := (o.given.getLast?).any (·.1 = 'P')
    answer name ((if physical then Narrow.ofText (Path.ofParts true s.place) else here s) ++ ['\n'])

/-- The directory stack, as it is shown. -/
def shownStack (s : Shell) : Text :=
  let home := (s.value? "HOME".toList).getD []
  let shown (t : Text) : Text :=
    if home ≠ [] && home ≠ ['/'] && (t = home || (home ++ ['/']).isPrefixOf t) then
      '~' :: t.drop home.length
    else t
  List.intercalate [' '] (shown (here s) ::
    s.directories.map fun p => shown (Narrow.ofText (Path.ofParts true p)))

def dirs : Builtin := fun name args => do
  let s ← get
  let paths := here s :: s.directories.map fun p => Narrow.ofText (Path.ofParts true p)
  match args with
  | ['-', 'c'] :: _ =>
    modify ({ · with directories := [] })
    setStatus 0
  | ['-', 'p'] :: _ => answer name (ofLines paths)
  | ['-', 'v'] :: _ => answer name (ofLines (paths.zipIdx.map fun ((t, i) : Text × Nat) =>
    padStart 2 ' ' (decimal i) ++ [' ', ' '] ++ t))
  | _ => answer name (shownStack s ++ ['\n'])

def pushd : Builtin := fun name args => do
  let s ← get
  match args with
  | [] =>
    match s.directories with
    | [] => complainAs name "no other directory".toList 1
    | p :: ps =>
      let path := Narrow.ofText (Path.ofParts true p)
      if ← goTo name path path false then
        modify ({ · with directories := s.place :: ps })
        tell name
  | target :: _ =>
    if ← goTo name target target false then
      modify ({ · with directories := s.place :: s.directories })
      tell name
where
  tell (name : Text) : Run Unit := do
    let s ← get
    answer name (shownStack s ++ ['\n'])

def popd : Builtin := fun name _ => do
  let s ← get
  match s.directories with
  | [] => complainAs name "directory stack empty".toList 1
  | p :: ps =>
    let path := Narrow.ofText (Path.ofParts true p)
    if ← goTo name path path false then
      modify ({ · with directories := ps })
      let s ← get
      answer name (shownStack s ++ ['\n'])

/-- The permissions that are not taken away, in letters. -/
def maskLetters (mask : Nat) : Text :=
  let kind (name : Char) (shift : Nat) : Text :=
    let bits := 7 - mask / shift % 8
    [name, '='] ++ (if bits / 4 % 2 = 1 then ['r'] else []) ++
      (if bits / 2 % 2 = 1 then ['w'] else []) ++ if bits % 2 = 1 then ['x'] else []
  kind 'u' 64 ++ [','] ++ kind 'g' 8 ++ [','] ++ kind 'o' 1

def umask : Builtin := fun name args => do
  let s ← get
  withOptions (if s.isExtended then "pS" else "S") "" name args fun o => do
    match o.operands with
    | [] =>
      let octal := padStart 4 '0' (Mode.octal s.umask)
      answer name ((if o.has 'p' then "umask ".toList else []) ++
        (if o.has 'S' then (if o.has 'p' then "-S ".toList else []) ++ maskLetters s.umask
          else octal) ++ ['\n'])
    | t :: _ =>
      let isNumber := t.head?.any Text.isDigit
      match Mode.altered? 0 true (Mode.without 511 s.umask) t with
      | some mode =>
        modify fun s => { s with
          umask := if isNumber then Mode.land mode 511 else Mode.without 511 mode }
        setStatus 0
      | none =>
        if isNumber then
          if s.isExtended then complainAs name (t ++ ": octal number out of range".toList) 1
          else complainAs name ("Illegal number: ".toList ++ t) 2
        else if s.isExtended then
          complainAs name ("`".toList ++ t.take 1 ++ "': invalid symbolic mode operator".toList) 1
        else fatalAs name ("Illegal mode: ".toList ++ t)

def status (n : Nat) : Builtin := fun _ _ => setStatus n

def times : Builtin := fun name _ => do
  let zero := "0m0.000s 0m0.000s\n".toList
  let s ← get
  answer name (if s.isExtended then zero ++ zero
    else "0m0.000000s 0m0.000000s\n0m0.000000s 0m0.000000s\n".toList)

end Builtin
end GoRepl.Machine.Shell
