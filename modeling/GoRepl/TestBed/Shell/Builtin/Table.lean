import GoRepl.TestBed.Shell.Builtin.Leaving

/-! # Test bed: the commands of a shell by their names

Which commands each shell knows, and what a name stands for. -/

namespace GoRepl.Machine.Shell.Builtin

/-- The commands whose failure ends the plain shell, and whose assignments stay. -/
def special : List String :=
  [":", ".", "break", "continue", "eval", "exec", "exit", "export", "readonly", "return", "set",
    "shift", "times", "trap", "unset"]

/-- The commands of a shell that run other commands or tell what they are. -/
def running : List String := ["eval", ".", "exec", "command", "type", "hash"]

def extendedRunning : List String := ["source", "builtin"]

/-- The commands that do their work by themselves. -/
def table : List (String × Builtin) :=
  [ (":", status 0), ("true", status 0), ("false", status 1), ("echo", echo), ("printf", printf),
    ("test", test), ("[", test), ("cd", cd), ("pwd", pwd), ("unset", unset), ("set", setOptions),
    ("shift", shift), ("read", read), ("getopts", getopts), ("trap", trap), ("umask", umask),
    ("times", times), ("ulimit", ulimit), ("jobs", listJobs), ("alias", aliasNames),
    ("unalias", unaliasNames), ("kill", kill), ("wait", wait), ("exit", exit),
    ("return", «return»), ("break", leaveLoops .leaveLoops), ("continue", leaveLoops .nextRound),
    ("fg", fun name _ => do
      refuseAs name "No current job".toList "no job control".toList),
    ("bg", fun name _ => do
      refuseAs name "No current job".toList "no job control".toList) ]

def plainTable : List (String × Builtin) := [("chdir", cd)]

def extendedTable : List (String × Builtin) :=
  [ ("mapfile", readLines), ("readarray", readLines), ("shopt", shopt), ("let", letValues),
    ("pushd", pushd), ("popd", popd), ("dirs", dirs), ("disown", disown), ("enable", status 0),
    ("caller", caller), ("logout", status 0), ("bind", status 0), ("complete", status 0),
    ("compgen", status 1), ("history", status 0), ("suspend", status 1) ]

/-- The commands whose arguments may be assignments. -/
def declaring (give : ListGiver) : List (String × Builtin) :=
  [ ("export", exportVariables give), ("readonly", protectVariables give),
    ("local", localVariables give) ]

def extendedDeclaring (give : ListGiver) : List (String × Builtin) :=
  [("declare", declareVariables give), ("typeset", declareVariables give)]

/-- Are the arguments of a command expanded like assignments, if they look like them? -/
def isDeclaring (d : Dialect) (name : Text) : Bool :=
  match String.ofList name with
  | "export" | "readonly" | "local" => true
  | "alias" => d = .plain
  | "declare" | "typeset" => d = .extended
  | _ => false

/-- A command of a shell of the given kind that does its work by itself. -/
def find? (d : Dialect) (give : ListGiver) (name : Text) : Option Builtin :=
  let name := String.ofList name
  let inTable (entries : List (String × Builtin)) : Option Builtin :=
    (entries.find? (·.1 = name)).map Prod.snd
  inTable table <|> inTable (declaring give) <|> match d with
    | .plain => inTable plainTable
    | .extended => inTable extendedTable <|> inTable (extendedDeclaring give)

def isSpecial (name : Text) : Bool := special.contains (String.ofList name)

/-- Is a command one of a shell of the given kind? -/
def isKnown (d : Dialect) (name : Text) : Bool :=
  running.contains (String.ofList name) ||
    (d = .extended && extendedRunning.contains (String.ofList name)) ||
    (find? d (fun _ => none) name).isSome

/-! ## What a name stands for -/

/-- The path of a command, as the search path of the shell leads to it. -/
def pathFor (s : Shell) (d : Disk) (name : Text) : Except Fault Text :=
  pathOf d s.place ((s.value? "PATH".toList).getD searchPath) name

/-- What a name stands for as a command. -/
inductive Sense where
  | synonym (t : Text)
  | keyword
  | function
  | special
  | own
  | file (path : Text)
deriving DecidableEq, Repr

namespace Sense

/-- All that a name stands for, in the order in which it is tried. -/
def all (s : Shell) (m : Machine) (name : Text) : List Sense :=
  let setting := s.setting m
  let paths : List Text :=
    if name.contains '/' then
      if Condition.isExecutable setting name && m.disk.isFile s.place (Call.path name) then [name]
      else []
    else
      let searched := (s.value? "PATH".toList).getD searchPath
      let paths := (searched.splitOn ':').map fun dir =>
        Files.joined (if dir = [] then ['.'] else dir) name
      paths.filter fun p =>
        Condition.isExecutable setting p && m.disk.isFile s.place (Call.path p)
  let aliases := if !s.isExtended || s.hasSwitch "expand_aliases" then s.aliases else []
  ((aliases.lookup name).toList.map .synonym) ++
    (if Reader.isKeyword s.dialect name then [.keyword] else []) ++
    (if (s.functions.lookup name).isSome then [.function] else []) ++
    (if !isKnown s.dialect name then []
      else if isSpecial name && !s.isExtended then [.special] else [.own]) ++
    paths.map .file

/-- The sense as one word. -/
def word : Sense → Text
  | synonym _ => "alias".toList
  | keyword => "keyword".toList
  | function => "function".toList
  | special | own => "builtin".toList
  | file _ => "file".toList

/-- The sense as a sentence about the name. -/
def sentence (d : Dialect) (name : Text) : Sense → Text
  | synonym t => name ++ match d with
    | .plain => " is an alias for ".toList ++ t
    | .extended => " is aliased to `".toList ++ t ++ ['\'']
  | keyword => name ++ " is a shell keyword".toList
  | function => name ++ (match d with
    | .plain => " is a shell function"
    | .extended => " is a function").toList
  | special => name ++ " is a special shell builtin".toList
  | own => name ++ " is a shell builtin".toList
  | file path => name ++ " is ".toList ++ path

/-- The sense in the form in which it can be used. -/
def form (d : Dialect) (name : Text) : Sense → Text
  | synonym t => "alias ".toList ++ name ++ ['='] ++ match d with
    | .plain => inQuotes t
    | .extended => inSingleQuotes t
  | file path => path
  | _ => name

end Sense

/-- Say what a name stands for as a command: was that possible? -/
def describe (caller : Text) (long : Bool) (name : Text) : Run Bool := do
  let s ← get
  match Sense.all s (← machine) name with
  | sense :: _ =>
    let t := if long then sense.sentence s.dialect name else sense.form s.dialect name
    output caller (t ++ ['\n'])
    return true
  | [] =>
    if long then
      if s.isExtended then Shell.complainAs caller (name ++ ": not found".toList)
      else output caller (name ++ ": not found\n".toList)
    return false

/-- Say what some names stand for. -/
def describeAll (caller : Text) (long : Bool) (names : List Text) : Run Unit := do
  let found ← names.mapM (describe caller long)
  let isExtended := (← get).isExtended
  let isFine := if isExtended && caller = "command".toList then found.any id else found.all id
  setStatus (if isFine then 0 else if isExtended then 1 else 127)

def type : Builtin := fun name args => do
  let s ← get
  if !s.isExtended then describeAll name true args
  else withOptions "afptP" "" name args fun o => do
    setStatus 0
    for n in o.operands do
      let senses := Sense.all s (← machine) n
      let files := senses.filter (· matches .file _)
      let senses := if o.has 'P' then files else if o.has 'f' then senses.filter (· ≠ .function)
        else senses
      let senses := if o.has 'a' then senses else senses.take 1
      if senses.isEmpty then
        if !(o.has 't' || o.has 'p' || o.has 'P') then
          Shell.complainAs name (n ++ ": not found".toList)
        setStatus 1
      for sense in senses do
        if o.has 't' then output name (sense.word ++ ['\n'])
        else if o.has 'p' || o.has 'P' then
          match sense with
          | .file path => output name (path ++ ['\n'])
          | _ => pure ()
        else output name (sense.sentence s.dialect n ++ ['\n'])

def hash : Builtin := fun name args => do
  let s ← get
  setStatus 0
  let names := args.filter (·.head? ≠ some '-')
  if args.isEmpty && s.isExtended then output name "hash: hash table empty\n".toList
  let d := (← machine).disk
  for n in names do
    let isKnown := isKnown s.dialect n || (s.functions.lookup n).isSome || n.contains '/'
    match isKnown, pathFor s d n with
    | false, .error _ => complainAs name (n ++ ": not found".toList) 1
    | _, _ => pure ()

end GoRepl.Machine.Shell.Builtin
