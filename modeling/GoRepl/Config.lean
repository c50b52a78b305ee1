import GoRepl.Path
import GoRepl.Toml.Document

/-! # Settings

The settings of the program and the file that they are read from. A setting that the file lacks has
its default; keys that name no setting are passed over. -/

namespace GoRepl

structure Config where
  /-- The toolchain that builds and runs programs. -/
  go : Text := "go".toList
  /-- For how many seconds a program may run. -/
  timeoutSecs : Nat := 30
  /-- The directory of the generated program. -/
  cacheDir : Option Text := none
  /-- The file of a template in place of the standard one. -/
  template : Option Text := none
  /-- The packages that are imported from the start. -/
  defaultImports : List Text := ["fmt".toList]
  playgroundUrl : Text := "https://play.golang.org".toList
  /-- The file of the line editor's history. -/
  history : Option Text := none
deriving DecidableEq, Repr

namespace Config

def fileName : Text := "gonsole.toml".toList

def ofText? : Toml.Value → Option Text
  | .text t => some t
  | _ => none

def ofCount? : Toml.Value → Option Nat
  | .integer (.ofNat n) => some n
  | _ => none

def ofTexts? : Toml.Value → Option (List Text)
  | .list items => items.mapM ofText?
  | _ => none

/-- The setting under a key: its default if the key is absent, an error if its kind is wrong. -/
def setting (d : Toml.Document) (key : String) (read : Toml.Value → Option α) (default : α) :
    Option α :=
  match d.top? key.toList with
  | none => some default
  | some v => read v

/-- Read the settings. -/
def read? (t : Text) : Option Config := do
  let d ← Toml.Document.read? t
  let c : Config := {}
  return {
    go := ← setting d "go" ofText? c.go
    timeoutSecs := ← setting d "timeout_secs" ofCount? c.timeoutSecs
    cacheDir := ← setting d "cache_dir" (fun v => (ofText? v).map some) c.cacheDir
    template := ← setting d "template" (fun v => (ofText? v).map some) c.template
    defaultImports := ← setting d "default_imports" ofTexts? c.defaultImports
    playgroundUrl := ← setting d "playground_url" ofText? c.playgroundUrl
    history := ← setting d "history" (fun v => (ofText? v).map some) c.history }

/-- The file that a program is written to, by default below the temporary directory. -/
def programFile (c : Config) : Text :=
  match c.cacheDir with
  | some directory => Path.join directory "main.go".toList
  | none => "/tmp/gonsole/_cache/main.go".toList

/-- The files that may hold the settings, in order of preference: in the working directory or a
directory above it, and then below the home directory. -/
def candidates (directory home : Text) : List Text :=
  (Path.ancestors directory).map (Path.join · fileName) ++
    [Path.join home (".config/gonsole/".toList ++ fileName)]

/-- The contents of a new settings file. -/
def initial : Text :=
  [ "# Gonsole configuration",
    "",
    "# Go binary used to build and run each program",
    "go = \"go\"",
    "",
    "# Seconds a program may run before it is killed",
    "timeout_secs = 30",
    "",
    "# Packages usable without an explicit import",
    "default_imports = [\"fmt\"]",
    "",
    "# Where `playground` shares programs",
    "playground_url = \"https://play.golang.org\"",
    "",
    "# Directory for the generated main.go (default: <tmp>/gonsole/_cache)",
    "# cache_dir = \"/tmp/gonsole/_cache\"",
    "",
    "# Custom program template with \x7b%import_area%\x7d, \x7b%func_area%\x7d and " ++
      "\x7b%code_area%\x7d",
    "# template = \"main.go.tmpl\"",
    "",
    "# Line editor history (default: ~/.gonsole/repl_history)",
    "# history = \"~/.gonsole/repl_history\""].flatMap fun line => line.toList ++ ['\n']

end Config
end GoRepl
