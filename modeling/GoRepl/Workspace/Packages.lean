import GoRepl.Workspace.Basic

/-! # Packages

The imported packages, and those among them that the program uses. A package is known by the name
that code uses for it; a path is imported under one name at a time. -/

namespace GoRepl.Workspace

/-- Does a spec stay when `path` is imported? Not if its path is the same, nor if its name has been
declared as something else. -/
def keepsSpec (w : Workspace) (path : Text) (name : Text) (spec : ImportSpec) : Bool :=
  (w.registry.owner? .package name).isSome && spec.path != path

/-- Import a package, in place of any import of the same path. -/
def declareImport (w : Workspace) (spec : ImportSpec) : Workspace :=
  let name := spec.identifier
  let specs := w.specs.filter (w.keepsSpec spec.path)
  let stale := (w.registry.names .package).filter fun n => n ≠ name && !specs.contains n
  { w with
    registry := (w.registry.forget stale).record .package name (.text spec.render)
    specs := specs.put name spec }

/-- The imported paths, in declaration order. -/
def importPaths (w : Workspace) : List Text :=
  (w.registry.names .package).filterMap fun name => (w.specs.get? name).map ImportSpec.path

/-- Mark live every package that one of the given fragments refers to. -/
def scanImports (users : List Fragment) (w : Workspace) : Workspace :=
  let tokens := users.flatMap Fragment.tokens
  let used := (w.registry.names .package).filter fun name => tokens.any (Token.refersTo · name)
  { w with registry := w.registry.markAll .package used }

/-- The import block of the program: the live packages in declaration order, one a line. -/
def importBlock (w : Workspace) : Text :=
  Text.unlines <| (w.registry.declared .package).filterMap fun (name, owner) =>
    match owner with
    | .text t => if w.registry.isLive .package name then some (indented 1 t) else none
    | .fragment _ => none

end GoRepl.Workspace
