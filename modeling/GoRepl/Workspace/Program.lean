import GoRepl.Template
import GoRepl.Workspace.Functions
import GoRepl.Workspace.Packages
import GoRepl.Workspace.Statements

/-! # The assembled program

The program of a workspace: the selected statements, the functions that they reach and the packages
that either of them uses, each in its region of the template. -/

namespace GoRepl.Workspace

/-- Find the functions reached from the selected statements, then the packages used by those
statements and functions. -/
def scan (w : Workspace) : Workspace :=
  let w := w.scanFunctions w.emitted
  w.scanImports (w.emitted ++ w.liveBodies)

def regions (w : Workspace) : Regions := ⟨w.importBlock, w.functionBlock, w.statementBlock⟩

/-- The program. Assembling it uses the marks up, see `resetLiveness`. -/
def program (w : Workspace) (template : Template) : Text := template.render w.scan.regions

/-- A workspace in which the given paths have been imported. -/
def ofImports (paths : List Text) : Workspace :=
  paths.foldl (fun w path => w.declareImport ⟨none, path⟩) {}

end GoRepl.Workspace
