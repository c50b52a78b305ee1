import GoRepl.Fragment.Declared
import GoRepl.ImportSpec
import GoRepl.Registry

/-! # The workspace

All that a session remembers of the program: the registry of names, the history of statements, the
specs of the imported packages and the bodies of the functions. -/

namespace GoRepl

theorem length_partition {α : Type} (p : α → Bool) (l : List α) :
    (l.partition p).1.length + (l.partition p).2.length = l.length := by
  induction l with
  | nil => simp
  | cons a l ih => by_cases h : p a <;> simp_all <;> omega

/-- A stored statement, with what is needed to take it back. -/
structure Entry where
  id : FragmentId
  fragment : Fragment
  declares : Bool
  /-- The statement that was pinned before this one was stored. -/
  pinnedBefore : Option FragmentId
  /-- The names that this statement declared with their records before, latest first. -/
  displaced : List (Text × Option Declaration)
deriving DecidableEq, Repr

structure Workspace where
  registry : Registry := {}
  /-- The history, latest statement first. -/
  entries : List Entry := []
  /-- The latest statement, unless it is a declaration. It belongs to the program in any case. -/
  pinned : Option FragmentId := none
  /-- The statements selected for the program. -/
  emission : List FragmentId := []
  specs : Ledger Text ImportSpec := .empty
  bodies : Ledger FragmentId Fragment := .empty
deriving DecidableEq

namespace Workspace

/-- The statements in the order in which they were stored. -/
def history (w : Workspace) : List Fragment := w.entries.reverse.map Entry.fragment

def fragment? (w : Workspace) (id : FragmentId) : Option Fragment :=
  (w.entries.find? (·.id = id)).map Entry.fragment

def pinnedFragment? (w : Workspace) : Option Fragment := w.pinned.bind w.fragment?

/-- The statements of the program, in history order. -/
def emitted (w : Workspace) : List Fragment :=
  (w.entries.reverse.filter fun e => w.emission.contains e.id).map Entry.fragment

/-- The statement block of the program, indented by one unit. -/
def statementBlock (w : Workspace) : Text := Text.unlines (w.emitted.map (·.render 1))

def resetLiveness (w : Workspace) : Workspace :=
  { w with registry := w.registry.resetLiveness }

end Workspace
end GoRepl
