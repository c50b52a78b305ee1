import GoRepl.Workspace.Basic

/-! # Statements

Storing statements and taking them back, and the choice of those that the program needs. An unused
variable is an error in the program, so not the whole history is replayed. A use statement is
pinned, and the choice starts from it:

1. the variables that it references are live;
2. so are the variables referenced by the statement that declared a live variable;
3. the program consists of the declarations that own a live variable, the earlier uses of a live
   variable declared no later than they are, and the pinned statement. -/

namespace GoRepl

/-- A declared variable with the statement that owns it and the tokens of that statement. -/
structure Binding where
  name : Text
  owner : FragmentId
  tokens : List Text
deriving DecidableEq, Repr

namespace Binding

/-- Is one variable live because another one is? -/
def brings (b c : Binding) : Bool := b.tokens.any (Token.refersTo · c.name)

/-- The pending variables and all that they bring of those not yet seen, directly or through
others. -/
def closure (unseen : List Binding) : (pending : List Binding) → List Binding
  | [] => []
  | b :: pending =>
    let brought := unseen.partition b.brings
    b :: closure brought.2 (brought.1 ++ pending)
termination_by pending => 2 * unseen.length + pending.length
decreasing_by
  have := length_partition b.brings unseen
  simp only [List.length_append, List.length_cons]
  omega

/-- The variables that tokens reference, directly or through the owners of others. -/
def liveFrom (all : List Binding) (tokens : List Text) : List Binding :=
  let mentioned := all.partition fun b => tokens.any (Token.refersTo · b.name)
  closure mentioned.2 mentioned.1

end Binding

namespace Entry

/-- Does the program need this statement when the variables of `live` are? -/
def isNeeded (e : Entry) (pinned : FragmentId) (live : List Binding) : Bool :=
  if e.id = pinned then true
  else if e.declares then
    let names := e.fragment.declaredNames
    live.any fun b => b.owner = e.id && names.contains b.name
  else
    let tokens := e.fragment.tokens
    live.any fun b => b.owner ≤ e.id && tokens.any (Token.refersTo · b.name)

end Entry

namespace Workspace

/-- The declared variables, in order. -/
def bindings (w : Workspace) : List Binding :=
  let tokens := w.entries.map fun e => (e.id, e.fragment.tokens)
  (w.registry.declared .var).filterMap fun (name, owner) =>
    owner.fragment?.map fun id => ⟨name, id, (tokens.lookup id).getD []⟩

/-- The variables that the program needs for the sake of a pinned statement. -/
def liveVariables (w : Workspace) (pinned : FragmentId) : List Binding :=
  Binding.liveFrom w.bindings (((w.fragment? pinned).map Fragment.tokens).getD [])

/-- The statements that the program needs for the sake of a pinned one. -/
def select (w : Workspace) (pinned : FragmentId) : List FragmentId :=
  let live := w.liveVariables pinned
  (w.entries.filter (·.isNeeded pinned live)).map Entry.id

/-- Declare names for a statement, noting the record that each of them had before. -/
def declareNames (id : FragmentId) (names : List Text) (r : Registry) :
    Registry × List (Text × Option Declaration) :=
  names.foldl (fun (r, displaced) name =>
    (r.record .var name (.fragment id), (name, r.get? name) :: displaced)) (r, [])

/-- Store a statement. A declaration only registers its names; any other statement is pinned. -/
def add (w : Workspace) (f : Fragment) : Workspace :=
  let id := w.registry.nextId
  if f.isDeclaration then
    let (registry, displaced) := declareNames id f.declaredNames w.registry.allocate
    { w with
      registry
      entries := ⟨id, f, true, w.pinned, displaced⟩ :: w.entries
      pinned := none
      emission := [] }
  else
    let w := { w with
      registry := w.registry.allocate
      entries := ⟨id, f, false, w.pinned, []⟩ :: w.entries
      pinned := some id }
    { w with
      registry := w.registry.markAll .var ((w.liveVariables id).map Binding.name)
      emission := w.select id }

/-- Take back the statement that was stored last. -/
def rollback (w : Workspace) : Workspace :=
  match w.entries with
  | [] => w
  | e :: entries =>
    let w := { w with
      registry := e.displaced.foldl (fun r (name, previous) => r.restore name previous) w.registry
      entries
      pinned := e.pinnedBefore }
    { w with emission := (w.pinned.map w.select).getD [] }

end Workspace
end GoRepl
