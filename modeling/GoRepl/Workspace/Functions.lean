import GoRepl.Workspace.Basic

/-! # Functions

The declared functions, and those among them that the program calls, directly or through the bodies
of others. -/

namespace GoRepl.Workspace

/-- Store a function, in place of any function of the same name, and mark live the others that its
body refers to. A fragment without a function's name is refused. -/
def declareFunction? (w : Workspace) (f : Fragment) : Option (Text × Workspace) :=
  f.functionName?.map fun name =>
    let id := w.registry.nextId
    let replaced := (w.registry.owner? .func name).bind Owner.fragment?
    let bodies := match replaced with
      | some old => w.bodies.erase old
      | none => w.bodies
    let registry := w.registry.allocate.record .func name (.fragment id)
    let tokens := f.tokens
    let callees := (registry.names .func).filter fun n =>
      n ≠ name && tokens.any (Token.refersTo · n)
    (name, { w with registry := registry.markAll .func callees, bodies := bodies.put id f })

def functionNames (w : Workspace) : List Text := w.registry.names .func

/-- The body of a function as it is declared now. -/
def body? (bodies : Ledger FragmentId Fragment) (r : Registry) (name : Text) : Option Fragment :=
  ((r.owner? .func name).bind Owner.fragment?).bind bodies.get?

/-- The bodies of the live functions, in declaration order. -/
def liveBodies (w : Workspace) : List Fragment :=
  ((w.registry.names .func).filter (w.registry.isLive .func)).filterMap (body? w.bodies w.registry)

/-- The functions that have no mark yet. -/
def unmarked (r : Registry) : List Text :=
  (r.names .func).filter (r.isMarkable .func)

/-- The functions that the pending fragments reach of those not yet seen, in the order in which they
are found. What a fragment refers to is found at once; the bodies of that become pending, the last
one first. -/
def reached (body? : Text → Option Fragment) (unseen : List Text) :
    (pending : List Fragment) → List Text
  | [] => []
  | f :: pending =>
    let tokens := f.tokens
    let found := unseen.partition fun name => tokens.any (Token.refersTo · name)
    found.1 ++ reached body? found.2 ((found.1.filterMap body?).reverse ++ pending)
termination_by pending => 2 * unseen.length + pending.length
decreasing_by
  have := length_partition (fun name => tokens.any (Token.refersTo · name)) unseen
  have := List.length_filterMap_le body? found.1
  simp only [List.length_append, List.length_cons, List.length_reverse, found, tokens] at *
  omega

/-- Mark live every function that the given fragments, or the bodies of live functions, reach. -/
def scanFunctions (users : List Fragment) (w : Workspace) : Workspace :=
  let names := reached (body? w.bodies w.registry) (unmarked w.registry)
    (users ++ w.liveBodies).reverse
  { w with registry := w.registry.markAll .func names }

/-- The function block of the program: live bodies with an empty line between any two. -/
def functionBlock (w : Workspace) : Text :=
  List.intercalate ['\n', '\n'] (w.liveBodies.map (·.render 0))

end GoRepl.Workspace
