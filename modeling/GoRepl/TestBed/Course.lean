/-! # Test bed: courses

What a process does, as far as others can notice it. A process works on a state that it shares with
others. It comes to its end, or never does, or pauses until the state or the time lets it go on; and
it can start another process, which goes on beside it. Between two pauses nothing else happens. -/

namespace GoRepl

inductive Course (σ : Type) : Type → Type 1 where
  | done {α : Type} (a : α) (s : σ) : Course σ α
  /-- The process goes on for ever and nothing comes of it. -/
  | lost {α : Type} (s : σ) : Course σ α
  /-- The process waits; `ready` tells from when on it may go on, as far as that is certain. -/
  | pause {α : Type} (ready : σ → Option Int) (s : σ) (next : σ → Course σ α) : Course σ α
  /-- Another process is to begin at a time. -/
  | spawn {α : Type} (start : Int) (child : σ → Course σ Unit) (s : σ) (next : σ → Course σ α) :
      Course σ α

namespace Course

variable {σ α β : Type}

/-- One course after another. -/
def bind : Course σ α → (α → σ → Course σ β) → Course σ β
  | done a s, f => f a s
  | lost s, _ => lost s
  | pause ready s next, f => pause ready s fun s => (next s).bind f
  | spawn start child s next, f => spawn start child s fun s => (next s).bind f

/-- Something else in place of a course that never ends. -/
def recover (f : σ → Course σ α) : Course σ α → Course σ α
  | done a s => done a s
  | lost s => f s
  | pause ready s next => pause ready s fun s => (next s).recover f
  | spawn start child s next => spawn start child s fun s => (next s).recover f

def earlier : Option Int → Option Int → Option Int
  | some a, some b => some (min a b)
  | a, b => a <|> b

/-- A course that may be broken off: `stop` tells when and with what, as far as that is certain.
Where nobody could do that any more, a course that never ends is left to itself. -/
def breakable (clock : σ → Int) (isAlone : σ → Bool) (stop : σ → Option (Int × β)) :
    Course σ α → Course σ (Except β α)
  | done a s => done (.ok a) s
  | lost s =>
    if isAlone s then lost s
    else pause (fun s => (stop s).map Prod.fst) s fun s =>
      match stop s with
      | some (_, b) => done (.error b) s
      | none => lost s
  | pause ready s next =>
    pause (fun s => earlier ((stop s).map Prod.fst) (ready s)) s fun s =>
      match (stop s).filter (·.1 ≤ clock s) with
      | some (_, b) => done (.error b) s
      | none => breakable clock isAlone stop (next s)
  | spawn start child s next => spawn start child s fun s => breakable clock isAlone stop (next s)

/-- The law of a course that ends at once. -/
theorem bind_done (a : α) (s : σ) (f : α → σ → Course σ β) : (done a s).bind f = f a s := rfl

theorem bind_assoc {γ : Type} (c : Course σ α) (f : α → σ → Course σ β) (g : β → σ → Course σ γ) :
    (c.bind f).bind g = c.bind fun a s => (f a s).bind g := by
  induction c with
  | done a s => rfl
  | lost s => rfl
  | pause ready s next ih => exact congrArg (pause ready s) (funext fun s => ih s f)
  | spawn start child s next _ ih => exact congrArg (spawn start child s) (funext fun s => ih s f)

end Course

/-- A process that waits. -/
structure Task (σ : Type) where
  ready : σ → Option Int
  next : σ → Course σ Unit

namespace Course

variable {σ α : Type}

/-- Let a process go on to its next pause: when it may go on from there and how, if it is not over,
and the processes that it started, latest first. -/
def settle : Course σ α → List (Task σ) →
    Option ((σ → Option Int) × (σ → Course σ α)) × List (Task σ) × σ
  | done _ s, started => (none, started, s)
  | lost s, started => (none, started, s)
  | pause ready s next, started => (some (ready, next), started, s)
  | spawn start child s next, started => settle (next s) (⟨fun _ => some start, child⟩ :: started)

end Course

namespace Task

variable {σ : Type}

/-- The task that may go on first, with that time, and the others. Of several the first one in the
list is taken. -/
def first? (s : σ) : List (Task σ) → Option (Int × Task σ × List (Task σ))
  | [] => none
  | t :: ts =>
    match t.ready s, first? s ts with
    | some time, some (time', t', ts') =>
      if time' < time then some (time', t', t :: ts') else some (time, t, ts)
    | some time, none => some (time, t, ts)
    | none, some (time', t', ts') => some (time', t', t :: ts')
    | none, none => none

/-- Let processes go on in the order of time, before a deadline and until the state shows that this
is enough. Those that still wait then are left. -/
def run (setClock : Int → σ → σ) (deadline : Int) (enough : σ → Bool) : (fuel : Nat) →
    List (Task σ) → σ → List (Task σ) × σ
  | 0, ts, s => (ts, s)
  | fuel + 1, ts, s =>
    if enough s then (ts, s)
    else match first? s ts with
      | none => (ts, s)
      | some (time, t, ts') =>
        if deadline ≤ time then (ts, s)
        else
          let (left, started, s) := (t.next (setClock time s)).settle []
          let left := left.toList.map fun (ready, next) => ⟨ready, next⟩
          run setClock deadline enough fuel (ts' ++ left ++ started.reverse) s

end Task
end GoRepl
