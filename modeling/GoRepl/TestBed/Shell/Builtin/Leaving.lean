import GoRepl.TestBed.Shell.Builtin.Signals

/-! # Test bed: commands that leave something

Commands of a shell by which loops, functions and the shell itself are left. -/

namespace GoRepl.Machine.Shell.Builtin

/-- The number in an argument, for the plain shell. -/
def plainNumber (name t : Text) : Run Nat := do
  match (natural? t).filter (· < Nat.pow 2 31) with
  | some n => return n
  | none => fatalAs name ("Illegal number: ".toList ++ t)

/-- Leave something with a status, which an argument may give. A wrong one gives the status 2. -/
def leaveWith (name : Text) (args : List Text) (jump : Jump) : Run Unit := do
  let s ← get
  match s.isExtended, if s.isExtended && args.head? = some ['-', '-'] then args.tail else args with
  | _, [] => throw jump
  | false, t :: _ =>
    setStatus (← plainNumber name t)
    throw jump
  | true, t :: rest =>
    match Brace.integer? t with
    | none =>
      complainAs name (t ++ ": numeric argument required".toList) 2
      throw jump
    | some n =>
      if rest.isEmpty then
        setStatus (n % 256).toNat
        throw jump
      else
        complainAs name "too many arguments".toList 1
        throw .giveUp

def exit : Builtin := fun name args => leaveWith name args .exit

def «return» : Builtin := fun name args => do
  let s ← get
  if s.isExtended && s.locals.isNone && s.sources.isEmpty then
    complainAs name "can only `return' from a function or sourced script".toList 2
  else leaveWith name args .leaveFunction

/-- Leave loops, or a round of them; an argument tells how many loops are meant. -/
def leaveLoops (jump : Nat → Jump) : Builtin := fun name args => do
  let s ← get
  if s.isExtended then
    if s.loops = 0 then
      complainAs name "only meaningful in a `for', `while', or `until' loop".toList 0
    else match args with
      | [] =>
        setStatus 0
        throw (jump 1)
      | t :: rest =>
        match Brace.integer? t with
        | none =>
          complainAs name (t ++ ": numeric argument required".toList) 128
          throw .exit
        | some n =>
          if !rest.isEmpty then
            complainAs name "too many arguments".toList 1
            throw .giveUp
          else if n ≤ 0 then
            complainAs name (t ++ ": loop count out of range".toList) 1
            throw (.leaveLoops s.loops)
          else
            setStatus 0
            throw (jump (min n.toNat s.loops))
  else
    let n ← match args with
      | [] => pure 1
      | t :: _ => plainNumber name t
    if n = 0 then fatalAs name ("Illegal number: ".toList ++ args.headD [])
    setStatus 0
    if s.loops ≠ 0 then throw (jump (min n s.loops))

end GoRepl.Machine.Shell.Builtin
