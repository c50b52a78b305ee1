import GoRepl.Ledger
import GoRepl.Text.Basic

/-! # The registry

All declared names, and the names found live since liveness was last reset. Variables, packages
and functions share one namespace: declaring `func a` after `a := 1` replaces the record of `a`. -/

namespace GoRepl

/-- Fragments are numbered in the order in which they are stored. -/
abbrev FragmentId := Nat

inductive Kind where
  | var
  | package
  | func
deriving DecidableEq, Repr

/-- What a declaration points at: a stored fragment, or a text such as a rendered import. -/
inductive Owner where
  | fragment (id : FragmentId)
  | text (t : Text)
deriving DecidableEq, Repr

def Owner.fragment? : Owner → Option FragmentId
  | .fragment id => some id
  | .text _ => none

structure Declaration where
  kind : Kind
  owner : Owner
deriving DecidableEq, Repr

structure Registry where
  declarations : Ledger Text Declaration := .empty
  /-- The live names with the kind as which they were marked, in the order of marking. -/
  live : Ledger Text Kind := .empty
  nextId : FragmentId := 0
deriving DecidableEq

namespace Registry

def get? (r : Registry) (name : Text) : Option Declaration := r.declarations.get? name

/-- The owner of a name that is declared as `kind`. -/
def owner? (r : Registry) (kind : Kind) (name : Text) : Option Owner :=
  ((r.get? name).filter (·.kind = kind)).map Declaration.owner

/-- The declarations of a kind, in order. -/
def declared (r : Registry) (kind : Kind) : List (Text × Owner) :=
  (r.declarations.entries.filter (·.2.kind = kind)).map fun e => (e.1, e.2.owner)

def names (r : Registry) (kind : Kind) : List Text := (r.declared kind).map Prod.fst

def count (r : Registry) (kind : Kind) : Nat := (r.declared kind).length

def isLive (r : Registry) (kind : Kind) (name : Text) : Bool := r.live.get? name = some kind

/-- The live names of a kind, in the order of marking. -/
def liveNames (r : Registry) (kind : Kind) : List Text :=
  (r.live.entries.filter (·.2 = kind)).map Prod.fst

def hasLive (r : Registry) : Bool := !r.live.entries.isEmpty

/-- The registry after the next fragment has been numbered `r.nextId`. -/
def allocate (r : Registry) : Registry := { r with nextId := r.nextId + 1 }

/-- Forget the mark of a name. -/
def unmark (r : Registry) (name : Text) : Registry := { r with live := r.live.erase name }

/-- Declare a name. A record that is replaced keeps its place, and the name loses its mark if the
kind changes. -/
def record (r : Registry) (kind : Kind) (name : Text) (owner : Owner) : Registry :=
  let replaced := { r with declarations := r.declarations.put name ⟨kind, owner⟩ }
  match r.get? name with
  | some previous => if previous.kind = kind then replaced else replaced.unmark name
  | none => replaced

/-- Put back the record that a name had before, or forget the name if it had none. -/
def restore (r : Registry) (name : Text) : (previous : Option Declaration) → Registry
  | some d => { r with declarations := r.declarations.put name d }
  | none => { r with declarations := r.declarations.erase name }.unmark name

/-- The names declared as `kind` by a fragment. -/
def ownedBy (r : Registry) (kind : Kind) (id : FragmentId) : List Text :=
  ((r.declared kind).filter (·.2 = .fragment id)).map Prod.fst

def forget (r : Registry) (names : List Text) : Registry :=
  names.foldl (fun r name => r.restore name none) r

/-- May a name be marked live as `kind`? It is declared as such and has no mark yet. -/
def isMarkable (r : Registry) (kind : Kind) (name : Text) : Bool :=
  (r.owner? kind name).isSome && !r.live.contains name

def markLive (r : Registry) (kind : Kind) (name : Text) : Registry :=
  if r.isMarkable kind name then { r with live := r.live.put name kind } else r

def markAll (r : Registry) (kind : Kind) (names : List Text) : Registry :=
  names.foldl (fun r name => r.markLive kind name) r

/-- Forget what is live. Declarations stay. -/
def resetLiveness (r : Registry) : Registry := { r with live := .empty }

@[simp] theorem declarations_allocate (r : Registry) :
    r.allocate.declarations = r.declarations := rfl

@[simp] theorem declarations_unmark (r : Registry) (name : Text) :
    (r.unmark name).declarations = r.declarations := rfl

@[simp] theorem declarations_resetLiveness (r : Registry) :
    r.resetLiveness.declarations = r.declarations := rfl

@[simp] theorem declarations_markLive (r : Registry) (kind : Kind) (name : Text) :
    (r.markLive kind name).declarations = r.declarations := by
  unfold markLive
  split <;> rfl

@[simp] theorem declarations_record (r : Registry) (kind : Kind) (name : Text) (owner : Owner) :
    (r.record kind name owner).declarations = r.declarations.put name ⟨kind, owner⟩ := by
  unfold record
  split
  · split <;> rfl
  · rfl

theorem get?_record (r : Registry) (kind : Kind) (name name' : Text) (owner : Owner) :
    (r.record kind name owner).get? name' =
      if name = name' then some ⟨kind, owner⟩ else r.get? name' := by
  simp [get?, Ledger.get?_put]

@[simp] theorem declarations_markAll (r : Registry) (kind : Kind) (names : List Text) :
    (r.markAll kind names).declarations = r.declarations := by
  induction names generalizing r with
  | nil => rfl
  | cons n names ih => exact (ih (r.markLive kind n)).trans (declarations_markLive ..)

theorem declared_congr {r s : Registry} (h : r.declarations = s.declarations) (kind : Kind) :
    r.declared kind = s.declared kind := by
  simp [declared, h]

theorem owner?_congr {r s : Registry} (h : r.declarations = s.declarations) (kind : Kind)
    (name : Text) : r.owner? kind name = s.owner? kind name := by
  simp [owner?, get?, h]

theorem isMarkable_markLive (r : Registry) (kind kind' : Kind) (n m : Text) :
    (r.markLive kind n).isMarkable kind' m =
      (r.isMarkable kind' m && !(r.isMarkable kind n && decide (n = m))) := by
  by_cases h : r.isMarkable kind n
  · have hm : r.markLive kind n = { r with live := r.live.put n kind } := if_pos h
    rw [h, hm]
    simp only [isMarkable, owner?, get?, Ledger.contains_put]
    cases ((r.declarations.get? m).filter (·.kind = kind')).map Declaration.owner <;> simp
  · have hm : r.markLive kind n = r := if_neg h
    simp [hm, h]

theorem isMarkable_of_markAll {r : Registry} {kind kind' : Kind} {names : List Text} {m : Text}
    (h : (r.markAll kind names).isMarkable kind' m = true) : r.isMarkable kind' m = true := by
  induction names generalizing r with
  | nil => exact h
  | cons n names ih =>
    have := ih (r := r.markLive kind n) h
    rw [isMarkable_markLive, Bool.and_eq_true] at this
    exact this.1

theorem isMarkable_markAll_of_mem {r : Registry} {kind : Kind} {names : List Text} {m : Text}
    (h : m ∈ names) : (r.markAll kind names).isMarkable kind m = false := by
  induction names generalizing r with
  | nil => simp at h
  | cons n names ih =>
    rcases List.mem_cons.mp h with rfl | h
    · refine Bool.eq_false_iff.mpr fun hm => ?_
      have hm := isMarkable_of_markAll (r := r.markLive kind m) hm
      rw [isMarkable_markLive] at hm
      cases hr : r.isMarkable kind m <;> simp [hr] at hm
    · exact ih (r := r.markLive kind n) h

@[simp] theorem hasLive_resetLiveness (r : Registry) : r.resetLiveness.hasLive = false := rfl

end Registry
end GoRepl
