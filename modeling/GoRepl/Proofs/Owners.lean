import GoRepl.Proofs.Definitions
import GoRepl.Proofs.Runs

/-!
# Owners

Each record of a variable or a function points at something that is there: at a statement of the
history that declares the variable, at a stored body that declares the function
(`owners_present`).

For functions this is a matter of the records that wait to be restored.  The records that a name has
had form a stack, the one in force on top (`Workspace.trail`): storing a declaration pushes a
record, taking it back pops one, and all other operations exchange the top at most.  Only when a
function takes the place of a function is a body removed, and then it is the body of the top.  No
record further down needs it, for a function's record stands once in the stack and its body declares
no other name (`Workspace.Embodied`).
-/

namespace GoRepl.Workspace

/-! ## The trail of a name -/

/-- The record of a name, and below it those that taking statements back would restore. -/
def trail (w : Workspace) (name : Text) : List (Option Declaration) :=
  w.registry.get? name :: w.entries.filterMap (·.before? name)

theorem recorded_iff {w : Workspace} {name : Text} {d : Declaration} :
    w.Recorded name d ↔ some d ∈ w.trail name := by
  unfold Recorded trail
  rw [List.mem_cons, List.mem_filterMap, eq_comm]

theorem trail_add (w : Workspace) (f : Fragment) (name : Text) :
    (w.add f).trail name =
      if f.isDeclaration ∧ name ∈ f.declaredNames then
        some ⟨.var, .fragment w.registry.nextId⟩ :: w.trail name
      else w.trail name := by
  unfold trail
  rw [entries_add, List.filterMap_cons, before?_add_eq, get?_add]
  split <;> rfl

theorem trail_rollback {w : Workspace} {e : Entry} {es : List Entry} (h : w.entries = e :: es)
    (name : Text) :
    w.rollback.trail name =
      if (e.before? name).isSome then (w.trail name).tail else w.trail name := by
  unfold trail
  rw [get?_rollback h, entries_rollback h, h, List.filterMap_cons]
  cases e.before? name <;> rfl

/-- The other operations leave all but the top of the trail alone. -/
theorem Hides.trail {v w : Workspace} (h : v.Hides w) (name : Text) :
    w.trail name = w.registry.get? name :: (v.trail name).tail := by
  unfold Workspace.trail
  rw [h.entries]
  rfl

/-! ## The bodies of functions -/

/-- The records of functions point at stored bodies, and none of them stands twice in the trail of
a name. -/
structure Embodied (w : Workspace) : Prop where
  stored : ∀ n owner, some ⟨.func, owner⟩ ∈ w.trail n →
    ∃ id f, owner = .fragment id ∧ w.bodies.get? id = some f
  once : ∀ n, (w.trail n).Pairwise fun a b ↦ ∀ owner, a = some ⟨.func, owner⟩ → b ≠ a

namespace Embodied

variable {v w : Workspace}

/-- Records may be dropped from a trail, and any record but a function's may be put on top. -/
theorem of_trail (hv : v.Embodied) (hbodies : w.bodies = v.bodies)
    (h : ∀ n, (w.trail n).Sublist (v.trail n) ∨ ∃ top rest, w.trail n = top :: rest ∧
      (∀ owner, top ≠ some ⟨.func, owner⟩) ∧ rest.Sublist (v.trail n)) : w.Embodied where
  stored := by
    intro n owner hn
    rw [hbodies]
    rcases h n with hsub | ⟨top, rest, htrail, htop, hsub⟩
    · exact hv.stored n owner (hsub.subset hn)
    · rw [htrail] at hn
      rcases List.mem_cons.mp hn with hn | hn
      · exact absurd hn.symm (htop owner)
      · exact hv.stored n owner (hsub.subset hn)
  once := by
    intro n
    rcases h n with hsub | ⟨top, rest, htrail, htop, hsub⟩
    · exact (hv.once n).sublist hsub
    · rw [htrail]
      refine List.pairwise_cons.mpr ⟨?_, (hv.once n).sublist hsub⟩
      intro b _ owner ho
      exact absurd ho (htop owner)

theorem add (hw : w.Embodied) (f : Fragment) : (w.add f).Embodied := by
  refine hw.of_trail (bodies_add w f) fun n ↦ ?_
  rw [trail_add]
  split
  · exact .inr ⟨_, _, rfl, by simp, .refl _⟩
  · exact .inl (.refl _)

theorem rollback (hw : w.Embodied) : w.rollback.Embodied := by
  cases hes : w.entries with
  | nil => rwa [rollback_nil hes]
  | cons e es =>
    refine hw.of_trail (bodies_rollback w) fun n ↦ .inl ?_
    rw [trail_rollback hes]
    split
    · exact List.tail_sublist _
    · exact .refl _

/-- The top of a trail may be exchanged for a record that is no function's. -/
theorem of_hides (hv : v.Embodied) (h : v.Hides w) (hbodies : w.bodies = v.bodies)
    (hget : ∀ n owner, w.registry.get? n = some ⟨.func, owner⟩ →
      v.registry.get? n = some ⟨.func, owner⟩) : w.Embodied := by
  refine hv.of_trail hbodies fun n ↦ ?_
  rw [h.trail]
  by_cases hfunc : ∃ owner, w.registry.get? n = some ⟨.func, owner⟩
  · obtain ⟨owner, ho⟩ := hfunc
    left
    rw [ho, ← hget n owner ho]
    exact .refl _
  · right
    exact ⟨_, _, rfl, fun owner ho ↦ hfunc ⟨owner, ho⟩, List.tail_sublist _⟩

/-- The body that a function's declaration removes is that of the record which it replaces, so the
bodies of all other records stay. -/
theorem declareFunction {f : Fragment} {name : Text} (hv : v.Embodied) (hnamed : v.Named)
    (h : v.declareFunction? f = some (name, w)) : w.Embodied := by
  obtain ⟨-, -, hget, -⟩ := declareFunction?_spec h
  have htrail := (hides_declareFunction h).trail
  have hkept : ∀ n owner, some ⟨.func, owner⟩ ∈ v.trail n →
      (name = n → some ⟨.func, owner⟩ ∈ (v.trail n).tail) →
      ∃ id g, owner = .fragment id ∧ w.bodies.get? id = some g := by
    intro n owner hn htail
    obtain ⟨id, g, rfl, hg⟩ := hv.stored n owner hn
    have hrec : v.Recorded n ⟨.func, .fragment id⟩ := recorded_iff.mpr hn
    refine ⟨id, g, rfl, ?_⟩
    rw [bodies_declareFunction? h, if_neg (Nat.ne_of_gt (hnamed.bounded n id hrec)), if_neg, hg]
    intro hold
    have htop := Registry.owner?_eq_some.mp hold
    -- the body declares one name only, so the record would be the replaced one itself
    have hsame : name = n := Option.some.inj <|
      (hnamed.named name id g (.inl htop) hg).symm.trans (hnamed.named n id g hrec hg)
    subst hsame
    exact List.rel_of_pairwise_cons (hv.once name) (htail rfl) _ htop htop.symm
  constructor
  · intro n owner hn
    rw [htrail, hget] at hn
    by_cases hname : name = n
    · rw [if_pos hname] at hn
      rcases List.mem_cons.mp hn with hn | hn
      · obtain rfl : owner = .fragment v.registry.nextId := by simpa using hn
        exact ⟨_, f, rfl, (bodies_declareFunction? h _).trans (if_pos rfl)⟩
      · exact hkept n owner (List.mem_of_mem_tail hn) fun _ ↦ hn
    · rw [if_neg hname] at hn
      exact hkept n owner hn fun h ↦ absurd h hname
  · intro n
    rw [htrail, hget]
    by_cases hname : name = n
    · rw [if_pos hname]
      refine List.pairwise_cons.mpr ⟨?_, (hv.once n).sublist (List.tail_sublist _)⟩
      rintro b hb owner ho rfl
      have hrec : v.Recorded n ⟨.func, .fragment v.registry.nextId⟩ :=
        recorded_iff.mpr (List.mem_of_mem_tail hb)
      exact absurd (hnamed.bounded n _ hrec) (Nat.lt_irrefl _)
    · rw [if_neg hname]
      exact hv.once n

end Embodied

theorem Reachable.embodied {w : Workspace} (hw : Reachable w) : w.Embodied := by
  induction hw with
  | empty =>
    constructor
    · intro n owner hn
      simp [trail, Registry.get?] at hn
    · intro n
      simp [trail]
  | add f _ ih => exact ih.add f
  | rollback _ ih => exact ih.rollback
  | declareFunction hw h ih => exact ih.declareFunction hw.named h
  | declareImport spec _ ih =>
    exact ih.of_hides (hides_declareImport _ spec) rfl fun _ _ h ↦
      (get?_declareImport h).resolve_left (by simp)
  | scanFunctions users _ ih =>
    exact ih.of_hides (hides_scanFunctions _ users) rfl fun _ _ h ↦ by
      simpa [Workspace.scanFunctions] using h
  | scanImports users _ ih =>
    exact ih.of_hides (hides_scanImports _ users) rfl fun _ _ h ↦ by
      simpa [Workspace.scanImports] using h
  | resetLiveness _ ih => exact ih.of_hides (hides_resetLiveness _) rfl fun _ _ h ↦ h

/-! ## Looking owners up -/

theorem Stacked.declares_eq {es : List Entry} (h : Stacked es) {e : Entry} (he : e ∈ es) :
    e.declares = e.fragment.isDeclaration := by
  induction h with
  | nil => cases he
  | cons _ declares _ _ _ _ _ ih =>
    rcases List.mem_cons.mp he with rfl | he
    · exact declares
    · exact ih he

section Lookup

variable {w : Workspace} (hw : w.Reachable)

include hw

/-- The body of each function is found, and declares the name under which it is found. -/
theorem Reachable.exists_body {n : Text} {owner : Owner}
    (h : w.registry.get? n = some ⟨.func, owner⟩) :
    ∃ id f, owner = .fragment id ∧ w.bodies.get? id = some f ∧ f.functionName? = some n := by
  have hrec : w.Recorded n ⟨.func, owner⟩ := .inl h
  obtain ⟨id, f, rfl, hf⟩ := hw.embodied.stored n owner (recorded_iff.mp hrec)
  exact ⟨id, f, rfl, hf, hw.named.named n id f hrec hf⟩

theorem Reachable.map_name_bindings : w.bindings.map Binding.name = w.registry.names .var :=
  hw.wellFormed.grounded.map_name_bindings

/-- Each live function has its body among the live ones. -/
theorem Reachable.map_functionName?_liveBodies :
    w.liveBodies.map Fragment.functionName? =
      ((w.registry.names .func).filter (w.registry.isLive .func)).map some := by
  unfold liveBodies
  rw [List.map_filterMap, ← List.filterMap_eq_map]
  refine List.filterMap_congr fun n hn ↦ ?_
  obtain ⟨owner, ho⟩ := Registry.mem_names.mp (List.mem_filter.mp hn).1
  obtain ⟨id, f, rfl, hf, hname⟩ := hw.exists_body ho
  unfold body?
  rw [Registry.owner?_eq_some.mpr ho]
  simp [Owner.fragment?, hf, hname]

end Lookup

/-- In every order of storing statements, taking them back and declaring functions and packages,
statements are numbered upwards, each variable is owned by a declaration in the history that
declares it, and each function by a stored body that declares it.  So the statement that a variable
brings in is always found, and the body of a live function is never missing. -/
theorem owners_present {w : Workspace} (hw : w.Reachable) :
    (w.entries.reverse.map Entry.id).Pairwise (· < ·) ∧
    (∀ n owner, w.registry.get? n = some ⟨.var, owner⟩ →
      ∃ e ∈ w.entries, owner = .fragment e.id ∧ e.declares = true ∧
        e.fragment.isDeclaration = true ∧ n ∈ e.fragment.declaredNames) ∧
    (∀ n owner, w.registry.get? n = some ⟨.func, owner⟩ →
      ∃ id f, owner = .fragment id ∧ w.bodies.get? id = some f ∧ f.functionName? = some n) ∧
    w.bindings.map Binding.name = w.registry.names .var ∧
    (∀ b ∈ w.bindings, ∃ f, w.fragment? b.owner = some f ∧ f.isDeclaration = true ∧
      b.name ∈ f.declaredNames ∧ b.tokens = f.tokens) ∧
    w.liveBodies.map Fragment.functionName? =
      ((w.registry.names .func).filter (w.registry.isLive .func)).map some := by
  have hwf := hw.wellFormed
  refine ⟨?_, ?_, fun _ _ ↦ hw.exists_body, hw.map_name_bindings, ?_,
    hw.map_functionName?_liveBodies⟩
  · rw [List.map_reverse, List.pairwise_reverse]
    exact hwf.stacked.pairwise_id
  · intro n owner ho
    obtain ⟨e, he, hown, hdecl, hn⟩ := hwf.owned n owner ho
    exact ⟨e, he, hown, hdecl, hwf.stacked.declares_eq he ▸ hdecl, hn⟩
  · intro b hb
    obtain ⟨n, e, he, rfl⟩ := (mem_bindings hwf).mp hb
    obtain ⟨hdecl, hn⟩ := he.declares hwf
    exact ⟨e.fragment, fragment?_eq hwf he.1, hwf.stacked.declares_eq he.1 ▸ hdecl, hn, rfl⟩

/-- A variable shadows a function; while it does, the function is declared anew twice, which removes
a body, and a package takes the name.  Then the variable is taken back. -/
theorem owners_present_restored :
    let define (w : Workspace) (line : String) : Workspace :=
      ((w.declareFunction? (.ofLine line.toList)).map Prod.snd).getD w
    let shadowed := (define {} "func f() 1").add (.ofLine "f, a := 2, 3".toList)
    let replaced := (define (define shadowed "func f() 4") "func f() 5").declareImport
      ⟨some ['f'], "os".toList⟩
    let w := replaced.rollback
    w.Reachable ∧ w.registry.get? ['f'] = some ⟨.func, .fragment 0⟩ ∧
      replaced.bodies.keys = [0, 3] ∧
      ∃ id f, Owner.fragment 0 = .fragment id ∧ w.bodies.get? id = some f ∧
        f.functionName? = some ['f'] := by
  intro define shadowed replaced w
  have hdefine : ∀ {w : Workspace} (line : String), w.Reachable → (define w line).Reachable := by
    intro w line hw
    change (((w.declareFunction? (.ofLine line.toList)).map Prod.snd).getD w).Reachable
    cases h : w.declareFunction? (.ofLine line.toList) with
    | none => exact hw
    | some declared => exact hw.declareFunction h
  have hw : w.Reachable :=
    ((hdefine _ (hdefine _ ((hdefine _ .empty).add _))).declareImport _).rollback
  have hf : w.registry.get? ['f'] = some ⟨.func, .fragment 0⟩ := by decide +kernel
  exact ⟨hw, hf, by decide +kernel, (owners_present hw).2.2.1 _ _ hf⟩

end GoRepl.Workspace
