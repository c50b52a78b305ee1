import GoRepl.Proofs.Selection
import GoRepl.Proofs.Turn

/-!
# Definitions in a program

Where a program defines names: in the declarations among its statements, in its functions and in its
imports.  The registry holds one record for each name, so a name has at most one place that its
record points at (`Holds.unique`).  For functions this takes an invariant, that a body is stored
under the name it declares, and it has to cover the records that taking statements back would
restore (`Named`).

A place that is in the program without holding all of its names is a declaration of several names of
which some have been declared again.  It is there for the sake of another name that it still owns,
and with it come its outdated definitions (`second_definition`, `outdated_definition`).
-/

namespace GoRepl

namespace Workspace

/-! ## The names of functions -/

/-- The record is that of the name, or becomes so again when a statement is taken back. -/
def Recorded (w : Workspace) (name : Text) (d : Declaration) : Prop :=
  w.registry.get? name = some d ∨ ∃ e ∈ w.entries, e.before? name = some (some d)

/-- The records of functions point at bodies that declare a function of the recorded name. -/
structure Named (w : Workspace) : Prop where
  bounded : ∀ n id, w.Recorded n ⟨.func, .fragment id⟩ → id < w.registry.nextId
  named : ∀ n id f, w.Recorded n ⟨.func, .fragment id⟩ → w.bodies.get? id = some f →
    f.functionName? = some n

/-- Where no body is stored and no function is recorded anew, all stays named. -/
theorem Named.of_recorded {v w : Workspace} (hv : v.Named)
    (hid : v.registry.nextId ≤ w.registry.nextId) (hbodies : w.bodies = v.bodies)
    (h : ∀ n id, w.Recorded n ⟨.func, .fragment id⟩ → v.Recorded n ⟨.func, .fragment id⟩) :
    w.Named where
  bounded := fun n id hn ↦ Nat.lt_of_lt_of_le (hv.bounded n id (h n id hn)) hid
  named := fun n id f hn hf ↦ hv.named n id f (h n id hn) (hbodies ▸ hf)

/-- Records are the same if the present ones and the history are. -/
theorem Recorded.of_get? {v w : Workspace} {n : Text} {d : Declaration} (hn : w.Recorded n d)
    (hes : w.entries = v.entries)
    (hget : w.registry.get? n = some d → v.registry.get? n = some d) : v.Recorded n d := by
  rcases hn with hn | ⟨e, he, hn⟩
  · exact .inl (hget hn)
  · exact .inr ⟨e, hes ▸ he, hn⟩

theorem Named.add {w : Workspace} (hw : w.Named) (f : Fragment) : (w.add f).Named := by
  have hbodies : (w.add f).bodies = w.bodies := by
    unfold Workspace.add
    cases f.isDeclaration <;> rfl
  refine hw.of_recorded (by simp) hbodies fun n id hn ↦ ?_
  rcases hn with hn | ⟨e, he, hn⟩
  · rw [get?_add] at hn
    split at hn
    · simp at hn
    · exact .inl hn
  · rw [entries_add] at he
    rcases List.mem_cons.mp he with rfl | he
    · exact .inl (before?_add w f n hn).symm
    · exact .inr ⟨e, he, hn⟩

theorem Named.rollback {w : Workspace} (hw : w.Named) : w.rollback.Named := by
  cases hes : w.entries with
  | nil => rwa [rollback_nil hes]
  | cons e es =>
    have hbodies : w.rollback.bodies = w.bodies := by
      unfold Workspace.rollback
      rw [hes]
    refine hw.of_recorded (by simp [registry_rollback hes]) hbodies fun n id hn ↦ ?_
    rcases hn with hn | ⟨d, hd, hn⟩
    · rw [get?_rollback hes] at hn
      cases hb : e.before? n with
      | none => exact .inl (by simpa [hb] using hn)
      | some p =>
        obtain rfl : p = some ⟨.func, .fragment id⟩ := by simpa [hb] using hn
        exact .inr ⟨e, hes ▸ List.mem_cons_self, hb⟩
    · rw [entries_rollback hes] at hd
      exact .inr ⟨d, hes ▸ List.mem_cons_of_mem e hd, hn⟩

theorem specs_declareFunction? {w w' : Workspace} {f : Fragment} {name : Text}
    (h : w.declareFunction? f = some (name, w')) : w'.specs = w.specs := by
  unfold declareFunction? at h
  obtain ⟨m, -, hm⟩ := Option.map_eq_some_iff.mp h
  cases hm
  rfl

/-- A function's body is stored in place of the one that its name had. -/
theorem bodies_declareFunction? {w w' : Workspace} {f : Fragment} {name : Text}
    (h : w.declareFunction? f = some (name, w')) (id : FragmentId) :
    w'.bodies.get? id = if w.registry.nextId = id then some f
      else if w.registry.owner? .func name = some (.fragment id) then none
      else w.bodies.get? id := by
  unfold declareFunction? at h
  obtain ⟨m, -, hm⟩ := Option.map_eq_some_iff.mp h
  cases hm
  simp only [Ledger.get?_put]
  refine ite_congr rfl (fun _ ↦ rfl) fun _ ↦ ?_
  cases w.registry.owner? .func name with
  | none => simp
  | some owner =>
    cases owner with
    | text t => simp [Owner.fragment?]
    | fragment old => simp [Owner.fragment?, Ledger.get?_erase]

/-- What storing a function does to the records and the bodies. -/
theorem declareFunction?_spec {w w' : Workspace} {f : Fragment} {name : Text}
    (h : w.declareFunction? f = some (name, w')) :
    f.functionName? = some name ∧ w'.registry.nextId = w.registry.nextId + 1 ∧
      (∀ n, w'.registry.get? n =
        if name = n then some ⟨.func, .fragment w.registry.nextId⟩ else w.registry.get? n) ∧
      ∀ id g, w'.bodies.get? id = some g →
        if w.registry.nextId = id then f = g else w.bodies.get? id = some g := by
  have hbodies := bodies_declareFunction? h
  unfold declareFunction? at h
  obtain ⟨m, hname, hm⟩ := Option.map_eq_some_iff.mp h
  obtain ⟨rfl, rfl⟩ := Prod.mk.inj hm
  refine ⟨hname, by simp, fun n ↦ ?_, fun id g hg ↦ ?_⟩
  · rw [Registry.get?_markAll, Registry.get?_record, Registry.get?_allocate]
  · rw [hbodies] at hg
    split at hg
    · rename_i hid
      simpa [hid] using hg
    · rename_i hid
      rw [if_neg hid]
      split at hg
      · cases hg
      · exact hg

/-- A new body has a number that no record has, and the only record to get that number is that of
the function's name. -/
theorem Named.declareFunction {w w' : Workspace} {f : Fragment} {name : Text} (hw : w.Named)
    (h : w.declareFunction? f = some (name, w')) : w'.Named := by
  obtain ⟨hname, hid, hget, hbodies⟩ := declareFunction?_spec h
  have hrec : ∀ n id, w'.Recorded n ⟨.func, .fragment id⟩ →
      (name = n ∧ w.registry.nextId = id) ∨ w.Recorded n ⟨.func, .fragment id⟩ := by
    rintro n id (hn | ⟨e, he, hn⟩)
    · rw [hget] at hn
      split at hn
      · rename_i hmn
        exact .inl ⟨hmn, by simpa using hn⟩
      · exact .inr (.inl hn)
    · exact .inr (.inr ⟨e, (hides_declareFunction h).entries ▸ he, hn⟩)
  constructor
  · intro n id hn
    rw [hid]
    rcases hrec n id hn with ⟨-, rfl⟩ | hn
    · exact Nat.lt_succ_self _
    · exact Nat.lt_succ_of_lt (hw.bounded n id hn)
  · intro n id g hn hg
    have hg := hbodies id g hg
    rcases hrec n id hn with ⟨rfl, rfl⟩ | hn
    · obtain rfl : f = g := by simpa using hg
      exact hname
    · rw [if_neg (Nat.ne_of_gt (hw.bounded n id hn))] at hg
      exact hw.named n id g hn hg

/-- Functions stay named when only other records change. -/
theorem Named.of_hides {v w : Workspace} (hv : v.Named) (h : v.Hides w)
    (hbodies : w.bodies = v.bodies)
    (hget : ∀ n id, w.registry.get? n = some ⟨.func, .fragment id⟩ →
      v.registry.get? n = some ⟨.func, .fragment id⟩) : w.Named :=
  hv.of_recorded h.nextId hbodies fun n id hn ↦ hn.of_get? h.entries (hget n id)

theorem Reachable.named {w : Workspace} (hw : Reachable w) : w.Named := by
  induction hw with
  | empty => constructor <;> rintro n id <;> simp [Recorded, Registry.get?]
  | add f _ ih => exact ih.add f
  | rollback _ ih => exact ih.rollback
  | declareFunction _ h ih => exact ih.declareFunction h
  | declareImport spec _ ih =>
    exact ih.of_hides (hides_declareImport _ spec) rfl fun _ _ h ↦
      (get?_declareImport h).resolve_left (by simp)
  | scanFunctions users _ ih =>
    exact ih.of_hides (hides_scanFunctions _ users) rfl fun _ _ h ↦ by
      simpa [Workspace.scanFunctions] using h
  | scanImports users _ ih =>
    exact ih.of_hides (hides_scanImports _ users) rfl fun _ _ h ↦ by
      simpa [Workspace.scanImports] using h
  | resetLiveness _ ih => exact ih.of_hides (hides_resetLiveness _) rfl fun _ _ h ↦ h

/-- A body of the program is stored under the name of its function. -/
theorem exists_record_of_mem_liveBodies {w : Workspace} (hw : w.Named) {g : Fragment}
    (hg : g ∈ w.liveBodies) :
    ∃ n id, w.registry.get? n = some ⟨.func, .fragment id⟩ ∧ w.bodies.get? id = some g ∧
      g.functionName? = some n := by
  obtain ⟨n, -, hn⟩ := List.mem_filterMap.mp hg
  obtain ⟨id, hid, hbody⟩ := Option.bind_eq_some_iff.mp hn
  obtain ⟨owner, howner, hid⟩ := Option.bind_eq_some_iff.mp hid
  have hrec := Registry.owner?_eq_some.mp howner
  cases owner with
  | fragment i =>
    obtain rfl : i = id := by simpa [Owner.fragment?] using hid
    exact ⟨n, i, hrec, hbody, hw.named n i g (.inl hrec) hbody⟩
  | text t => simp [Owner.fragment?] at hid

/-! ## Places of definitions -/

/-- A place of the program where names are defined. -/
inductive Site where
  | declaration (e : Entry)
  | function (body : Fragment)
  | package (name : Text)
deriving DecidableEq

/-- The names that are defined at a place of the program: those of a declaration among its
statements, the name of a function in the function block, and that of a package in the import
block. -/
inductive Defines (w : Workspace) : Site → Text → Prop
  | declaration {e : Entry} {n : Text} : w.Emits e → e.declares = true →
      n ∈ e.fragment.declaredNames → Defines w (.declaration e) n
  | function {g : Fragment} {n : Text} : g ∈ w.liveBodies → g.functionName? = some n →
      Defines w (.function g) n
  | package {n t : Text} : (n, .text t) ∈ w.registry.declared .package →
      w.registry.isLive .package n = true → Defines w (.package n) n

/-- The record of the name points at this place. -/
def Holds (w : Workspace) : Site → Text → Prop
  | .declaration e, n => w.Owns e n
  | .function g, n =>
    ∃ id, w.registry.get? n = some ⟨.func, .fragment id⟩ ∧ w.bodies.get? id = some g
  | .package m, n => m = n ∧ ∃ owner, w.registry.get? n = some ⟨.package, owner⟩

theorem Holds.unique {w : Workspace} (hw : w.WellFormed) {a b : Site} {n : Text}
    (ha : w.Holds a n) (hb : w.Holds b n) : a = b := by
  cases a <;> cases b <;> simp only [Holds] at ha hb
  case declaration.declaration d e => rw [ha.unique hw hb]
  case function.function f g =>
    obtain ⟨i, hi, hf⟩ := ha
    obtain ⟨j, hj, hg⟩ := hb
    obtain rfl : i = j := by simpa using hi.symm.trans hj
    obtain rfl : f = g := by simpa using hf.symm.trans hg
    rfl
  case package.package l m => rw [ha.1, hb.1]
  -- two records of different kinds
  all_goals grind [Owns]

/-- A place that defines a name holds it, unless it is a declaration that has lost the name. -/
theorem Defines.holds {w : Workspace} (hw : w.Named) {a : Site} {n : Text} (h : w.Defines a n) :
    w.Holds a n ∨ ∃ e, a = .declaration e ∧ w.Emits e ∧ e.declares = true ∧ ¬ w.Owns e n := by
  cases h with
  | @declaration e _ hem hdecl hn =>
    by_cases hown : w.Owns e n
    · exact .inl hown
    · exact .inr ⟨e, rfl, hem, hdecl, hown⟩
  | function hg hname =>
    obtain ⟨m, id, hrec, hbody, hm⟩ := exists_record_of_mem_liveBodies hw hg
    obtain rfl : n = m := Option.some.inj (hname.symm.trans hm)
    exact .inl ⟨id, hrec, hbody⟩
  | package hn _ => exact .inl ⟨rfl, _, Registry.mem_declared.mp hn⟩

/-! ## Two definitions of one name -/

theorem IsCurrent.scan {w : Workspace} (h : w.IsCurrent) : w.scan.IsCurrent := by
  have hd : w.scan.demanded = w.demanded :=
    demanded_congr (hides_scan w).entries (hides_scan w).pinned (declarations_scan w)
  exact ((hides_scan w).emission.trans h).trans hd.symm

/-- In the program of a use, a declaration that has lost a name owns another one which the use
depends on. -/
theorem exists_owned_of_emits {w : Workspace} (hw : w.WellFormed) (hc : w.IsCurrent)
    {f : Fragment} (hf : w.pinnedFragment? = some f) {e : Entry} (he : w.Emits e)
    (hdecl : e.declares = true) {n : Text} (hn : ¬ w.Owns e n) :
    ∃ m ∈ e.fragment.declaredNames, m ≠ n ∧ w.Owns e m ∧ w.DependsOn f m := by
  obtain ⟨p, hp, hpin, rfl, hpd⟩ := hw.pinnedEntry hf
  obtain ⟨m, hm, hdep⟩ := ((emits_iff hw hc hp hpin).mp he).2.of_declares hpd hdecl
  refine ⟨m, (hm.declares hw).2, ?_, hm, hdep⟩
  rintro rfl
  exact hn hm

theorem pinnedFragment?_add_use (w : Workspace) {f : Fragment} (hf : f.isDeclaration = false) :
    (w.add f).pinnedFragment? = some f := by
  unfold pinnedFragment?
  rw [pinned_add]
  simp [hf, fragment?]

end Workspace

namespace Session

open Workspace

/-- If a program that a use hands over defines a name at two places, one of them is a declaration
that has lost the name and is kept for another name it declares, which the use depends on. -/
theorem second_definition {s : Session} {line : Text} {source : List SourceItem} {f : Fragment}
    {d : Demand} (hs : s.Reachable) (hf : IsUse line source f)
    (h : (s.start line source).step.demand? = some d) :
    let w := (s.workspace.add f).scan.scan
    d = .run s.programFile (s.template.render w.regions) ∧
    ∀ n a b, w.Defines a n → w.Defines b n → a ≠ b →
      ∃ e, (a = .declaration e ∨ b = .declaration e) ∧ ¬ w.Owns e n ∧
        ∃ m ∈ e.fragment.declaredNames, m ≠ n ∧ w.Owns e m ∧ w.DependsOn f m := by
  intro w
  have hw : w.Reachable := (hs.workspace.add f).scan.scan
  have hc : w.IsCurrent := (isCurrent_add _ f).scan.scan
  have hpin : w.pinnedFragment? = some f := pinnedFragment?_add_use _ hf.use
  refine ⟨demand?_of_isUse hf h, fun n a b ha hb hab ↦ ?_⟩
  rcases ha.holds hw.named with ha | ⟨e, rfl, hem, hdecl, hn⟩
  · rcases hb.holds hw.named with hb | ⟨e, rfl, hem, hdecl, hn⟩
    · exact absurd (ha.unique hw.wellFormed hb) hab
    · exact ⟨e, .inr rfl, hn, exists_owned_of_emits hw.wellFormed hc hpin hem hdecl hn⟩
  · exact ⟨e, .inl rfl, hn, exists_owned_of_emits hw.wellFormed hc hpin hem hdecl hn⟩

theorem second_definition_function :
    let s := played "a, f := 1, 2\nfunc f() \x7b\n\x7d\n"
    let line : Text := "fmt.Println(a, f)".toList
    let w := (s.workspace.add (.ofLine line.trim)).scan.scan
    let d : Entry := ⟨0, .ofLine "a, f := 1, 2".toList, true, none, [(['f'], none), (['a'], none)]⟩
    let g : Fragment := ⟨"func f() \x7b".toList, .line ['}'] .nil⟩
    w.Defines (.declaration d) ['f'] ∧ w.Defines (.function g) ['f'] ∧
      ∃ e, (Site.declaration d = .declaration e ∨ Site.function g = .declaration e) ∧
        ¬ w.Owns e ['f'] ∧ ∃ m ∈ e.fragment.declaredNames, m ≠ ['f'] ∧ w.Owns e m ∧
          w.DependsOn (.ofLine line.trim) m := by
  intro s line w d g
  have hd : w.Defines (.declaration d) ['f'] :=
    .declaration (by decide +kernel) rfl (by decide +kernel)
  have hg : w.Defines (.function g) ['f'] := .function (by decide +kernel) (by decide +kernel)
  have huse : IsUse line [] (.ofLine line.trim) :=
    isUse_ofLine [] (by decide +kernel) (by decide +kernel) (by decide +kernel)
  have hrun : (s.start line []).step.demand? =
      some (.run "main.go".toList (Template.standard.render w.regions)) := by decide +kernel
  exact ⟨hd, hg, (second_definition (reachable_played _) huse hrun).2 _ _ _ hd hg (by simp)⟩

/-- Both declarations of `a` are in the program, since `b` is owned by the first. -/
theorem outdated_definition :
    let s := played "a, b := 1, 2\na := 3\n"
    let line : Text := "fmt.Println(a, b)".toList
    let w := (s.workspace.add (.ofLine line.trim)).scan.scan
    let d : Entry := ⟨0, .ofLine "a, b := 1, 2".toList, true, none, [(['b'], none), (['a'], none)]⟩
    let e : Entry := ⟨1, .ofLine "a := 3".toList, true, none, [(['a'], some ⟨.var, .fragment 0⟩)]⟩
    s.Reachable ∧ IsUse line [] (.ofLine line.trim) ∧
      (s.start line []).step.demand? =
        some (.run s.programFile (s.template.render w.regions)) ∧
      d ≠ e ∧ w.Defines (.declaration d) ['a'] ∧ w.Defines (.declaration e) ['a'] := by
  intro s line w d e
  refine ⟨reachable_played _, ?_, by decide +kernel, by decide +kernel, ?_, ?_⟩
  · exact isUse_ofLine [] (by decide +kernel) (by decide +kernel) (by decide +kernel)
  · exact .declaration (by decide +kernel) rfl (by decide +kernel)
  · exact .declaration (by decide +kernel) rfl (by decide +kernel)

end Session
end GoRepl
