import Mathlib.Data.List.Infix
import GoRepl.Proofs.Imports
import GoRepl.Proofs.Operations

/-!
# Specs

When the records of packages and the specs beside them are in step, over all operations in any
order.

Both tables are pruned when a package is imported: specs go whose name has become something else,
records go that have lost their spec.  Every operation but one keeps them in step
(`InStep.apply`).  The exception is to take a declaration back.  It restores the record of a package
that the declaration has hidden, and knows nothing of the spec, which an import may have removed or
replaced in the meantime (`Workspace.Outdates`).  So the tables are in step throughout a run just in
case no rollback of it restores such a record (`specs_in_step`).
-/

namespace GoRepl.Workspace

/-- The record of a package that has this name and owner is written as the spec that the name stands
for. -/
def BackedBy (w : Workspace) (n : Text) (owner : Owner) : Prop :=
  ∃ spec ∈ w.specs.get? n, spec.identifier = n ∧ owner = .text spec.render

/-- All records of packages are backed by specs. -/
def InStep (w : Workspace) : Prop := ∀ e ∈ w.registry.declared .package, w.BackedBy e.1 e.2

instance (w : Workspace) (n : Text) (owner : Owner) : Decidable (w.BackedBy n owner) :=
  inferInstanceAs (Decidable (∃ _ ∈ _, _))

instance (w : Workspace) : Decidable w.InStep := inferInstanceAs (Decidable (∀ _ ∈ _, _))

/-- Specs are filed under their own names, and no two of them have the same path. -/
structure Filed (w : Workspace) : Prop where
  name : ∀ n spec, w.specs.get? n = some spec → spec.identifier = n
  path : ∀ m n a b, w.specs.get? m = some a → w.specs.get? n = some b → a.path = b.path → m = n

/-- When the latest statement is taken back, a name gets the record of a package back that no spec
backs any more. -/
def Outdates (w : Workspace) : Prop :=
  ∃ e ∈ w.entries.head?, ∃ n owner,
    e.before? n = some (some ⟨.package, owner⟩) ∧ ¬ w.BackedBy n owner

theorem inStep_iff {w : Workspace} :
    w.InStep ↔ ∀ n owner, w.registry.get? n = some ⟨.package, owner⟩ → w.BackedBy n owner :=
  ⟨fun h _ _ hn ↦ h _ (Registry.mem_declared.mpr hn),
    fun h _ he ↦ h _ _ (Registry.mem_declared.mp he)⟩

theorem backedBy_congr {v w : Workspace} {n : Text} (h : w.specs.get? n = v.specs.get? n)
    (owner : Owner) : w.BackedBy n owner ↔ v.BackedBy n owner := by
  unfold BackedBy
  rw [h]

/-! ## What operations do to packages -/

/-- Only an import changes specs. -/
theorem specs_apply (w : Workspace) {op : Operation} (himport : ∀ spec, op ≠ .declareImport spec) :
    (w.apply op).specs = w.specs := by
  cases op with
  | add f => exact specs_add w f
  | rollback => exact specs_rollback w
  | declareFunction f =>
    rcases w.apply_declareFunction f with h | ⟨name, h⟩
    · rw [h]
    · exact specs_declareFunction? h
  | declareImport spec => exact absurd rfl (himport spec)
  | scanFunctions | scanImports | resetLiveness => rfl

theorem specs_foldl_apply (w : Workspace) {ops : List Operation}
    (himport : ∀ spec, .declareImport spec ∉ ops) : (ops.foldl apply w).specs = w.specs := by
  induction ops generalizing w with
  | nil => rfl
  | cons op ops ih =>
    have hop : ∀ spec, op ≠ .declareImport spec := by
      rintro spec rfl
      exact himport spec List.mem_cons_self
    exact (ih _ fun spec h ↦ himport spec (List.mem_cons_of_mem _ h)).trans (specs_apply w hop)

/-- Imports and rollbacks apart, no operation records a package. -/
theorem get?_package_apply {w : Workspace} {op : Operation}
    (himport : ∀ spec, op ≠ .declareImport spec) (hrollback : op ≠ .rollback) {n : Text}
    {owner : Owner} (h : (w.apply op).registry.get? n = some ⟨.package, owner⟩) :
    w.registry.get? n = some ⟨.package, owner⟩ := by
  cases op with
  | rollback => exact absurd rfl hrollback
  | declareImport spec => exact absurd rfl (himport spec)
  | add f =>
    simp only [apply, get?_add] at h
    split at h
    · simp at h
    · exact h
  | declareFunction f =>
    rcases w.apply_declareFunction f with hw | ⟨name, hw⟩
    · rwa [hw] at h
    · rw [(declareFunction?_spec hw).2.2.1] at h
      split at h
      · simp at h
      · exact h
  | scanFunctions users => simpa [apply, scanFunctions] using h
  | scanImports users => simpa [apply, scanImports] using h
  | resetLiveness => exact h

/-- Each package that is recorded, or is so again when statements are taken back, has been imported,
and its record is written as it was imported. -/
theorem exists_import_of_recorded {ops : List Operation} {n : Text} {owner : Owner}
    (h : (run ops).Recorded n ⟨.package, owner⟩) :
    ∃ spec, .declareImport spec ∈ ops ∧ spec.identifier = n ∧ owner = .text spec.render := by
  induction ops using List.reverseRecOn with
  | nil => simp [Recorded, run, Registry.get?] at h
  | append_singleton ops op ih =>
    have hearlier : (run ops).Recorded n ⟨.package, owner⟩ → ∃ spec,
        .declareImport spec ∈ ops ++ [op] ∧ spec.identifier = n ∧ owner = .text spec.render := by
      intro h
      obtain ⟨spec, hspec, hrest⟩ := ih h
      exact ⟨spec, List.mem_append_left _ hspec, hrest⟩
    rw [run_concat] at h
    rcases recorded_apply h with h | ⟨hrollback, h⟩
    · exact hearlier h
    · by_cases himport : ∃ spec, op = .declareImport spec
      · obtain ⟨spec, rfl⟩ := himport
        by_cases hne : spec.identifier = n
        · subst hne
          have hself := h.symm.trans (get?_declareImport_self spec)
          exact ⟨spec, by simp, rfl, by simpa using hself⟩
        · exact hearlier (.inl (known_of_get?_declareImport spec hne h).1)
      · exact hearlier (.inl
          (get?_package_apply (fun spec hs ↦ himport ⟨spec, hs⟩) hrollback h))

/-! ## Keeping in step -/

/-- Where the specs are the same and no package is recorded anew, all stays in step. -/
theorem InStep.of_get? {v w : Workspace} (hv : v.InStep) (hspecs : w.specs = v.specs)
    (h : ∀ n owner, w.registry.get? n = some ⟨.package, owner⟩ →
      v.registry.get? n = some ⟨.package, owner⟩) : w.InStep := by
  rw [inStep_iff] at hv ⊢
  intro n owner hn
  exact (backedBy_congr (by rw [hspecs]) owner).mpr (hv n owner (h n owner hn))

theorem InStep.declareImport {w : Workspace} (hw : w.InStep) (spec : ImportSpec) :
    (w.declareImport spec).InStep := by
  rw [inStep_iff] at hw ⊢
  intro n owner hn
  by_cases hne : spec.identifier = n
  · subst hne
    have hself := hn.symm.trans (get?_declareImport_self spec)
    exact ⟨spec, Ledger.get?_put_self .., rfl, by simpa using hself⟩
  · obtain ⟨hrecord, hknown⟩ := known_of_get?_declareImport spec hne hn
    exact (backedBy_congr hknown owner).mpr (hw n owner hrecord)

theorem InStep.apply {w : Workspace} (hw : w.InStep) {op : Operation} (hop : op ≠ .rollback) :
    (w.apply op).InStep := by
  by_cases himport : ∃ spec, op = .declareImport spec
  · obtain ⟨spec, rfl⟩ := himport
    exact hw.declareImport spec
  · have hother : ∀ spec, op ≠ .declareImport spec := fun spec hs ↦ himport ⟨spec, hs⟩
    exact hw.of_get? (specs_apply w hother) fun n owner ↦ get?_package_apply hother hop

theorem inStep_rollback {w : Workspace} (hw : w.InStep) : w.rollback.InStep ↔ ¬ w.Outdates := by
  have hback : ∀ n owner, w.rollback.BackedBy n owner ↔ w.BackedBy n owner := fun n owner ↦
    backedBy_congr (by rw [specs_rollback]) owner
  simp only [inStep_iff, hback] at hw ⊢
  cases hes : w.entries with
  | nil =>
    rw [rollback_nil hes]
    exact ⟨fun _ ⟨e, he, _⟩ ↦ by simp [hes] at he, fun _ ↦ hw⟩
  | cons e es =>
    simp only [get?_rollback hes]
    constructor
    · rintro h ⟨e', he', n, owner, hbefore, hgone⟩
      obtain rfl : e = e' := by simpa [hes] using he'
      exact hgone (h n owner (by simp [hbefore]))
    · intro h n owner hn
      cases hbefore : e.before? n with
      | none => exact hw n owner (by simpa [hbefore] using hn)
      | some record =>
        obtain rfl : record = some ⟨.package, owner⟩ := by simpa [hbefore] using hn
        by_contra hgone
        exact h ⟨e, by simp [hes], n, owner, hbefore, hgone⟩

theorem inStep_run (ops : List Operation) :
    (∀ before, before <+: ops → (run before).InStep) ↔
      ∀ before, before ++ [.rollback] <+: ops → ¬ (run before).Outdates :=
  forall_prefix_iff (P := InStep) (by decide) (fun _ _ hop h ↦ h.apply hop)
    (fun _ h ↦ inStep_rollback h) ops

/-- What a rollback brings out of step was in step when the statement was stored, so the spec has
been lost to an import that came later. -/
theorem exists_import_of_outdates {ops : List Operation}
    (hops : ∀ before, before <+: ops → (run before).InStep) (h : (run ops).Outdates) :
    ∃ before f later, ops = before ++ .add f :: later ∧ f.isDeclaration = true ∧
      ((run before).add f).entries = (run ops).entries ∧ ∃ spec, .declareImport spec ∈ later := by
  obtain ⟨e, he, n, owner, hbefore, hgone⟩ := h
  obtain ⟨es, hes⟩ := List.head?_eq_some_iff.mp he
  have htop : e :: es <:+ (run ops).entries := hes ▸ List.suffix_rfl
  obtain ⟨before, later, rfl, hadd⟩ := exists_add htop
  rw [before?_of_entries_add hadd] at hbefore
  split at hbefore
  · rename_i hdecl
    refine ⟨before, e.fragment, later, rfl, hdecl.1, hadd.trans hes.symm, ?_⟩
    by_contra himport
    -- without an import in between the specs are those of the time when the statement was stored
    have hspecs : (run (before ++ .add e.fragment :: later)).specs = (run before).specs := by
      rw [run, List.foldl_append, List.foldl_cons,
        specs_foldl_apply _ fun spec h ↦ himport ⟨spec, h⟩]
      exact specs_add ..
    have hbacked := inStep_iff.mp (hops before (List.prefix_append ..)) n owner
      (by simpa using hbefore)
    exact hgone ((backedBy_congr (by rw [hspecs]) owner).mpr hbacked)
  · cases hbefore

/-! ## Files of specs -/

theorem Filed.of_specs {v w : Workspace} (hv : v.Filed) (h : w.specs = v.specs) : w.Filed :=
  ⟨by rw [h]; exact hv.name, by rw [h]; exact hv.path⟩

theorem Filed.declareImport {w : Workspace} (hw : w.Filed) (spec : ImportSpec) :
    (w.declareImport spec).Filed := by
  have hself : ∀ other, (w.declareImport spec).specs.get? spec.identifier = some other →
      other = spec := fun other h ↦ by
    simpa using h.symm.trans (Ledger.get?_put_self ..)
  constructor
  · intro n other h
    by_cases hne : spec.identifier = n
    · subst hne
      rw [hself other h]
    · exact hw.name n other ((get?_specs_declareImport spec hne).mp h).1
  · intro m n a b ha hb hab
    by_cases hm : spec.identifier = m <;> by_cases hn : spec.identifier = n
    · exact hm.symm.trans hn
    · subst hm
      obtain rfl := hself a ha
      exact absurd hab.symm ((get?_specs_declareImport _ hn).mp hb).2.2
    · subst hn
      obtain rfl := hself b hb
      exact absurd hab ((get?_specs_declareImport _ hm).mp ha).2.2
    · exact hw.path m n a b ((get?_specs_declareImport spec hm).mp ha).1
        ((get?_specs_declareImport spec hn).mp hb).1 hab

theorem filed_run (ops : List Operation) : (run ops).Filed := by
  refine List.foldlRecOn (motive := Filed) ops apply ⟨?_, ?_⟩ fun w hw op _ ↦ ?_
  · rintro n spec ⟨⟩
  · rintro m n a b ⟨⟩
  · by_cases himport : ∃ spec, op = .declareImport spec
    · obtain ⟨spec, rfl⟩ := himport
      exact hw.declareImport spec
    · exact hw.of_specs (specs_apply w fun spec hs ↦ himport ⟨spec, hs⟩)

/-! ## Paths -/

theorem Filed.nodup_importPaths {w : Workspace} (hw : w.Filed) : w.importPaths.Nodup := by
  unfold importPaths
  refine List.Nodup.filterMap ?_ (Registry.nodup_names _ _)
  intro m n path hm hn
  obtain ⟨a, ha, rfl⟩ := Option.map_eq_some_iff.mp hm
  obtain ⟨b, hb, hab⟩ := Option.map_eq_some_iff.mp hn
  exact hw.path m n a b ha hb hab.symm

theorem InStep.length_importPaths {w : Workspace} (hw : w.InStep) :
    w.importPaths.length = w.registry.count .package := by
  have hlength : (w.registry.names .package).length = w.registry.count .package :=
    List.length_map ..
  unfold importPaths
  rw [← hlength, List.filterMap_length_eq_length]
  intro n hn
  obtain ⟨owner, ho⟩ := Registry.mem_names.mp hn
  obtain ⟨spec, hspec, -⟩ := inStep_iff.mp hw n owner ho
  rw [Option.mem_def.mp hspec]
  rfl

/-- An import leaves packages alone that have another path and another name. -/
theorem InStep.get?_declareImport {w : Workspace} (hw : w.InStep) {spec : ImportSpec} {n : Text}
    {owner : Owner} (hn : w.registry.get? n = some ⟨.package, owner⟩) (hne : spec.identifier ≠ n)
    (hpath : ∀ old ∈ w.specs.get? n, old.path ≠ spec.path) :
    (w.declareImport spec).registry.get? n = some ⟨.package, owner⟩ ∧
      (w.declareImport spec).specs.get? n = w.specs.get? n := by
  obtain ⟨old, hold, -⟩ := inStep_iff.mp hw n owner hn
  have hkept := (get?_declareImport_of_known spec hne hold (hpath old hold)).trans hn
  exact ⟨hkept, (known_of_get?_declareImport spec hne hkept).2⟩

/-- In every order of operations specs are filed under their names, no two of them with the same
path, and the record of a package is one that has been imported.

The records are backed by the specs in all states that a run goes through just in case no rollback
in it restores a record that no spec backs any more.  The first to do so takes back a declaration
after which a package has been imported.  And where records are backed, there is one
path for each of them, and an import leaves packages alone that have another path and another
name. -/
theorem specs_in_step (ops : List Operation) :
    ((run ops).Filed ∧ (run ops).importPaths.Nodup ∧
      ∀ n owner, (run ops).registry.get? n = some ⟨.package, owner⟩ →
        ∃ spec, .declareImport spec ∈ ops ∧ spec.identifier = n ∧ owner = .text spec.render) ∧
    ((∀ before, before <+: ops → (run before).InStep) ↔
      ∀ before, before ++ [.rollback] <+: ops → ¬ (run before).Outdates) ∧
    ((∀ before, before <+: ops → (run before).InStep) → (run ops).Outdates →
      ∃ before f later, ops = before ++ .add f :: later ∧ f.isDeclaration = true ∧
        ((run before).add f).entries = (run ops).entries ∧
        ∃ spec, .declareImport spec ∈ later) ∧
    ((run ops).InStep →
      (run ops).importPaths.length = (run ops).registry.count .package ∧
      ∀ spec n owner, (run ops).registry.get? n = some ⟨.package, owner⟩ →
        spec.identifier ≠ n → (∀ old ∈ (run ops).specs.get? n, old.path ≠ spec.path) →
        ((run ops).declareImport spec).registry.get? n = some ⟨.package, owner⟩ ∧
          ((run ops).declareImport spec).specs.get? n = (run ops).specs.get? n) := by
  have hfiled := filed_run ops
  refine ⟨⟨hfiled, hfiled.nodup_importPaths, fun n owner hn ↦ ?_⟩, inStep_run ops,
    exists_import_of_outdates, fun h ↦ ⟨h.length_importPaths, fun spec n owner ↦ ?_⟩⟩
  · exact exists_import_of_recorded (.inl hn)
  · exact h.get?_declareImport

/-- A declaration hides two packages and is taken back; then the path of one of them is imported
under a local name. -/
theorem specs_in_step_renamed :
    let ops : List Operation :=
      [.declareImport ⟨none, "math/rand".toList⟩, .declareImport ⟨none, "sort".toList⟩,
        .add (.ofLine "sort, rand := 3, 4".toList), .rollback,
        .declareImport ⟨some ['r'], "math/rand".toList⟩]
    (run ops).InStep ∧ (run ops).importPaths = ["sort".toList, "math/rand".toList] ∧
      (run ops).importPaths.length = (run ops).registry.count .package ∧
      ((run ops).declareImport ⟨none, "os".toList⟩).registry.get? ['r'] =
        some ⟨.package, .text "r \"math/rand\"".toList⟩ := by
  intro ops
  have hstep : (run ops).InStep := by decide +kernel
  obtain ⟨hlength, hkept⟩ := (specs_in_step ops).2.2.2 hstep
  exact ⟨hstep, by decide +kernel, hlength,
    (hkept ⟨none, "os".toList⟩ ['r'] _ (by decide +kernel) (by decide) (by decide +kernel)).1⟩

/-- The declaration hides `sort`, whose spec goes when `os` is imported.  Taking the declaration
back restores the record without the spec, so the next import takes the record away. -/
theorem restored_import_vanishes :
    let w := run [.declareImport ⟨none, "sort".toList⟩, .add (.ofLine "sort := 3".toList),
      .declareImport ⟨none, "os".toList⟩, .rollback]
    w.registry.get? "sort".toList = some ⟨.package, .text "\"sort\"".toList⟩ ∧
      w.specs.get? "sort".toList = none ∧ w.importPaths = ["os".toList] ∧
      w.registry.count .package = 2 ∧
      (w.declareImport ⟨none, "fmt".toList⟩).registry.get? "sort".toList = none := by
  decide +kernel

end GoRepl.Workspace

namespace GoRepl.Session

/-- A session takes no declaration back, so its packages are in step at all times. -/
theorem Reachable.inStep {s : Session} (hs : s.Reachable) : s.workspace.InStep := by
  rw [Workspace.inStep_iff]
  intro n owner hn
  obtain ⟨spec, hspec, rfl⟩ := hs.specified n (Registry.mem_names.mpr ⟨owner, hn⟩)
  exact ⟨spec, hspec.known, rfl, by simpa using hn.symm.trans hspec.record⟩

end GoRepl.Session
