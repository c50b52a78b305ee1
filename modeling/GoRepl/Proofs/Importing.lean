import GoRepl.Proofs.Specs

/-!
# Importing a package

What an import does in a session: it records its package, takes the record of the same path away,
and leaves all other records as they are, in their order (`Session.declareImport_exact`).

Importing removes every record of a package for which no spec is left.  That no other record suffers
is owed to the session, where each package is backed by a spec (`Workspace.InStep`): the only specs
to go are those that no record stands for, and the one of the path that is imported
(`Workspace.entries_declareImport`).  A second import of the same finds nothing more to take away.
-/

namespace GoRepl

namespace Registry

theorem declarations_forget (r : Registry) (names : List Text) :
    (r.forget names).declarations = r.declarations.filter fun n _ ↦ n ∉ names := by
  induction names generalizing r with
  | nil =>
    apply Ledger.ext
    simp [forget, Ledger.filter]
  | cons m names ih =>
    refine (ih (r.restore m none)).trans ?_
    apply Ledger.ext
    change ((r.declarations.entries.filter _).filter _) = _
    rw [List.filter_filter]
    apply List.filter_congr
    rintro ⟨n, d⟩ -
    by_cases hn : n = m <;> simp [hn]

/-- Declaring a name as what it is declared already changes nothing. -/
theorem record_eq_self {r : Registry} {kind : Kind} {name : Text} {owner : Owner}
    (h : r.get? name = some ⟨kind, owner⟩) : r.record kind name owner = r := by
  have hput := Ledger.put_eq_self (l := r.declarations) h
  unfold record
  simp only [h, if_true, hput]

end Registry

namespace Workspace

/-- The path that a name has been imported for. -/
def pathOf? (w : Workspace) (name : Text) : Option Text := (w.specs.get? name).map ImportSpec.path

section Import

variable {w : Workspace} (hw : w.InStep) (spec : ImportSpec)

/-- No other package has the path of the one that has been imported last. -/
theorem eq_identifier_of_pathOf? {n : Text}
    (hpath : (w.declareImport spec).pathOf? n = some spec.path) : n = spec.identifier := by
  by_contra hn
  obtain ⟨other, hother, hpath⟩ := Option.map_eq_some_iff.mp hpath
  exact ((get?_specs_declareImport spec (Ne.symm hn)).mp hother).2.2 hpath

/-- A spec that is left is that of a package, or the new one. -/
theorem mem_names_of_get?_specs {n : Text} {other : ImportSpec}
    (h : (w.declareImport spec).specs.get? n = some other) :
    n ∈ (w.declareImport spec).registry.names .package := by
  by_cases hn : spec.identifier = n
  · subst hn
    exact Registry.mem_names.mpr ⟨_, get?_declareImport_self spec⟩
  · obtain ⟨hother, hname, hpath⟩ := (get?_specs_declareImport spec hn).mp h
    rw [Registry.mem_names, get?_declareImport_of_known spec hn hother hpath]
    exact Registry.mem_names.mp hname

include hw

/-- The records that an import takes away are those of its path under other names. -/
theorem mem_stale_iff {n : Text} {d : Declaration} (hn : w.registry.get? n = some d) :
    n ∈ (w.registry.names .package).filter (fun n ↦ n ≠ spec.identifier &&
        !(w.specs.filter (w.keepsSpec spec.path)).contains n) ↔
      n ≠ spec.identifier ∧ d.kind = .package ∧ w.pathOf? n = some spec.path := by
  obtain ⟨kind, owner⟩ := d
  have hname : n ∈ w.registry.names .package ↔ kind = .package := by
    rw [Registry.mem_names, hn]
    constructor
    · rintro ⟨owner, ho⟩
      cases ho
      rfl
    · rintro rfl
      exact ⟨owner, rfl⟩
  rw [List.mem_filter, Bool.and_eq_true, decide_eq_true_eq, Bool.not_eq_true', and_left_comm, hname]
  refine and_congr_right fun _ ↦ and_congr_right ?_
  rintro rfl
  obtain ⟨old, hold, -⟩ := inStep_iff.mp hw n owner hn
  have hpath : w.pathOf? n = some old.path := congrArg (Option.map ImportSpec.path) hold
  rw [Bool.eq_false_iff, Ne, Ledger.contains_iff, hpath, Option.some.injEq]
  constructor
  · intro hgone
    by_contra hne
    exact hgone ⟨old, get?_keptSpecs.mpr ⟨hold, hname.mpr rfl, hne⟩⟩
  · rintro heq ⟨other, hother⟩
    obtain ⟨hother, -, hne⟩ := get?_keptSpecs.mp hother
    obtain rfl : old = other := by simpa using (Option.mem_def.mp hold).symm.trans hother
    exact hne heq

/-- Among the other names, an import takes the packages of its path away and nothing else. -/
theorem entries_declareImport :
    (w.declareImport spec).registry.declarations.entries.filter (·.1 ≠ spec.identifier) =
      w.registry.declarations.entries.filter fun e ↦ e.1 ≠ spec.identifier ∧
        ¬ (e.2.kind = .package ∧ w.pathOf? e.1 = some spec.path) := by
  unfold declareImport
  simp only
  rw [Registry.declarations_record, Registry.declarations_forget,
    Ledger.filter_entries_put (by simp) (by simp)]
  change (w.registry.declarations.entries.filter _).filter _ = _
  rw [List.filter_filter]
  apply List.filter_congr
  rintro ⟨n, d⟩ he
  have hstale := mem_stale_iff hw spec (Ledger.mem_entries.mp he)
  rw [← Bool.decide_and, decide_eq_decide, hstale]
  tauto

/-- The same of a single name. -/
theorem get?_declareImport_iff {n : Text} (hn : n ≠ spec.identifier) {d : Declaration} :
    (w.declareImport spec).registry.get? n = some d ↔ w.registry.get? n = some d ∧
      ¬ (d.kind = .package ∧ w.pathOf? n = some spec.path) := by
  have hmem := congrArg ((n, d) ∈ ·) (entries_declareImport hw spec)
  simp only [List.mem_filter, Ledger.mem_entries, decide_eq_true_eq, ne_eq, hn, not_false_eq_true,
    and_true, true_and] at hmem
  exact iff_of_eq hmem

/-- Importing the same again changes nothing. -/
theorem declareImport_declareImport :
    ((w.declareImport spec).declareImport spec).registry = (w.declareImport spec).registry ∧
      ∀ n, ((w.declareImport spec).declareImport spec).specs.get? n =
        (w.declareImport spec).specs.get? n := by
  have hafter := hw.declareImport spec
  constructor
  · have hself := get?_declareImport_self (w := w) spec
    have hstale : ((w.declareImport spec).registry.names .package).filter (fun n ↦
        n ≠ spec.identifier && !((w.declareImport spec).specs.filter
          ((w.declareImport spec).keepsSpec spec.path)).contains n) = [] := by
      refine List.eq_nil_iff_forall_not_mem.mpr fun n hn ↦ ?_
      obtain ⟨owner, ho⟩ := Registry.mem_names.mp (List.mem_filter.mp hn).1
      obtain ⟨hne, -, hpath⟩ := (mem_stale_iff hafter spec ho).mp hn
      exact hne (eq_identifier_of_pathOf? spec hpath)
    generalize w.declareImport spec = after at hself hstale ⊢
    unfold declareImport
    simp only
    rw [hstale]
    exact Registry.record_eq_self hself
  · intro n
    by_cases hn : spec.identifier = n
    · subst hn
      exact (Ledger.get?_put_self ..).trans (Ledger.get?_put_self ..).symm
    · ext other
      rw [get?_specs_declareImport spec hn]
      constructor
      · exact fun h ↦ h.1
      · intro h
        exact ⟨h, mem_names_of_get?_specs spec h, ((get?_specs_declareImport spec hn).mp h).2.2⟩

end Import

end Workspace

namespace Session

open Workspace

theorem Reachable.filed {s : Session} (hs : s.Reachable) : s.workspace.Filed := by
  obtain ⟨ops, hops⟩ := reachable_iff.mp hs.workspace
  rw [← hops]
  exact filed_run ops

/-- An import in a session records the package under its name, and no other package has its path
then.  Of the other records it takes away those of packages with that path, and leaves all others as
they are and in their order; the packages that are left stand for what they stood for.  There is one
path for each package, no path stands twice, and importing the same again changes nothing: neither
in the registry, nor in what a name stands for. -/
theorem declareImport_exact {s : Session} (hs : s.Reachable) (spec : ImportSpec) :
    let w := s.workspace
    let after := w.declareImport spec
    after.registry.get? spec.identifier = some ⟨.package, .text spec.render⟩ ∧
    after.specs.get? spec.identifier = some spec ∧
    (∀ n ∈ after.registry.names .package, after.pathOf? n = some spec.path →
      n = spec.identifier) ∧
    after.registry.declarations.entries.filter (·.1 ≠ spec.identifier) =
      w.registry.declarations.entries.filter (fun e ↦ e.1 ≠ spec.identifier ∧
        ¬ (e.2.kind = .package ∧ w.pathOf? e.1 = some spec.path)) ∧
    (∀ n, n ≠ spec.identifier → ∀ d, (d.kind = .package → w.pathOf? n ≠ some spec.path) →
      (after.registry.get? n = some d ↔ w.registry.get? n = some d)) ∧
    (∀ n ∈ after.registry.names .package, n ≠ spec.identifier →
      after.specs.get? n = w.specs.get? n) ∧
    after.importPaths.Nodup ∧ after.importPaths.length = after.registry.count .package ∧
    (after.declareImport spec).registry = after.registry ∧
    ∀ n, (after.declareImport spec).specs.get? n = after.specs.get? n := by
  intro w after
  have hw : w.InStep := hs.inStep
  have hagain := declareImport_declareImport hw spec
  refine ⟨get?_declareImport_self spec, Ledger.get?_put_self .., fun n _ hpath ↦ ?_,
    entries_declareImport hw spec, fun n hn d hpath ↦ ?_, fun n hname hn ↦ ?_,
    (hs.filed.declareImport spec).nodup_importPaths,
    (hw.declareImport spec).length_importPaths, hagain.1, hagain.2⟩
  · exact eq_identifier_of_pathOf? spec hpath
  · rw [get?_declareImport_iff hw spec hn]
    exact and_iff_left fun h ↦ hpath h.1 h.2
  · obtain ⟨owner, ho⟩ := Registry.mem_names.mp hname
    exact (known_of_get?_declareImport spec (Ne.symm hn) ho).2

/-- The path of one package is imported under the name of another, while a third one is hidden by a
variable. -/
theorem declareImport_exact_renamed :
    let s := played "import \"math/rand\"\nimport \"sort\"\nsort := 3\nimport \"os\"\n"
    let spec : ImportSpec := ⟨some "os".toList, "math/rand".toList⟩
    let after := s.workspace.declareImport spec
    s.Reachable ∧ s.workspace.importPaths = ["fmt", "math/rand", "os"].map String.toList ∧
      after.registry.get? "os".toList = some ⟨.package, .text "os \"math/rand\"".toList⟩ ∧
      after.importPaths = ["fmt", "math/rand"].map String.toList ∧
      after.registry.get? "sort".toList = some ⟨.var, .fragment 0⟩ ∧
      (after.declareImport spec).registry = after.registry := by
  intro s spec after
  obtain ⟨hself, -, -, -, hothers, -, -, -, hagain, -⟩ :=
    declareImport_exact (reachable_played _ : s.Reachable) spec
  refine ⟨reachable_played _, by decide +kernel, hself, by decide +kernel, ?_, hagain⟩
  exact (hothers "sort".toList (by decide) _ (by simp)).mpr (by decide +kernel)

end Session
end GoRepl
