import Mathlib.Data.List.Induction
import GoRepl.Proofs.Owners

/-!
# Operations

All that can be done to a workspace, as data: what is reachable is what some list of operations
leads to (`reachable_iff`), and a list remembers the way.

Storing a statement and taking it back work on one stack, and no other operation touches it.  So the
statement on top has been stored by an operation of the list, when the stack was what it is below
the statement (`exists_add`).  But the records that taking it back restores are those of that
moment, whatever has been declared since (`record_rollback`).
-/

namespace GoRepl

/-- What can be done to a workspace. -/
inductive Operation where
  | add (f : Fragment)
  | rollback
  | declareFunction (f : Fragment)
  | declareImport (spec : ImportSpec)
  | scanFunctions (users : List Fragment)
  | scanImports (users : List Fragment)
  | resetLiveness
deriving DecidableEq, Repr

namespace Workspace

/-- Do one operation.  A function without a name is refused. -/
def apply (w : Workspace) : Operation → Workspace
  | .add f => w.add f
  | .rollback => w.rollback
  | .declareFunction f => ((w.declareFunction? f).map Prod.snd).getD w
  | .declareImport spec => w.declareImport spec
  | .scanFunctions users => w.scanFunctions users
  | .scanImports users => w.scanImports users
  | .resetLiveness => w.resetLiveness

/-- The workspace after some operations. -/
def run (ops : List Operation) : Workspace := ops.foldl apply {}

theorem run_concat (ops : List Operation) (op : Operation) :
    run (ops ++ [op]) = (run ops).apply op := by
  unfold run
  rw [List.foldl_append]
  rfl

/-- A function is refused or declared. -/
theorem apply_declareFunction (w : Workspace) (f : Fragment) :
    w.apply (.declareFunction f) = w ∨
      ∃ name, w.declareFunction? f = some (name, w.apply (.declareFunction f)) := by
  simp only [apply]
  cases w.declareFunction? f with
  | none => exact .inl rfl
  | some declared => exact .inr ⟨declared.1, rfl⟩

theorem Reachable.apply {w : Workspace} (hw : w.Reachable) (op : Operation) :
    (w.apply op).Reachable := by
  cases op with
  | add f => exact hw.add f
  | rollback => exact hw.rollback
  | declareFunction f =>
    rcases w.apply_declareFunction f with h | ⟨name, h⟩
    · rwa [h]
    · exact hw.declareFunction h
  | declareImport spec => exact hw.declareImport spec
  | scanFunctions users => exact hw.scanFunctions users
  | scanImports users => exact hw.scanImports users
  | resetLiveness => exact hw.resetLiveness

theorem reachable_run (ops : List Operation) : (run ops).Reachable := by
  induction ops using List.reverseRecOn with
  | nil => exact .empty
  | append_singleton ops op ih =>
    rw [run_concat]
    exact ih.apply op

/-- Every reachable workspace is what some operations lead to. -/
theorem reachable_iff {w : Workspace} : w.Reachable ↔ ∃ ops, run ops = w := by
  constructor
  · intro hw
    have hnext : ∀ {w : Workspace} (op : Operation), (∃ ops, run ops = w) →
        ∃ ops, run ops = w.apply op := by
      rintro _ op ⟨ops, rfl⟩
      exact ⟨ops ++ [op], run_concat ops op⟩
    induction hw with
    | empty => exact ⟨[], rfl⟩
    | add f _ ih => exact hnext (.add f) ih
    | rollback _ ih => exact hnext .rollback ih
    | @declareFunction w w' f name _ h ih =>
      have happly : w.apply (.declareFunction f) = w' := by
        simp [Workspace.apply, h]
      exact happly ▸ hnext (.declareFunction f) ih
    | declareImport spec _ ih => exact hnext (.declareImport spec) ih
    | scanFunctions users _ ih => exact hnext (.scanFunctions users) ih
    | scanImports users _ ih => exact hnext (.scanImports users) ih
    | resetLiveness _ ih => exact hnext .resetLiveness ih
  · rintro ⟨ops, rfl⟩
    exact reachable_run ops

/-- Storing and taking back apart, an operation does no more than hide variables. -/
theorem hides_apply (w : Workspace) {op : Operation} (hadd : ∀ f, op ≠ .add f)
    (hrollback : op ≠ .rollback) : w.Hides (w.apply op) := by
  cases op with
  | add f => exact absurd rfl (hadd f)
  | rollback => exact absurd rfl hrollback
  | declareFunction f =>
    rcases w.apply_declareFunction f with h | ⟨name, h⟩
    · rw [h]
      exact .refl w
    · exact hides_declareFunction h
  | declareImport spec => exact hides_declareImport w spec
  | scanFunctions users => exact hides_scanFunctions w users
  | scanImports users => exact hides_scanImports w users
  | resetLiveness => exact hides_resetLiveness w

/-- What is recorded of a name after an operation, or will be when statements are taken back, has
been so before, or it is the record that the operation gives the name. -/
theorem recorded_apply {w : Workspace} {op : Operation} {n : Text} {d : Declaration}
    (h : (w.apply op).Recorded n d) :
    w.Recorded n d ∨ (op ≠ .rollback ∧ (w.apply op).registry.get? n = some d) := by
  by_cases hrollback : op = .rollback
  · subst hrollback
    refine .inl ?_
    change w.rollback.Recorded n d at h
    rw [recorded_iff] at h ⊢
    cases hes : w.entries with
    | nil => rwa [rollback_nil hes] at h
    | cons e es =>
      rw [trail_rollback hes] at h
      split at h
      · exact List.mem_of_mem_tail h
      · exact h
  · rcases h with h | ⟨e, he, hnote⟩
    · exact .inr ⟨hrollback, h⟩
    · left
      by_cases hadd : ∃ f, op = .add f
      · obtain ⟨f, rfl⟩ := hadd
        change e ∈ (w.add f).entries at he
        rw [entries_add] at he
        rcases List.mem_cons.mp he with rfl | he
        · exact .inl (before?_add w f n hnote).symm
        · exact .inr ⟨e, he, hnote⟩
      · rw [(hides_apply w (fun f hf ↦ hadd ⟨f, hf⟩) hrollback).entries] at he
        exact .inr ⟨e, he, hnote⟩

/-- A law that holds at first and that every operation but a rollback keeps holds in all states that
a run goes through just in case no rollback of the run meets the condition on which it breaks the
law. -/
theorem forall_prefix_iff {P Breaks : Workspace → Prop} (empty : P {})
    (keeps : ∀ ops op, op ≠ .rollback → P (run ops) → P ((run ops).apply op))
    (rollback : ∀ ops, P (run ops) → (P (run ops).rollback ↔ ¬ Breaks (run ops)))
    (ops : List Operation) :
    (∀ before, before <+: ops → P (run before)) ↔
      ∀ before, before ++ [.rollback] <+: ops → ¬ Breaks (run before) := by
  induction ops using List.reverseRecOn with
  | nil =>
    refine ⟨fun _ before h ↦ by simp at h, fun _ before h ↦ ?_⟩
    obtain rfl := List.prefix_nil.mp h
    exact empty
  | append_singleton ops op ih =>
    simp only [List.prefix_concat_iff]
    constructor
    · rintro h before (hlast | hearlier)
      · obtain ⟨rfl, hop⟩ := List.append_inj' hlast rfl
        obtain rfl := List.singleton_inj.mp hop
        have hafter := h _ (.inl rfl)
        rw [run_concat] at hafter
        exact (rollback before (h before (.inr (List.prefix_refl _)))).mp hafter
      · exact ih.mp (fun p hp ↦ h p (.inr hp)) before hearlier
    · intro h
      have hops := ih.mpr fun before hb ↦ h before (.inr hb)
      have hlast := hops ops (List.prefix_refl _)
      rintro before (rfl | hearlier)
      · rw [run_concat]
        by_cases hop : op = .rollback
        · subst hop
          exact (rollback ops hlast).mpr (h ops (.inl rfl))
        · exact keeps ops op hop hlast
      · exact hops before hearlier

/-! ## Where a statement was stored -/

/-- Each statement of the history was stored when the history was what it is below it. -/
theorem exists_add {ops : List Operation} {e : Entry} {es : List Entry}
    (h : e :: es <:+ (run ops).entries) :
    ∃ before later, ops = before ++ .add e.fragment :: later ∧
      ((run before).add e.fragment).entries = e :: es := by
  induction ops using List.reverseRecOn with
  | nil => simp [run] at h
  | append_singleton ops op ih =>
    rw [run_concat] at h
    -- unless the last operation stored the statement, the history has held it before
    have hearlier : e :: es <:+ (run ops).entries → ∃ before later,
        ops ++ [op] = before ++ .add e.fragment :: later ∧
          ((run before).add e.fragment).entries = e :: es := by
      intro h
      obtain ⟨before, later, rfl, hadd⟩ := ih h
      exact ⟨before, later ++ [op], by simp, hadd⟩
    by_cases hadd : ∃ f, op = .add f
    · obtain ⟨f, rfl⟩ := hadd
      change e :: es <:+ ((run ops).add f).entries at h
      rw [entries_add, List.suffix_cons_iff] at h
      rcases h with h | h
      · obtain ⟨rfl, rfl⟩ := List.cons.inj h
        exact ⟨ops, [], rfl, entries_add ..⟩
      · exact hearlier h
    · by_cases hrollback : op = .rollback
      · subst hrollback
        change e :: es <:+ (run ops).rollback.entries at h
        cases hes : (run ops).entries with
        | nil => exact hearlier (rollback_nil hes ▸ h)
        | cons d ds =>
          rw [entries_rollback hes] at h
          exact hearlier (hes ▸ h.trans (List.suffix_cons d ds))
      · rw [(hides_apply (run ops) (fun f hf ↦ hadd ⟨f, hf⟩) hrollback).entries] at h
        exact hearlier h

/-! ## What taking a statement back restores -/

/-- The statement that was stored has noted the records that its names had at the time. -/
theorem before?_of_entries_add {v : Workspace} {f : Fragment} {e : Entry} {es : List Entry}
    (h : (v.add f).entries = e :: es) (n : Text) :
    e.before? n =
      if f.isDeclaration ∧ n ∈ f.declaredNames then some (v.registry.get? n) else none := by
  rw [← (List.cons.inj ((entries_add v f).symm.trans h)).1]
  exact before?_add_eq v f n

theorem declares_of_entries_add {v : Workspace} {f : Fragment} {e : Entry} {es : List Entry}
    (h : (v.add f).entries = e :: es) : e.declares = f.isDeclaration := by
  rw [← (List.cons.inj ((entries_add v f).symm.trans h)).1]

/-- Taking a statement back gives each name that it declares the record back which the name had when
the statement was stored, and leaves the records of other names alone. -/
theorem exists_get?_rollback {ops : List Operation} {e : Entry} {es : List Entry}
    (h : (run ops).entries = e :: es) :
    ∃ before later, ops = before ++ .add e.fragment :: later ∧
      ((run before).add e.fragment).entries = e :: es ∧
      ∀ n, (run ops).rollback.registry.get? n =
        if e.declares = true ∧ n ∈ e.fragment.declaredNames then (run before).registry.get? n
        else (run ops).registry.get? n := by
  have htop : e :: es <:+ (run ops).entries := h ▸ List.suffix_rfl
  obtain ⟨before, later, hops, hadd⟩ := exists_add htop
  refine ⟨before, later, hops, hadd, fun n ↦ ?_⟩
  rw [get?_rollback h, before?_of_entries_add hadd, declares_of_entries_add hadd]
  split <;> rfl

/-- When a statement is taken back, a name keeps its record just in case the statement does not
declare it, or it had that very record when the statement was stored.  So functions and packages
under other names stay what they are, but one that has taken a name of the statement is lost: the
name gets the record back that it had before the statement, as the variables of the statement do.  A
use leaves everything alone. -/
theorem record_rollback {ops : List Operation} {e : Entry} {es : List Entry}
    (h : (run ops).entries = e :: es) :
    ∃ before later, ops = before ++ .add e.fragment :: later ∧
      ((run before).add e.fragment).entries = e :: es ∧
      (∀ n, (run ops).rollback.registry.get? n = (run ops).registry.get? n ↔
        (e.declares = true → n ∈ e.fragment.declaredNames →
          (run before).registry.get? n = (run ops).registry.get? n)) ∧
      (∀ n, (run ops).registry.get? n = some ⟨.var, .fragment e.id⟩ →
        (run ops).rollback.registry.get? n = (run before).registry.get? n) ∧
      (e.declares = false → (run ops).rollback.registry = (run ops).registry) := by
  obtain ⟨before, later, hops, hadd, hrestored⟩ := exists_get?_rollback h
  refine ⟨before, later, hops, hadd, fun n ↦ ?_, fun n hn ↦ ?_, fun huse ↦ ?_⟩
  · rw [hrestored]
    split
    · rename_i hn
      exact ⟨fun hkept _ _ ↦ hkept, fun hkept ↦ hkept hn.1 hn.2⟩
    · rename_i hn
      exact ⟨fun _ hd hmem ↦ absurd ⟨hd, hmem⟩ hn, fun _ ↦ rfl⟩
  · have howns : (run ops).Owns e n := ⟨h ▸ List.mem_cons_self, hn⟩
    rw [hrestored, if_pos (howns.declares (reachable_run ops).wellFormed)]
  · exact registry_rollback_use (declares_of_entries_add hadd ▸ huse) (h.trans hadd.symm)

/-- A function that the statement shadows, and a function and a package that come later under names
of their own. -/
theorem record_rollback_kept :
    let ops : List Operation :=
      [.declareFunction (.ofLine "func f() 1".toList), .add (.ofLine "a, f := 1, 2".toList),
        .declareFunction (.ofLine "func g() f()".toList), .declareImport ⟨none, "os".toList⟩]
    let e : Entry := ⟨1, .ofLine "a, f := 1, 2".toList, true, none,
      [(['f'], some ⟨.func, .fragment 0⟩), (['a'], none)]⟩
    (run ops).entries = [e] ∧ (run ops).registry.get? ['g'] = some ⟨.func, .fragment 2⟩ ∧
      (run ops).rollback.registry.get? ['g'] = (run ops).registry.get? ['g'] ∧
      (run ops).rollback.registry.get? ['f'] = some ⟨.func, .fragment 0⟩ := by
  intro ops e
  have h : (run ops).entries = [e] := by decide +kernel
  have hg : (run ops).registry.get? ['g'] = some ⟨.func, .fragment 2⟩ := by decide +kernel
  obtain ⟨_, _, _, _, hkept, -⟩ := record_rollback h
  have hother : ['g'] ∉ e.fragment.declaredNames := by decide +kernel
  exact ⟨h, hg, (hkept ['g']).mpr fun _ hmem ↦ absurd hmem hother, by decide +kernel⟩

/-- A function that has taken the name of a variable is lost when the variable is taken back.  Its
body stays behind. -/
theorem rollback_loses_function :
    let w := run [.add (.ofLine "a := 1".toList),
      .declareFunction ⟨"func a() \x7b".toList, .line ['\x7d'] .nil⟩]
    w.entries.map Entry.id = [0] ∧ w.registry.get? ['a'] = some ⟨.func, .fragment 1⟩ ∧
      w.rollback.registry.get? ['a'] = none ∧ w.rollback.bodies.keys = [1] := by
  decide +kernel

end Workspace
end GoRepl
