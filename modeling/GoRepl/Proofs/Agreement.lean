import GoRepl.Proofs.Assembling
import GoRepl.Proofs.Operations

/-!
# Agreement

When marks and records agree (`Registry.Agrees`), over all operations in any order.

Every operation but one keeps the law (`keepsMarks_apply`).  The exception is to take a declaration
back.  A name may get a record of another kind then, and it keeps a mark that it has
(`Workspace.Disturbs`).  So marks agree throughout a run just in case no rollback of it disturbs
them (`marks_agree`).  A name that is marked as something else is neither live as what it is
declared as, nor can it be marked as that.
-/

namespace GoRepl

namespace Registry

/-- The mark of a name, if it has one, says what the name is declared as. -/
def AgreesAt (r : Registry) (n : Text) : Prop :=
  ∀ kind, r.live.get? n = some kind → n ∈ r.names kind

/-- Marks are never overwritten, so a name is live after it has been found in use unless it was
marked as something else. -/
theorem isLive_markAll_of_mem {r : Registry} {kind : Kind} {ms : List Text} {n : Text}
    (hn : n ∈ r.names kind) (hms : r.isMarkable kind n = true → n ∈ ms) :
    (r.markAll kind ms).isLive kind n = true ↔ r.AgreesAt n := by
  rw [isLive_iff, get?_live_markAll]
  cases hlive : r.live.get? n with
  | none =>
    have hmarkable := isMarkable_iff.mpr ⟨hn, hlive⟩
    rw [if_pos ⟨hms hmarkable, hmarkable⟩]
    exact iff_of_true rfl fun k hk ↦ by simp [hlive] at hk
  | some k =>
    have hmarked : ¬ r.isMarkable kind n = true := fun h ↦
      absurd (isMarkable_iff.mp h).2 (by simp [hlive])
    rw [if_neg fun h ↦ hmarked h.2]
    constructor
    · rintro ⟨⟩ k' hk'
      cases hlive.symm.trans hk'
      exact hn
    · intro h
      rw [kind_eq_of_mem_names hn (h k hlive)]

theorem get?_live_restore (r : Registry) (m n : Text) (previous : Option Declaration) :
    (r.restore m previous).live.get? n =
      if (n, none) = (m, previous) then none else r.live.get? n := by
  cases previous with
  | some d => simp [restore]
  | none =>
    change (r.live.erase m).get? n = _
    rw [Ledger.get?_erase]
    simp [eq_comm]

/-- A name loses its mark if one of the records put back is none. -/
theorem get?_live_restoreAll (r : Registry) (displaced : List (Text × Option Declaration))
    (n : Text) :
    (r.restoreAll displaced).live.get? n =
      if (n, none) ∈ displaced then none else r.live.get? n := by
  induction displaced generalizing r with
  | nil => rfl
  | cons note displaced ih =>
    obtain ⟨m, previous⟩ := note
    refine (ih (r.restore m previous)).trans ?_
    rw [get?_live_restore]
    by_cases hn : (n, none) ∈ displaced <;> simp [hn]

/-- Marked names are declared. -/
def MarksDeclared (r : Registry) : Prop :=
  ∀ n kind, r.live.get? n = some kind → ∃ kind', n ∈ r.names kind'

theorem KeepsMarks.marksDeclared {r q : Registry} (h : r.KeepsMarks q) (hr : r.MarksDeclared) :
    q.MarksDeclared := by
  intro n kind hn
  rcases h.right_or_kept n kind hn with hright | ⟨hn, hkept⟩
  · exact ⟨kind, hright⟩
  · obtain ⟨kind', hk⟩ := hr n kind hn
    exact ⟨kind', hkept kind' hk⟩

end Registry

namespace Workspace

open Registry

/-- No operation but a rollback gives a mark that is wrong or makes a mark wrong. -/
theorem keepsMarks_apply (w : Workspace) {op : Operation} (hop : op ≠ .rollback) :
    w.registry.KeepsMarks (w.apply op).registry := by
  cases op with
  | rollback => exact absurd rfl hop
  | add f =>
    simp only [apply, Workspace.add]
    cases f.isDeclaration with
    | true => exact (KeepsMarks.allocate _).trans (.declareNames ..)
    | false => exact (KeepsMarks.allocate _).trans (.markAll ..)
  | declareFunction f =>
    rcases w.apply_declareFunction f with h | ⟨name, h⟩
    · rw [h]
      exact .refl _
    · unfold declareFunction? at h
      obtain ⟨m, -, hm⟩ := Option.map_eq_some_iff.mp h
      rw [← (Prod.mk.inj hm).2]
      exact ((KeepsMarks.allocate _).trans (.record ..)).trans (.markAll ..)
  | declareImport spec => exact (KeepsMarks.forget _ _).trans (.record ..)
  | scanFunctions users => exact .markAll ..
  | scanImports users => exact .markAll ..
  | resetLiveness => exact .resetLiveness _

/-! ## Taking a declaration back -/

/-- When the latest statement is taken back, a name that has a mark gets a record of another kind
back. -/
def Disturbs (w : Workspace) : Prop :=
  ∃ e ∈ w.entries.head?, ∃ n kind d, w.registry.live.get? n = some kind ∧
    e.before? n = some (some d) ∧ d.kind ≠ kind

/-- The names that had no record before a declaration are those noted to have had none. -/
theorem mem_declareNames_displaced (id : FragmentId) (names : List Text) (r : Registry) (n : Text) :
    (n, none) ∈ (declareNames id names r).2 ↔ n ∈ names ∧ r.get? n = none := by
  have haux : ∀ (r : Registry) (noted : List (Text × Option Declaration)),
      (n, none) ∈ (names.foldl (fun after name ↦
        (after.1.record .var name (.fragment id), (name, after.1.get? name) :: after.2))
        (r, noted)).2 ↔
        (n, none) ∈ noted ∨ (n ∈ names ∧ r.get? n = none) := by
    induction names with
    | nil => simp
    | cons m names ih =>
      intro r noted
      rw [List.foldl_cons, ih, get?_record, List.mem_cons, List.mem_cons, Prod.mk.injEq]
      by_cases hmn : m = n
      · subst hmn
        simp [eq_comm, or_comm]
      · simp [hmn, Ne.symm hmn]
  exact (haux r []).trans (by simp)

/-- So a name is noted to have had none just in case it had none. -/
theorem mem_displaced_of_entries_add {v : Workspace} {f : Fragment} {e : Entry} {es : List Entry}
    (h : (v.add f).entries = e :: es) (n : Text) :
    (n, none) ∈ e.displaced ↔ e.before? n = some none := by
  rw [before?_of_entries_add h, ← (List.cons.inj ((entries_add v f).symm.trans h)).1]
  cases f.isDeclaration with
  | true => simp [mem_declareNames_displaced]
  | false => simp

section Rollback

variable {ops : List Operation} {e : Entry} {es : List Entry} (h : (run ops).entries = e :: es)

include h

theorem mem_displaced_iff (n : Text) : (n, none) ∈ e.displaced ↔ e.before? n = some none := by
  have htop : e :: es <:+ (run ops).entries := h ▸ List.suffix_rfl
  obtain ⟨before, -, -, hadd⟩ := exists_add htop
  exact mem_displaced_of_entries_add hadd n

/-- Only the names that had no record lose their marks. -/
theorem get?_live_rollback (n : Text) :
    (run ops).rollback.registry.live.get? n =
      if e.before? n = some none then none else (run ops).registry.live.get? n := by
  rw [registry_rollback h, get?_live_restoreAll]
  simp only [mem_displaced_iff h]

/-- A name that keeps its mark has the record that it had, or gets one back. -/
theorem mark_rollback {n : Text} {kind : Kind}
    (hn : (run ops).rollback.registry.live.get? n = some kind) :
    (run ops).registry.live.get? n = some kind ∧
      ((run ops).rollback.registry.get? n = (run ops).registry.get? n ∨
        ∃ d, e.before? n = some (some d) ∧ (run ops).rollback.registry.get? n = some d) := by
  rw [get?_live_rollback h] at hn
  rw [get?_rollback h]
  rcases hbefore : e.before? n with - | - | d
  · rw [hbefore, if_neg (by simp)] at hn
    exact ⟨hn, .inl rfl⟩
  · simp [hbefore] at hn
  · rw [hbefore, if_neg (by simp)] at hn
    exact ⟨hn, .inr ⟨d, rfl, rfl⟩⟩

end Rollback

theorem agrees_rollback {ops : List Operation} (hops : (run ops).registry.Agrees) :
    (run ops).rollback.registry.Agrees ↔ ¬ (run ops).Disturbs := by
  cases hes : (run ops).entries with
  | nil =>
    rw [rollback_nil hes]
    exact ⟨fun _ ⟨e, he, _⟩ ↦ by simp [hes] at he, fun _ ↦ hops⟩
  | cons e es =>
    constructor
    · -- the mark is still there, and its name is now what `d` says
      rintro h ⟨e', he', n, kind, d, hn, hbefore, hkind⟩
      obtain rfl : e = e' := by simpa [hes] using he'
      have hmark : (run ops).rollback.registry.live.get? n = some kind := by
        rw [get?_live_rollback hes, hbefore, if_neg (by simp), hn]
      obtain ⟨owner, ho⟩ := mem_names.mp (h n kind hmark)
      rw [get?_rollback hes, hbefore] at ho
      exact hkind (congrArg Declaration.kind (Option.some.inj ho))
    · intro h n kind hn
      obtain ⟨hn, hsame | ⟨d, hbefore, hback⟩⟩ := mark_rollback hes hn
      · rw [mem_names, hsame]
        exact mem_names.mp (hops n kind hn)
      · have hkind : d.kind = kind := by
          by_contra hkind
          exact h ⟨e, by simp [hes], n, kind, d, hn, hbefore, hkind⟩
        exact mem_names.mpr ⟨d.owner, by rw [hback, ← hkind]⟩

/-- Marks agree after each of the operations as long as none of them is a rollback that
disturbs. -/
theorem agrees_run (ops : List Operation) :
    (∀ before, before <+: ops → (run before).registry.Agrees) ↔
      ∀ before, before ++ [.rollback] <+: ops → ¬ (run before).Disturbs :=
  forall_prefix_iff (P := fun w ↦ w.registry.Agrees) (fun n kind hn ↦ by cases hn)
    (fun _ _ hop h ↦ (keepsMarks_apply _ hop).agrees h) (fun _ h ↦ agrees_rollback h) ops

theorem agrees_of_rollback_not_mem {ops : List Operation} (hops : .rollback ∉ ops) :
    (run ops).registry.Agrees := by
  refine (agrees_run ops).mpr (fun before hbefore ↦ ?_) ops (List.prefix_refl _)
  exact absurd (hbefore.subset (List.mem_append_right _ List.mem_cons_self)) hops

theorem marksDeclared_run (ops : List Operation) : (run ops).registry.MarksDeclared := by
  induction ops using List.reverseRecOn with
  | nil => exact fun n kind hn ↦ by simp [run] at hn
  | append_singleton ops op ih =>
    rw [run_concat]
    by_cases hop : op = .rollback
    · subst hop
      change (run ops).rollback.registry.MarksDeclared
      cases hes : (run ops).entries with
      | nil => rwa [rollback_nil hes]
      | cons e es =>
        intro n kind hn
        obtain ⟨hn, hsame | ⟨d, -, hback⟩⟩ := mark_rollback hes hn
        · simpa only [mem_names, hsame] using ih n kind hn
        · exact ⟨d.kind, mem_names.mpr ⟨d.owner, hback⟩⟩
    · exact (keepsMarks_apply _ hop).marksDeclared ih

/-! ## Finding names live -/

theorem isLive_scanFunctions_of_mem {w : Workspace} {users : List Fragment} {n : Text}
    (hn : n ∈ w.registry.names .func) (href : users.any (·.references n) = true) :
    (w.scanFunctions users).registry.isLive .func n = true ↔ w.registry.AgreesAt n := by
  obtain ⟨f, hf, href⟩ := List.any_eq_true.mp href
  refine isLive_markAll_of_mem hn fun hmarkable ↦ ?_
  exact mem_reached_of_references (mem_unmarked.mpr ⟨hn, hmarkable⟩)
    (List.mem_reverse.mpr (List.mem_append_left _ hf)) href

theorem isLive_scanImports_of_mem {w : Workspace} {users : List Fragment} {n : Text}
    (hn : n ∈ w.registry.names .package) (href : users.any (·.references n) = true) :
    (w.scanImports users).registry.isLive .package n = true ↔ w.registry.AgreesAt n := by
  refine isLive_markAll_of_mem hn fun _ ↦ List.mem_filter.mpr ⟨hn, ?_⟩
  rw [List.any_flatMap]
  exact href

/-- Every marked name is declared.  It is declared as what it is marked as, in all states that a run
goes through, just in case no rollback in it gives a marked name a record of another kind back.  And
a function or a package that the scanned fragments refer to is live after the scan just in case it
had no mark, or one that agrees. -/
theorem marks_agree (ops : List Operation) :
    (run ops).registry.MarksDeclared ∧
    ((∀ before, before <+: ops → (run before).registry.Agrees) ↔
      ∀ before, before ++ [.rollback] <+: ops → ¬ (run before).Disturbs) ∧
    ∀ users n, users.any (·.references n) = true →
      (n ∈ (run ops).registry.names .func →
        (((run ops).scanFunctions users).registry.isLive .func n = true ↔
          (run ops).registry.AgreesAt n)) ∧
      (n ∈ (run ops).registry.names .package →
        (((run ops).scanImports users).registry.isLive .package n = true ↔
          (run ops).registry.AgreesAt n)) :=
  ⟨marksDeclared_run ops, agrees_run ops, fun _ _ href ↦
    ⟨fun hn ↦ isLive_scanFunctions_of_mem hn href, fun hn ↦ isLive_scanImports_of_mem hn href⟩⟩

/-- The marks are reset before the variable is taken back that shadows the function. -/
theorem marks_agree_reset :
    let ops : List Operation :=
      [.declareFunction (.ofLine "func a() 1".toList), .add (.ofLine "a := 1".toList),
        .add (.ofLine "show(a)".toList), .rollback, .resetLiveness, .rollback]
    let users := [Fragment.ofLine "a()".toList]
    users.any (·.references ['a']) = true ∧ ['a'] ∈ (run ops).registry.names .func ∧
      ((run ops).scanFunctions users).registry.isLive .func ['a'] = true := by
  intro ops users
  have href : users.any (·.references ['a']) = true := by decide +kernel
  have hn : ['a'] ∈ (run ops).registry.names .func := by decide +kernel
  have hlive : (run ops).registry.live.get? ['a'] = none := by decide +kernel
  exact ⟨href, hn, (((marks_agree ops).2.2 users ['a'] href).1 hn).mpr
    fun kind hkind ↦ absurd hkind (by simp [hlive])⟩

/-- A variable shadows a function and is marked; when it is taken back, the function has the mark of
the variable, and is not found live. -/
theorem mark_of_variable_stays :
    let ops : List Operation :=
      [.declareFunction ⟨"func a() \x7b".toList, .line ['\x7d'] .nil⟩,
        .add (.ofLine "a := 1".toList), .add (.ofLine "show(a)".toList), .rollback, .rollback]
    let users := [Fragment.ofLine "a()".toList]
    (run ops).registry.get? ['a'] = some ⟨.func, .fragment 0⟩ ∧
      (run ops).registry.live.get? ['a'] = some .var ∧ users.any (·.references ['a']) = true ∧
      ((run ops).scanFunctions users).registry.isLive .func ['a'] = false := by
  decide +kernel

end Workspace
end GoRepl
