import Mathlib.Order.Bounds.Basic
import GoRepl.Proofs.Agreement

/-!
# Resolution

What storing a use finds live and what it selects, in every workspace whose history is numbered
upwards, whose variables are owned by statements that declare them and whose marks agree
(`Workspace.Orderly`).  Storing statements, taking them back and resetting marks lead to no other
workspaces (`orderly_run`).

The live variables are those of the least set that has what the use references and what the owners
of its members reference (`Workspace.ClosedUnder`, `isLeast_dependsOn`).  The walk that finds them
visits each of them once, and neither the order in which variables are declared nor that in which
they wait to be visited makes a difference.
-/

namespace GoRepl

/-- Storing a statement, taking it back, and resetting marks. -/
def Operation.isEdit : Operation → Bool
  | .add _ | .rollback | .resetLiveness => true
  | .declareFunction _ | .declareImport _ | .scanFunctions _ | .scanImports _ => false

namespace Workspace

/-- Statements are numbered upwards, each variable is owned by a statement that declares it, and
names are marked as what they are declared as. -/
structure Orderly (w : Workspace) : Prop extends w.Grounded where
  agrees : w.registry.Agrees

/-- The set has the variables that the fragment references, and those that the owners of its members
reference. -/
structure ClosedUnder (w : Workspace) (f : Fragment) (S : Set Text) : Prop where
  referenced : ∀ n ∈ w.registry.names .var, f.references n = true → n ∈ S
  owner : ∀ m ∈ S, ∀ d, w.Owns d m → ∀ n ∈ w.registry.names .var,
    d.fragment.references n = true → n ∈ S

/-- The declarations in another order. -/
def reorder (w : Workspace) (declarations : Ledger Text Declaration) : Workspace :=
  { w with registry := { w.registry with declarations } }

/-! ## Orderly workspaces -/

theorem Reachable.orderly {w : Workspace} (hw : w.Reachable) (hagrees : w.registry.Agrees) :
    w.Orderly := ⟨hw.wellFormed.grounded, hagrees⟩

theorem Orderly.reorder {w : Workspace} (hw : w.Orderly) {declarations : Ledger Text Declaration}
    (hget : ∀ n, (w.reorder declarations).registry.get? n = w.registry.get? n) :
    (w.reorder declarations).Orderly where
  increasing := hw.increasing
  bounded := hw.bounded
  owned := by
    intro n
    rw [hget]
    exact hw.owned n
  agrees := by
    intro n kind hn
    simp only [Registry.mem_names, hget]
    exact Registry.mem_names.mp (hw.agrees n kind hn)

theorem get?_reorder {w : Workspace} {declarations : Ledger Text Declaration}
    (h : declarations.entries.Perm w.registry.declarations.entries) (n : Text) :
    (w.reorder declarations).registry.get? n = w.registry.get? n := by
  refine Option.ext fun d ↦ ?_
  change declarations.get? n = some d ↔ w.registry.declarations.get? n = some d
  rw [← Ledger.mem_entries, ← Ledger.mem_entries, h.mem_iff]

section Edits

variable {ops : List Operation}

/-- Where only statements are stored, all records are those of variables. -/
theorem kind_of_recorded (hops : ∀ op ∈ ops, op.isEdit = true) {n : Text} {d : Declaration}
    (h : (run ops).Recorded n d) : d.kind = .var := by
  induction ops using List.reverseRecOn with
  | nil => simp [Recorded, run, Registry.get?] at h
  | append_singleton ops op ih =>
    have hearlier : (run ops).Recorded n d → d.kind = .var :=
      ih fun op hop ↦ hops op (List.mem_append_left _ hop)
    have hop : op.isEdit = true := hops op (by simp)
    rw [run_concat] at h
    rcases recorded_apply h with h | ⟨hrollback, h⟩
    · exact hearlier h
    · cases op with
      | add f =>
        simp only [apply, get?_add] at h
        split at h
        · rw [← Option.some.inj h]
        · exact hearlier (.inl h)
      | rollback => exact absurd rfl hrollback
      | resetLiveness => exact hearlier (.inl h)
      | declareFunction | declareImport | scanFunctions | scanImports => cases hop

theorem agrees_of_isEdit (hops : ∀ op ∈ ops, op.isEdit = true) : (run ops).registry.Agrees := by
  induction ops using List.reverseRecOn with
  | nil => exact fun n kind hn ↦ by cases hn
  | append_singleton ops op ih =>
    have hearlier : ∀ op ∈ ops, op.isEdit = true := fun op hop ↦
      hops op (List.mem_append_left _ hop)
    rw [run_concat]
    by_cases hop : op = .rollback
    · subst hop
      refine (agrees_rollback (ih hearlier)).mpr ?_
      -- a mark and a record of two kinds are not to be had, for there is only one
      rintro ⟨e, he, n, kind, d, hn, hbefore, hkind⟩
      obtain ⟨owner, ho⟩ := Registry.mem_names.mp (ih hearlier n kind hn)
      have hmark : kind = .var := kind_of_recorded hearlier (.inl ho)
      have hnote := kind_of_recorded hearlier (.inr ⟨e, List.mem_of_mem_head? he, hbefore⟩)
      exact hkind (hnote.trans hmark.symm)
    · exact (keepsMarks_apply _ hop).agrees (ih hearlier)

theorem orderly_run (hops : ∀ op ∈ ops, op.isEdit = true) : (run ops).Orderly :=
  (reachable_run ops).orderly (agrees_of_isEdit hops)

end Edits

/-! ## The least set -/

/-- What a fragment depends on is least. -/
theorem isLeast_dependsOn {w : Workspace} (hw : w.Grounded) (f : Fragment) :
    IsLeast {S | w.ClosedUnder f S} {n | w.DependsOn f n} := by
  have howner : ∀ {n}, n ∈ w.registry.names .var → ∃ e, w.Owns e n := by
    intro n hn
    obtain ⟨owner, ho⟩ := Registry.mem_names.mp hn
    obtain ⟨e, he, -⟩ := exists_owns hw ho
    exact ⟨e, he⟩
  refine ⟨⟨fun n hn href ↦ ?_, fun m hm d hd n hn href ↦ ?_⟩, fun S hS n hn ↦ ?_⟩
  · obtain ⟨e, he⟩ := howner hn
    exact .references he href
  · obtain ⟨e, he⟩ := howner hn
    exact .through hm hd href he
  · induction hn with
    | references he href => exact hS.referenced _ (Registry.mem_names.mpr ⟨_, he.2⟩) href
    | through _ hd href he ih =>
      exact hS.owner _ ih _ hd _ (Registry.mem_names.mpr ⟨_, he.2⟩) href

theorem DependsOn.exists_owns {w : Workspace} {f : Fragment} {n : Text} (h : w.DependsOn f n) :
    ∃ e, w.Owns e n := by
  cases h with
  | references he => exact ⟨_, he⟩
  | through _ _ _ he => exact ⟨_, he⟩

/-- The walk comes to each of the variables once. -/
theorem nodup_liveVariables {w : Workspace} (hw : w.Grounded) (p : FragmentId) :
    ((w.liveVariables p).map Binding.name).Nodup := by
  obtain ⟨visited, hperm, hsub⟩ := Binding.liveFrom_subperm w.bindings
    (((w.fragment? p).map Fragment.tokens).getD [])
  have hnames : (w.bindings.map Binding.name).Nodup := by
    rw [hw.map_name_bindings]
    exact Registry.nodup_names _ _
  exact (hperm.map _).nodup_iff.mp (hnames.sublist (hsub.map _))

/-! ## Storing a use -/

section Use

variable {w : Workspace} {f : Fragment} (hf : f.isDeclaration = false)

include hf

/-- The marks are those from before and those of the variables that are found live. -/
theorem registry_add_use : (w.add f).registry = w.registry.allocate.markAll .var
    (((w.add f).liveVariables w.registry.nextId).map Binding.name) := by
  let stored : Workspace :=
    { w with registry := w.registry.allocate, entries := (w.add f).entries }
  have hds : (w.add f).registry.declarations = stored.registry.declarations := by
    unfold add
    simp [hf, stored]
  have hlive : (w.add f).liveVariables w.registry.nextId =
      stored.liveVariables w.registry.nextId :=
    liveVariables_congr (v := w.add f) (w := stored) rfl hds _
  rw [hlive]
  unfold stored add
  simp only [hf, Bool.false_eq_true, if_false]
  rfl

section Grounded

variable (hw : w.Grounded)

include hw

theorem dependsOn_add_use {n : Text} : (w.add f).DependsOn f n ↔ w.DependsOn f n :=
  ⟨.mono fun _ _ ↦ (owns_add_use_iff hw hf).mp, .mono fun _ _ ↦ (owns_add_use_iff hw hf).mpr⟩

/-- The walk comes to the variables that the use depends on. -/
theorem mem_map_name_liveVariables {n : Text} :
    n ∈ ((w.add f).liveVariables w.registry.nextId).map Binding.name ↔ w.DependsOn f n := by
  obtain ⟨p, hes, hid, rfl, -⟩ := exists_entry_add w f
  have hp : p ∈ (w.add p.fragment).entries := hes ▸ List.mem_cons_self
  rw [← hid, List.mem_map, ← dependsOn_add_use hf hw]
  simp only [mem_liveVariables (hw.add _) hp]
  constructor
  · rintro ⟨_, ⟨m, e, -, hm, rfl⟩, rfl⟩
    exact hm
  · intro hn
    obtain ⟨e, he⟩ := hn.exists_owns
    exact ⟨_, ⟨n, e, he, hn, rfl⟩, rfl⟩

/-- The use comes last, and of the statements before it those are chosen that own a variable which
it depends on, and the uses of such a variable from its declaration on. -/
theorem emitted_add_use :
    ∃ earlier : List Entry, (w.add f).emitted = earlier.map Entry.fragment ++ [f] ∧
      earlier.Sublist w.entries.reverse ∧
      ∀ e ∈ w.entries, e ∈ earlier ↔
        (e.declares = true ∧ ∃ n, w.DependsOn f n ∧ w.Owns e n) ∨
        (e.declares = false ∧ ∃ n, w.DependsOn f n ∧ ∃ d, w.Owns d n ∧ d.id ≤ e.id ∧
          e.fragment.references n = true) := by
  have hself := nextId_mem_emission_add hw hf
  obtain ⟨p, hes, hid, rfl, -⟩ := exists_entry_add w f
  refine ⟨w.entries.reverse.filter fun e ↦ (w.add p.fragment).emission.contains e.id, ?_,
    List.filter_sublist, fun e he ↦ ?_⟩
  · have hlast : (w.add p.fragment).emission.contains p.id = true :=
      List.contains_iff_mem.mpr (hid ▸ hself)
    unfold emitted
    rw [hes, List.reverse_cons, List.filter_append, List.map_append, List.filter_singleton, hlast]
    rfl
  · rw [List.mem_filter, List.mem_reverse, and_iff_right he, List.contains_iff_mem,
      mem_emission_add hw hf (hes ▸ List.mem_cons_self) hid (hes ▸ List.mem_cons_of_mem p he)]
    simp only [← dependsOn_add_use hf hw, ← owns_add_use_iff hw hf]
    constructor
    · rintro (rfl | ⟨hown, hn⟩ | ⟨hdecl, hd, hn, hle, href⟩)
      · exact absurd (hw.bounded e he) (hid ▸ Nat.lt_irrefl _)
      · exact .inl ⟨(hown.declares (hw.add _)).1, _, hn, hown⟩
      · exact .inr ⟨hdecl, _, hn, _, hd, hle, href⟩
    · rintro (⟨-, n, hn, hown⟩ | ⟨hdecl, n, hn, d, hd, hle, href⟩)
      · exact .owner hown hn
      · exact .user hdecl hd hn hle href

end Grounded

variable (hw : w.Orderly)

include hw

theorem isLive_add_use_iff {kind : Kind} {n : Text} :
    (w.add f).registry.isLive kind n = true ↔
      w.registry.isLive kind n = true ∨ (kind = .var ∧ w.DependsOn f n) := by
  rw [registry_add_use hf, Registry.isLive_markAll (r := w.registry.allocate) hw.agrees,
    mem_map_name_liveVariables hf hw.toGrounded, eq_comm (a := Kind.var)]
  refine or_congr_right (and_congr_right fun _ ↦ and_iff_left_of_imp fun hn ↦ ?_)
  obtain ⟨e, he⟩ := hn.exists_owns
  exact Registry.mem_names.mpr ⟨_, he.2⟩

/-- The order of the declarations does not matter. -/
theorem add_reorder {declarations : Ledger Text Declaration}
    (hperm : declarations.entries.Perm w.registry.declarations.entries) :
    ((w.reorder declarations).add f).emitted = (w.add f).emitted ∧
      ((w.reorder declarations).add f).registry.isLive = (w.add f).registry.isLive := by
  have hv := hw.reorder (get?_reorder hperm)
  have howns : ∀ {e n}, (w.reorder declarations).Owns e n ↔ w.Owns e n := by
    intro e n
    unfold Owns
    rw [get?_reorder hperm]
    rfl
  have hused : ∀ {e n}, ((w.reorder declarations).add f).Owns e n ↔ (w.add f).Owns e n := by
    intro e n
    rw [owns_add_use_iff hv.toGrounded hf, howns, owns_add_use_iff hw.toGrounded hf]
  have hdepends : ∀ {n}, (w.reorder declarations).DependsOn f n ↔ w.DependsOn f n := fun {n} ↦
    ⟨.mono fun _ _ ↦ howns.mp, .mono fun _ _ ↦ howns.mpr⟩
  constructor
  · have hes : ((w.reorder declarations).add f).entries = (w.add f).entries := by
      rw [entries_add, entries_add]
      simp [hf, reorder]
    obtain ⟨p, hp, hid, -⟩ := exists_entry_add w f
    have hselect : ((w.reorder declarations).add f).select p.id = (w.add f).select p.id :=
      select_eq_of_needs (hv.toGrounded.add f) (hw.toGrounded.add f) hes
        (hp ▸ List.mem_cons_self) fun e _ ↦ ⟨.mono fun _ _ ↦ hused.mp, .mono fun _ _ ↦ hused.mpr⟩
    unfold emitted
    rw [hes, emission_add_use hf, emission_add_use hf, ← hid, ← hselect, hid]
    rfl
  · funext kind n
    rw [Bool.eq_iff_iff, isLive_add_use_iff hf hv, isLive_add_use_iff hf hw, hdepends]
    rfl

end Use

/-- Storing a use finds the variables live that it depends on: the least set that has what the use
references and what the owners of members reference.  Marks are added to these alone, and the walk
comes to each of them once.  The statements of the program are the use itself, the declarations that
own one of them, and the earlier uses of one from its declaration on, in history order.  In which
order variables are declared, or stand in the lists of the walk, makes no difference.

The workspaces that this is said of include all that storing statements, taking them back and
resetting marks lead to. -/
theorem add_resolves_least :
    (∀ ops : List Operation, (∀ op ∈ ops, op.isEdit = true) → (run ops).Orderly) ∧
    (∀ (w : Workspace) (f : Fragment), w.Orderly → f.isDeclaration = false →
      ∃ R : Set Text, IsLeast {S | w.ClosedUnder f S} R ∧
        (∀ kind n, (w.add f).registry.isLive kind n = true ↔
          w.registry.isLive kind n = true ∨ (kind = .var ∧ n ∈ R)) ∧
        (((w.add f).liveVariables w.registry.nextId).map Binding.name).Nodup ∧
        (∀ n, n ∈ ((w.add f).liveVariables w.registry.nextId).map Binding.name ↔ n ∈ R) ∧
        (∃ earlier : List Entry, (w.add f).emitted = earlier.map Entry.fragment ++ [f] ∧
          earlier.Sublist w.entries.reverse ∧ (earlier.map Entry.id).Pairwise (· < ·) ∧
          ∀ e ∈ w.entries, e ∈ earlier ↔
            (e.declares = true ∧ ∃ n ∈ R, w.Owns e n) ∨
            (e.declares = false ∧ ∃ n ∈ R, ∃ d, w.Owns d n ∧ d.id ≤ e.id ∧
              e.fragment.references n = true)) ∧
        ∀ declarations : Ledger Text Declaration,
          declarations.entries.Perm w.registry.declarations.entries →
          ((w.reorder declarations).add f).emitted = (w.add f).emitted ∧
            ((w.reorder declarations).add f).registry.isLive = (w.add f).registry.isLive) ∧
    ∀ (unseen unseen' pending pending' : List Binding), unseen.Perm unseen' →
      pending.Perm pending' →
      ∀ b, b ∈ Binding.closure unseen pending ↔ b ∈ Binding.closure unseen' pending' := by
  refine ⟨fun _ ↦ orderly_run, fun w f hw hf ↦ ⟨{n | w.DependsOn f n}, ?_, fun kind n ↦ ?_, ?_, ?_,
    ?_, fun declarations ↦ add_reorder hf hw⟩, fun _ _ _ _ hunseen hpending b ↦ ?_⟩
  · exact isLeast_dependsOn hw.toGrounded f
  · exact isLive_add_use_iff hf hw
  · exact nodup_liveVariables (hw.toGrounded.add f) _
  · exact fun n ↦ mem_map_name_liveVariables hf hw.toGrounded
  · obtain ⟨earlier, hemitted, hsub, hmem⟩ := emitted_add_use hf hw.toGrounded
    refine ⟨earlier, hemitted, hsub, ?_, hmem⟩
    have hincreasing : (w.entries.reverse.map Entry.id).Pairwise (· < ·) := by
      rw [List.map_reverse, List.pairwise_reverse]
      exact hw.increasing
    exact hincreasing.sublist (hsub.map _)
  · exact ⟨(Binding.closure_subset_closure hunseen.subset hpending.subset ·),
      (Binding.closure_subset_closure hunseen.symm.subset hpending.symm.subset ·)⟩

/-- Two variables that their owners reference in turn, an earlier use of one of them, and one that
comes before its declaration. -/
theorem add_resolves_least_cycle :
    let lines := ["a := 1", "show(a)", "b := a", "a := b", "b = 2", "c := 5", "show(c)"]
    let ops := lines.map fun line ↦ Operation.add (.ofLine line.toList)
    let f := Fragment.ofLine "fmt.Println(a)".toList
    (run ops).Orderly ∧ f.isDeclaration = false ∧
      ((run ops).add f).emitted =
        ["b := a", "a := b", "b = 2", "fmt.Println(a)"].map (.ofLine ·.toList) ∧
      ∃ R : Set Text, IsLeast {S | (run ops).ClosedUnder f S} R ∧
        (∀ kind n, ((run ops).add f).registry.isLive kind n = true ↔
          (run ops).registry.isLive kind n = true ∨ (kind = .var ∧ n ∈ R)) ∧
        ['a'] ∈ R ∧ ['b'] ∈ R ∧ ['c'] ∉ R := by
  intro lines ops f
  have hw : (run ops).Orderly := add_resolves_least.1 ops (by decide)
  have hf : f.isDeclaration = false := by decide +kernel
  obtain ⟨R, hleast, hlive, -, hwalk, -⟩ := add_resolves_least.2.1 (run ops) f hw hf
  have hnames : (((run ops).add f).liveVariables (run ops).registry.nextId).map Binding.name =
      [['a'], ['b']] := by decide +kernel
  simp only [hnames] at hwalk
  refine ⟨hw, hf, by decide +kernel, R, hleast, hlive, ?_, ?_, ?_⟩
  · exact (hwalk _).mp (by decide)
  · exact (hwalk _).mp (by decide)
  · exact fun h ↦ absurd ((hwalk _).mpr h) (by decide)

end Workspace
end GoRepl
