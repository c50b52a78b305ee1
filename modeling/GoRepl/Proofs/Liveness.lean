import Mathlib.Data.List.Perm.Subperm
import GoRepl.Workspace.Statements

/-!
# Live variables

`Binding.liveFrom` works through a list of pending variables and cuts what each of them brings out
of the list of those not yet seen.  `Binding.Live` is the set it is meant to compute: the least one
that contains every variable mentioned by the tokens and is closed under `Binding.brings`.

`Binding.mem_liveFrom` says that the two agree.  Soundness is an induction principle for the
members of the closure; completeness is that the closure holds all that is pending and that nothing
unseen which one of its members brings is left out.  In what order variables stand in the lists does
not matter, and none is visited more often than it stands there (`closure_subset_closure`,
`closure_subperm`).
-/

namespace GoRepl

open scoped List

theorem mem_partition_fst {α : Type} {p : α → Bool} {l : List α} {a : α} :
    a ∈ (l.partition p).1 ↔ a ∈ l ∧ p a = true := by
  rw [List.partition_eq_filter_filter, List.mem_filter]

theorem mem_partition_snd {α : Type} {p : α → Bool} {l : List α} {a : α} :
    a ∈ (l.partition p).2 ↔ a ∈ l ∧ p a ≠ true := by
  rw [List.partition_eq_filter_filter, List.mem_filter]
  simp

theorem partition_append_perm {α : Type} (p : α → Bool) (l : List α) :
    (l.partition p).1 ++ (l.partition p).2 ~ l := by
  rw [List.partition_eq_filter_filter]
  exact List.filter_append_perm p l

namespace Binding

/-- The variables that tokens reference, directly or through the owners of others. -/
inductive Live (all : List Binding) (tokens : List Text) : Binding → Prop
  /-- A variable that one of the tokens refers to. -/
  | mentioned {b : Binding} : b ∈ all → tokens.any (Token.refersTo · b.name) = true →
      Live all tokens b
  /-- A variable that the owner of a live one refers to. -/
  | brought {a b : Binding} : Live all tokens a → b ∈ all → a.brings b = true → Live all tokens b

/-! ## The closure -/

/-- What is pending belongs to the closure. -/
theorem mem_closure_of_mem_pending (unseen pending : List Binding) {b : Binding}
    (h : b ∈ pending) : b ∈ closure unseen pending := by
  fun_induction closure unseen pending with
  | case1 => simp at h
  | case2 unseen a pending brought ih =>
    rcases List.mem_cons.mp h with rfl | h
    · exact List.mem_cons_self
    · exact List.mem_cons_of_mem _ (ih (List.mem_append_right _ h))

/-- A property of all that is pending holds of the closure if those unseen inherit it from the
variables that bring them. -/
theorem closure_induction {P : Binding → Prop} {unseen pending : List Binding}
    (hpending : ∀ b ∈ pending, P b)
    (hbrings : ∀ a b, P a → b ∈ unseen → a.brings b = true → P b) :
    ∀ b ∈ closure unseen pending, P b := by
  fun_induction closure unseen pending with
  | case1 => simp
  | case2 unseen a pending brought ih =>
    have ha : P a := hpending a List.mem_cons_self
    have hnew : ∀ b ∈ brought.1 ++ pending, P b := by
      intro b hb
      rcases List.mem_append.mp hb with hb | hb
      · obtain ⟨hu, hab⟩ := mem_partition_fst.mp hb
        exact hbrings a b ha hu hab
      · exact hpending b (List.mem_cons_of_mem _ hb)
    intro b hb
    rcases List.mem_cons.mp hb with rfl | hb
    · exact ha
    · exact ih hnew (fun c d hc hd ↦ hbrings c d hc (mem_partition_snd.mp hd).1) b hb

/-- Whatever unseen variable a member of the closure brings is a member too. -/
theorem mem_closure_of_brings {unseen pending : List Binding} {a b : Binding}
    (ha : a ∈ closure unseen pending) (hb : b ∈ unseen) (hab : a.brings b = true) :
    b ∈ closure unseen pending := by
  fun_induction closure unseen pending with
  | case1 => simp at ha
  | case2 unseen c pending brought ih =>
    by_cases hcb : c.brings b = true
    · exact List.mem_cons_of_mem _ (mem_closure_of_mem_pending _ _
        (List.mem_append_left _ (mem_partition_fst.mpr ⟨hb, hcb⟩)))
    · rcases List.mem_cons.mp ha with rfl | ha
      · exact absurd hab hcb
      · exact List.mem_cons_of_mem _ (ih ha (mem_partition_snd.mpr ⟨hb, hcb⟩))

/-- No variable is visited more often than it is given. -/
theorem closure_subperm (unseen pending : List Binding) :
    (closure unseen pending).Subperm (pending ++ unseen) := by
  fun_induction closure unseen pending with
  | case1 => exact List.nil_subperm
  | case2 unseen b pending brought ih =>
    have hperm : brought.1 ++ pending ++ brought.2 ~ pending ++ unseen := calc
      brought.1 ++ pending ++ brought.2
      _ ~ pending ++ brought.1 ++ brought.2 := List.perm_append_comm.append_right _
      _ ~ pending ++ (brought.1 ++ brought.2) := .of_eq (List.append_assoc ..)
      _ ~ pending ++ unseen := (partition_append_perm b.brings unseen).append_left _
    exact (List.subperm_cons b).mpr (ih.trans hperm.subperm)

/-- Only the members of the two lists matter for the members of the closure, not their order. -/
theorem closure_subset_closure {unseen pending unseen' pending' : List Binding}
    (hunseen : unseen ⊆ unseen') (hpending : pending ⊆ pending') :
    closure unseen pending ⊆ closure unseen' pending' := by
  refine closure_induction (fun b hb ↦ ?_) fun a b ha hb hab ↦ ?_
  · exact mem_closure_of_mem_pending _ _ (hpending hb)
  · exact mem_closure_of_brings ha (hunseen hb) hab

/-- The worklist computes the least set. -/
theorem mem_liveFrom {all : List Binding} {tokens : List Text} {b : Binding} :
    b ∈ liveFrom all tokens ↔ Live all tokens b := by
  have hmentioned : ∀ {c : Binding}, c ∈ all → tokens.any (Token.refersTo · c.name) = true →
      c ∈ liveFrom all tokens := fun hc ht ↦
    mem_closure_of_mem_pending _ _ (mem_partition_fst.mpr ⟨hc, ht⟩)
  constructor
  · refine closure_induction ?_ ?_ b
    · intro c hc
      obtain ⟨hc, ht⟩ := mem_partition_fst.mp hc
      exact .mentioned hc ht
    · intro a c ha hc hac
      exact .brought ha (mem_partition_snd.mp hc).1 hac
  · intro h
    induction h with
    | mentioned hc ht => exact hmentioned hc ht
    | @brought a c _ hc hac ih =>
      by_cases ht : tokens.any (Token.refersTo · c.name) = true
      · exact hmentioned hc ht
      · exact mem_closure_of_brings ih (mem_partition_snd.mpr ⟨hc, ht⟩) hac

theorem liveFrom_subperm (all : List Binding) (tokens : List Text) :
    (liveFrom all tokens).Subperm all :=
  (closure_subperm _ _).trans (partition_append_perm _ all).subperm

end Binding
end GoRepl
