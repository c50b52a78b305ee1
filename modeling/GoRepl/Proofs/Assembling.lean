import GoRepl.Proofs.Marks

/-!
# Assembling

What assembling a program depends on.

* A scan goes all the way: afterwards neither a statement of the program nor a live body refers to
  a function without a mark (`Workspace.Saturated`).  So it changes nothing if it is repeated
  (`scan_scan`), and a program may be assembled from a workspace that has been scanned before.
* Variables matter only through the statements that are chosen for their sake.  Two workspaces with
  the same chosen statements, functions, packages and marks of these stand for the same program,
  whatever variables they have and whichever of those are marked (`Workspace.Alike`).
-/

namespace GoRepl

namespace Registry

/-- A name is marked as what it is declared as, so all that keeps it from being marked is that it is
live already. -/
theorem Agrees.isMarkable_iff {r : Registry} (hr : r.Agrees) {kind : Kind} {n : Text} :
    r.isMarkable kind n = true ↔ n ∈ r.names kind ∧ r.isLive kind n = false := by
  rw [Registry.isMarkable_iff]
  apply and_congr_right
  intro hn
  rw [Bool.eq_false_iff, Ne, isLive_iff, Option.eq_none_iff_forall_ne_some]
  refine ⟨fun h ↦ h kind, fun h kind' hk ↦ ?_⟩
  obtain rfl := kind_eq_of_mem_names hn (hr n kind' hk)
  exact h hk

theorem markAll_eq_self {r : Registry} {kind : Kind} {names : List Text}
    (h : ∀ n ∈ names, r.isMarkable kind n = false) : r.markAll kind names = r := by
  induction names with
  | nil => rfl
  | cons n names ih =>
    obtain ⟨hn, hnames⟩ := List.forall_mem_cons.mp h
    have hself : r.markLive kind n = r := by
      unfold markLive
      simp [hn]
    change (r.markLive kind n).markAll kind names = r
    rw [hself]
    exact ih hnames

/-- Marks are all that marking changes. -/
theorem markAll_eq (r : Registry) (kind : Kind) (names : List Text) :
    r.markAll kind names = { r with live := (r.markAll kind names).live } := by
  have hds := declarations_markAll r kind names
  have hid := nextId_markAll r kind names
  generalize r.markAll kind names = q at hds hid
  obtain ⟨declarations, live, nextId⟩ := q
  obtain rfl : declarations = r.declarations := hds
  obtain rfl : nextId = r.nextId := hid
  rfl

theorem resetLiveness_markAll (r : Registry) (kind : Kind) (names : List Text) :
    (r.markAll kind names).resetLiveness = r.resetLiveness := by
  rw [markAll_eq]
  rfl

end Registry

namespace Workspace

/-! ## A scan goes all the way -/

section Reached

variable {body? : Text → Option Fragment} {unseen : List Text} {pending : List Fragment} {n : Text}

theorem mem_reached_of_references {f : Fragment} (hn : n ∈ unseen) (hf : f ∈ pending)
    (href : f.references n = true) : n ∈ reached body? unseen pending := by
  fun_induction reached body? unseen pending with
  | case1 => cases hf
  | case2 unseen g pending tokens found ih =>
    by_cases hg : g.references n = true
    · exact List.mem_append_left _ (mem_partition_fst.mpr ⟨hn, hg⟩)
    · rcases List.mem_cons.mp hf with rfl | hf
      · exact absurd href hg
      · exact List.mem_append_right _
          (ih (mem_partition_snd.mpr ⟨hn, hg⟩) (List.mem_append_right _ hf))

/-- What the body of a function that is reached refers to is reached too. -/
theorem mem_reached_of_body {m : Text} {g : Fragment} (hm : m ∈ reached body? unseen pending)
    (hg : body? m = some g) (hn : n ∈ unseen) (href : g.references n = true) :
    n ∈ reached body? unseen pending := by
  fun_induction reached body? unseen pending with
  | case1 => cases hm
  | case2 unseen f pending tokens found ih =>
    by_cases hf : f.references n = true
    · exact List.mem_append_left _ (mem_partition_fst.mpr ⟨hn, hf⟩)
    · have hn' : n ∈ found.2 := mem_partition_snd.mpr ⟨hn, hf⟩
      apply List.mem_append_right
      rcases List.mem_append.mp hm with hm | hm
      · refine mem_reached_of_references hn' (List.mem_append_left _ ?_) href
        exact List.mem_reverse.mpr (List.mem_filterMap.mpr ⟨m, hm, hg⟩)
      · exact ih hm hn'

/-- A property of what the pending fragments refer to holds of all that is reached, if it passes on
from functions to what their bodies refer to. -/
theorem reached_induction {P : Text → Prop}
    (hpending : ∀ f ∈ pending, ∀ n ∈ unseen, f.references n = true → P n)
    (hbody : ∀ m g, P m → body? m = some g → ∀ n ∈ unseen, g.references n = true → P n) :
    ∀ n ∈ reached body? unseen pending, P n := by
  fun_induction reached body? unseen pending with
  | case1 => simp
  | case2 unseen f pending tokens found ih =>
    have hfound : ∀ n ∈ found.1, P n := by
      intro n hn
      obtain ⟨hu, href⟩ := mem_partition_fst.mp hn
      exact hpending f List.mem_cons_self n hu href
    have hrest : ∀ n ∈ found.2, n ∈ unseen := fun n hn ↦ (mem_partition_snd.mp hn).1
    intro n hn
    rcases List.mem_append.mp hn with hn | hn
    · exact hfound n hn
    · refine ih (fun g hg m hm href ↦ ?_)
        (fun m g hm hg k hk ↦ hbody m g hm hg k (hrest k hk)) n hn
      rcases List.mem_append.mp hg with hg | hg
      · obtain ⟨k, hk, hkg⟩ := List.mem_filterMap.mp (List.mem_reverse.mp hg)
        exact hbody k g (hfound k hk) hkg m (hrest m hm) href
      · exact hpending g (List.mem_cons_of_mem _ hg) m (hrest m hm) href

/-- No function is found more than once. -/
theorem reached_subperm (body? : Text → Option Fragment) (unseen : List Text)
    (pending : List Fragment) : (reached body? unseen pending).Subperm unseen := by
  fun_induction reached body? unseen pending with
  | case1 => exact List.nil_subperm
  | case2 unseen f pending tokens found ih =>
    exact ((List.subperm_append_left found.1).mpr ih).trans
      (partition_append_perm _ unseen).subperm

theorem reached_eq_nil (h : ∀ n ∈ unseen, ∀ f ∈ pending, f.references n = false) :
    reached body? unseen pending = [] := by
  induction pending generalizing unseen with
  | nil => simp [reached]
  | cons f pending ih =>
    have hf : ∀ n ∈ unseen, f.tokens.any (Token.refersTo · n) = false :=
      fun n hn ↦ h n hn f List.mem_cons_self
    have hnone : unseen.partition (fun n ↦ f.tokens.any (Token.refersTo · n)) = ([], unseen) := by
      rw [List.partition_eq_filter_filter, List.filter_eq_nil_iff.mpr, List.filter_eq_self.mpr]
      · exact fun n hn ↦ by simp [hf n hn]
      · exact fun n hn ↦ by simp [hf n hn]
    rw [reached]
    simp only [hnone, List.filterMap_nil, List.reverse_nil, List.nil_append]
    exact ih fun n hn f hf ↦ h n hn f (List.mem_cons_of_mem _ hf)

end Reached

/-- Neither the given fragments nor the live bodies refer to a function without a mark. -/
def Saturated (w : Workspace) (users : List Fragment) : Prop :=
  ∀ n ∈ unmarked w.registry, ∀ f ∈ users ++ w.liveBodies, f.references n = false

theorem mem_liveBodies {w : Workspace} {f : Fragment} :
    f ∈ w.liveBodies ↔ ∃ n ∈ w.registry.names .func, w.registry.isLive .func n = true ∧
      body? w.bodies w.registry n = some f := by
  unfold liveBodies
  simp only [List.mem_filterMap, List.mem_filter, and_assoc]

theorem mem_unmarked {r : Registry} {n : Text} :
    n ∈ unmarked r ↔ n ∈ r.names .func ∧ r.isMarkable .func n = true := List.mem_filter

theorem Saturated.scanFunctions_eq {w : Workspace} {users : List Fragment}
    (h : w.Saturated users) : w.scanFunctions users = w := by
  have hnone : reached (body? w.bodies w.registry) (unmarked w.registry)
      (users ++ w.liveBodies).reverse = [] :=
    reached_eq_nil fun n hn f hf ↦ h n hn f (List.mem_reverse.mp hf)
  unfold scanFunctions
  rw [hnone]
  rfl

theorem scanImports_scanImports (w : Workspace) (users : List Fragment) :
    (w.scanImports users).scanImports users = w.scanImports users := by
  let marked := (w.registry.names .package).filter fun name ↦
    (users.flatMap Fragment.tokens).any (Token.refersTo · name)
  have hself : (w.scanImports users).registry.markAll .package marked =
      (w.scanImports users).registry :=
    Registry.markAll_eq_self fun n hn ↦ Registry.isMarkable_markAll_of_mem hn
  have hnames : (w.scanImports users).registry.names .package = w.registry.names .package :=
    Registry.names_markAll ..
  rw [Workspace.scanImports]
  simp only [hnames]
  change { w.scanImports users with
    registry := (w.scanImports users).registry.markAll .package marked } = _
  rw [hself]

section Scan

variable {w : Workspace} (hw : w.registry.Agrees)

include hw

theorem saturated_scanFunctions (users : List Fragment) :
    (w.scanFunctions users).Saturated users := by
  intro n hn f hf
  let names := reached (body? w.bodies w.registry) (unmarked w.registry)
    (users ++ w.liveBodies).reverse
  have hds : (w.scanFunctions users).registry.declarations = w.registry.declarations := by
    simp [scanFunctions]
  obtain ⟨hname, hmarkable⟩ := mem_unmarked.mp hn
  change (w.registry.markAll .func names).isMarkable .func n = true at hmarkable
  have hunseen : n ∈ unmarked w.registry :=
    mem_unmarked.mpr ⟨Registry.names_congr hds _ ▸ hname, Registry.isMarkable_of_markAll hmarkable⟩
  have hpending : ∀ {g : Fragment}, g ∈ users ++ w.liveBodies → g.references n = true →
      n ∈ names := fun hg ↦ mem_reached_of_references hunseen (List.mem_reverse.mpr hg)
  rw [Bool.eq_false_iff]
  intro href
  have hreached : n ∈ names := by
    rcases List.mem_append.mp hf with hf | hf
    · exact hpending (List.mem_append_left _ hf) href
    · obtain ⟨m, hm, hlive, hbody⟩ := mem_liveBodies.mp hf
      rw [body?_congr hds rfl] at hbody
      rw [Registry.names_congr hds] at hm
      rcases (Registry.isLive_markAll hw ..).mp hlive with hlive | ⟨-, hreached, -⟩
      · exact hpending (List.mem_append_right _ (mem_liveBodies.mpr ⟨m, hm, hlive, hbody⟩)) href
      · exact mem_reached_of_body hreached hbody hunseen href
  -- whatever is reached has a mark by now
  rw [Registry.isMarkable_markAll_of_mem hreached] at hmarkable
  cases hmarkable

/-- Marking packages makes no body live. -/
theorem liveBodies_scanImports (users : List Fragment) :
    (w.scanImports users).liveBodies = w.liveBodies := by
  have hds : (w.scanImports users).registry.declarations = w.registry.declarations := by
    simp [scanImports]
  refine (liveBodies_congr (v := w) (w := w.scanImports users) hds rfl fun m ↦ ?_).symm
  rw [isLive_scanImports hw]
  simp

theorem Saturated.scanImports {users : List Fragment} (h : w.Saturated users)
    (others : List Fragment) : (w.scanImports others).Saturated users := by
  intro n hn f hf
  obtain ⟨hname, hmarkable⟩ := mem_unmarked.mp hn
  rw [liveBodies_scanImports hw] at hf
  refine h n (mem_unmarked.mpr ⟨?_, Registry.isMarkable_of_markAll hmarkable⟩) f hf
  exact Registry.names_markAll .. ▸ hname

/-- All that a scan finds is found at once. -/
theorem scan_scan : w.scan.scan = w.scan := by
  let found := w.scanFunctions w.emitted
  have hfound : found.registry.Agrees := agrees_scanFunctions hw _
  let users := found.emitted ++ found.liveBodies
  have hscan : w.scan = found.scanImports users := rfl
  have hfunctions : w.scan.scanFunctions w.scan.emitted = w.scan :=
    ((saturated_scanFunctions hw w.emitted).scanImports hfound users).scanFunctions_eq
  have husers : w.scan.emitted ++ w.scan.liveBodies = users := by
    rw [hscan, liveBodies_scanImports hfound]
    rfl
  calc w.scan.scan
      = w.scan.scanImports (w.scan.emitted ++ w.scan.liveBodies) := by
        rw [Workspace.scan, hfunctions]
    _ = (found.scanImports users).scanImports users := by rw [husers, hscan]
    _ = w.scan := scanImports_scanImports found users

end Scan

/-- Assembling the program leaves no trace but the marks that are used up. -/
theorem resetLiveness_scan (w : Workspace) : w.scan.resetLiveness = w.resetLiveness := by
  unfold scan scanImports scanFunctions resetLiveness
  simp only [Registry.resetLiveness_markAll]

theorem resetLiveness_eq_self {w : Workspace} (h : w.registry.live = .empty) :
    w.resetLiveness = w := by
  obtain ⟨⟨declarations, live, nextId⟩, entries, pinned, emission, specs, bodies⟩ := w
  cases h
  rfl

/-! ## Variables do not matter -/

/-- The same statements are chosen, and functions and packages are the same and marked alike. -/
structure Alike (v w : Workspace) : Prop where
  agrees : v.registry.Agrees
  agrees' : w.registry.Agrees
  declared : ∀ kind, kind ≠ .var → w.registry.declared kind = v.registry.declared kind
  isLive : ∀ kind, kind ≠ .var → w.registry.isLive kind = v.registry.isLive kind
  bodies : w.bodies = v.bodies
  emitted : w.emitted = v.emitted

namespace Alike

variable {v w : Workspace} (h : v.Alike w)

include h

theorem names {kind : Kind} (hk : kind ≠ .var) : w.registry.names kind = v.registry.names kind := by
  unfold Registry.names
  rw [h.declared kind hk]

theorem body? : body? w.bodies w.registry = body? v.bodies v.registry := by
  have howner : w.registry.owner? .func = v.registry.owner? .func := by
    funext n
    apply Option.ext
    intro owner
    rw [Registry.owner?_eq_some, Registry.owner?_eq_some, ← Registry.mem_declared,
      ← Registry.mem_declared, h.declared .func (by simp)]
  funext n
  unfold Workspace.body?
  rw [howner, h.bodies]

theorem liveBodies : w.liveBodies = v.liveBodies := by
  unfold Workspace.liveBodies
  rw [h.names (by simp), h.isLive .func (by simp), h.body?]

theorem unmarked : unmarked w.registry = unmarked v.registry := by
  unfold Workspace.unmarked
  rw [h.names (by simp)]
  refine List.filter_congr fun n hn ↦ ?_
  rw [Bool.eq_iff_iff, h.agrees'.isMarkable_iff, h.agrees.isMarkable_iff, h.names (by simp),
    h.isLive .func (by simp)]

theorem markAll {kind : Kind} (hk : kind ≠ .var) (ns : List Text) :
    ({ v with registry := v.registry.markAll kind ns } : Workspace).Alike
      { w with registry := w.registry.markAll kind ns } where
  agrees := h.agrees.markAll kind ns
  agrees' := h.agrees'.markAll kind ns
  declared := by
    intro kind' hk'
    simp only
    rw [Registry.declared_congr (Registry.declarations_markAll ..), h.declared kind' hk',
      Registry.declared_congr (Registry.declarations_markAll ..)]
  isLive := by
    intro kind' hk'
    funext n
    rw [Bool.eq_iff_iff, Registry.isLive_markAll h.agrees', Registry.isLive_markAll h.agrees,
      h.isLive kind' hk', h.names hk]
  bodies := h.bodies
  emitted := h.emitted

theorem scan : v.scan.Alike w.scan := by
  have hfunctions : (v.scanFunctions v.emitted).Alike (w.scanFunctions w.emitted) := by
    unfold scanFunctions
    rw [h.emitted, h.liveBodies, h.body?, h.unmarked]
    exact h.markAll (by simp) _
  unfold Workspace.scan scanImports
  have hpackages := hfunctions.names (show Kind.package ≠ .var by simp)
  simp only [hfunctions.emitted, hfunctions.liveBodies, hpackages]
  exact hfunctions.markAll (by simp) _

theorem regions : w.regions = v.regions := by
  unfold Workspace.regions importBlock functionBlock statementBlock
  rw [h.emitted, h.liveBodies, h.declared .package (by simp), h.isLive .package (by simp)]

end Alike

/-- Where only variables are marked, the program is the same without these marks. -/
theorem alike_resetLiveness {w : Workspace} (hw : w.registry.Agrees)
    (hlive : ∀ kind, kind ≠ .var → ∀ n, w.registry.isLive kind n = false) :
    w.Alike w.resetLiveness where
  agrees := hw
  agrees' := fun n kind hn ↦ by simp [resetLiveness, Registry.resetLiveness] at hn
  declared := fun _ _ ↦ rfl
  isLive := by
    intro kind hk
    funext n
    rw [hlive kind hk n]
    simp [Registry.isLive, resetLiveness, Registry.resetLiveness]
  bodies := rfl
  emitted := rfl

end Workspace
end GoRepl
