import Mathlib.Data.List.Forall2
import Mathlib.Order.Bounds.Basic
import GoRepl.Proofs.Agreement

/-!
# Calls

Which functions a scan finds live, in every workspace that has a body for each function
(`Workspace.HasBodies`) and whose marks agree: the least set that has the functions live before,
those that the scanned fragments reference and those that the bodies of its members reference
(`Workspace.ClosedUnderCalls`).

The scan marks while it walks, and takes the body found last first.  Soundness and completeness of
the walk are inductions on it (`reached_induction`, `mem_reached_of_body`); that the set is least
frees the result from the order of the walk and of the fragments.
-/

namespace GoRepl.Workspace

/-- Every function has a stored body. -/
def HasBodies (w : Workspace) : Prop :=
  ∀ n owner, w.registry.get? n = some ⟨.func, owner⟩ →
    ∃ id f, owner = .fragment id ∧ w.bodies.get? id = some f

/-- The set has the live functions, those that one of the fragments references, and those that the
bodies of its members reference. -/
structure ClosedUnderCalls (w : Workspace) (users : List Fragment) (S : Set Text) : Prop where
  live : ∀ n, w.registry.isLive .func n = true → n ∈ S
  referenced : ∀ f ∈ users, ∀ n ∈ w.registry.names .func, f.references n = true → n ∈ S
  called : ∀ m ∈ S, ∀ g, body? w.bodies w.registry m = some g →
    ∀ n ∈ w.registry.names .func, g.references n = true → n ∈ S

/-- Only the members of the list of fragments matter, not their order or number. -/
theorem closedUnderCalls_congr {w : Workspace} {users users' : List Fragment}
    (h : ∀ f, f ∈ users' ↔ f ∈ users) {S : Set Text} :
    w.ClosedUnderCalls users' S ↔ w.ClosedUnderCalls users S :=
  ⟨fun hS ↦ ⟨hS.live, fun f hf ↦ hS.referenced f ((h f).mpr hf), hS.called⟩,
    fun hS ↦ ⟨hS.live, fun f hf ↦ hS.referenced f ((h f).mp hf), hS.called⟩⟩

theorem Reachable.hasBodies {w : Workspace} (hw : w.Reachable) : w.HasBodies :=
  fun n owner hn ↦ hw.embodied.stored n owner (recorded_iff.mp (.inl hn))

theorem HasBodies.exists_body {w : Workspace} (hw : w.HasBodies) {n : Text}
    (hn : n ∈ w.registry.names .func) : ∃ g, body? w.bodies w.registry n = some g := by
  obtain ⟨owner, ho⟩ := Registry.mem_names.mp hn
  obtain ⟨id, g, rfl, hg⟩ := hw n owner ho
  refine ⟨g, ?_⟩
  unfold body?
  rw [Registry.owner?_eq_some.mpr ho]
  exact hg

/-- Where each element has an image, the images stand in the order of the elements. -/
theorem forall₂_filterMap {α β : Type} {f : α → Option β} {l : List α}
    (h : ∀ a ∈ l, ∃ b, f a = some b) : List.Forall₂ (fun a b ↦ f a = some b) l (l.filterMap f) := by
  induction l with
  | nil => exact .nil
  | cons a l ih =>
    obtain ⟨b, hb⟩ := h a List.mem_cons_self
    rw [List.filterMap_cons_some hb]
    exact .cons hb (ih fun c hc ↦ h c (List.mem_cons_of_mem _ hc))

/-! ## What a scan leaves alone -/

section Frame

variable (w : Workspace) (users : List Fragment)

theorem declarations_scanFunctions :
    (w.scanFunctions users).registry.declarations = w.registry.declarations :=
  Registry.declarations_markAll ..

theorem names_scanFunctions (kind : Kind) :
    (w.scanFunctions users).registry.names kind = w.registry.names kind :=
  Registry.names_congr (declarations_scanFunctions w users) kind

theorem body?_scanFunctions :
    body? (w.scanFunctions users).bodies (w.scanFunctions users).registry =
      body? w.bodies w.registry := body?_congr (declarations_scanFunctions w users) rfl

end Frame

/-! ## What a scan finds -/

section Scan

variable {w : Workspace} (users : List Fragment)

/-- Soundness: a set that is closed under calls has all that the walk reaches. -/
theorem ClosedUnderCalls.mem_of_mem_reached {S : Set Text} (hS : w.ClosedUnderCalls users S)
    {n : Text} (hn : n ∈ reached (body? w.bodies w.registry) (unmarked w.registry)
      (users ++ w.liveBodies).reverse) : n ∈ S := by
  have hname : ∀ {m}, m ∈ unmarked w.registry → m ∈ w.registry.names .func :=
    fun hm ↦ (mem_unmarked.mp hm).1
  refine reached_induction (P := (· ∈ S)) (fun f hf m hm href ↦ ?_)
    (fun k g hk hg m hm ↦ hS.called k hk g hg m (hname hm)) n hn
  rcases List.mem_append.mp (List.mem_reverse.mp hf) with hf | hf
  · exact hS.referenced f hf m (hname hm) href
  · obtain ⟨k, -, hlive, hkf⟩ := mem_liveBodies.mp hf
    exact hS.called k (hS.live k hlive) f hkf m (hname hm) href

variable (hw : w.registry.Agrees)

include hw

/-- The live functions are those live before and those that the walk reaches. -/
theorem isLive_func_scanFunctions {n : Text} :
    (w.scanFunctions users).registry.isLive .func n = true ↔
      w.registry.isLive .func n = true ∨
        n ∈ reached (body? w.bodies w.registry) (unmarked w.registry)
          (users ++ w.liveBodies).reverse := by
  unfold scanFunctions
  rw [Registry.isLive_markAll hw]
  simp only [true_and]
  refine or_congr_right (and_iff_left_of_imp fun hn ↦ ?_)
  exact (mem_unmarked.mp ((reached_subperm ..).subset hn)).1

theorem mem_names_of_isLive {kind : Kind} {n : Text} (hn : w.registry.isLive kind n = true) :
    n ∈ w.registry.names kind := hw n kind (Registry.isLive_iff.mp hn)

/-- Completeness: after a scan the live functions are closed under calls, for none without a mark is
referred to. -/
theorem closedUnderCalls_scanFunctions :
    w.ClosedUnderCalls users {n | (w.scanFunctions users).registry.isLive .func n = true} := by
  have hsaturated := saturated_scanFunctions hw users
  have hafter := agrees_scanFunctions hw users
  have hmarked : ∀ n ∈ w.registry.names .func,
      ∀ f ∈ users ++ (w.scanFunctions users).liveBodies, f.references n = true →
        (w.scanFunctions users).registry.isLive .func n = true := by
    intro n hn f hf href
    rw [← names_scanFunctions w users] at hn
    by_contra hlive
    have hunmarked := mem_unmarked.mpr
      ⟨hn, hafter.isMarkable_iff.mpr ⟨hn, Bool.eq_false_iff.mpr hlive⟩⟩
    exact absurd href (by simp [hsaturated n hunmarked f hf])
  refine ⟨fun n hn ↦ ?_, fun f hf n hn ↦ ?_, fun m hm g hg n hn ↦ ?_⟩
  · exact (isLive_func_scanFunctions users hw).mpr (.inl hn)
  · exact hmarked n hn f (List.mem_append_left _ hf)
  · refine hmarked n hn g (List.mem_append_right _ (mem_liveBodies.mpr ⟨m, ?_, hm, ?_⟩))
    · exact mem_names_of_isLive hafter hm
    · rwa [body?_scanFunctions]

theorem isLeast_scanFunctions :
    IsLeast {S | w.ClosedUnderCalls users S}
      {n | (w.scanFunctions users).registry.isLive .func n = true} := by
  refine ⟨closedUnderCalls_scanFunctions users hw, fun S hS n hn ↦ ?_⟩
  rcases (isLive_func_scanFunctions users hw).mp hn with hlive | hreached
  · exact hS.live n hlive
  · exact hS.mem_of_mem_reached users hreached

/-- The least set is the same for fragments in another order or number. -/
theorem isLive_func_scanFunctions_congr {users' : List Fragment}
    (h : ∀ f, f ∈ users' ↔ f ∈ users) (n : Text) :
    (w.scanFunctions users').registry.isLive .func n =
      (w.scanFunctions users).registry.isLive .func n := by
  have hsets : {S | w.ClosedUnderCalls users' S} = {S | w.ClosedUnderCalls users S} :=
    Set.ext fun S ↦ closedUnderCalls_congr h
  have hleast := isLeast_scanFunctions users' hw
  rw [hsets] at hleast
  have hsame := hleast.unique (isLeast_scanFunctions users hw)
  rw [Bool.eq_iff_iff]
  exact Set.ext_iff.mp hsame n

theorem isLive_scanFunctions_of_ne {kind : Kind} (hk : kind ≠ .func) (n : Text) :
    (w.scanFunctions users).registry.isLive kind n = w.registry.isLive kind n := by
  rw [Bool.eq_iff_iff]
  unfold scanFunctions
  rw [Registry.isLive_markAll hw]
  simp [hk.symm]

end Scan

/-- A scan of fragments makes the least set of functions live that has those live before, those that
the fragments reference and those that the bodies of its members reference.  The walk finds each
function once at most; fragments in another order or number make the same functions live, and a
scan that is repeated changes nothing.  Nothing but marks of functions changes, and the function
block is made of the present bodies of the live functions, each once, in declaration order. -/
theorem scanFunctions_least {w : Workspace} (hbodies : w.HasBodies) (hw : w.registry.Agrees)
    (users : List Fragment) :
    let after := w.scanFunctions users
    let members := (w.registry.names .func).filter (after.registry.isLive .func)
    IsLeast {S | w.ClosedUnderCalls users S} {n | after.registry.isLive .func n = true} ∧
    (∀ n, after.registry.isLive .func n = true ↔ n ∈ members) ∧
    (reached (body? w.bodies w.registry) (unmarked w.registry)
      (users ++ w.liveBodies).reverse).Nodup ∧
    (∀ users' : List Fragment, (∀ f, f ∈ users' ↔ f ∈ users) →
      ∀ n, (w.scanFunctions users').registry.isLive .func n = after.registry.isLive .func n) ∧
    after.scanFunctions users = after ∧
    after = { w with registry := { w.registry with live := after.registry.live } } ∧
    (∀ kind, kind ≠ .func → ∀ n, after.registry.isLive kind n = w.registry.isLive kind n) ∧
    members.Nodup ∧
    ∃ bodies : List Fragment,
      after.functionBlock = List.intercalate ['\n', '\n'] (bodies.map (·.render 0)) ∧
      List.Forall₂ (fun n g ↦ body? w.bodies w.registry n = some g) members bodies := by
  intro after members
  have hnames : ∀ n, after.registry.isLive .func n = true → n ∈ w.registry.names .func :=
    fun n hn ↦ names_scanFunctions w users .func ▸
      mem_names_of_isLive (agrees_scanFunctions hw users) hn
  have hbody : ∀ n ∈ members, ∃ g, body? w.bodies w.registry n = some g :=
    fun n hn ↦ hbodies.exists_body (List.mem_filter.mp hn).1
  refine ⟨isLeast_scanFunctions users hw, fun n ↦ ?_, ?_,
    fun users' h ↦ isLive_func_scanFunctions_congr users hw h,
    (saturated_scanFunctions hw users).scanFunctions_eq, ?_,
    fun kind hk ↦ isLive_scanFunctions_of_ne users hw hk, (Registry.nodup_names ..).filter _,
    after.liveBodies, rfl, ?_⟩
  · exact ⟨fun hn ↦ List.mem_filter.mpr ⟨hnames n hn, hn⟩, fun hn ↦ (List.mem_filter.mp hn).2⟩
  · obtain ⟨found, hperm, hsub⟩ := reached_subperm (body? w.bodies w.registry)
      (unmarked w.registry) (users ++ w.liveBodies).reverse
    have hunmarked : (unmarked w.registry).Nodup := (Registry.nodup_names ..).filter _
    exact hperm.nodup_iff.mp (hunmarked.sublist hsub)
  · exact congrArg (fun registry : Registry ↦ { w with registry }) (Registry.markAll_eq ..)
  · have hlive : after.liveBodies = members.filterMap (body? w.bodies w.registry) := by
      unfold liveBodies
      rw [names_scanFunctions, body?_scanFunctions]
    rw [hlive]
    exact forall₂_filterMap hbody

/-- Two functions that call each other, one of them live since the other was declared; one that the
scanned fragment calls, with what its body calls; and one that nothing but itself calls. -/
theorem scanFunctions_least_mutual :
    let w := run (["func f() g()", "func g() f()", "func h() k()", "func m() m()",
      "func k() 1"].map fun line ↦ .declareFunction (.ofLine line.toList))
    let after := w.scanFunctions [.ofLine "fmt.Println(h())".toList]
    w.HasBodies ∧ w.registry.Agrees ∧ w.registry.liveNames .func = [['f']] ∧
      IsLeast {S | w.ClosedUnderCalls [.ofLine "fmt.Println(h())".toList] S}
        {n | after.registry.isLive .func n = true} ∧
      (w.registry.names .func).filter (after.registry.isLive .func) =
        [['f'], ['g'], ['h'], ['k']] ∧
      after.scanFunctions [.ofLine "fmt.Println(h())".toList] = after := by
  intro w after
  have hbodies : w.HasBodies := (reachable_run _).hasBodies
  have hw : w.registry.Agrees := agrees_of_rollback_not_mem (by decide)
  obtain ⟨hleast, -, -, -, hself, -⟩ :=
    scanFunctions_least hbodies hw [.ofLine "fmt.Println(h())".toList]
  exact ⟨hbodies, hw, by decide +kernel, hleast, by decide +kernel, hself⟩

end GoRepl.Workspace
