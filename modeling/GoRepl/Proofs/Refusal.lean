import GoRepl.Proofs.Calls
import GoRepl.Proofs.Deeds
import GoRepl.Proofs.Pending
import GoRepl.Proofs.Resolution

/-!
# Refusal

A use is refused, and not run, just in case nothing has been stored before it, no function waits for
the next program, and the use itself refers neither to a function nor to a package
(`Session.refused_iff`).

The session finds this out in a roundabout way: it stores the use, scans, and asks whether anything
is marked.  That comes to the same, for a scan finds nothing where nothing was marked and the
statements of the program refer to no function and no package (`Workspace.live_scan_eq_empty_iff`),
and a session without statements has no variables that the use could mark.
-/

namespace GoRepl

/-! ## Scans that find nothing -/

namespace Registry

theorem live_eq_empty_iff_isLive {r : Registry} :
    r.live = .empty ↔ ∀ kind n, r.isLive kind n = false := by
  simp only [live_eq_empty_iff, Bool.eq_false_iff, ne_eq, isLive_iff]
  exact forall_comm

theorem hasLive_eq_false_iff {r : Registry} : r.hasLive = false ↔ r.live = .empty := by
  unfold hasLive
  rw [Bool.not_eq_false', List.isEmpty_iff]
  exact ⟨fun h ↦ Ledger.ext h, fun h ↦ h ▸ rfl⟩

end Registry

namespace Workspace

section Scan

variable {w : Workspace} (hw : w.registry.Agrees)

include hw

/-- Of what is not a package, a scan leaves marked what the scan of functions does. -/
theorem isLive_scan_of_ne {kind : Kind} (hk : kind ≠ .package) (n : Text) :
    w.scan.registry.isLive kind n = (w.scanFunctions w.emitted).registry.isLive kind n := by
  rw [Bool.eq_iff_iff]
  unfold scan
  rw [isLive_scanImports (agrees_scanFunctions hw _)]
  simp [hk.symm]

/-- Where no function is marked and none is referred to, a scan finds none. -/
theorem isLive_func_scan_eq_false (hnone : ∀ n, w.registry.isLive .func n = false)
    (href : ∀ g ∈ w.emitted, ∀ n ∈ w.registry.names .func, g.references n = false) (n : Text) :
    w.scan.registry.isLive .func n = false := by
  -- the empty set is closed under calls
  have hclosed : w.ClosedUnderCalls w.emitted ∅ := by
    refine ⟨fun m hm ↦ ?_, fun g hg m hm h ↦ ?_, fun _ hm ↦ hm.elim⟩
    · simp [hnone m] at hm
    · simp [href g hg m hm] at h
  rw [isLive_scan_of_ne hw (by simp), Bool.eq_false_iff]
  exact fun hn ↦ (isLeast_scanFunctions _ hw).2 hclosed hn

/-- A scan leaves nothing marked just in case nothing was marked before, and the statements of the
program refer to no function and no package. -/
theorem live_scan_eq_empty_iff :
    w.scan.registry.live = .empty ↔ w.registry.live = .empty ∧
      ∀ g ∈ w.emitted, ∀ kind, kind ≠ .var → ∀ n ∈ w.registry.names kind,
        g.references n = false := by
  simp only [Registry.live_eq_empty_iff_isLive]
  constructor
  · intro hnone
    refine ⟨fun kind n ↦ ?_, fun g hg kind hk n hn ↦ ?_⟩
    · rw [Bool.eq_false_iff]
      intro hn
      cases kind with
      | func => exact absurd (isLive_func_scan_of_isLive hw hn) (by simp [hnone])
      | package => exact absurd ((isLive_package_scan hw n).mpr (.inl hn)) (by simp [hnone])
      | var =>
        have hscan := hnone .var n
        rw [isLive_scan_of_ne hw (by simp), isLive_scanFunctions_of_ne _ hw (by simp), hn] at hscan
        cases hscan
    · rw [Bool.eq_false_iff]
      intro href
      cases kind with
      | var => exact hk rfl
      | func =>
        have hscan := hnone .func n
        rw [isLive_scan_of_ne hw (by simp)] at hscan
        exact absurd ((closedUnderCalls_scanFunctions _ hw).referenced g hg n hn href)
          (by simp [hscan])
      | package =>
        refine absurd ((isLive_package_scan hw n).mpr (.inr ⟨hn, ?_⟩)) (by simp [hnone])
        exact List.any_eq_true.mpr ⟨g, List.mem_append_left _ hg, href⟩
  · rintro ⟨hnone, href⟩
    have hfuncs := isLive_func_scan_eq_false hw (hnone .func)
      fun g hg ↦ href g hg .func (by simp)
    intro kind n
    cases kind with
    | func => exact hfuncs n
    | var =>
      rw [isLive_scan_of_ne hw (by simp), isLive_scanFunctions_of_ne _ hw (by simp), hnone]
    | package =>
      -- no body is live, so only the statements of the program are left to refer to a package
      have hbodies : w.scan.liveBodies = [] := by
        refine List.eq_nil_iff_forall_not_mem.mpr fun g hg ↦ ?_
        obtain ⟨m, -, hm, -⟩ := mem_liveBodies.mp hg
        simp [hfuncs m] at hm
      rw [Bool.eq_false_iff]
      intro hn
      rcases (isLive_package_scan hw n).mp hn with hn | ⟨hname, huse⟩
      · simp [hnone] at hn
      · rw [hbodies, List.append_nil] at huse
        obtain ⟨g, hg, hgn⟩ := List.any_eq_true.mp huse
        simp [href g hg .package (by simp) n hname] at hgn

end Scan

/-! ## The first use -/

theorem history_eq_nil_iff {w : Workspace} : w.history = [] ↔ w.entries = [] := by
  simp [history]

section First

variable {w : Workspace} (hes : w.entries = [])

include hes

/-- A workspace without statements has no variables. -/
theorem WellFormed.names_var_eq_nil (hw : w.WellFormed) : w.registry.names .var = [] := by
  refine List.eq_nil_iff_forall_not_mem.mpr fun n hn ↦ ?_
  obtain ⟨owner, ho⟩ := Registry.mem_names.mp hn
  obtain ⟨e, he, -⟩ := hw.owned n owner ho
  simp [hes] at he

theorem emitted_add_first (hw : w.WellFormed) {f : Fragment} (hf : f.isDeclaration = false) :
    (w.add f).emitted = [f] := by
  obtain ⟨earlier, hemitted, hsub, -⟩ := emitted_add_use hf hw.grounded
  obtain rfl : earlier = [] := by simpa [hes] using hsub
  exact hemitted

/-- Where there are no variables, a use marks nothing. -/
theorem live_add_first (hw : w.WellFormed) {f : Fragment} (hf : f.isDeclaration = false) :
    (w.add f).registry.live = w.registry.live := by
  rw [registry_add_use hf, Registry.markAll_eq_self]
  · rfl
  · intro n _
    rw [Bool.eq_false_iff]
    intro h
    have hn := (Registry.isMarkable_iff.mp h).1
    change n ∈ w.registry.names .var at hn
    simp [hw.names_var_eq_nil hes] at hn

end First

end Workspace

namespace Session

open Workspace

/-- There is nothing that a use could stand on: no statement has been stored before it, no function
waits for the next program, and it refers to no function and no package. -/
structure Baseless (s : Session) (f : Fragment) : Prop where
  history : s.workspace.history = []
  unmarked : ∀ n, s.workspace.registry.isLive .func n = false
  functions : ∀ n ∈ s.workspace.registry.names .func, f.references n = false
  packages : ∀ n ∈ s.workspace.registry.names .package, f.references n = false

section Refusal

variable {s : Session} {line : Text} {source : List SourceItem} {f : Fragment}

/-- Between turns, nothing is marked if no function is. -/
theorem Reachable.live_eq_empty_iff (hs : s.Reachable) :
    s.workspace.registry.live = .empty ↔ ∀ n, s.workspace.registry.isLive .func n = false := by
  rw [Registry.live_eq_empty_iff_isLive]
  refine ⟨fun h ↦ h .func, fun h kind n ↦ Bool.eq_false_iff.mpr fun hn ↦ ?_⟩
  obtain rfl := hs.marksFunctions.kind n kind (Registry.isLive_iff.mp hn)
  simp [h n] at hn

/-- What the session looks at comes to the same. -/
theorem baseless_iff (hs : s.Reachable) (hf : f.isDeclaration = false) :
    s.Baseless f ↔ (s.workspace.add f).scan.entries.length = 1 ∧
      (s.workspace.add f).scan.registry.hasLive = false := by
  have hwf := hs.workspace.wellFormed
  have hadded : (s.workspace.add f).registry.declarations = s.workspace.registry.declarations :=
    declarations_add_use hf
  have hfirst : (s.workspace.add f).scan.entries.length = 1 ↔ s.workspace.entries = [] := by
    change (s.workspace.add f).entries.length = 1 ↔ _
    simp
  rw [hfirst, Registry.hasLive_eq_false_iff,
    live_scan_eq_empty_iff (agrees_add hs.marksFunctions.agrees hf)]
  simp only [Registry.names_congr hadded]
  constructor
  · intro h
    have hes := history_eq_nil_iff.mp h.history
    rw [live_add_first hes hwf hf, emitted_add_first hes hwf hf, hs.live_eq_empty_iff]
    refine ⟨hes, h.unmarked, fun g hg kind hk n hn ↦ ?_⟩
    obtain rfl := List.mem_singleton.mp hg
    cases kind with
    | var => exact absurd rfl hk
    | func => exact h.functions n hn
    | package => exact h.packages n hn
  · rintro ⟨hes, hlive, href⟩
    rw [live_add_first hes hwf hf, hs.live_eq_empty_iff] at hlive
    rw [emitted_add_first hes hwf hf] at href
    have href := href f List.mem_cons_self
    exact ⟨history_eq_nil_iff.mpr hes, hlive, href .func (by simp), href .package (by simp)⟩

theorem interpretRun_ne_notDeclared {path : Text}
    {answer : Except Fault (Except RunError RunOutput)} :
    interpretRun path answer ≠ .error .notDeclared := by
  unfold interpretRun interpret
  split
  · simp
  · simp
  · split <;> simp

/-- What the turn of a use comes to: it is refused, or its program is to be run. -/
theorem step_start_of_use (hs : s.Reachable) (hf : IsUse line source f) :
    let stored : Session := { s with workspace := s.workspace.add f }
    (s.Baseless f → (s.start line source).step = .settled (.failed .notDeclared)
      { s with workspace := (s.workspace.add f).scan.rollback.resetLiveness }) ∧
    (¬ s.Baseless f → (s.start line source).step =
      .demands (.run s.programFile stored.program) fun answer ↦
        match interpretRun s.programFile answer with
        | .ok out => (.output out, stored.assembled)
        | .error e =>
          (.failed e, { s with workspace := stored.assembled.workspace.rollback })) := by
  intro stored
  have hscan := scan_scan (agrees_add hs.marksFunctions.agrees hf.use)
  have hprogram : stored.program = s.template.render (s.workspace.add f).scan.regions := rfl
  rw [step_start_of_statement s hf.statement hf.read, storeStatement_use s hf.use,
    baseless_iff hs hf.use]
  refine ⟨fun h ↦ if_pos h, fun h ↦ ?_⟩
  rw [if_neg h, hscan]
  rfl

end Refusal

/-- A use is refused just in case there is nothing that it could stand on.  Then nothing is done
outside, and the history is empty again.  Any other use is stored, and the program that the session
stands for with it is written to the file and run from there once, if the file can be written. -/
theorem refused_iff {s : Session} {line : Text} {source : List SourceItem} {f : Fragment}
    (hs : s.Reachable) (hf : IsUse line source f) :
    let step := (s.start line source).step
    let program := Session.program { s with workspace := s.workspace.add f }
    (∀ o s', step.Ends o s' → (o = .failed .notDeclared ↔ s.Baseless f) ∧
      (s.Baseless f → s'.workspace.history = [])) ∧
    ∀ (σ : Type) (host : Host (StateM σ)) (memory : σ),
      (s.Baseless f → host.deeds step memory = []) ∧
      (¬ s.Baseless f → host.deeds step memory = .write s.programFile program ::
        if (host.write s.programFile program memory).1 = .ok () then [.run s.programFile]
        else []) := by
  intro step program
  obtain ⟨hrefused, hrun⟩ := step_start_of_use hs hf
  refine ⟨fun o s' h ↦ ?_, fun σ host memory ↦ ⟨fun hbase ↦ ?_, fun hbase ↦ ?_⟩⟩
  · by_cases hbase : s.Baseless f
    · rw [show step = _ from hrefused hbase] at h
      cases h
      refine ⟨iff_of_true rfl hbase, fun _ ↦ ?_⟩
      rw [history_eq_nil_iff]
      exact (entries_rollback (w := (s.workspace.add f).scan) (entries_add ..)).trans
        (history_eq_nil_iff.mp hbase.history)
    · rw [show step = _ from hrun hbase] at h
      refine ⟨iff_of_false (fun ho ↦ ?_) hbase, fun h ↦ absurd h hbase⟩
      cases h with
      | answered settle a =>
        cases ha : interpretRun s.programFile a with
        | ok out => simp [ha] at ho
        | error e =>
          obtain rfl : e = .notDeclared := by simpa [ha] using ho
          exact interpretRun_ne_notDeclared ha
  · rw [show step = _ from hrefused hbase]
    exact host.deeds_settled memory _ _
  · exact host.deeds_run memory (congrArg Step.demand? (hrun hbase))

/-- A package and a function have been declared.  One use calls a function that has not, the other
one the function that has. -/
theorem refused_iff_undeclared :
    let s := played "import \"os\"\nfunc f() \x7b\n\x7d\n"
    let unknown : Text := "g(x)".toList
    let known : Text := "f(x)".toList
    let program := Session.program { s with workspace := s.workspace.add (.ofLine known.trim) }
    s.Reachable ∧ IsUse unknown [] (.ofLine unknown.trim) ∧ IsUse known [] (.ofLine known.trim) ∧
      s.Baseless (.ofLine unknown.trim) ∧ ¬ s.Baseless (.ofLine known.trim) ∧
      rejecting.deeds (s.start unknown []).step () = [] ∧
      rejecting.deeds (s.start known []).step () =
        [.write "main.go".toList program, .run "main.go".toList] ∧
      ((rejecting.finish (s.start unknown []).step).run ()).1.1 = .failed .notDeclared := by
  intro s unknown known program
  have hs : s.Reachable := reachable_played _
  have hunknown : IsUse unknown [] (.ofLine unknown.trim) :=
    isUse_ofLine [] (by decide +kernel) (by decide +kernel) (by decide +kernel)
  have hknown : IsUse known [] (.ofLine known.trim) :=
    isUse_ofLine [] (by decide +kernel) (by decide +kernel) (by decide +kernel)
  have hbase : s.Baseless (.ofLine unknown.trim) :=
    ⟨by decide +kernel, hs.live_eq_empty_iff.mp (by decide +kernel), by decide +kernel,
      by decide +kernel⟩
  have hnot : ¬ s.Baseless (.ofLine known.trim) := fun h ↦
    absurd (h.functions ['f'] (by decide +kernel)) (by decide +kernel)
  refine ⟨hs, hunknown, hknown, hbase, hnot, ?_, ?_, ?_⟩
  · exact ((refused_iff hs hunknown).2 Unit rejecting ()).1 hbase
  · have hfile : s.programFile = "main.go".toList := by decide +kernel
    refine (((refused_iff hs hknown).2 Unit rejecting ()).2 hnot).trans ?_
    rw [hfile]
    rfl
  · exact ((refused_iff hs hunknown).1 _ _ (rejecting.ends_finish _ ())).1.mpr hbase

end Session
end GoRepl
