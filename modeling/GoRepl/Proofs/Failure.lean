import GoRepl.Proofs.Selection
import GoRepl.Proofs.Turn

/-!
# Failed turns

What a failed turn leaves behind.  The history, the pinned statement and the records of the names
are as they were before it.  The emission need not be: taking a use back does not restore the
emission, it selects anew, and by then a variable that some statement of the program was chosen for
may have been declared as a function or imported as a package.  Such a statement drops out of the
program although the pinned statement itself was never touched (`failed_turn`,
`failed_turn_loses_declaration`).
-/

namespace GoRepl

namespace Workspace

section Reachable

variable {w : Workspace} (hw : w.Reachable)

include hw

/-- Hiding variables adds no reason: all that is needed now was needed when the emission was
chosen. -/
theorem Reachable.emits_of_justifies {e : Entry} (he : e ∈ w.entries) (h : w.Justifies e) :
    w.Emits e := by
  obtain ⟨v, hv, hcur, hhides⟩ := hw.hides_current
  refine ⟨he, ?_⟩
  rw [hhides.emission, hcur]
  exact (mem_demanded hv (hhides.entries ▸ he)).mpr (hhides.justifies h)

/-- The emission is what is demanded now just in case each of its statements still has a reason to
be in it. -/
theorem Reachable.demanded_eq_iff :
    w.demanded = w.emission ↔ ∀ e, w.Emits e → w.Justifies e := by
  constructor
  · intro h e he
    exact (mem_demanded hw.wellFormed he.1).mp (h ▸ he.2)
  · intro h
    obtain ⟨v, hv, hcur, hhides⟩ := hw.hides_current
    rw [hhides.emission, hcur]
    refine demanded_eq_of_justifies hw.wellFormed hv hhides.entries hhides.pinned fun e he ↦ ?_
    refine ⟨hhides.justifies, fun hj ↦ h e ⟨hhides.entries ▸ he, ?_⟩⟩
    rw [hhides.emission, hcur]
    exact (mem_demanded hv he).mpr hj

/-- Where every name that a statement declared is still a variable, nothing drops out. -/
theorem Reachable.demanded_eq_of_names
    (h : ∀ e ∈ w.entries, e.declares = true → ∀ n ∈ e.fragment.declaredNames,
      n ∈ w.registry.names .var) : w.demanded = w.emission := by
  obtain ⟨v, hv, hcur, hhides⟩ := hw.hides_current
  have howns : ∀ e n, v.Owns e n → w.Owns e n := by
    intro e n he
    obtain ⟨hdecl, hn⟩ := he.declares hv
    have hmem : e ∈ w.entries := hhides.entries ▸ he.1
    obtain ⟨owner, ho⟩ := Registry.mem_names.mp (h e hmem hdecl n hn)
    have hsame := (hhides.vars n owner ho).symm.trans he.2
    exact ⟨hmem, ho.trans hsame⟩
  rw [hhides.emission, hcur]
  exact demanded_eq_of_justifies hw.wellFormed hv hhides.entries hhides.pinned fun e _ ↦
    ⟨hhides.justifies, fun hj ↦ hj.mono howns hhides.entries hhides.pinned⟩

end Reachable

theorem declarations_add_use {w : Workspace} {f : Fragment} (hf : f.isDeclaration = false) :
    (w.add f).registry.declarations = w.registry.declarations := by
  unfold Workspace.add
  simp [hf]

/-- Taking a use back, whatever has been marked since it was stored. -/
theorem rollback_use {w u : Workspace} {f : Fragment} (hf : f.isDeclaration = false)
    (hes : u.entries = (w.add f).entries)
    (hds : u.registry.declarations = w.registry.declarations) :
    u.rollback.entries = w.entries ∧ u.rollback.pinned = w.pinned ∧
      u.rollback.registry.declarations = w.registry.declarations ∧
      u.rollback.emission = w.demanded := by
  rw [entries_add] at hes
  have hreg := registry_rollback hes
  simp only [hf, Bool.false_eq_true, if_false, Registry.restoreAll, List.foldl_nil] at hreg
  have hds' : u.rollback.registry.declarations = w.registry.declarations := hreg ▸ hds
  refine ⟨entries_rollback hes, pinned_rollback hes, hds', ?_⟩
  exact (isCurrent_rollback hes).trans
    (demanded_congr (entries_rollback hes) (pinned_rollback hes) hds')

end Workspace

namespace Session

open Workspace

variable {s s' : Session} {line : Text} {source : List SourceItem} {e : TurnError}

/-- A failed turn changes no statement and no record. Either it is no use and the emission stays, or
the emission is selected anew. -/
theorem Turn.failed (h : s.Turn line source (.failed e) s') :
    s'.workspace.entries = s.workspace.entries ∧ s'.workspace.pinned = s.workspace.pinned ∧
      s'.workspace.registry.declarations = s.workspace.registry.declarations ∧
      (((∀ f, ¬ IsUse line source f) ∧ s'.workspace.emission = s.workspace.emission) ∨
        ((∃ f, IsUse line source f) ∧ s'.workspace.emission = s.workspace.demanded)) := by
  cases h with
  | unchanged hn => exact ⟨rfl, rfl, rfl, .inl ⟨hn, rfl⟩⟩
  | assembled hn => exact ⟨rfl, rfl, declarations_scan _, .inl ⟨hn, rfl⟩⟩
  | shown hn => exact ⟨rfl, rfl, rfl, .inl ⟨hn, rfl⟩⟩
  | @notDeclared f huse =>
    obtain ⟨hes, hpin, hds, hem⟩ := rollback_use (w := s.workspace)
      (u := (s.workspace.add f).scan) huse.use rfl
      ((declarations_scan _).trans (declarations_add_use huse.use))
    exact ⟨hes, hpin, hds, .inr ⟨⟨f, huse⟩, hem⟩⟩
  | @runFailed f _ huse =>
    obtain ⟨hes, hpin, hds, hem⟩ := rollback_use (w := s.workspace)
      (u := (s.workspace.add f).scan.scan.resetLiveness) huse.use rfl
      ((declarations_scan _).trans ((declarations_scan _).trans (declarations_add_use huse.use)))
    exact ⟨hes, hpin, hds, .inr ⟨⟨f, huse⟩, hem⟩⟩

/-- What a failed turn leaves behind.  A failed use takes those statements out of the program that
the pinned one does not need any more, as the names are declared now; so the program stays just in
case there are none, as when no variable has become a function or a package. -/
theorem failed_turn (hs : s.Reachable) (h : (s.start line source).step.Ends (.failed e) s') :
    s'.workspace.entries = s.workspace.entries ∧ s'.workspace.pinned = s.workspace.pinned ∧
    s'.workspace.registry.declarations = s.workspace.registry.declarations ∧
    (∀ d, s'.workspace.Emits d ↔
      s.workspace.Emits d ∧ ((∃ f, IsUse line source f) → s.workspace.Justifies d)) ∧
    (s'.workspace.emission = s.workspace.emission ↔
      ((∃ f, IsUse line source f) → ∀ d, s.workspace.Emits d → s.workspace.Justifies d)) ∧
    ((∀ d ∈ s.workspace.entries, d.declares = true → ∀ n ∈ d.fragment.declaredNames,
      n ∈ s.workspace.registry.names .var) →
      s'.workspace.emission = s.workspace.emission) := by
  have hw := hs.workspace
  obtain ⟨hes, hpin, hds, ⟨hn, hem⟩ | ⟨huse, hem⟩⟩ := (turn_of_ends h).failed
  · have hnone : ¬ ∃ f, IsUse line source f := fun ⟨f, hf⟩ ↦ hn f hf
    refine ⟨hes, hpin, hds, fun d ↦ ?_, ?_, fun _ ↦ hem⟩
    · simp [Emits, hes, hem, hnone]
    · simp [hem, hnone]
  · refine ⟨hes, hpin, hds, fun d ↦ ?_, ?_, fun hnames ↦ ?_⟩
    · simp only [huse, true_imp_iff]
      unfold Emits
      rw [hes, hem]
      constructor
      · rintro ⟨hd, hid⟩
        have hj := (mem_demanded hw.wellFormed hd).mp hid
        exact ⟨hw.emits_of_justifies hd hj, hj⟩
      · rintro ⟨hd, hj⟩
        exact ⟨hd.1, (mem_demanded hw.wellFormed hd.1).mpr hj⟩
    · simp only [huse, true_imp_iff]
      rw [hem]
      exact hw.demanded_eq_iff
    · rw [hem]
      exact hw.demanded_eq_of_names hnames

/-- A host whose toolchain rejects every program. -/
def rejecting : Host (StateM Unit) :=
  .answering (.ok ())
    (.ok { stderr := "# command-line-arguments\n./main.go:9:5: undefined: f\n".toList,
           success := false })
    (.error .unavailable)

theorem failed_turn_keeps_program :
    let s := played "a := 1\nfmt.Println(a)\nfunc b() \x7b\n\x7d\n"
    let ended := (rejecting.finish (s.start "f(b)".toList []).step).run () |>.1
    s.Reachable ∧ ended.1 = .failed (.compileFailure "# command-line-arguments".toList
        "9:5: undefined: f".toList []) ∧
      ended.2.workspace.emission = s.workspace.emission := by
  intro s ended
  have ho : ended.1 = .failed (.compileFailure "# command-line-arguments".toList
      "9:5: undefined: f".toList []) := by decide +kernel
  have hnames : ∀ d ∈ s.workspace.entries, d.declares = true → ∀ n ∈ d.fragment.declaredNames,
      n ∈ s.workspace.registry.names .var := by decide +kernel
  have hends := rejecting.ends_finish (s.start "f(b)".toList []).step ()
  exact ⟨reachable_played _, ho,
    (failed_turn (reachable_played _) (ho ▸ hends)).2.2.2.2.2 hnames⟩

/-- After the function has taken the name over, the declaration of the variable stays in the program
until a turn fails. -/
theorem failed_turn_loses_declaration :
    let s := played "a := 1\nfmt.Println(a)\nfunc a() \x7b\n\x7d\n"
    let ended := (rejecting.finish (s.start "f()".toList []).step).run () |>.1
    s.Reachable ∧ (s.start "f()".toList []).step.Ends ended.1 ended.2 ∧
      ended.1.isFailure = true ∧
      s.workspace.emitted = [.ofLine "a := 1".toList, .ofLine "fmt.Println(a)".toList] ∧
      ended.2.workspace.emitted = [.ofLine "fmt.Println(a)".toList] := by
  refine ⟨reachable_played _, rejecting.ends_finish _ (), ?_⟩
  decide +kernel

end Session
end GoRepl
