import GoRepl.Proofs.Marks

/-!
# Pending marks

Declaring a function marks the functions that it calls, and these marks wait for the next program.
No other marks are left when a turn is over, and each turn that asks for a program uses them up,
whatever comes of the program (`Session.pending_marks`).

So where no function has been declared since a program was last handed over, nothing is marked
(`Session.Runs.live_eq_empty`).
-/

namespace GoRepl

/-- The turn has declared a function. -/
def Exchange.declaresFunction (x : Exchange) : Bool :=
  Command.classify x.line = .function && x.outcome.isAccepted

namespace Registry

theorem live_eq_empty_iff {r : Registry} :
    r.live = .empty ↔ ∀ n kind, r.live.get? n ≠ some kind := by
  constructor
  · intro h n kind
    simp [h]
  · intro h
    apply Ledger.ext
    apply List.eq_nil_iff_forall_not_mem.mpr
    rintro ⟨n, kind⟩ he
    exact h n kind (Ledger.mem_entries.mp he)

/-- Nothing is marked where there are no further marks than where nothing was. -/
theorem live_eq_empty_of_get? {r q : Registry} (h : r.live = .empty)
    (hq : ∀ n kind, q.live.get? n = some kind → r.live.get? n = some kind) : q.live = .empty :=
  live_eq_empty_iff.mpr fun n kind hn ↦ live_eq_empty_iff.mp h n kind (hq n kind hn)

theorem live_record_eq_empty {r : Registry} (h : r.live = .empty) (kind : Kind) (name : Text)
    (owner : Owner) : (r.record kind name owner).live = .empty :=
  live_eq_empty_of_get? h fun _ _ hn ↦ (get?_live_record hn).1

theorem live_forget_eq_empty {r : Registry} (h : r.live = .empty) (names : List Text) :
    (r.forget names).live = .empty :=
  live_eq_empty_of_get? h fun _ _ hn ↦ (get?_live_forget hn).1

end Registry

namespace Workspace

theorem live_declareImports_eq_empty {w : Workspace} (h : w.registry.live = .empty)
    (specs : List ImportSpec) :
    (specs.foldl Workspace.declareImport w).registry.live = .empty := by
  induction specs generalizing w with
  | nil => exact h
  | cons spec specs ih =>
    apply ih
    exact Registry.live_record_eq_empty (Registry.live_forget_eq_empty h _) ..

/-- A declaration marks nothing. -/
theorem live_add_eq_empty {w : Workspace} {f : Fragment} (h : w.registry.live = .empty)
    (hf : f.isDeclaration = true) : (w.add f).registry.live = .empty := by
  unfold add
  simp only [hf, if_true]
  unfold declareNames
  exact List.foldlRecOn
    (motive := fun after : Registry × List (Text × Option Declaration) ↦ after.1.live = .empty)
    f.declaredNames _ h fun _ h name _ ↦ Registry.live_record_eq_empty h .var name _

/-- Taking a use back brings no marks back. -/
theorem live_runFailed (w : Workspace) {f : Fragment} (hf : f.isDeclaration = false) :
    (w.add f).scan.scan.resetLiveness.rollback.registry.live = .empty :=
  congrArg Registry.live
    (registry_rollback_use (u := (w.add f).scan.scan.resetLiveness) hf rfl)

end Workspace

namespace Session

open Workspace

/-- The line asks for a program: it is a use, shows a value, or asks for the program as it
stands. -/
def Assembles (line : Text) (source : List SourceItem) : Prop :=
  (∃ f, IsUse line source f) ∨ Command.classify line = .direct ∨
    (Command.classify line).exportsProgram = true

variable {s s' : Session} {line : Text} {source : List SourceItem} {o : Outcome}

/-! ## Turns that ask for a program -/

theorem Turn.live_eq_empty {f : Fragment} (h : s.Turn line source o s')
    (hf : IsUse line source f) : s'.workspace.registry.live = .empty := by
  have hnot : ∀ names, o ≠ .declared names := by
    rintro names rfl
    exact h.of_declared.1 f hf
  cases h with
  | unchanged hn | assembled hn | shown hn => exact absurd hf (hn f)
  | imported | function | declared => exact absurd rfl (hnot _)
  | notDeclared | ran => rfl
  | runFailed huse => exact live_runFailed _ huse.use

theorem eq_of_ends_direct (hc : Command.classify line = .direct)
    (h : (s.start line source).step.Ends o s') :
    s' = { s with workspace := s.workspace.resetLiveness } := by
  unfold start showValue at h
  simp only [hc] at h
  cases h with
  | answered settle a => cases ha : interpretRun s.programFile a <;> simp only [ha]

/-- Whether or not the program can be saved or published, it has been assembled. -/
theorem eq_of_ends_exports (hc : (Command.classify line).exportsProgram = true)
    (h : (s.start line source).step.Ends o s') : s' = s.assembled := by
  unfold start at h
  cases hcommand : Command.classify line with
  | save path =>
    unfold saveProgram at h
    simp only [hcommand] at h
    cases h with
    | answered settle a => cases a <;> rfl
  | publish =>
    unfold publishProgram at h
    simp only [hcommand] at h
    cases h with
    | answered settle a => cases a <;> rfl
  | _ => simp [hcommand, Command.exportsProgram] at hc

theorem live_eq_empty_of_assembles (hasks : Assembles line source)
    (h : (s.start line source).step.Ends o s') : s'.workspace.registry.live = .empty := by
  rcases hasks with ⟨f, hf⟩ | hc | hc
  · exact (turn_of_ends h).live_eq_empty hf
  · rw [eq_of_ends_direct hc h]
    rfl
  · rw [eq_of_ends_exports hc h]
    rfl

/-- Between turns only functions are marked, which are declared; and nothing is marked after a turn
that asked for a program, whatever came of it. -/
theorem pending_marks (hs : s.Reachable) :
    (∀ n kind, s.workspace.registry.live.get? n = some kind →
      kind = .func ∧ ∃ owner, s.workspace.registry.get? n = some ⟨.func, owner⟩) ∧
    ∀ {line source o s'}, (s.start line source).step.Ends o s' → Assembles line source →
      s'.workspace.registry.live = .empty := by
  refine ⟨fun n kind hn ↦ ?_, fun h hasks ↦ live_eq_empty_of_assembles hasks h⟩
  obtain rfl := hs.marksFunctions.kind n kind hn
  exact ⟨rfl, Registry.mem_names.mp (hs.marksFunctions.agrees n .func hn)⟩

/-- A function calls another one, which is marked until a use fails. -/
theorem pending_marks_failed_use :
    let s := played "func g() \x7b\n\x7d\nfunc f() \x7b\ng()\n\x7d\n"
    let ended := (rejecting.finish (s.start "f(missing)".toList []).step).run () |>.1
    s.Reachable ∧ s.workspace.registry.live.get? ['g'] = some .func ∧
      (Kind.func = .func ∧ ∃ owner, s.workspace.registry.get? ['g'] = some ⟨.func, owner⟩) ∧
      ended.1.isFailure = true ∧ Assembles "f(missing)".toList [] ∧
      ended.2.workspace.registry.live = .empty := by
  intro s ended
  have hs : s.Reachable := reachable_played _
  have hg : s.workspace.registry.live.get? ['g'] = some .func := by decide +kernel
  have huse : IsUse "f(missing)".toList [] (.ofLine (Text.trim "f(missing)".toList)) :=
    isUse_ofLine [] (by decide +kernel) (by decide +kernel) (by decide +kernel)
  have hasks : Assembles "f(missing)".toList [] := .inl ⟨_, huse⟩
  exact ⟨hs, hg, (pending_marks hs).1 _ _ hg, by decide +kernel, hasks,
    (pending_marks hs).2 (rejecting.ends_finish _ ()) hasks⟩

/-! ## Since the last program -/

/-- The turns since a program was last handed over, latest first.  Asking for the program between
turns leaves the session that a turn which saves it would leave. -/
def sinceAssembled (log : List Exchange) : List Exchange :=
  log.reverse.takeWhile (·.demand.isNone)

theorem sinceAssembled_append (log : List Exchange) (x : Exchange) :
    sinceAssembled (log ++ [x]) =
      if x.demand.isNone then x :: sinceAssembled log else [] := by
  simp [sinceAssembled, List.takeWhile_cons]

theorem exists_of_demand?_withBlock {go : Fragment → Step} {d : Demand}
    (h : (s.withBlock line source go).step.demand? = some d) :
    ∃ f, (Fragment.read line source).result = .ok f ∧ (go f).demand? = some d := by
  unfold withBlock at h
  cases hr : (Fragment.read line source).result with
  | ok f =>
    simp only [hr] at h
    exact ⟨f, rfl, h⟩
  | error e => simp [hr, Step.demand?] at h

/-- A turn hands over a program only if its line asks for one. -/
theorem assembles_of_demand? {d : Demand} (h : (s.start line source).step.demand? = some d) :
    Assembles line source := by
  unfold start at h
  cases hc : Command.classify line with
  | blank | exit => simp [hc, Step.demand?] at h
  | save path | publish => exact .inr (.inr (by rw [hc]; rfl))
  | direct => exact .inr (.inl hc)
  | bring text =>
    simp only [hc] at h
    split at h
    · obtain ⟨f, -, hf⟩ := exists_of_demand?_withBlock h
      cases hf
    · split at h <;> cases h
  | function =>
    simp only [hc] at h
    obtain ⟨f, -, hf⟩ := exists_of_demand?_withBlock h
    unfold storeFunction at hf
    split at hf <;> cases hf
  | statement =>
    simp only [hc] at h
    obtain ⟨f, hr, hf⟩ := exists_of_demand?_withBlock h
    cases hdecl : f.isDeclaration with
    | true => simp [storeStatement, hdecl, Step.demand?] at hf
    | false => exact .inl ⟨f, hc, hr, hdecl⟩

/-- Only the declaration of a function marks anything for later. -/
theorem Turn.live_eq_empty_of_not_declaresFunction (h : s.Turn line source o s')
    (hs : s.workspace.registry.live = .empty) (d : Option Demand)
    (hnot : Exchange.declaresFunction ⟨line, source, d, o⟩ = false) :
    s'.workspace.registry.live = .empty := by
  cases h with
  | unchanged => exact hs
  | assembled | shown => rfl
  | imported specs => exact live_declareImports_eq_empty hs specs
  | function _ hc => simp [Exchange.declaresFunction, hc, Outcome.isAccepted] at hnot
  | declared hf => exact live_add_eq_empty hs hf
  | notDeclared | ran => rfl
  | runFailed huse => exact live_runFailed _ huse.use

/-- Nothing is marked where no function has been declared since a program was last handed over. -/
theorem Runs.live_eq_empty {imports : List Text} {template : Template} {programFile : Text}
    {log : List Exchange} (h : Runs (.new imports template programFile) log s)
    (hlog : ∀ x ∈ sinceAssembled log, x.declaresFunction = false) :
    s.workspace.registry.live = .empty := by
  induction h with
  | start =>
    change (ofImports imports).registry.live = .empty
    rw [ofImports_eq]
    exact live_declareImports_eq_empty rfl _
  | @turn log s s' o line source hrun h ih =>
    rw [sinceAssembled_append] at hlog
    cases hd : (s.start line source).step.demand? with
    | some d => exact live_eq_empty_of_assembles (assembles_of_demand? hd) h
    | none =>
      simp only [hd, Option.isNone_none, if_true, List.forall_mem_cons] at hlog
      exact (turn_of_ends h).live_eq_empty_of_not_declaresFunction (ih hlog.2) none hlog.1

end Session
end GoRepl
