import GoRepl.Proofs.Failure

/-!
# Runs

A session with its log: the line of each turn, what the source held after it, what was demanded of
the outside and what came of the turn.  `Session.Runs` takes turns one after another with any
answers; `Session.converse` takes them with given ones.

Turns are told apart by what they do to the records, that is to the declarations of names, the specs
and the bodies.  A turn that does not end with a declaration keeps them (`Turn.keepsRecords`), so a
property of the records is a matter of three operations (`Reachable.records_induction`).  The
history grows by the statement that the turn accepts, and by nothing else (`Turn.history`); over a
run it is the ledger of these statements (`history_of_run`).
-/

namespace GoRepl

/-- Settle a turn with given answers. -/
def Step.settle (replies : (d : Demand) → d.Answer) : Step → Outcome × Session
  | .settled o s => (o, s)
  | .demands d next => next (replies d)

theorem Step.ends_settle (replies : (d : Demand) → d.Answer) (step : Step) :
    step.Ends (step.settle replies).1 (step.settle replies).2 := by
  cases step with
  | settled o s => exact .settled o s
  | demands d next => exact .answered next (replies d)

/-- The answers where every file can be written and what a run gives depends on the program alone.
Programs are not shared. -/
def Demand.compiled (toolchain : Text → Except RunError RunOutput) : (d : Demand) → d.Answer
  | .run _ program => .ok (toolchain program)
  | .save _ _ => .ok ()
  | .publish _ => .error .unavailable

/-- A toolchain that rejects the programs in which a text occurs. -/
def rejectingText (text program : Text) : Except RunError RunOutput :=
  if Text.occursIn text program then
    .ok { stderr := "# command-line-arguments\n".toList, success := false }
  else .ok {}

/-- A turn as the log has it. -/
structure Exchange where
  line : Text
  source : List SourceItem
  demand : Option Demand
  outcome : Outcome
deriving DecidableEq

/-- The statement that the turn has accepted: the one that was read, if it has been declared or
run. -/
def Exchange.accepted? (x : Exchange) : Option Fragment :=
  if Command.classify x.line = .statement ∧ x.outcome.isAccepted then
    (Fragment.read x.line.trim x.source).result.toOption
  else none

theorem Exchange.accepted?_eq_none {x : Exchange}
    (h : x.outcome.isAccepted = false ∨ Command.classify x.line ≠ .statement) :
    x.accepted? = none := by
  refine if_neg fun ⟨hc, ho⟩ ↦ ?_
  rcases h with h | h
  · exact absurd ho (by simp [h])
  · exact h hc

theorem Outcome.not_isAccepted {o : Outcome} (h : o.isFailure = true) : o.isAccepted = false := by
  cases o <;> simp [isFailure, isAccepted] at h ⊢

/-- Saving and publishing ask for the program as it stands. -/
def Command.exportsProgram : Command → Bool
  | .save _ | .publish => true
  | _ => false

/-- Specs are plain paths, or have been read from a text. -/
def ImportSpec.IsWritten (spec : ImportSpec) : Prop :=
  spec.localName = none ∨ ∃ t, ImportSpec.parse? t = some spec

namespace Workspace

/-! ## Keeping the records -/

/-- `w` has the records of `v` and what they point at, and no further marks. -/
structure KeepsRecords (v w : Workspace) : Prop where
  declarations : w.registry.declarations = v.registry.declarations
  specs : w.specs = v.specs
  bodies : w.bodies = v.bodies
  nextId : v.registry.nextId ≤ w.registry.nextId
  live : w.registry.live = v.registry.live ∨ w.registry.live = .empty

namespace KeepsRecords

theorem refl (w : Workspace) : w.KeepsRecords w := ⟨rfl, rfl, rfl, Nat.le_refl _, .inl rfl⟩

theorem get? {v w : Workspace} (h : v.KeepsRecords w) (n : Text) :
    w.registry.get? n = v.registry.get? n := Registry.get?_congr h.declarations n

theorem resetLiveness (w : Workspace) : w.KeepsRecords w.resetLiveness :=
  ⟨rfl, rfl, rfl, Nat.le_refl _, .inr rfl⟩

/-- What is found live is not remembered. -/
theorem scan_resetLiveness (w : Workspace) : w.KeepsRecords w.scan.resetLiveness :=
  ⟨declarations_scan w, rfl, rfl, (hides_scan w).nextId, .inr rfl⟩

end KeepsRecords

@[simp] theorem specs_add (w : Workspace) (f : Fragment) : (w.add f).specs = w.specs := by
  unfold add
  cases f.isDeclaration <;> rfl

@[simp] theorem bodies_add (w : Workspace) (f : Fragment) : (w.add f).bodies = w.bodies := by
  unfold add
  cases f.isDeclaration <;> rfl

@[simp] theorem specs_rollback (w : Workspace) : w.rollback.specs = w.specs := by
  unfold rollback
  cases w.entries <;> rfl

@[simp] theorem bodies_rollback (w : Workspace) : w.rollback.bodies = w.bodies := by
  unfold rollback
  cases w.entries <;> rfl

/-- Taking a use back changes nothing in the registry. -/
theorem registry_rollback_use {w u : Workspace} {f : Fragment} (hf : f.isDeclaration = false)
    (hes : u.entries = (w.add f).entries) : u.rollback.registry = u.registry := by
  rw [entries_add] at hes
  rw [registry_rollback hes]
  simp [hf, Registry.restoreAll]

section Use

variable (w : Workspace) {f : Fragment} (hf : f.isDeclaration = false)

include hf

theorem keepsRecords_ran : w.KeepsRecords (w.add f).scan.scan.resetLiveness :=
  ⟨(declarations_scan _).trans ((declarations_scan _).trans (declarations_add_use hf)),
    specs_add w f, bodies_add w f,
    Nat.le_trans (by simp) (Nat.le_trans (hides_scan _).nextId (hides_scan _).nextId), .inr rfl⟩

theorem keepsRecords_runFailed : w.KeepsRecords (w.add f).scan.scan.resetLiveness.rollback := by
  have hran := w.keepsRecords_ran hf
  have hreg := registry_rollback_use (u := (w.add f).scan.scan.resetLiveness) hf rfl
  constructor
  · rw [hreg, hran.declarations]
  · rw [specs_rollback, hran.specs]
  · rw [bodies_rollback, hran.bodies]
  · rw [hreg]
    exact hran.nextId
  · rw [hreg]
    exact .inr rfl

theorem keepsRecords_notDeclared : w.KeepsRecords (w.add f).scan.rollback.resetLiveness := by
  have hreg := registry_rollback_use (u := (w.add f).scan) hf rfl
  constructor
  · change (w.add f).scan.rollback.registry.declarations = _
    rw [hreg, declarations_scan, declarations_add_use hf]
  · exact (specs_rollback _).trans (specs_add w f)
  · exact (bodies_rollback _).trans (bodies_add w f)
  · change _ ≤ (w.add f).scan.rollback.registry.nextId
    rw [hreg]
    exact Nat.le_trans (by simp) (hides_scan _).nextId
  · exact .inr rfl

end Use

/-! ## The history -/

theorem ofImports_eq (paths : List Text) :
    ofImports paths = (paths.map fun path ↦ ⟨none, path⟩).foldl declareImport {} := by
  rw [List.foldl_map]
  rfl

theorem history_congr {v w : Workspace} (h : w.entries = v.entries) : w.history = v.history := by
  unfold history
  rw [h]

theorem history_add (w : Workspace) (f : Fragment) : (w.add f).history = w.history ++ [f] := by
  simp [history]

theorem entries_declareImports (w : Workspace) (specs : List ImportSpec) :
    (specs.foldl declareImport w).entries = w.entries := by
  induction specs generalizing w with
  | nil => rfl
  | cons spec specs ih => exact (ih _).trans (hides_declareImport w spec).entries

end Workspace

namespace Session

open Workspace

variable {s s' : Session} {line : Text} {source : List SourceItem} {o : Outcome}

theorem IsUse.isAccepted_eq {f : Fragment} (hf : IsUse line source f) (d : Option Demand) :
    Exchange.accepted? ⟨line, source, d, o⟩ = if o.isAccepted then some f else none := by
  unfold Exchange.accepted?
  simp [hf.statement, hf.read, Except.toOption]

/-- Specs come from the line of an import. -/
theorem exists_of_broughtSpecs? {specs : List ImportSpec}
    (h : broughtSpecs? line source = some specs) :
    (∃ text, Command.classify line = .bring text) ∧
      ∀ spec ∈ specs, ∃ t, ImportSpec.parse? t = some spec := by
  unfold broughtSpecs? at h
  split at h
  case h_2 => cases h
  case h_1 text hc =>
    refine ⟨⟨text, hc⟩, fun spec hspec ↦ ?_⟩
    split at h
    · obtain ⟨f, -, rfl⟩ := Option.map_eq_some_iff.mp h
      obtain ⟨t, -, ht⟩ := List.mem_filterMap.mp hspec
      exact ⟨t, ht⟩
    · obtain ⟨spec', ht, rfl⟩ := Option.map_eq_some_iff.mp h
      obtain rfl := List.mem_singleton.mp hspec
      exact ⟨text, ht⟩

/-- The entries of a turn: unless it accepts a statement they stay, and that statement is stored
once. -/
theorem Turn.entries (h : s.Turn line source o s') (d : Option Demand) :
    s'.workspace.entries = match Exchange.accepted? ⟨line, source, d, o⟩ with
      | some f => (s.workspace.add f).entries
      | none => s.workspace.entries := by
  cases h with
  | unchanged _ ho => rw [Exchange.accepted?_eq_none (.inl ho)]
  | assembled _ ho =>
    rw [Exchange.accepted?_eq_none (.inl ho)]
    exact (hides_scan _).entries
  | shown _ hc =>
    rw [Exchange.accepted?_eq_none (.inr (by simp [hc]))]
    rfl
  | imported specs hspecs =>
    obtain ⟨⟨text, hc⟩, -⟩ := exists_of_broughtSpecs? hspecs
    rw [Exchange.accepted?_eq_none (.inr (by simp [hc]))]
    exact entries_declareImports _ specs
  | function h hc hr =>
    rw [Exchange.accepted?_eq_none (.inr (by simp [hc]))]
    exact (hides_declareFunction h).entries
  | declared hf hc hr => simp [Exchange.accepted?, Outcome.isAccepted, hc, hr, Except.toOption]
  | notDeclared hf =>
    rw [hf.isAccepted_eq d]
    exact entries_rollback (w := (s.workspace.add _).scan) (entries_add ..)
  | ran hf =>
    rw [hf.isAccepted_eq d]
    rfl
  | runFailed hf =>
    rw [hf.isAccepted_eq d]
    exact entries_rollback (w := (s.workspace.add _).scan.scan.resetLiveness) (entries_add ..)

/-- The history grows by the statement that the turn accepts. -/
theorem Turn.history (h : s.Turn line source o s') (d : Option Demand) :
    s'.workspace.history =
      s.workspace.history ++ (Exchange.accepted? ⟨line, source, d, o⟩).toList := by
  have hes := h.entries d
  cases hx : Exchange.accepted? ⟨line, source, d, o⟩ with
  | none =>
    rw [hx] at hes
    simpa using history_congr hes
  | some f =>
    rw [hx] at hes
    simpa [history_add] using history_congr (v := s.workspace.add f) hes

/-- Only a declaration touches the records. -/
theorem Turn.keepsRecords (h : s.Turn line source o s') (ho : ∀ names, o ≠ .declared names) :
    s.workspace.KeepsRecords s'.workspace := by
  cases h with
  | unchanged => exact .refl _
  | assembled => exact .scan_resetLiveness _
  | shown => exact .resetLiveness _
  | imported specs => exact absurd rfl (ho _)
  | function h => exact absurd rfl (ho _)
  | declared hf => exact absurd rfl (ho _)
  | notDeclared hf => exact keepsRecords_notDeclared _ hf.use
  | ran hf => exact keepsRecords_ran _ hf.use
  | runFailed hf => exact keepsRecords_runFailed _ hf.use

/-- Neither a use nor the showing of a value ends with a declaration, nor does a turn that asks for
the program as it stands. -/
theorem Turn.of_declared {names : List Text} (h : s.Turn line source (.declared names) s') :
    (∀ f, ¬ IsUse line source f) ∧ Command.classify line ≠ .direct ∧
      (Command.classify line).exportsProgram = false := by
  cases h with
  | unchanged _ ho | assembled _ ho => cases ho
  | shown _ _ ho => exact absurd rfl (ho names)
  | imported specs hspecs =>
    obtain ⟨⟨text, hc⟩, -⟩ := exists_of_broughtSpecs? hspecs
    exact ⟨not_isUse hc (by simp), by simp [hc], by rw [hc]; rfl⟩
  | function _ hc => exact ⟨not_isUse hc (by simp), by simp [hc], by rw [hc]; rfl⟩
  | declared hf hc hr =>
    refine ⟨fun g hg ↦ ?_, by simp [hc], by rw [hc]; rfl⟩
    obtain rfl := Except.ok.inj (hr.symm.trans hg.read)
    cases hf.symm.trans hg.use

/-- A property of what reachable sessions remember, which has to be shown of the records only where
they are changed. -/
theorem Reachable.records_induction {P : Workspace → Prop} (empty : P {})
    (declareImport : ∀ w spec, spec.IsWritten → P w → P (w.declareImport spec))
    (declareFunction : ∀ {w w' f name}, w.declareFunction? f = some (name, w') → P w → P w')
    (declare : ∀ w f, f.isDeclaration = true → P w → P (w.add f))
    (keeps : ∀ {v w}, v.KeepsRecords w → P v → P w) (hs : s.Reachable) : P s.workspace := by
  have himports : ∀ (specs : List ImportSpec) (w : Workspace),
      (∀ spec ∈ specs, spec.IsWritten) → P w → P (specs.foldl Workspace.declareImport w) := by
    intro specs
    induction specs with
    | nil => exact fun _ _ hw ↦ hw
    | cons spec specs ih =>
      intro w hspecs hw
      exact ih _ (fun _ h ↦ hspecs _ (List.mem_cons_of_mem _ h))
        (declareImport _ _ (hspecs _ List.mem_cons_self) hw)
  induction hs with
  | new imports =>
    have h := himports (imports.map fun path ↦ ⟨none, path⟩) {}
      (fun spec hspec ↦ by
        obtain ⟨path, -, rfl⟩ := List.mem_map.mp hspec
        exact .inl rfl) empty
    rwa [← ofImports_eq] at h
  | turn _ _ _ h ih =>
    have ht := turn_of_ends h
    cases ht with
    | imported specs hspecs =>
      exact himports specs _
        (fun spec hspec ↦ .inr ((exists_of_broughtSpecs? hspecs).2 spec hspec)) ih
    | function hw => exact declareFunction hw ih
    | declared hf => exact declare _ _ hf ih
    | unchanged => exact ih
    | assembled => exact keeps (.scan_resetLiveness _) ih
    | shown => exact keeps (.resetLiveness _) ih
    | notDeclared hf => exact keeps (keepsRecords_notDeclared _ hf.use) ih
    | ran hf => exact keeps (keepsRecords_ran _ hf.use) ih
    | runFailed hf => exact keeps (keepsRecords_runFailed _ hf.use) ih

/-! ## Runs with their logs -/

/-- Turns taken one after another, with any lines and any answers, and their log. -/
inductive Runs (start : Session) : List Exchange → Session → Prop
  | start : Runs start [] start
  | turn {log : List Exchange} {s s' : Session} {o : Outcome} (line : Text)
      (source : List SourceItem) : Runs start log s → (s.start line source).step.Ends o s' →
      Runs start (log ++ [⟨line, source, (s.start line source).step.demand?, o⟩]) s'

/-- Take the turns of the given lines, with the given answers. -/
def converse (replies : (d : Demand) → d.Answer) (s : Session) :
    List (Text × List SourceItem) → List Exchange × Session
  | [] => ([], s)
  | (line, source) :: later =>
    let step := (s.start line source).step
    let rest := converse replies (step.settle replies).2 later
    (⟨line, source, step.demand?, (step.settle replies).1⟩ :: rest.1, rest.2)

theorem Runs.converse {start s : Session} {log : List Exchange} (h : Runs start log s)
    (replies : (d : Demand) → d.Answer) (turns : List (Text × List SourceItem)) :
    Runs start (log ++ (s.converse replies turns).1) (s.converse replies turns).2 := by
  induction turns generalizing s log with
  | nil => simpa [Session.converse] using h
  | cons turn turns ih =>
    obtain ⟨line, source⟩ := turn
    have hnext := ih (h.turn line source (Step.ends_settle replies _))
    rwa [List.append_assoc] at hnext

theorem Runs.reachable {start s : Session} {log : List Exchange} (h : Runs start log s)
    (hstart : start.Reachable) : s.Reachable := by
  induction h with
  | start => exact hstart
  | turn line source _ h ih => exact .turn line source ih h

theorem Runs.history {imports : List Text} {template : Template} {programFile : Text}
    {log : List Exchange} {s : Session} (h : Runs (.new imports template programFile) log s) :
    s.workspace.history = log.filterMap Exchange.accepted? := by
  induction h with
  | start =>
    change (ofImports imports).history = []
    rw [ofImports_eq]
    exact history_congr (entries_declareImports {} _)
  | turn line source _ h ih =>
    rw [(turn_of_ends h).history, ih, List.filterMap_append]
    rfl

/-- The history is the ledger of the accepted statements, in the order of the turns. -/
theorem history_of_run {imports : List Text} {template : Template} {programFile : Text}
    {log : List Exchange} {s : Session} (h : Runs (.new imports template programFile) log s) :
    s.workspace.history = log.filterMap Exchange.accepted? ∧
    ∀ {line source o s'}, (s.start line source).step.Ends o s' →
      (o.isFailure = true ∨ Command.classify line ≠ .statement) →
      s'.workspace.history = s.workspace.history := by
  refine ⟨h.history, fun {line source o s'} h ho ↦ ?_⟩
  rw [(turn_of_ends h).history none,
    Exchange.accepted?_eq_none (ho.imp_left Outcome.not_isAccepted)]
  simp

/-- A use is rejected, another one uses no declared name, a block is not closed, and turns of all
other kinds stand between. -/
theorem history_of_run_mixed :
    let start : Session := .new ["fmt".toList] .standard "main.go".toList
    let turns : List (Text × List SourceItem) :=
      [("x()".toList, []), ("a, b := 1, 2".toList, []), ("fmt.Println(a)".toList, []),
        ("a = missing".toList, []), ("import \"os\"".toList, []),
        ("func f() \x7b".toList, [.line "\x7d".toList]), ("1 + 2".toList, []),
        ("share".toList, []), ("if a \x7b".toList, [.line "b++".toList]),
        ("if a \x7b".toList, [.line "b++".toList, .line "\x7d".toList])]
    let talk := start.converse (Demand.compiled (rejectingText "missing".toList)) turns
    Runs start talk.1 talk.2 ∧
      talk.2.workspace.history = talk.1.filterMap Exchange.accepted? ∧
      talk.1.map (fun x ↦ x.outcome.isFailure) =
        [true, false, false, true, false, false, false, true, true, false] ∧
      talk.2.workspace.history = [.ofLine "a, b := 1, 2".toList, .ofLine "fmt.Println(a)".toList,
        ⟨"if a \x7b".toList, .nested "b++".toList .nil (.line ['\x7d'] .nil)⟩] := by
  intro start turns talk
  have hrun : Runs start talk.1 talk.2 := Runs.start.converse _ turns
  exact ⟨hrun, (history_of_run hrun).1, by decide +kernel, by decide +kernel⟩

end Session
end GoRepl
