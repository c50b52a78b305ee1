import GoRepl.Proofs.History
import GoRepl.Script

/-!
# Turns

A turn that has been started is settled, or it waits for an answer from the outside.
`Step.Ends` lists how it can end over all answers; these are the ends that hosts bring about
(`Host.ends_finish`, `Step.Ends.exists_host`).

`Session.Turn` then says what one line can do to a session, whatever the line, the lines after it
and the answer.  Almost all commands leave the statements alone; only a statement stores something
in the history, and only a use is taken back.  `Session.turn_of_ends` is the one place where the
commands are taken apart.
-/

namespace GoRepl

/-- A started turn can end with this outcome, in this session. -/
inductive Step.Ends : Step → Outcome → Session → Prop
  | settled (o : Outcome) (s : Session) : Ends (.settled o s) o s
  | answered {d : Demand} (settle : d.Answer → Outcome × Session) (a : d.Answer) :
      Ends (.demands d settle) (settle a).1 (settle a).2

/-- The turn has done what was asked: names are declared, or a program has been run. -/
def Outcome.isAccepted : Outcome → Bool
  | .declared _ | .output _ => true
  | _ => false

/-- What a started turn waits for. -/
def Step.demand? : Step → Option Demand
  | .settled _ _ => none
  | .demands d _ => some d

/-! ## Hosts -/

/-- Whatever a host remembers, it brings a turn to one of its ends. -/
theorem Host.ends_finish {σ : Type} (host : Host (StateM σ)) (step : Step) (memory : σ) :
    step.Ends ((host.finish step).run memory).1.1 ((host.finish step).run memory).1.2 := by
  cases step with
  | settled o s => exact .settled o s
  | demands d settle => exact .answered settle _

/-- A host that gives the same answers to all demands. -/
def Host.answering (write : Except Fault Unit) (run : Except RunError RunOutput)
    (share : Except ShareError Text) : Host (StateM Unit) where
  write _ _ := pure write
  run _ := pure run
  share _ := pure share

/-- Each answer to a demand is given by some host. -/
theorem Demand.exists_host : ∀ (d : Demand) (a : d.Answer),
    ∃ host : Host (StateM Unit), host.answer d = pure a
  | .run _ _, .error fault =>
    ⟨.answering (.error fault) (.ok {}) (.error .unavailable), rfl⟩
  | .run _ _, .ok result => ⟨.answering (.ok ()) result (.error .unavailable), rfl⟩
  | .save _ _, result => ⟨.answering result (.ok {}) (.error .unavailable), rfl⟩
  | .publish _, result => ⟨.answering (.ok ()) (.ok {}) result, rfl⟩

/-- Each end of a turn is brought about by some host. -/
theorem Step.Ends.exists_host {step : Step} {o : Outcome} {s : Session} (h : step.Ends o s) :
    ∃ host : Host (StateM Unit), host.finish step = pure (o, s) := by
  cases h with
  | settled => exact ⟨.answering (.ok ()) (.ok {}) (.error .unavailable), rfl⟩
  | @answered d settle a =>
    obtain ⟨host, ha⟩ := d.exists_host a
    refine ⟨host, ?_⟩
    simp only [Host.finish, ha]
    rfl

/-! ## Assembling the program

Finding out which functions and packages the program uses changes what is marked, and nothing
else. -/

namespace Workspace

theorem hides_scan (w : Workspace) : w.Hides w.scan :=
  (hides_scanFunctions w _).trans (hides_scanImports _ _)

@[simp] theorem declarations_scan (w : Workspace) :
    w.scan.registry.declarations = w.registry.declarations := by
  unfold scan
  simp [scanFunctions, scanImports]

theorem Reachable.scan {w : Workspace} (hw : Reachable w) : Reachable w.scan :=
  (hw.scanFunctions _).scanImports _

theorem Reachable.declareImports {w : Workspace} (hw : Reachable w) (specs : List ImportSpec) :
    Reachable (specs.foldl Workspace.declareImport w) := by
  induction specs generalizing w with
  | nil => exact hw
  | cons spec specs ih => exact ih (hw.declareImport spec)

theorem reachable_ofImports (paths : List Text) : Reachable (ofImports paths) := by
  have h := Reachable.empty.declareImports (paths.map fun path ↦ ⟨none, path⟩)
  rwa [List.foldl_map] at h

end Workspace

namespace Session

/-- The line is a statement, on its own or with the block read after it, and that statement uses
names and declares none. -/
structure IsUse (line : Text) (source : List SourceItem) (f : Fragment) : Prop where
  statement : Command.classify line = .statement
  read : (Fragment.read line.trim source).result = .ok f
  use : f.isDeclaration = false

theorem isUse_ofLine {line : Text} (source : List SourceItem)
    (hc : Command.classify line = .statement) (hopens : closerFor line.trim = none)
    (hf : (Fragment.ofLine line.trim).isDeclaration = false) :
    IsUse line source (.ofLine line.trim) :=
  ⟨hc, by simp [Fragment.read, hopens], hf⟩

/-- The specs that an import brings: those of the block after the line, or the one on it. -/
def broughtSpecs? (line : Text) (source : List SourceItem) : Option (List ImportSpec) :=
  match Command.classify line with
  | .bring spec =>
    if spec = ['('] then (Fragment.read line.trim source).result.toOption.map entrySpecs
    else (ImportSpec.parse? spec).map fun spec ↦ [spec]
  | _ => none

/-- What the turn of a line can do to a session. -/
inductive Turn (s : Session) (line : Text) (source : List SourceItem) : Outcome → Session → Prop
  /-- Nothing: the line is blank or says `exit`, or it is refused before anything is stored. -/
  | unchanged {o : Outcome} : (∀ f, ¬ IsUse line source f) → o.isAccepted = false →
      Turn s line source o s
  /-- The program has been saved or published, or that failed. -/
  | assembled {o : Outcome} : (∀ f, ¬ IsUse line source f) → o.isAccepted = false →
      Turn s line source o s.assembled
  /-- A value has been shown, or that failed. -/
  | shown {o : Outcome} : (∀ f, ¬ IsUse line source f) → Command.classify line = .direct →
      (∀ names, o ≠ .declared names) →
      Turn s line source o { s with workspace := s.workspace.resetLiveness }
  | imported (specs : List ImportSpec) : broughtSpecs? line source = some specs →
      Turn s line source (.declared (specs.map ImportSpec.path))
        { s with workspace := specs.foldl Workspace.declareImport s.workspace }
  | function {f : Fragment} {name : Text} {w : Workspace} :
      s.workspace.declareFunction? f = some (name, w) → Command.classify line = .function →
      (Fragment.read line.trim source).result = .ok f →
      Turn s line source (.declared [name]) { s with workspace := w }
  | declared {f : Fragment} : f.isDeclaration = true → Command.classify line = .statement →
      (Fragment.read line.trim source).result = .ok f →
      Turn s line source (.declared f.declaredNames) { s with workspace := s.workspace.add f }
  /-- The first statement uses no declared name at all, and is taken back without being run. -/
  | notDeclared {f : Fragment} : IsUse line source f →
      Turn s line source (.failed .notDeclared)
        { s with workspace := (s.workspace.add f).scan.rollback.resetLiveness }
  | ran {f : Fragment} {out : Text} : IsUse line source f →
      Turn s line source (.output out)
        { s with workspace := (s.workspace.add f).scan.scan.resetLiveness }
  /-- A use has been run, or could not be, and is taken back because that failed. -/
  | runFailed {f : Fragment} {e : TurnError} : IsUse line source f →
      Turn s line source (.failed e)
        { s with workspace := (s.workspace.add f).scan.scan.resetLiveness.rollback }

/-- What storing a use comes to. -/
theorem storeStatement_use (s : Session) {f : Fragment} (hf : f.isDeclaration = false) :
    s.storeStatement f =
      if (s.workspace.add f).scan.entries.length = 1 ∧
          (s.workspace.add f).scan.registry.hasLive = false then
        .settled (.failed .notDeclared)
          { s with workspace := (s.workspace.add f).scan.rollback.resetLiveness }
      else
        .demands (.run s.programFile (s.template.render (s.workspace.add f).scan.scan.regions))
          fun answer =>
            match interpretRun s.programFile answer with
            | .ok out => (.output out,
                { s with workspace := (s.workspace.add f).scan.scan.resetLiveness })
            | .error e => (.failed e,
                { s with workspace := (s.workspace.add f).scan.scan.resetLiveness.rollback }) := by
  unfold storeStatement
  simp only [hf, Bool.false_eq_true, if_false, Bool.and_eq_true, decide_eq_true_eq,
    Bool.not_eq_true']
  rfl

section Inversion

variable {s s' : Session} {line : Text} {source : List SourceItem} {o : Outcome}

theorem turn_of_storeStatement {f : Fragment} (hc : Command.classify line = .statement)
    (hr : (Fragment.read line.trim source).result = .ok f)
    (h : (s.storeStatement f).Ends o s') : s.Turn line source o s' := by
  cases hf : f.isDeclaration with
  | true =>
    unfold storeStatement at h
    simp only [hf, if_true] at h
    cases h
    exact .declared hf hc hr
  | false =>
    have huse : IsUse line source f := ⟨hc, hr, hf⟩
    rw [storeStatement_use s hf] at h
    split at h
    · cases h
      exact .notDeclared huse
    · cases h with
      | answered settle a =>
        cases ha : interpretRun s.programFile a with
        | ok out =>
          simp only [ha]
          exact .ran huse
        | error e =>
          simp only [ha]
          exact .runFailed huse

/-- A turn that is not that of a statement stores no use. -/
theorem not_isUse {c : Command} (hc : Command.classify line = c) (hne : c ≠ .statement) :
    ∀ f, ¬ IsUse line source f := fun _ hf ↦ hne (hc.symm.trans hf.statement)

theorem step_withBlock_of_ok {go : Fragment → Step} {f : Fragment}
    (hr : (Fragment.read line source).result = .ok f) :
    (s.withBlock line source go).step = go f := by
  unfold withBlock
  simp only [hr]

theorem step_withBlock_of_error {go : Fragment → Step} {e : ReadError}
    (hr : (Fragment.read line source).result = .error e) :
    (s.withBlock line source go).step = .settled (.failed (.ofRead e)) s := by
  unfold withBlock
  simp only [hr]

/-- If the block that a line opens cannot be read, the line changes nothing. -/
theorem turn_of_withBlock {go : Fragment → Step}
    (hgo : ∀ f, (Fragment.read line.trim source).result = .ok f → (go f).Ends o s' →
      s.Turn line source o s')
    (h : (s.withBlock line.trim source go).step.Ends o s') : s.Turn line source o s' := by
  cases hr : (Fragment.read line.trim source).result with
  | ok f =>
    rw [step_withBlock_of_ok hr] at h
    exact hgo f hr h
  | error e =>
    rw [step_withBlock_of_error hr] at h
    cases h
    exact .unchanged (fun f hf ↦ by simp [hf.read] at hr) rfl

/-- Every turn is one of those listed. -/
theorem turn_of_ends (h : (s.start line source).step.Ends o s') : s.Turn line source o s' := by
  unfold start at h
  cases hc : Command.classify line with
  | blank =>
    simp only [hc] at h
    cases h
    exact .unchanged (not_isUse hc (by simp)) rfl
  | exit =>
    simp only [hc] at h
    cases h
    exact .unchanged (not_isUse hc (by simp)) rfl
  | save path =>
    simp only [hc] at h
    cases h with
    | answered settle a => cases a <;> exact .assembled (not_isUse hc (by simp)) rfl
  | publish =>
    simp only [hc] at h
    cases h with
    | answered settle a => cases a <;> exact .assembled (not_isUse hc (by simp)) rfl
  | bring spec =>
    simp only [hc] at h
    split at h
    · rename_i hblock
      refine turn_of_withBlock (fun f hr hf ↦ ?_) h
      cases hf
      exact .imported _ (by simp [broughtSpecs?, hc, hblock, hr, Except.toOption])
    · rename_i hline
      split at h
      · rename_i spec hspec
        cases h
        exact .imported [spec] (by simp [broughtSpecs?, hc, hline, hspec])
      · cases h
        exact .unchanged (not_isUse hc (by simp)) rfl
  | function =>
    simp only [hc] at h
    refine turn_of_withBlock (fun f hr hf ↦ ?_) h
    unfold storeFunction at hf
    split at hf
    · rename_i name w hw
      cases hf
      exact .function hw hc hr
    · cases hf
      exact .unchanged (not_isUse hc (by simp)) rfl
  | direct =>
    simp only [hc] at h
    unfold showValue at h
    cases h with
    | answered settle a =>
      cases ha : interpretRun s.programFile a with
      | ok out => simpa only [ha] using .shown (not_isUse hc (by simp)) hc (by simp)
      | error e => simpa only [ha] using .shown (not_isUse hc (by simp)) hc (by simp)
  | statement =>
    simp only [hc] at h
    exact turn_of_withBlock (fun f hr hf ↦ turn_of_storeStatement hc hr hf) h

end Inversion

/-- The turn of a statement that has been read stores the statement. -/
theorem step_start_of_statement (s : Session) {line : Text} {source : List SourceItem}
    {f : Fragment} (hc : Command.classify line = .statement)
    (hr : (Fragment.read line.trim source).result = .ok f) :
    (s.start line source).step = s.storeStatement f := by
  unfold start withBlock
  simp only [hc, hr]

/-- What a use hands over to the toolchain. -/
theorem demand?_of_isUse {s : Session} {line : Text} {source : List SourceItem} {f : Fragment}
    {d : Demand} (hf : IsUse line source f) (h : (s.start line source).step.demand? = some d) :
    d = .run s.programFile (s.template.render (s.workspace.add f).scan.scan.regions) := by
  rw [step_start_of_statement s hf.statement hf.read, storeStatement_use s hf.use] at h
  split at h
  · simp [Step.demand?] at h
  · exact (Option.some.inj h).symm

/-! ## Runs of turns -/

/-- The sessions to which turns lead from a new one, over all lines and all answers. -/
inductive Reachable : Session → Prop
  | new (imports : List Text) (template : Template) (programFile : Text) :
      Reachable (.new imports template programFile)
  | turn {s s' : Session} {o : Outcome} (line : Text) (source : List SourceItem) :
      Reachable s → (s.start line source).step.Ends o s' → Reachable s'

/-- A turn applies operations of the workspace, and nothing else. -/
theorem Turn.reachable {s s' : Session} {line : Text} {source : List SourceItem} {o : Outcome}
    (h : s.Turn line source o s') (hs : s.workspace.Reachable) : s'.workspace.Reachable := by
  cases h with
  | unchanged => exact hs
  | assembled => exact hs.scan.resetLiveness
  | shown => exact hs.resetLiveness
  | imported specs => exact hs.declareImports specs
  | function h => exact hs.declareFunction h
  | declared => exact hs.add _
  | notDeclared => exact (hs.add _).scan.rollback.resetLiveness
  | ran => exact (hs.add _).scan.scan.resetLiveness
  | runFailed => exact (hs.add _).scan.scan.resetLiveness.rollback

theorem Reachable.workspace {s : Session} (hs : s.Reachable) : s.workspace.Reachable := by
  induction hs with
  | new imports => exact Workspace.reachable_ofImports imports
  | turn _ _ _ h ih => exact (turn_of_ends h).reachable ih

end Session

/-- Playing a script takes turns, so it leads to a reachable session. -/
theorem Script.reachable_play {σ : Type} (host : Host (StateM σ)) (p : Progress)
    (source : List SourceItem) (memory : σ) (hp : p.session.Reachable) :
    ((play host p source).run memory).1.1.session.Reachable := by
  unfold play
  fun_induction perform host (fun _ ↦ return) p source generalizing memory with
  | case1 p line source start ih =>
    have hturn := host.ends_finish start.step memory
    simp only [pure_bind, StateT.run_bind]
    generalize (host.finish start.step).run memory = ended at hturn ⊢
    obtain ⟨⟨o, s⟩, memory'⟩ := ended
    have hs : s.Reachable := .turn line source hp hturn
    dsimp only [bind]
    split
    · exact hs
    · exact ih o s memory' hs
  | case2 p source h => exact hp

/-- A new session after a script on which every run succeeds. -/
def Session.played (script : String) : Session :=
  ((Script.play (.answering (.ok ()) (.ok {}) (.error .unavailable))
    ⟨.new ["fmt".toList] .standard "main.go".toList, {}, []⟩
    (Script.ofText script.toList)).run ()).1.1.session

theorem Session.reachable_played (script : String) : (Session.played script).Reachable :=
  Script.reachable_play _ _ _ _ (.new ..)

end GoRepl
