import GoRepl.Proofs.Assembling
import GoRepl.Proofs.Deeds
import GoRepl.Proofs.Pending

/-!
# Exported programs

What is exported after a use is what was run (`Session.exported_as_run`): the text that is saved or
shared is the one that was written to the file of programs and run there.

The program that is run is assembled with marks in place: the use marks variables, and the program
is scanned twice.  The program that is exported is assembled once, from a workspace without marks.
Where nothing was marked before the use, the marks are those of variables alone, and these do not
matter to the program.  A function that is still marked would be in the program that is run, and
not in the exported one.
-/

namespace GoRepl

namespace Registry

theorem agrees_of_live_eq_empty {r : Registry} (h : r.live = .empty) : r.Agrees :=
  fun n kind hn ↦ absurd hn (live_eq_empty_iff.mp h n kind)

end Registry

namespace Workspace

section Use

variable {w : Workspace} (hw : w.registry.live = .empty) {f : Fragment}
  (hf : f.isDeclaration = false)

include hw hf

/-- Where nothing is marked, a use marks variables alone. -/
theorem not_isLive_add {kind : Kind} (hk : kind ≠ .var) (n : Text) :
    (w.add f).registry.isLive kind n = false := by
  rw [isLive_add_use (Registry.agrees_of_live_eq_empty hw) hf hk, Bool.eq_false_iff]
  intro h
  exact Registry.live_eq_empty_iff.mp hw n kind (Registry.isLive_iff.mp h)

/-- The program of a use is assembled anew from the statements alone. -/
theorem regions_ran :
    (w.add f).scan.scan.resetLiveness.scan.regions = (w.add f).scan.scan.regions := by
  have hagrees : (w.add f).registry.Agrees := agrees_add (Registry.agrees_of_live_eq_empty hw) hf
  have halike : (w.add f).Alike (w.add f).resetLiveness :=
    alike_resetLiveness hagrees fun _ hk ↦ not_isLive_add hw hf hk
  calc (w.add f).scan.scan.resetLiveness.scan.regions
      = (w.add f).resetLiveness.scan.regions := by rw [resetLiveness_scan, resetLiveness_scan]
    _ = (w.add f).scan.regions := halike.scan.regions
    _ = (w.add f).scan.scan.regions := by rw [scan_scan hagrees]

end Use

end Workspace

namespace Session

open Workspace

variable {s s' t : Session} {line : Text} {source : List SourceItem} {f : Fragment}

/-- The sessions to which asking for the program leads, and saving and publishing it, whether or not
that succeeds. -/
inductive Exporting (s : Session) : Session → Prop
  | start : Exporting s s
  | program {t : Session} : Exporting s t → Exporting s t.assembled
  | turn {t t' : Session} {o : Outcome} (line : Text) (source : List SourceItem) :
      Exporting s t → (Command.classify line).exportsProgram = true →
      (t.start line source).step.Ends o t' → Exporting s t'

/-- Where nothing is marked, the program can be asked for any number of times. -/
theorem Exporting.eq (h : s.Exporting t) (hs : s.workspace.registry.live = .empty) : t = s := by
  have hfix : s.assembled = s := by
    unfold assembled
    rw [resetLiveness_scan, resetLiveness_eq_self hs]
  induction h with
  | start => rfl
  | program _ ih => rw [ih, hfix]
  | turn line source _ hc h ih =>
    subst ih
    rw [eq_of_ends_exports hc h, hfix]

theorem demand?_of_save (t : Session) {path : Text} (hc : Command.classify line = .save path) :
    (t.start line source).step.demand? = some (.save path t.program) := by
  unfold start
  simp only [hc]
  rfl

theorem demand?_of_publish (t : Session) (hc : Command.classify line = .publish) :
    (t.start line source).step.demand? = some (.publish t.program) := by
  unfold start
  simp only [hc]
  rfl

/-- A use with an output has been run. -/
theorem ran_of_output {out : Text} (huse : IsUse line source f)
    (h : (s.start line source).step.Ends (.output out) s') :
    (s.start line source).step.demand? = some (.run s.programFile
      (s.template.render (s.workspace.add f).scan.scan.regions)) ∧
    s' = { s with workspace := (s.workspace.add f).scan.scan.resetLiveness } := by
  rw [step_start_of_statement s huse.statement huse.read, storeStatement_use s huse.use] at h ⊢
  split at h
  · cases h
  · rename_i hdeclared
    rw [if_neg hdeclared]
    refine ⟨rfl, ?_⟩
    generalize ho : Outcome.output out = o at h
    cases h with
    | answered settle a =>
      cases ha : interpretRun s.programFile a with
      | ok out' => simp only [ha]
      | error e => simp [ha] at ho

/-- If no function has been declared since a program was last handed over, then the program that is
exported after a successful use is the one that was run, however often it is exported.  Whatever the
host, the use writes this program and runs it, saving writes it, and publishing shares it. -/
theorem exported_as_run {imports : List Text} {template : Template} {programFile : Text}
    {log : List Exchange} (hrun : Runs (.new imports template programFile) log s)
    (hlog : ∀ x ∈ sinceAssembled log, x.declaresFunction = false) (huse : IsUse line source f)
    {out : Text} (h : (s.start line source).step.Ends (.output out) s') :
    ∃ program, (s.start line source).step.demand? = some (.run s.programFile program) ∧
      (∀ t, s'.Exporting t → t.program = program ∧
        (∀ line source path, Command.classify line = .save path →
          (t.start line source).step.demand? = some (.save path program)) ∧
        (∀ line source, Command.classify line = .publish →
          (t.start line source).step.demand? = some (.publish program))) ∧
      ∀ (σ : Type) (host : Host (StateM σ)) (memory : σ),
        (host.deeds (s.start line source).step memory = .write s.programFile program ::
          if (host.write s.programFile program memory).1 = .ok () then [.run s.programFile]
          else []) ∧
        ∀ t, s'.Exporting t →
          (∀ line source path, Command.classify line = .save path →
            host.deeds (t.start line source).step memory = [.write path program]) ∧
          (∀ line source, Command.classify line = .publish →
            host.deeds (t.start line source).step memory = [.share program]) := by
  have hlive : s.workspace.registry.live = .empty := hrun.live_eq_empty hlog
  obtain ⟨hdemand, hs'⟩ := ran_of_output huse h
  have hprogram : ∀ t, s'.Exporting t →
      t.program = s.template.render (s.workspace.add f).scan.scan.regions := by
    intro t ht
    rw [ht.eq (hs' ▸ rfl), hs']
    exact congrArg s.template.render (regions_ran hlive huse.use)
  refine ⟨_, hdemand, fun t ht ↦ ⟨hprogram t ht, ?_, ?_⟩, fun σ host memory ↦
    ⟨host.deeds_run memory hdemand, fun t ht ↦ ⟨?_, ?_⟩⟩⟩
  · intro line source path hc
    rw [demand?_of_save t hc, hprogram t ht]
  · intro line source hc
    rw [demand?_of_publish t hc, hprogram t ht]
  · intro line source path hc
    rw [host.deeds_save memory (demand?_of_save t hc), hprogram t ht]
  · intro line source hc
    rw [host.deeds_publish memory (demand?_of_publish t hc), hprogram t ht]

/-- Functions that call each other are declared, and a value is shown.  Then a use calls one of
them; the program is shared, saved, and shared again. -/
theorem exported_as_run_calls :
    let start : Session := .new ["fmt".toList, "os".toList] .standard "main.go".toList
    let replies := Demand.compiled (rejectingText "missing".toList)
    let turns : List (Text × List SourceItem) :=
      [("func g() \x7b".toList, [.line "fmt.Println(1)".toList, .line "\x7d".toList]),
        ("func f() \x7b".toList, [.line "g()".toList, .line "\x7d".toList]), ("1".toList, []),
        ("a, b := 1, 2".toList, []), ("import \"io\"".toList, [])]
    let talk := start.converse replies turns
    let ran := (talk.2.start "f(a)".toList []).step.settle replies
    let shared := (ran.2.start "share".toList []).step.settle replies
    let saved := (shared.2.start "export out.go".toList []).step.settle replies
    let host : Host (StateM Unit) := .answering (.ok ()) (.ok {}) (.error .unavailable)
    Runs start talk.1 talk.2 ∧ talk.1.any Exchange.declaresFunction = true ∧
      (∀ x ∈ sinceAssembled talk.1, x.declaresFunction = false) ∧
      IsUse "f(a)".toList [] (.ofLine (Text.trim "f(a)".toList)) ∧ ran.1 = .output [] ∧
      shared.1 = .failed (.share .unavailable) ∧ ran.2.Exporting saved.2 ∧
      ∃ program, (talk.2.start "f(a)".toList []).step.demand? =
          some (.run talk.2.programFile program) ∧
        (saved.2.start "share".toList []).step.demand? = some (.publish program) ∧
        host.deeds (talk.2.start "f(a)".toList []).step () =
          [.write "main.go".toList program, .run "main.go".toList] ∧
        host.deeds (shared.2.start "export out.go".toList []).step () =
          [.write "out.go".toList program] ∧
        host.deeds (saved.2.start "share".toList []).step () = [.share program] := by
  intro start replies turns talk ran shared saved host
  have hrun : Runs start talk.1 talk.2 := Runs.start.converse replies turns
  have hlog : ∀ x ∈ sinceAssembled talk.1, x.declaresFunction = false := by decide +kernel
  have huse : IsUse "f(a)".toList [] (.ofLine (Text.trim "f(a)".toList)) :=
    isUse_ofLine [] (by decide +kernel) (by decide +kernel) (by decide +kernel)
  have hout : ran.1 = .output [] := by decide +kernel
  have h : (talk.2.start "f(a)".toList []).step.Ends (.output []) ran.2 :=
    hout ▸ Step.ends_settle replies _
  have hshared : ran.2.Exporting shared.2 :=
    .turn _ _ .start (by decide +kernel) (Step.ends_settle replies _)
  have hsaved : ran.2.Exporting saved.2 :=
    .turn _ _ hshared (by decide +kernel) (Step.ends_settle replies _)
  have hfile : talk.2.programFile = "main.go".toList := by decide +kernel
  obtain ⟨program, hdemand, hprogram, hdeeds⟩ := exported_as_run hrun hlog huse h
  obtain ⟨huses, hexports⟩ := hdeeds Unit host ()
  refine ⟨hrun, by decide +kernel, hlog, huse, hout, by decide +kernel, hsaved, program, hdemand,
    (hprogram _ hsaved).2.2 _ [] (by decide +kernel), ?_, ?_, ?_⟩
  · rw [huses, hfile]
    rfl
  · exact (hexports _ hshared).1 _ [] _ (by decide +kernel)
  · exact (hexports _ hsaved).2 _ [] (by decide +kernel)

/-- A function has been declared since: the one that it calls is in the program that is run, and not
in the exported one. -/
example :
    let s := played "func g() \x7b\n\x7d\nfunc f() \x7b\ng()\n\x7d\n"
    let step := (s.start "fmt.Println(1)".toList []).step
    let ran := step.settle (Demand.compiled fun _ ↦ .ok {})
    ran.1.isFailure = false ∧
      step.demand? ≠ some (.run s.programFile ran.2.program) := by
  decide +kernel

end Session
end GoRepl
