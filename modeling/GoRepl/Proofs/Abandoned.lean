import GoRepl.Proofs.Consumption
import GoRepl.Proofs.Runs

/-!
# Abandoned turns

Turns that fail before anything is done: the block of the line is not read to its end, an import has
no path, or a function has no name.  Such a turn leaves the session as it is and asks nothing of the
outside (`Session.abandoned_turn`).

When a block is not read to its end is said of the source alone: it breaks off while openers are
open, however many (`Fragment.BreaksOff`, `Fragment.read_eq_error_iff`).
-/

namespace GoRepl

namespace Block

theorem foldl_stillOpen_nil (lines : List Text) : lines.foldl stillOpen [] = [] := by
  induction lines with
  | nil => rfl
  | cons line lines ih => exact ih

/-- While openers are open, what is no line is taken for what it is, at any depth. -/
theorem read_eq_error_of_open {frame : Frame} {outer : List Frame} {texts : List Text}
    {more : List SourceItem} {e : ReadError} (h : Nested frame outer)
    (hopen : (texts.map Text.trim).foldl stillOpen (openers frame outer) ≠ [])
    (hmore : (more = [] ∧ e = .closed) ∨ ∃ item rest, more = item :: rest ∧ item.error? = some e) :
    (read frame outer (texts.map .line ++ more)).result = .error e := by
  induction texts generalizing frame outer with
  | nil =>
    rcases hmore with ⟨rfl, rfl⟩ | ⟨item, rest, rfl, he⟩
    · rfl
    · cases item with
      | line text => cases he
      | interrupt | fault =>
        cases he
        rfl
  | cons text texts ih =>
    have ht := Text.trim_trim text
    have hnested := h.step ht
    have hopeners := openers_step outer ht h.sound.opens
    rw [List.map_cons, List.foldl_cons, ← hopeners] at hopen
    cases hstep : step frame outer text.trim with
    | done f =>
      rw [hstep] at hopen
      exact absurd (foldl_stillOpen_nil _) hopen
    | waiting frame' outer' =>
      rw [hstep] at hnested hopen
      simp only [List.map_cons, List.cons_append, read, hstep]
      exact ih hnested hopen

end Block

namespace Fragment

open Block

/-- After some lines, with `depth` openers open, the source ends or gives something that is no
line. -/
def BreaksOff (line : Text) (source : List SourceItem) (depth : Nat) (e : ReadError) : Prop :=
  ∃ (texts : List Text) (more : List SourceItem), source = texts.map .line ++ more ∧
    ((texts.map Text.trim).foldl stillOpen (opening line)).length = depth ∧ 0 < depth ∧
    ((more = [] ∧ e = .closed) ∨ ∃ item rest, more = item :: rest ∧ item.error? = some e)

/-- A fragment is not read just in case the source breaks off at some depth. -/
theorem read_eq_error_iff {line : Text} {source : List SourceItem} {e : ReadError} :
    (Fragment.read line source).result = .error e ↔ ∃ depth, BreaksOff line source depth e := by
  unfold Fragment.read BreaksOff
  cases ho : closerFor line with
  | none =>
    have hnone : opening line = [] := by simp [opening, ho]
    simp only [hnone, foldl_stillOpen_nil]
    refine ⟨fun h ↦ (by cases h), ?_⟩
    rintro ⟨depth, _, _, -, rfl, hpos, -⟩
    exact absurd hpos (Nat.lt_irrefl 0)
  | some c =>
    have hopening : opening line = openers ⟨line, c, []⟩ [] := by simp [opening, ho, openers]
    have hnested : Nested ⟨line, c, []⟩ [] := .outermost (Frame.sound_opened ho)
    simp only [hopening]
    constructor
    · intro hr
      obtain ⟨texts, hsource, hdepths, hpos⟩ := exists_stopped hnested hr
      have hlast : ((texts.map Text.trim).foldl stillOpen (openers ⟨line, c, []⟩ [])).length ∈
          (Block.read ⟨line, c, []⟩ [] source).depths := by
        rw [hdepths]
        exact List.mem_map_of_mem (List.mem_of_getLast? List.getLast?_scanl)
      rcases hsource with ⟨hsource, -, he⟩ | ⟨item, hsource, he⟩
      · exact ⟨_, texts, [], by simpa using hsource, rfl, hpos _ hlast, .inl ⟨rfl, he⟩⟩
      · exact ⟨_, texts, _, hsource, rfl, hpos _ hlast, .inr ⟨item, _, rfl, he⟩⟩
    · rintro ⟨depth, texts, more, rfl, hdepth, hpos, hmore⟩
      refine read_eq_error_of_open hnested (fun hnil ↦ ?_) hmore
      rw [hnil] at hdepth
      exact absurd hpos (by simp [← hdepth])

end Fragment

/-- A line that starts a fragment which is read before anything is done. -/
def Command.readsBlock : Command → Bool
  | .bring spec => spec = ['(']
  | .function | .statement => true
  | .blank | .exit | .save _ | .publish | .direct => false

/-- A failure before anything is done. -/
def TurnError.isAbandonment : TurnError → Bool
  | .interrupted | .input _ | .malformedImport _ | .namelessFunction _ => true
  | .notDeclared | .compileFailure .. | .toolchain _ | .unwritable .. | .share _ => false

/-- Why a turn is abandoned. -/
inductive Abandons (line : Text) (source : List SourceItem) : TurnError → Prop
  /-- The fragment of the line is not read to its end. -/
  | unread {depth : Nat} {e : ReadError} : (Command.classify line).readsBlock = true →
      Fragment.BreaksOff line.trim source depth e → Abandons line source (.ofRead e)
  | pathless {text : Text} : Command.classify line = .bring text → text ≠ ['('] →
      ImportSpec.parse? text = none → Abandons line source (.malformedImport text)
  | nameless {f : Fragment} : Command.classify line = .function →
      (Fragment.read line.trim source).result = .ok f → f.functionName? = none →
      Abandons line source (.namelessFunction line.trim)

def Exchange.isAbandoned (x : Exchange) : Bool :=
  match x.outcome with
  | .failed e => e.isAbandonment
  | _ => false

namespace Session

variable {s s' : Session} {line : Text} {source : List SourceItem} {e : TurnError}

/-- An abandoned turn is settled at once, in the session as it was. -/
theorem step_of_abandons (h : Abandons line source e) :
    (s.start line source).step = .settled (.failed e) s := by
  cases h with
  | unread hc hbreaks =>
    have hr := Fragment.read_eq_error_iff.mpr ⟨_, hbreaks⟩
    unfold start
    cases hclass : Command.classify line with
    | blank | exit | save | publish | direct => simp [hclass, Command.readsBlock] at hc
    | bring spec =>
      have hspec : spec = ['('] := by simpa [hclass, Command.readsBlock] using hc
      simp only [hspec, if_true]
      exact step_withBlock_of_error hr
    | function | statement => exact step_withBlock_of_error hr
  | pathless hc hblock hparse =>
    unfold start
    simp only [hc, hblock, if_false, hparse]
  | nameless hc hr hname =>
    unfold start
    simp only [hc]
    rw [step_withBlock_of_ok hr]
    unfold storeFunction Workspace.declareFunction?
    simp [hname]

/-- What a run fails for is no reason to abandon a turn. -/
theorem not_isAbandonment_interpretRun {path : Text}
    {answer : Except Fault (Except RunError RunOutput)}
    (h : interpretRun path answer = .error e) : e.isAbandonment = false := by
  unfold interpretRun interpret at h
  split at h
  · cases h
    rfl
  · cases h
    rfl
  · split at h <;> cases h
    rfl

variable {o : Outcome}

theorem not_isAbandonment_showValue (h : (s.showValue line).Ends o s') (ho : o = .failed e) :
    e.isAbandonment = false := by
  unfold showValue at h
  cases h with
  | answered settle a =>
    cases ha : interpretRun s.programFile a with
    | ok out => simp [ha] at ho
    | error e' =>
      obtain rfl : e' = e := by simpa [ha] using ho
      exact not_isAbandonment_interpretRun ha

theorem not_isAbandonment_storeStatement {f : Fragment} (h : (s.storeStatement f).Ends o s')
    (ho : o = .failed e) : e.isAbandonment = false := by
  cases hf : f.isDeclaration with
  | true =>
    unfold storeStatement at h
    simp only [hf, if_true] at h
    cases h
    cases ho
  | false =>
    rw [storeStatement_use s hf] at h
    split at h
    · cases h
      cases ho
      rfl
    · cases h with
      | answered settle a =>
        cases ha : interpretRun s.programFile a with
        | ok out => simp [ha] at ho
        | error e' =>
          obtain rfl : e' = e := by simpa [ha] using ho
          exact not_isAbandonment_interpretRun ha

/-- If the fragment of a line is not read, that is the reason; or else it is one that the fragment
gives. -/
theorem abandons_of_withBlock {go : Fragment → Step}
    (hc : (Command.classify line).readsBlock = true)
    (hgo : ∀ f, (Fragment.read line.trim source).result = .ok f → (go f).Ends o s' →
      Abandons line source e)
    (h : (s.withBlock line.trim source go).step.Ends o s') (ho : o = .failed e) :
    Abandons line source e := by
  cases hr : (Fragment.read line.trim source).result with
  | ok f =>
    rw [step_withBlock_of_ok hr] at h
    exact hgo f hr h
  | error e =>
    rw [step_withBlock_of_error hr] at h
    cases h
    cases ho
    obtain ⟨depth, hbreaks⟩ := Fragment.read_eq_error_iff.mp hr
    exact .unread hc hbreaks

/-- A turn that fails before anything is done has one of the reasons listed. -/
theorem abandons_of_ends (h : (s.start line source).step.Ends o s') (ho : o = .failed e)
    (he : e.isAbandonment = true) : Abandons line source e := by
  -- whatever fails after something has been done is no abandonment
  have hlate : e.isAbandonment = false → Abandons line source e := fun hf ↦ by simp [he] at hf
  unfold start at h
  cases hc : Command.classify line with
  | blank | exit =>
    simp only [hc] at h
    cases h
    cases ho
  | save | publish =>
    simp only [hc] at h
    cases h with
    | answered settle a =>
      cases a <;> cases ho
      exact hlate rfl
  | bring spec =>
    simp only [hc] at h
    split at h
    · rename_i hblock
      refine abandons_of_withBlock (by simp [hc, Command.readsBlock, hblock]) (fun f _ hf ↦ ?_) h ho
      cases hf
      cases ho
    · rename_i hline
      split at h
      · cases h
        cases ho
      · rename_i hparse
        cases h
        cases ho
        exact .pathless hc hline hparse
  | function =>
    simp only [hc] at h
    refine abandons_of_withBlock (by simp [hc, Command.readsBlock]) (fun f hr hf ↦ ?_) h ho
    unfold storeFunction at hf
    split at hf
    · cases hf
      cases ho
    · rename_i hnone
      cases hf
      cases ho
      exact .nameless hc hr (Option.map_eq_none_iff.mp hnone)
  | direct =>
    simp only [hc] at h
    exact hlate (not_isAbandonment_showValue h ho)
  | statement =>
    simp only [hc] at h
    refine abandons_of_withBlock (by simp [hc, Command.readsBlock]) (fun f _ hf ↦ ?_) h ho
    exact hlate (not_isAbandonment_storeStatement hf ho)

/-- Abandoned turns may be left out of a run. -/
theorem Runs.filter_isAbandoned {start : Session} {log : List Exchange} (h : Runs start log s) :
    Runs start (log.filter (!·.isAbandoned)) s := by
  induction h with
  | start => exact .start
  | @turn log s s' o line source _ hend ih =>
    rw [List.filter_append, List.filter_singleton]
    by_cases habandoned : ∃ e, o = .failed e ∧ e.isAbandonment = true
    · obtain ⟨e, rfl, he⟩ := habandoned
      rw [step_of_abandons (abandons_of_ends hend rfl he)] at hend
      cases hend
      simpa [Exchange.isAbandoned, he] using ih
    · have hkept : Exchange.isAbandoned
          ⟨line, source, (s.start line source).step.demand?, o⟩ = false := by
        cases o with
        | failed e => exact Bool.eq_false_iff.mpr fun he ↦ habandoned ⟨e, rfl, he⟩
        | _ => rfl
      simpa [hkept] using ih.turn line source hend

/-- A turn that is abandoned changes nothing: not any part of the session, and nothing outside, for
it asks for neither a run nor a file, whatever the host.  It is abandoned when the source breaks off
inside its fragment, at any depth, when an import has no path and when a function has no name, and
for no other reason.  So a run leads to the same session without its abandoned turns. -/
theorem abandoned_turn (s : Session) :
    (∀ line source e, Abandons line source e →
      (s.start line source).step = .settled (.failed e) s ∧
      (s.start line source).step.demand? = none ∧
      ∀ (m : Type → Type) [Monad m] (host : Host m),
        host.finish (s.start line source).step = pure (.failed e, s)) ∧
    (∀ line source e s', (s.start line source).step.Ends (.failed e) s' →
      e.isAbandonment = true → Abandons line source e ∧ s' = s) ∧
    ∀ log s', Runs s log s' → Runs s (log.filter (!·.isAbandoned)) s' := by
  refine ⟨fun line source e h ↦ ?_, fun line source e s' h he ↦ ?_, fun _ _ h ↦
    h.filter_isAbandoned⟩
  · rw [step_of_abandons h]
    exact ⟨rfl, rfl, fun _ _ _ ↦ rfl⟩
  · have habandons := abandons_of_ends h rfl he
    rw [step_of_abandons habandons] at h
    cases h
    exact ⟨habandons, rfl⟩

/-- The source is interrupted two blocks deep inside a function, and it ends inside an import of
several packages. -/
theorem abandoned_turn_nested :
    let s := played "a := 1\nfunc g() \x7b\na()\n\x7d\nfmt.Println(a)\n"
    let function : Text := "func f() \x7b".toList
    let interrupted : List SourceItem := [.line "if a \x7b".toList, .line "b()".toList, .interrupt]
    let batch : List SourceItem := [.line "\"os\"".toList]
    s.Reachable ∧ Fragment.BreaksOff function interrupted 2 .interrupted ∧
      (s.start function interrupted).step = .settled (.failed .interrupted) s ∧
      Fragment.BreaksOff "import (".toList batch 1 .closed ∧
      (s.start "import (".toList batch).step = .settled (.failed (.input .closed)) s := by
  intro s function interrupted batch
  have hfunction : Fragment.BreaksOff function interrupted 2 .interrupted :=
    ⟨["if a \x7b".toList, "b()".toList], [.interrupt], rfl, by decide +kernel, by decide,
      .inr ⟨.interrupt, [], rfl, rfl⟩⟩
  have hbatch : Fragment.BreaksOff "import (".toList batch 1 .closed :=
    ⟨["\"os\"".toList], [], rfl, by decide +kernel, by decide, .inl ⟨rfl, rfl⟩⟩
  have htrim : ∀ {line : Text}, line.trim = line → ∀ {source depth e},
      Fragment.BreaksOff line source depth e → Fragment.BreaksOff line.trim source depth e :=
    fun h _ _ _ hbreaks ↦ h.symm ▸ hbreaks
  refine ⟨reachable_played _, hfunction, ?_, hbatch, ?_⟩
  · exact ((abandoned_turn s).1 _ _ _
      (.unread (by decide +kernel) (htrim (by decide +kernel) hfunction))).1
  · exact ((abandoned_turn s).1 _ _ _
      (.unread (by decide +kernel) (htrim (by decide +kernel) hbatch))).1

end Session
end GoRepl
