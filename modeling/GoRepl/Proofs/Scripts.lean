import GoRepl.Proofs.Consumption
import GoRepl.Proofs.Runs

/-!
# Scripts

Playing one script after another.  The lines of a block and the lines of the turns come from one
queue, so where a turn ends is for reading to decide; but reading that comes to its end takes no
line too many (`Session.start_append`), and so the turns of a script do not depend on what follows
them (`Script.account_append`).  The two exceptions are the turn that says `exit`, after which
nothing is played, and a block that is still open at the end of the script, which would go on with
the lines that follow.
-/

namespace GoRepl

namespace Session

variable {s : Session} {line : Text} {source : List SourceItem}

/-- A turn that is not stopped by the end of its lines reads the same block when more lines
follow. -/
theorem withBlock_append {go : Fragment → Step} (hsource : ∀ item ∈ source, item.error? = none)
    (hopen : ∀ s', (s.withBlock line source go).step ≠ .settled (.failed (.input .closed)) s')
    (more : List SourceItem) :
    s.withBlock line (source ++ more) go = { s.withBlock line source go with
      rest := (s.withBlock line source go).rest ++ more } ∧
    (s.withBlock line source go).rest <:+ source := by
  unfold withBlock at hopen ⊢
  cases hr : (Fragment.read line source).result with
  | ok f =>
    rw [Fragment.read_append hr]
    simp only [hr, true_and]
    exact Fragment.rest_suffix_of_ok hr
  | error e =>
    obtain rfl := Fragment.eq_closed_of_error hsource hr
    simp only [hr] at hopen
    exact absurd rfl (hopen s)

theorem start_append (hsource : ∀ item ∈ source, item.error? = none)
    (hopen : ∀ s', (s.start line source).step ≠ .settled (.failed (.input .closed)) s')
    (more : List SourceItem) :
    s.start line (source ++ more) = { s.start line source with
      rest := (s.start line source).rest ++ more } ∧
    (s.start line source).rest <:+ source := by
  unfold start at hopen ⊢
  cases hc : Command.classify line with
  | blank | exit | save | publish | direct => exact ⟨rfl, List.suffix_refl _⟩
  | function | statement =>
    simp only [hc] at hopen ⊢
    exact withBlock_append hsource hopen more
  | bring spec =>
    simp only [hc] at hopen ⊢
    split
    · rename_i hspec
      rw [if_pos hspec] at hopen
      exact withBlock_append hsource hopen more
    · cases ImportSpec.parse? spec <;> exact ⟨rfl, List.suffix_refl _⟩

end Session

namespace Host

variable {σ : Type}

/-- What a host answers does not depend on what it remembers of earlier demands. -/
def Forgetful (host : Host (StateM σ)) : Prop :=
  ∀ d memory memory', ((host.answer d).run memory).1 = ((host.answer d).run memory').1

theorem Forgetful.finish {host : Host (StateM σ)} (h : host.Forgetful) (step : Step)
    (memory memory' : σ) :
    ((host.finish step).run memory).1 = ((host.finish step).run memory').1 := by
  cases step with
  | settled o s => rfl
  | demands d settle => exact congrArg settle (h d memory memory')

/-- The host that keeps the program written last, and runs it with a toolchain that looks at nothing
else. -/
def compiling (toolchain : Text → Except RunError RunOutput) : Host (StateM Text) where
  write _ program := do
    set program
    return .ok ()
  run _ := return toolchain (← get)
  share _ := return .error .unavailable

theorem forgetful_compiling (toolchain : Text → Except RunError RunOutput) :
    (compiling toolchain).Forgetful := fun d _ _ ↦ by cases d <;> rfl

end Host

namespace Script

/-- A turn that a script has taken: its line and the lines of its block, what it demanded of the
outside, what came of it, and the session after it. -/
structure Taken where
  line : Text
  block : List SourceItem
  demand : Option Demand
  outcome : Outcome
  after : Session

/-- What playing a script comes to: the turns in order, and the session, the memory of the host and
the lines that they leave. -/
structure Account (σ : Type) where
  turns : List Taken
  session : Session
  memory : σ
  rest : List SourceItem

variable {σ : Type}

namespace Account

/-- One more turn before the others. -/
def cons (t : Taken) (a : Account σ) : Account σ := { a with turns := t :: a.turns }

/-- One script after the other. -/
def andThen (a b : Account σ) : Account σ := { b with turns := a.turns ++ b.turns }

end Account

/-- The account of playing lines until they end or one of them says `exit`. -/
def account (host : Host (StateM σ)) (s : Session) (memory : σ) : List SourceItem → Account σ
  | .line line :: source =>
    let start := s.start line source
    let ended := (host.finish start.step).run memory
    let turn : Taken := ⟨line, source.take (source.length - start.rest.length),
      start.step.demand?, ended.1.1, ended.1.2⟩
    if ended.1.1 = .exit then ⟨[turn], ended.1.2, ended.2, start.rest⟩
    else (account host ended.1.2 ended.2 start.rest).cons turn
  | source => ⟨[], s, memory, source⟩
termination_by source => source.length
decreasing_by exact Nat.lt_succ_of_le (Session.length_start_rest_le ..)

/-! ## What playing shows of the account -/

/-- The progress after the turns of an account. -/
def Progress.following (p : Progress) (a : Account σ) : Progress where
  session := a.session
  summary :=
    ⟨p.summary.turns + a.turns.countP (·.outcome ≠ .idle),
      p.summary.failures + a.turns.countP (·.outcome.isFailure)⟩
  printed := (a.turns.flatMap (·.outcome.report)).reverse ++ p.printed

/-- The progress of one script and then of another one. -/
def Progress.andThen (p q : Progress) : Progress where
  session := q.session
  summary :=
    ⟨p.summary.turns + q.summary.turns, p.summary.failures + q.summary.failures⟩
  printed := q.printed ++ p.printed

theorem Progress.following_nil (p : Progress) (memory : σ) (rest : List SourceItem) :
    p.following ⟨[], p.session, memory, rest⟩ = p := rfl

theorem Progress.following_andThen (s : Session) (a b : Account σ) :
    following { session := s } (a.andThen b) =
      (following { session := s } a).andThen (following { session := a.session } b) := by
  simp [following, andThen, Account.andThen]

theorem Progress.following_cons (p : Progress) (t : Taken) (a : Account σ) :
    p.following (a.cons t) = (p.advance t.outcome t.after).following a := by
  obtain ⟨line, block, demand, outcome, after⟩ := t
  cases outcome <;>
    simp [following, advance, Account.cons, Outcome.isFailure, Nat.add_assoc, Nat.add_comm 1]

/-- Playing shows the account of what is played. -/
theorem run_play (host : Host (StateM σ)) (p : Progress) (memory : σ) (source : List SourceItem) :
    (play host p source).run memory =
      let a := account host p.session memory source
      ((p.following a, a.rest), a.memory) := by
  unfold play
  fun_induction perform host (fun _ ↦ return) p source generalizing memory with
  | case1 p line source start ih =>
    simp only [pure_bind, StateT.run_bind]
    rw [account]
    generalize (host.finish start.step).run memory = ended
    obtain ⟨⟨o, s⟩, memory'⟩ := ended
    let turn : Taken := ⟨line, source.take (source.length - start.rest.length),
      start.step.demand?, o, s⟩
    dsimp only [bind]
    split
    · have h := (p.following_cons turn ⟨[], s, memory', start.rest⟩).trans
        ((p.advance o s).following_nil memory' start.rest)
      exact congrArg (fun q ↦ ((q, start.rest), memory')) h.symm
    · have h := p.following_cons turn (account host s memory' start.rest)
      rw [ih]
      exact congrArg (fun q ↦ ((q, _), _)) h.symm
  | case2 p source h =>
    rw [account]
    · rfl
    · exact h

/-! ## One script after the other -/

/-- A turn that ends by itself: neither is it the last one to be played, nor does it want more lines
than there are. -/
def Taken.Ended (t : Taken) : Prop := t.outcome ≠ .exit ∧ t.outcome ≠ .failed (.input .closed)

instance (t : Taken) : Decidable t.Ended :=
  inferInstanceAs (Decidable (t.outcome ≠ .exit ∧ t.outcome ≠ .failed (.input .closed)))

/-- What follows the lines of a script does not change its turns if each of them ends by itself. -/
theorem account_append (host : Host (StateM σ)) {s : Session} {memory : σ} {first : List SourceItem}
    (hsource : ∀ item ∈ first, item.error? = none)
    (hturns : ∀ t ∈ (account host s memory first).turns, t.Ended) (second : List SourceItem) :
    let a := account host s memory first
    account host s memory (first ++ second) =
      a.andThen (account host a.session a.memory second) ∧ a.rest = [] := by
  fun_induction account host s memory first with
  | case1 s memory line source start ended turn hexit =>
    exact absurd hexit (hturns turn List.mem_cons_self).1
  | case2 s memory line source start ended turn hexit ih =>
    -- if the lines had given out inside the block, the turn would have failed with that
    have hopen : ∀ s', start.step ≠ .settled (.failed (.input .closed)) s' := by
      intro s' hs'
      have hended : ended.1.1 = .failed (.input .closed) := by
        simp only [ended, hs']
        rfl
      exact (hturns turn List.mem_cons_self).2 hended
    obtain ⟨hstart, hsuffix⟩ := Session.start_append
      (fun item h ↦ hsource item (List.mem_cons_of_mem _ h)) hopen second
    obtain ⟨hlater, hrest⟩ := ih
      (fun item h ↦ hsource item (List.mem_cons_of_mem _ (hsuffix.subset h)))
      (fun t h ↦ hturns t (List.mem_cons_of_mem _ h))
    have hblock : (source ++ second).take
        ((source ++ second).length - (start.rest ++ second).length) =
        source.take (source.length - start.rest.length) := by
      rw [List.length_append, List.length_append, Nat.add_sub_add_right,
        List.take_append_of_le_length (Nat.sub_le ..)]
    refine ⟨?_, hrest⟩
    rw [List.cons_append, account]
    simp only [hstart]
    rw [if_neg hexit, hblock]
    exact congrArg (Account.cons turn) hlater
  | case3 s memory source h =>
    cases source with
    | nil => exact ⟨rfl, rfl⟩
    | cons item source =>
      cases item with
      | line line => exact absurd rfl (h line source)
      | interrupt | fault reason => cases hsource _ List.mem_cons_self

/-- What is left of an account when the memory of the host is not looked at. -/
def Account.forget (a : Account σ) : Account Unit := { a with memory := () }

/-- A host that remembers nothing does the same turns whatever its memory. -/
theorem forget_account {host : Host (StateM σ)} (hhost : host.Forgetful) (s : Session)
    (memory memory' : σ) (source : List SourceItem) :
    (account host s memory source).forget = (account host s memory' source).forget := by
  fun_induction account host s memory source generalizing memory' with
  | case1 s memory line source start ended turn hexit =>
    have h : ended.1 = ((host.finish start.step).run memory').1 := hhost.finish ..
    rw [account]
    generalize (host.finish start.step).run memory' = ended' at h ⊢
    obtain ⟨end', memory''⟩ := ended'
    obtain rfl : ended.1 = end' := h
    rw [if_pos hexit]
    rfl
  | case2 s memory line source start ended turn hexit ih =>
    have h : ended.1 = ((host.finish start.step).run memory').1 := hhost.finish ..
    rw [account]
    generalize (host.finish start.step).run memory' = ended' at h ⊢
    obtain ⟨end', memory''⟩ := ended'
    obtain rfl : ended.1 = end' := h
    rw [if_neg hexit]
    exact congrArg (Account.cons turn) (ih memory'')
  | case3 s memory source h =>
    rw [account]
    · rfl
    · exact h

/-- Two scripts in one, the second played from the session that the first leaves.  Where every turn
of the first ends by itself, the turns are those of the first and then those of the second; so are
the demands made to the host and what is printed, the turns and failures add up, and the session is
the one that the second leaves.  The second goes on with what the host remembers of the first, which
does not matter to a host that answers by the demand alone. -/
theorem play_append (host : Host (StateM σ)) (s : Session) (memory : σ) (first second : List Text)
    (hturns : ∀ t ∈ (account host s memory (first.map .line)).turns, t.Ended) :
    let a := account host s memory (first.map .line)
    let b := account host a.session a.memory (second.map .line)
    let p := (play host { session := s } (first.map .line)).run memory
    let q := (play host { session := p.1.1.session } (second.map .line)).run p.2
    p = ((Progress.following { session := s } a, []), a.memory) ∧
    account host s memory ((first ++ second).map .line) = a.andThen b ∧
    (play host { session := s } ((first ++ second).map .line)).run memory =
      ((p.1.1.andThen q.1.1, q.1.2), q.2) ∧
    (host.Forgetful → ∀ memory',
      (account host a.session memory' (second.map .line)).forget = b.forget ∧
      ((play host { session := a.session } (second.map .line)).run memory').1 = q.1) := by
  intro a b p q
  have hlines : ∀ item ∈ first.map SourceItem.line, item.error? = none := by
    intro item hitem
    obtain ⟨line, -, rfl⟩ := List.mem_map.mp hitem
    rfl
  have hp : p = ((Progress.following { session := s } a, a.rest), a.memory) := run_play ..
  have hq : q = ((Progress.following { session := a.session } b, b.rest), b.memory) := by
    simp only [q, hp]
    exact run_play ..
  obtain ⟨happend, hrest⟩ := account_append host hlines hturns (second.map .line)
  rw [← List.map_append] at happend
  refine ⟨by rw [hp, hrest], happend, ?_, fun hhost memory' ↦ ?_⟩
  · rw [run_play, hp, hq, happend]
    exact congrArg (fun r ↦ ((r, b.rest), b.memory)) (Progress.following_andThen ..)
  · have hforget := forget_account hhost a.session memory' a.memory (second.map .line)
    refine ⟨hforget, ?_⟩
    rw [run_play, hq]
    exact congrArg (fun c : Account Unit ↦
      (Progress.following { session := a.session } c, c.rest)) hforget

/-- A block, a rejected use, an import, a value, a save and blank lines on both sides of the seam;
the second script says `exit` before its end. -/
theorem play_append_mixed :
    let host := Host.compiling (rejectingText "missing".toList)
    let s : Session := .new ["fmt".toList] .standard "main.go".toList
    let first := ["a := 1".toList, [], "if a > 0 \x7b".toList, "fmt.Println(a)".toList,
      "\x7d else \x7b".toList, [], "fmt.Println(-a)".toList, "\x7d".toList,
      "a = missing".toList, []]
    let second := ["  ".toList, "import \"os\"".toList, "os.Exit(a)".toList, "1 + 2".toList,
      "save".toList, "share".toList, "exit".toList, "a = 2".toList]
    let a := account host s [] (first.map .line)
    let b := account host a.session a.memory (second.map .line)
    account host s [] ((first ++ second).map .line) = a.andThen b ∧
    (account host a.session "package main".toList (second.map .line)).forget = b.forget ∧
    a.turns.map (fun t ↦ (t.block.length, t.outcome.isFailure)) =
      [(0, false), (0, false), (5, false), (0, true), (0, false)] ∧
    b.turns.map (fun t ↦ (t.block.length, t.outcome.isFailure)) =
      [(0, false), (0, false), (0, false), (0, false), (0, false), (0, true), (0, false)] ∧
    b.rest = [.line "a = 2".toList] := by
  intro host s first second a b
  have hturns : ∀ t ∈ a.turns, t.Ended := by decide +kernel
  obtain ⟨-, happend, -, hforget⟩ := play_append host s [] first second hturns
  exact ⟨happend, (hforget (Host.forgetful_compiling _) _).1, by decide +kernel⟩

end Script
end GoRepl
