import GoRepl.Proofs.Turn

/-!
# Deeds

What a host does outside to bring a turn to its end, in order (`Host.deeds`).  It is told by the
same host with a record of what it does (`Host.recorded`), and keeping the record changes nothing
(`Host.run_finish_recorded`).  A turn demands one thing at most, so there is one lemma for each
demand, and the texts that are written and shared are those of the demand.
-/

namespace GoRepl

/-- One thing that a host does. -/
inductive Deed where
  | write (path program : Text)
  | run (path : Text)
  | share (program : Text)
deriving DecidableEq, Repr

theorem Step.exists_of_demand? {step : Step} {d : Demand} (h : step.demand? = some d) :
    ∃ settle, step = .demands d settle := by
  cases step with
  | settled => cases h
  | demands d' settle =>
    cases h
    exact ⟨settle, rfl⟩

namespace Host

variable {σ α : Type}

/-- Do something and put it on record. -/
def record (deed : Deed) (act : StateM σ α) : StateM (σ × List Deed) α := fun (memory, deeds) ↦
  let (a, memory) := act memory
  (a, memory, deeds ++ [deed])

/-- The same host with a record of what it does. -/
def recorded (host : Host (StateM σ)) : Host (StateM (σ × List Deed)) where
  write path program := record (.write path program) (host.write path program)
  run path := record (.run path) (host.run path)
  share program := record (.share program) (host.share program)

/-- What a host does to bring a started turn to its end. -/
def deeds (host : Host (StateM σ)) (step : Step) (memory : σ) : List Deed :=
  ((host.recorded.finish step).run (memory, [])).2.2

/-- A program is run from its file, if the file could be written. -/
theorem run_finish_run (host : Host (StateM σ)) {path program : Text}
    (settle : (Demand.run path program).Answer → Outcome × Session) (memory : σ) :
    (host.finish (.demands (.run path program) settle)).run memory =
      match host.write path program memory with
      | (.error fault, memory) => (settle (.error fault), memory)
      | (.ok (), memory) => (settle (.ok (host.run path memory).1), (host.run path memory).2) := by
  simp only [finish, answer, StateT.run, bind, StateT.bind]
  rcases host.write path program memory with ⟨fault | ⟨⟩, memory'⟩ <;> rfl

/-- Keeping a record changes nothing of what comes of a turn. -/
theorem run_finish_recorded (host : Host (StateM σ)) (step : Step) (memory : σ) :
    let ended := (host.recorded.finish step).run (memory, [])
    (ended.1, ended.2.1) = (host.finish step).run memory := by
  cases step with
  | settled => rfl
  | demands d settle =>
    cases d with
    | run path program =>
      rw [run_finish_run, run_finish_run]
      simp only [recorded, record]
      rcases host.write path program memory with ⟨fault | ⟨⟩, memory'⟩ <;> rfl
    | save | publish => rfl

section Demand

variable (host : Host (StateM σ)) {step : Step} {path program : Text} (memory : σ)

theorem deeds_settled (o : Outcome) (s : Session) : host.deeds (.settled o s) memory = [] := rfl

/-- A program that cannot be written is not run. -/
theorem deeds_run (h : step.demand? = some (.run path program)) :
    host.deeds step memory = .write path program ::
      if (host.write path program memory).1 = .ok () then [.run path] else [] := by
  obtain ⟨settle, rfl⟩ := Step.exists_of_demand? h
  unfold deeds
  rw [run_finish_run]
  simp only [recorded, record]
  rcases host.write path program memory with ⟨fault | ⟨⟩, memory'⟩ <;> rfl

theorem deeds_save (h : step.demand? = some (.save path program)) :
    host.deeds step memory = [.write path program] := by
  obtain ⟨settle, rfl⟩ := Step.exists_of_demand? h
  rfl

theorem deeds_publish (h : step.demand? = some (.publish program)) :
    host.deeds step memory = [.share program] := by
  obtain ⟨settle, rfl⟩ := Step.exists_of_demand? h
  rfl

end Demand

end Host
end GoRepl
