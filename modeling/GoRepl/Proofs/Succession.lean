import GoRepl.Proofs.Imports

/-!
# Succession

What a name goes back to after a run.  The declaring events of a run are the default imports and
then what the turns declare, in order (`Session.events`).  A name goes back to the last event that
declares it, unless that is an import whose path has been imported again under another name since;
then it has no record, like a name that has never been declared (`Session.record_of_run`).

The law is kept by each of the three operations that change records.  For imports it takes that each
package is backed by its spec, for functions that two records never point at the same body.
-/

namespace GoRepl

/-- What a name is declared by. -/
inductive Origin where
  /-- A statement, at its place in the history. -/
  | statement (place : Nat) (f : Fragment)
  | function (f : Fragment)
  | package (spec : ImportSpec)
deriving DecidableEq

structure Event where
  name : Text
  origin : Origin
deriving DecidableEq

def Event.ofImport (spec : ImportSpec) : Event := ⟨spec.identifier, .package spec⟩

/-- A path is imported under one name at a time. -/
def Origin.supersedes : Origin → Origin → Bool
  | package later, package earlier => later.path = earlier.path
  | _, _ => false

namespace Event

/-- What a name goes back to when one more event has come, given what it went back to before. -/
def succeed (n : Text) (current : Option Origin) (e : Event) : Option Origin :=
  if e.name = n then some e.origin else current.filter (!e.origin.supersedes ·)

/-- What a name goes back to after events. -/
def origin? (n : Text) (events : List Event) : Option Origin := events.foldl (succeed n) none

variable {n : Text}

theorem succeed_of_eq {e : Event} (he : e.name = n) (current : Option Origin) :
    succeed n current e = some e.origin := if_pos he

theorem succeed_none {e : Event} (he : e.name ≠ n) : succeed n none e = none := if_neg he

theorem succeed_some {e : Event} (he : e.name ≠ n) (o : Origin) :
    succeed n (some o) e = if e.origin.supersedes o then none else some o := by
  unfold succeed
  rw [if_neg he]
  cases h : e.origin.supersedes o <;> simp [Option.filter, h]

theorem foldl_succeed_none {later : List Event} (hn : ∀ e ∈ later, e.name ≠ n) :
    later.foldl (succeed n) none = none := by
  induction later with
  | nil => rfl
  | cons e later ih =>
    rw [List.foldl_cons, succeed_none (hn e List.mem_cons_self)]
    exact ih fun e he ↦ hn e (List.mem_cons_of_mem _ he)

theorem foldl_succeed_some {later : List Event} (hn : ∀ e ∈ later, e.name ≠ n) (o : Origin) :
    later.foldl (succeed n) (some o) =
      if later.any (·.origin.supersedes o) then none else some o := by
  induction later with
  | nil => rfl
  | cons e later ih =>
    have hlater : ∀ e ∈ later, e.name ≠ n := fun e he ↦ hn e (List.mem_cons_of_mem _ he)
    rw [List.foldl_cons, succeed_some (hn e List.mem_cons_self), List.any_cons]
    cases e.origin.supersedes o with
    | true => exact foldl_succeed_none hlater
    | false => exact ih hlater

/-- The last event that declares the name decides, unless it has been superseded. -/
theorem origin?_append_cons {later : List Event} (hn : ∀ e ∈ later, e.name ≠ n)
    (earlier : List Event) (o : Origin) :
    origin? n (earlier ++ ⟨n, o⟩ :: later) =
      if later.any (·.origin.supersedes o) then none else some o := by
  rw [origin?, List.foldl_append, List.foldl_cons, succeed, if_pos rfl]
  exact foldl_succeed_some hn o

/-- Only imports supersede. -/
theorem origin?_append_map (events : List Event) (names : List Text) {o : Origin}
    (ho : ∀ earlier, o.supersedes earlier = false) :
    origin? n (events ++ names.map (⟨·, o⟩)) =
      if n ∈ names then some o else origin? n events := by
  unfold origin?
  rw [List.foldl_append]
  generalize events.foldl (succeed n) none = current
  induction names generalizing current with
  | nil => rfl
  | cons m names ih =>
    rw [List.map_cons, List.foldl_cons, ih]
    by_cases hm : m = n
    · subst hm
      simp [succeed]
    · have hkeeps : succeed n current ⟨m, o⟩ = current := by
        cases current with
        | none => exact succeed_none hm
        | some earlier => rw [succeed_some hm, ho, if_neg Bool.false_ne_true]
      simp [hkeeps, Ne.symm hm]

end Event

namespace Workspace

/-- The name goes back to this origin: its record is of the origin's kind and points at it. -/
inductive GoesBack (w : Workspace) (n : Text) : Origin → Prop
  | statement {place : Nat} {e : Entry} : w.entries.reverse[place]? = some e →
      w.registry.get? n = some ⟨.var, .fragment e.id⟩ → GoesBack w n (.statement place e.fragment)
  | function {id : FragmentId} {f : Fragment} : w.registry.get? n = some ⟨.func, .fragment id⟩ →
      w.bodies.get? id = some f → GoesBack w n (.function f)
  | package {spec : ImportSpec} : w.Imports spec → spec.identifier = n →
      GoesBack w n (.package spec)

/-- Each name goes back to what it should, and a name without an origin has no record. -/
structure Follows (w : Workspace) (events : List Event) : Prop where
  undeclared : ∀ n, Event.origin? n events = none → w.registry.get? n = none
  goesBack : ∀ n o, Event.origin? n events = some o → w.GoesBack n o

/-- The history only grows, so the places in it stay. -/
theorem GoesBack.of_eq {v w : Workspace} {n : Text} {o : Origin} (h : v.GoesBack n o)
    (hes : v.entries <:+ w.entries) (hget : w.registry.get? n = v.registry.get? n)
    (hspecs : ∀ spec, o = .package spec → w.specs.get? n = v.specs.get? n)
    (hbodies : ∀ id f, v.registry.get? n = some ⟨.func, .fragment id⟩ →
      v.bodies.get? id = some f → w.bodies.get? id = some f) : w.GoesBack n o := by
  cases h with
  | @statement place e hplace hrecord =>
    refine .statement ?_ (hget.trans hrecord)
    obtain ⟨later, hes⟩ := hes
    have hbound := (List.getElem?_eq_some_iff.mp hplace).1
    rw [← hes, List.reverse_append, List.getElem?_append_left hbound]
    exact hplace
  | function hrecord hbody => exact .function (hget.trans hrecord) (hbodies _ _ hrecord hbody)
  | package hspec hname =>
    subst hname
    exact .package (hspec.of_eq hget (hspecs _ rfl)) rfl

section Follows

variable {v w : Workspace} {events : List Event}

theorem Follows.of_keepsRecords (h : v.Follows events) (hkeeps : v.KeepsRecords w)
    (hes : v.entries <:+ w.entries) : w.Follows events where
  undeclared := fun n hn ↦ (hkeeps.get? n).trans (h.undeclared n hn)
  goesBack := fun n o hn ↦ (h.goesBack n o hn).of_eq hes (hkeeps.get? n)
    (fun _ _ ↦ by rw [hkeeps.specs]) fun _ _ _ hbody ↦ hkeeps.bodies ▸ hbody

/-- The events of one origin that is no import: its names go back to it, and nothing else
changes. -/
theorem Follows.declares (h : v.Follows events) {names : List Text} {o : Origin}
    (ho : ∀ earlier, o.supersedes earlier = false) (hnew : ∀ n ∈ names, w.GoesBack n o)
    (hget : ∀ n ∉ names, w.registry.get? n = v.registry.get? n)
    (hes : v.entries <:+ w.entries) (hspecs : w.specs = v.specs)
    (hbodies : ∀ n ∉ names, ∀ id f, v.registry.get? n = some ⟨.func, .fragment id⟩ →
      v.bodies.get? id = some f → w.bodies.get? id = some f) :
    w.Follows (events ++ names.map (⟨·, o⟩)) := by
  constructor
  · intro n hn
    rw [Event.origin?_append_map events names ho] at hn
    split at hn
    · cases hn
    · rename_i hnot
      exact (hget n hnot).trans (h.undeclared n hn)
  · intro n o' hn
    rw [Event.origin?_append_map events names ho] at hn
    split at hn
    · rename_i hmem
      cases hn
      exact hnew n hmem
    · rename_i hnot
      exact (h.goesBack n o' hn).of_eq hes (hget n hnot) (fun _ _ ↦ by rw [hspecs]) (hbodies n hnot)

theorem Follows.add (h : w.Follows events) {f : Fragment} (hf : f.isDeclaration = true) :
    (w.add f).Follows (events ++ f.declaredNames.map (⟨·, .statement w.entries.length f⟩)) := by
  refine h.declares (fun _ ↦ rfl) (fun n hn ↦ ?_) (fun n hn ↦ ?_) ?_ (specs_add w f) ?_
  · obtain ⟨e, hes, hid, rfl, -⟩ := exists_entry_add w f
    refine .statement ?_ ?_
    · rw [hes, List.reverse_cons, ← List.length_reverse, List.getElem?_concat_length]
    · rw [get?_add, if_pos ⟨hf, hn⟩, hid]
  · rw [get?_add, if_neg (by simp [hn])]
  · rw [entries_add]
    exact List.suffix_cons ..
  · intro n _ id g _ hg
    rwa [bodies_add]

theorem Follows.declareFunction (h : v.Follows events) (hv : v.Named) {f : Fragment} {name : Text}
    (hw : v.declareFunction? f = some (name, w)) :
    w.Follows (events ++ [⟨name, .function f⟩]) := by
  obtain ⟨-, -, hget, -⟩ := declareFunction?_spec hw
  change w.Follows (events ++ [name].map (⟨·, .function f⟩))
  refine h.declares (fun _ ↦ rfl) (fun n hn ↦ ?_) (fun n hn ↦ ?_) ?_
    (specs_declareFunction? hw) fun n hn id g hid hg ↦ ?_
  · obtain rfl := List.mem_singleton.mp hn
    exact .function ((hget n).trans (if_pos rfl))
      ((bodies_declareFunction? hw _).trans (if_pos rfl))
  · rw [hget, if_neg fun hname ↦ hn (List.mem_singleton.mpr hname.symm)]
  · exact (hides_declareFunction hw).entries ▸ List.suffix_refl _
  · -- the body is one of another name, so it is neither new nor replaced
    have hnew : v.registry.nextId ≠ id := Nat.ne_of_gt (hv.bounded n id (.inl hid))
    have hother : v.registry.owner? .func name ≠ some (.fragment id) := by
      intro hname
      have hname := hv.named name id g (.inl (Registry.owner?_eq_some.mp hname)) hg
      have hsame := hname.symm.trans (hv.named n id g (.inl hid) hg)
      exact hn (List.mem_singleton.mpr (Option.some.inj hsame).symm)
    rw [bodies_declareFunction? hw, if_neg hnew, if_neg hother]
    exact hg

section Import

variable {spec : ImportSpec} {n : Text} (hne : spec.identifier ≠ n)

include hne

theorem get?_declareImport_of_none (h : w.registry.get? n = none) :
    (w.declareImport spec).registry.get? n = none := by
  rw [get?_declareImport_of_ne spec hne, h, ite_self]

theorem GoesBack.superseded {o : Origin} (h : w.GoesBack n o)
    (hover : (Origin.package spec).supersedes o = true) :
    (w.declareImport spec).registry.get? n = none := by
  cases h with
  | statement | function => cases hover
  | package hold hname =>
    subst hname
    exact get?_declareImport_of_path spec hold hne (of_decide_eq_true hover).symm

theorem GoesBack.declareImport {o : Origin} (h : w.GoesBack n o) (hw : w.Specified)
    (hover : (Origin.package spec).supersedes o = false) : (w.declareImport spec).GoesBack n o := by
  have hpaths : ∀ old, w.Imports old → old.identifier = n → old.path ≠ spec.path := by
    rintro old hold rfl
    have hrecord := hold.record
    cases h with
    | statement _ hother | function hother => simp [hother] at hrecord
    | package hold' hname =>
      obtain rfl := hold'.unique hold hname
      simpa [Origin.supersedes, eq_comm] using hover
  refine h.of_eq ((hides_declareImport w spec).entries ▸ List.suffix_refl _)
    (get?_declareImport_of_forall spec hw hne hpaths) (fun old hold ↦ ?_) fun _ _ _ hbody ↦ hbody
  subst hold
  cases h with
  | package hold hname =>
    subst hname
    rw [hold.known]
    exact (get?_specs_declareImport spec hne).mpr
      ⟨hold.known, Registry.mem_names.mpr ⟨_, hold.record⟩, hpaths old hold rfl⟩

end Import

theorem Follows.declareImport (h : w.Follows events) (hw : w.Specified) {spec : ImportSpec}
    (hspec : spec.IsWritten) :
    (w.declareImport spec).Follows (events ++ [.ofImport spec]) := by
  have hsucceed : ∀ n, Event.origin? n (events ++ [.ofImport spec]) =
      Event.succeed n (Event.origin? n events) (.ofImport spec) := fun n ↦ by
    unfold Event.origin?
    rw [List.foldl_append]
    rfl
  suffices hn : ∀ n, match Event.origin? n (events ++ [.ofImport spec]) with
      | none => (w.declareImport spec).registry.get? n = none
      | some o => (w.declareImport spec).GoesBack n o from
    ⟨fun n ho ↦ by simpa [ho] using hn n, fun n o ho ↦ by simpa [ho] using hn n⟩
  intro n
  rw [hsucceed]
  by_cases hne : spec.identifier = n
  · rw [Event.succeed_of_eq hne]
    exact .package (imports_declareImport spec hspec) hne
  · cases ho : Event.origin? n events with
    | none =>
      rw [Event.succeed_none hne]
      exact get?_declareImport_of_none hne (h.undeclared n ho)
    | some o =>
      rw [Event.succeed_some hne]
      have hgoes := h.goesBack n o ho
      cases hover : (Event.ofImport spec).origin.supersedes o with
      | true => exact hgoes.superseded hne hover
      | false => exact hgoes.declareImport hne hw hover

theorem Follows.declareImports (h : w.Follows events) (hw : w.Specified) {specs : List ImportSpec}
    (hspecs : ∀ spec ∈ specs, spec.IsWritten) :
    (specs.foldl Workspace.declareImport w).Follows (events ++ specs.map .ofImport) := by
  induction specs generalizing w events with
  | nil => simpa using h
  | cons spec specs ih =>
    have hspec := hspecs spec List.mem_cons_self
    have hrest := ih (h.declareImport hw hspec) (hw.declareImport spec hspec) fun other hother ↦
      hspecs other (List.mem_cons_of_mem _ hother)
    rwa [List.append_assoc] at hrest

end Follows

end Workspace

/-! ## Runs -/

/-- The declaring events of a turn, where the history has the given number of statements before
it. -/
def Exchange.events (place : Nat) (x : Exchange) : List Event :=
  match x.outcome, Command.classify x.line with
  | .declared _, .bring _ => ((Session.broughtSpecs? x.line x.source).getD []).map .ofImport
  | .declared _, .function =>
    match (Fragment.read x.line.trim x.source).result with
    | .ok f => f.functionName?.toList.map (⟨·, .function f⟩)
    | .error _ => []
  | .declared _, .statement =>
    match (Fragment.read x.line.trim x.source).result with
    | .ok f => f.declaredNames.map (⟨·, .statement place f⟩)
    | .error _ => []
  | _, _ => []

namespace Session

open Workspace

/-- The declaring events of turns in order, where the history has the given number of statements
before them. -/
def eventsFrom (place : Nat) : List Exchange → List Event
  | [] => []
  | x :: log => x.events place ++ eventsFrom (place + x.accepted?.toList.length) log

/-- The declaring events of a run: the default imports, and what the turns declare. -/
def events (imports : List Text) (log : List Exchange) : List Event :=
  (imports.map fun path ↦ .ofImport ⟨none, path⟩) ++ eventsFrom 0 log

theorem eventsFrom_append (place : Nat) (log : List Exchange) (x : Exchange) :
    eventsFrom place (log ++ [x]) =
      eventsFrom place log ++ x.events (place + (log.filterMap Exchange.accepted?).length) := by
  induction log generalizing place with
  | nil => simp [eventsFrom]
  | cons y log ih =>
    rw [List.cons_append, eventsFrom, eventsFrom, ih, List.append_assoc, List.filterMap_cons]
    cases y.accepted? <;> simp [Nat.add_assoc, Nat.add_comm 1]

variable {s s' : Session} {line : Text} {source : List SourceItem} {o : Outcome}

theorem Turn.entries_suffix (h : s.Turn line source o s') :
    s.workspace.entries <:+ s'.workspace.entries := by
  rw [h.entries none]
  cases Exchange.accepted? ⟨line, source, none, o⟩ with
  | none => exact List.suffix_refl _
  | some f => exact ⟨[_], (entries_add ..).symm⟩

theorem events_eq_nil {x : Exchange} (hx : ∀ names, x.outcome ≠ .declared names) (place : Nat) :
    x.events place = [] := by
  unfold Exchange.events
  cases ho : x.outcome with
  | declared names => exact absurd ho (hx names)
  | _ => rfl

/-- What a turn declares is what its events say. -/
theorem Turn.follows (h : s.Turn line source o s') (hs : s.Reachable) (d : Option Demand)
    {events : List Event} (hw : s.workspace.Follows events) :
    s'.workspace.Follows
      (events ++ Exchange.events s.workspace.entries.length ⟨line, source, d, o⟩) := by
  by_cases ho : ∀ names, o ≠ .declared names
  · rw [events_eq_nil ho, List.append_nil]
    exact hw.of_keepsRecords (h.keepsRecords ho) h.entries_suffix
  · obtain ⟨names, rfl⟩ : ∃ names, o = .declared names := by simpa using ho
    cases h with
    | unchanged _ hno | assembled _ hno => cases hno
    | shown _ _ hno => exact absurd rfl (hno names)
    | imported specs hspecs =>
      obtain ⟨⟨text, hc⟩, hread⟩ := exists_of_broughtSpecs? hspecs
      have hevents := hw.declareImports hs.specified fun spec hspec ↦ .inr (hread spec hspec)
      simpa [Exchange.events, hc, hspecs] using hevents
    | function h hc hr =>
      have hevents := hw.declareFunction hs.workspace.named h
      simpa [Exchange.events, hc, hr, (declareFunction?_spec h).1] using hevents
    | declared hf hc hr =>
      have hevents := hw.add hf
      simpa [Exchange.events, hc, hr] using hevents

theorem Runs.follows {imports : List Text} {template : Template} {programFile : Text}
    {log : List Exchange} {s : Session} (h : Runs (.new imports template programFile) log s) :
    s.workspace.Follows (events imports log) := by
  induction h with
  | start =>
    have hempty : Follows {} [] := ⟨fun _ _ ↦ rfl, fun _ _ h ↦ by cases h⟩
    have hnone : Specified {} := fun n hn ↦ by cases hn
    have hwritten : ∀ spec ∈ imports.map fun path ↦ ImportSpec.mk none path, spec.IsWritten := by
      intro spec hspec
      obtain ⟨path, -, rfl⟩ := List.mem_map.mp hspec
      exact .inl rfl
    have hevents := hempty.declareImports hnone hwritten
    rw [← ofImports_eq, List.map_map] at hevents
    change (ofImports imports).Follows _
    simpa [events, eventsFrom, Function.comp_def] using hevents
  | @turn log s s' o line source hrun h ih =>
    have hs : s.Reachable := hrun.reachable (.new ..)
    have hplace : (log.filterMap Exchange.accepted?).length = s.workspace.entries.length := by
      rw [← hrun.history]
      simp [Workspace.history]
    have hevents := (turn_of_ends h).follows hs (s.start line source).step.demand? ih
    unfold events at hevents ⊢
    rwa [eventsFrom_append, Nat.zero_add, hplace, ← List.append_assoc]

/-- Neither failed turns nor uses declare anything. -/
theorem Turn.declarations_eq (h : s.Turn line source o s')
    (ho : o.isFailure = true ∨ ∃ f, IsUse line source f) :
    s'.workspace.registry.declarations = s.workspace.registry.declarations := by
  refine (h.keepsRecords fun names hdeclared ↦ ?_).declarations
  subst hdeclared
  rcases ho with ho | ⟨f, hf⟩
  · cases ho
  · exact h.of_declared.1 f hf

/-- After a run, a name goes back to the last event that declares it, unless that was an import
whose path has been imported anew since.  Failed turns and uses change no record. -/
theorem record_of_run {imports : List Text} {template : Template} {programFile : Text}
    {log : List Exchange} (h : Runs (.new imports template programFile) log s) :
    (∀ n, ((∀ e ∈ events imports log, e.name ≠ n) → s.workspace.registry.get? n = none) ∧
      ∀ earlier o later, events imports log = earlier ++ ⟨n, o⟩ :: later →
        (∀ e ∈ later, e.name ≠ n) →
        (later.any (·.origin.supersedes o) = true → s.workspace.registry.get? n = none) ∧
        (later.any (·.origin.supersedes o) = false → s.workspace.GoesBack n o)) ∧
    ∀ {line source o s'}, (s.start line source).step.Ends o s' →
      (o.isFailure = true ∨ ∃ f, IsUse line source f) →
      s'.workspace.registry.declarations = s.workspace.registry.declarations := by
  refine ⟨fun n ↦ ⟨fun hn ↦ ?_, fun earlier o later hevents hn ↦ ?_⟩,
    fun h ↦ (turn_of_ends h).declarations_eq⟩
  · exact h.follows.undeclared n (Event.foldl_succeed_none hn)
  · have horigin := Event.origin?_append_cons hn earlier o
    rw [← hevents] at horigin
    refine ⟨fun hover ↦ ?_, fun hover ↦ ?_⟩
    · exact h.follows.undeclared n (horigin.trans (if_pos hover))
    · exact h.follows.goesBack n o (horigin.trans (by simp [hover]))

/-- Names pass from variables to functions and packages, a path passes from one name to another, and
a use and a block that cannot be read fail in between. -/
theorem record_of_run_shadowed :
    let start : Session := .new ["fmt".toList] .standard "main.go".toList
    let turns : List (Text × List SourceItem) :=
      [("a, f := 1, 2".toList, []), ("func f() \x7b".toList, [.line "\x7d".toList]),
        ("import \"math/rand\"".toList, []), ("a = missing".toList, []),
        ("import r \"math/rand\"".toList, []), ("fmt.Println(a)".toList, []),
        ("a := 3".toList, []), ("func g() \x7b".toList, []),
        ("func h() \x7b".toList, [.line "\x7d".toList]), ("import f \"os\"".toList, [])]
    let talk := start.converse (Demand.compiled (rejectingText "missing".toList)) turns
    let w := talk.2.workspace
    let pair : Origin := .statement 0 (.ofLine "a, f := 1, 2".toList)
    let single : Origin := .statement 2 (.ofLine "a := 3".toList)
    let f : Origin := .function ⟨"func f() \x7b".toList, .line ['\x7d'] .nil⟩
    let h : Origin := .function ⟨"func h() \x7b".toList, .line ['\x7d'] .nil⟩
    let rand : ImportSpec := ⟨none, "math/rand".toList⟩
    let os : ImportSpec := ⟨some ['f'], "os".toList⟩
    let es : List Event := [.ofImport ⟨none, "fmt".toList⟩, ⟨['a'], pair⟩, ⟨['f'], pair⟩,
      ⟨['f'], f⟩, .ofImport rand, .ofImport { rand with localName := some ['r'] }, ⟨['a'], single⟩,
      ⟨['h'], h⟩, .ofImport os]
    Runs start talk.1 talk.2 ∧ events ["fmt".toList] talk.1 = es ∧
      w.registry.get? ['g'] = none ∧ w.registry.get? "rand".toList = none ∧
      w.GoesBack ['a'] single ∧ w.GoesBack ['h'] h ∧ w.GoesBack ['f'] (.package os) := by
  intro start turns talk w pair single f h rand os es
  have hrun : Runs start talk.1 talk.2 := Runs.start.converse _ turns
  have hes : events ["fmt".toList] talk.1 = es := by decide +kernel
  have hrecord := (record_of_run hrun).1
  refine ⟨hrun, hes, (hrecord ['g']).1 ?_, ?_, ?_, ?_, ?_⟩
  · rw [hes]
    decide
  · exact ((hrecord "rand".toList).2 (es.take 4) (.package rand) (es.drop 5) hes (by decide)).1
      (by decide)
  · exact ((hrecord ['a']).2 (es.take 6) single (es.drop 7) hes (by decide)).2 (by decide)
  · exact ((hrecord ['h']).2 (es.take 7) h (es.drop 8) hes (by decide)).2 (by decide)
  · exact ((hrecord ['f']).2 (es.take 8) (.package os) (es.drop 9) hes (by decide)).2 (by decide)

end Session

end GoRepl
