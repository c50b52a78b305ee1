import Mathlib.Logic.Basic
import GoRepl.Proofs.Mentions

/-!
# Tokens

The tokens of a line, told in three more ways.

* One at a time: `next?` works on the pending pieces until it has a token, and whoever asks again
  and again comes to an end (`Yields`).
* By recursion on where the search for a symbol begins: `splitFrom` takes the first symbol from
  there on that occurs, and goes on behind it with each of the parts.  This gives the same tokens in
  the same order (`tokenize_eq_splitFrom`).
* All at once, if only the names matter that some token refers to: `flatPieces` cuts the line at
  every symbol and trims each piece once (`exists_token_iff_exists_piece`).
-/

namespace GoRepl.Token

open Text

/-! ## One token at a time -/

theorem weight_skip_lt (t : Text) (s : Char) (later : List Char) :
    (Piece.mk t later).weight < (Piece.mk t (s :: later)).weight :=
  Nat.mul_lt_mul_of_pos_left (Nat.lt_succ_self _) (Nat.succ_pos _)

/-- The next token, and the pieces that are pending after it. -/
def next? : List Piece → Option (Text × List Piece)
  | [] => none
  | ⟨t, []⟩ :: pending => if isCandidate t.trim then some (t.trim, pending) else next? pending
  | ⟨t, s :: later⟩ :: pending =>
    if s ∈ t then
      if isCandidate t then some (t, cut s later t ++ pending)
      else next? (cut s later t ++ pending)
    else next? (⟨t, later⟩ :: pending)
termination_by pending => totalWeight pending
decreasing_by
  · simp [Piece.weight]
  · have := totalWeight_cut_lt s later t
    simp only [totalWeight_append, totalWeight_cons]
    omega
  · have := weight_skip_lt t s later
    simp only [totalWeight_cons]
    omega

/-- Asked until there is no token any more, the pieces have given these. -/
inductive Yields : List Piece → List Text → Prop
  | done {pending : List Piece} : next? pending = none → Yields pending []
  | more {pending rest : List Piece} {token : Text} {tokens : List Text} :
      next? pending = some (token, rest) → Yields rest tokens → Yields pending (token :: tokens)

/-- To drain the pieces is to ask for the next token and to drain those that are left. -/
theorem drain_eq_next? (pending : List Piece) :
    drain [] pending = (next? pending).elim [] fun (token, rest) ↦ token :: drain [] rest := by
  simp only [drain_eq, List.reverse_nil, List.nil_append]
  fun_induction next? pending with
  | case1 => rfl
  | case2 t pending h => simp [split, keep, h]
  | case3 t pending h ih => simpa [split, keep, h] using ih
  | case4 t s later pending hs h => simp [split, keep, hs, h, cut, List.flatMap_map]
  | case5 t s later pending hs h ih =>
    rw [← ih]
    simp [split, keep, hs, h, cut, List.flatMap_map]
  | case6 t s later pending hs ih =>
    rw [← ih]
    simp [split, hs]

/-- The pieces give their tokens and no others, and come to an end. -/
theorem yields_iff {pending : List Piece} {tokens : List Text} :
    Yields pending tokens ↔ tokens = drain [] pending := by
  constructor
  · intro h
    induction h with
    | done hnext => rw [drain_eq_next?, hnext]; rfl
    | more hnext _ ih => rw [drain_eq_next?, hnext, ih]; rfl
  · intro h
    induction tokens generalizing pending with
    | nil =>
      rw [drain_eq_next?] at h
      cases hnext : next? pending with
      | none => exact .done hnext
      | some p => simp [hnext] at h
    | cons token tokens ih =>
      rw [drain_eq_next?] at h
      cases hnext : next? pending with
      | none => simp [hnext] at h
      | some p =>
        obtain ⟨rfl, htokens⟩ := List.cons.inj (h.trans (congrArg (Option.elim · _ _) hnext))
        exact .more hnext (ih htokens)

/-! ## By recursion on the symbols -/

/-- The first symbol from a place on that occurs in a text, with its own place. -/
def symbolFrom? (start : Nat) (t : Text) : Option (Char × Nat) :=
  ((symbols.drop start).zipIdx start).find? (·.1 ∈ t)

theorem symbolFrom?_bounds {start : Nat} {t : Text} {s : Char} {i : Nat}
    (h : symbolFrom? start t = some (s, i)) : start ≤ i ∧ i < symbols.length := by
  have hmem := List.mem_zipIdx (List.mem_of_find?_eq_some h)
  rw [List.length_drop] at hmem
  omega

/-- The tokens of a piece that the symbols from a place on may still cut.  The first of these that
occurs cuts it, and the symbols behind that one may cut the parts. -/
def splitFrom (start : Nat) (t : Text) : List Text :=
  match h : symbolFrom? start t with
  | none => keep t.trim
  | some (s, i) =>
    have := symbolFrom?_bounds h
    keep t ++ (t.splitOn s).flatMap fun part => splitFrom (i + 1) (trimClosers part)
termination_by symbols.length - start

theorem splitFrom_of_none {start : Nat} {t : Text} (h : symbolFrom? start t = none) :
    splitFrom start t = keep t.trim := by
  rw [splitFrom]
  split
  · rfl
  · rename_i hsome
    exact absurd (h.symm.trans hsome) (by simp)

theorem splitFrom_of_some {start : Nat} {t : Text} {s : Char} {i : Nat}
    (h : symbolFrom? start t = some (s, i)) :
    splitFrom start t =
      keep t ++ (t.splitOn s).flatMap fun part ↦ splitFrom (i + 1) (trimClosers part) := by
  rw [splitFrom]
  split
  · rename_i hnone
    exact absurd (h.symm.trans hnone) (by simp)
  · rename_i s' i' hsome
    obtain ⟨rfl, rfl⟩ := Prod.mk.inj (Option.some.inj (h.symm.trans hsome))
    rfl

/-- Where the search begins does not matter but for the symbol that it finds. -/
theorem splitFrom_congr {start start' : Nat} {t : Text}
    (h : symbolFrom? start t = symbolFrom? start' t) : splitFrom start t = splitFrom start' t := by
  cases hfirst : symbolFrom? start' t with
  | none => rw [splitFrom_of_none (h.trans hfirst), splitFrom_of_none hfirst]
  | some p => rw [splitFrom_of_some (h.trans hfirst), splitFrom_of_some hfirst]

/-- The place stands for the symbols from there on.  The induction is on these: the first of them is
found if it occurs, and is passed over by both if it does not. -/
theorem splitFrom_eq_split {uncut : List Char} {start : Nat} (h : symbols.drop start = uncut)
    (t : Text) : splitFrom start t = split uncut t := by
  induction uncut generalizing start t with
  | nil => exact splitFrom_of_none (by simp [symbolFrom?, h])
  | cons s later ih =>
    have hlater : symbols.drop (start + 1) = later := by
      rw [← List.drop_drop, h, List.drop_one, List.tail_cons]
    have hfind : symbolFrom? start t =
        if s ∈ t then some (s, start) else symbolFrom? (start + 1) t := by
      simp only [symbolFrom?, h, hlater, List.zipIdx_cons, List.find?_cons]
      split <;> simp_all
    by_cases hs : s ∈ t
    · rw [splitFrom_of_some (hfind.trans (if_pos hs)), split, if_pos hs]
      simp only [ih hlater]
    · rw [splitFrom_congr (hfind.trans (if_neg hs)), split, if_neg hs]
      exact ih hlater t

/-- A line is tokenized as the recursion on the symbols says, token for token.  Asked for one token
after another, its pieces give exactly these, and then no more. -/
theorem tokenize_eq_splitFrom (line : Text) :
    tokenize line = splitFrom 0 line ∧
      ∀ tokens, Yields [⟨line, symbols⟩] tokens ↔ tokens = splitFrom 0 line := by
  have htokens : tokenize line = splitFrom 0 line := by
    rw [splitFrom_eq_split (List.drop_zero ..), tokenize, drain_eq]
    simp
  refine ⟨htokens, fun tokens ↦ ?_⟩
  rw [← htokens]
  exact yields_iff

/-! ## All at once -/

/-- The pieces between the symbols of a line, each trimmed once: of closing parentheses, if some
symbol cuts the line, and then of blanks. -/
def flatPieces (line : Text) : List Text :=
  (line.splitOnP (· ∈ symbols)).map fun piece =>
    Text.trim (if symbols.any (· ∈ line) then strip (· == ')') piece else piece)

/-- There is no space in a piece, so that only parentheses are trimmed off as closers. -/
theorem strip_piece {line piece : Text} (h : piece ∈ line.splitOnP (· ∈ symbols)) :
    strip (· == ')') piece = trimClosers piece := by
  obtain ⟨-, -, -, -, -, hnone⟩ := mem_splitOnP_iff.mp h
  refine strip_congr fun c hc ↦ ?_
  have hspace : c ≠ ' ' := by
    rintro rfl
    exact absurd (hnone ' ' hc) (by decide)
  simp [hspace]

/-- Some token of a line refers to a name just in case one of the pieces does that are cut at all
symbols at once: the tokens in between neither add nor lose a reference.  A piece refers to a name
if it begins with it and then ends or goes on otherwise. -/
theorem exists_token_iff_exists_piece {name : Text} (hname : ∀ c ∈ name, continuesName c = true)
    (hfirst : ∀ c ∈ name.head?, isDigit c = false) (line : Text) :
    ((∃ token ∈ tokenize line, refersTo token name = true) ↔
      ∃ piece ∈ flatPieces line, refersTo piece name = true) ∧
    (name ≠ [] → ((∃ token ∈ tokenize line, refersTo token name = true) ↔
      ∃ piece ∈ flatPieces line, ∃ after, piece = name ++ after ∧ Ends after)) := by
  have hmatch : (∃ token ∈ tokenize line, refersTo token name = true) ↔
      ∃ piece ∈ flatPieces line, refersTo piece name = true := by
    by_cases hne : name = []
    · simp [hne, refersTo]
    have hname : IsName name := ⟨hne, hname, hfirst⟩
    have htokens : tokenize line = split symbols line := by simp [tokenize, drain_eq]
    rw [htokens, exists_split_iff hname continuesName_of_mem_symbols]
    simp only [flatPieces, List.mem_map, exists_exists_and_eq_and]
    split
    · refine exists_congr fun piece ↦ and_congr_right fun hpiece ↦ ?_
      rw [strip_piece hpiece]
    · rename_i hcut
      have hnone : ∀ c ∈ line, decide (c ∈ symbols) = false := by
        intro c hc
        refine decide_eq_false fun hs ↦ hcut (List.any_eq_true.mpr ⟨c, hs, decide_eq_true hc⟩)
      simp [List.splitOnP_eq_singleton hnone]
  refine ⟨hmatch, fun hne ↦ hmatch.trans ?_⟩
  simp only [refersTo_iff hne]

/-- The piece with the name begins with a closing parenthesis and a tab.  Cut at one symbol after
another, the line has two longer pieces with it before, which are tokens as well. -/
theorem exists_token_iff_exists_piece_argument :
    let line := "n := f(g(a),)\trest[0])".toList
    let name := "rest".toList
    (∀ c ∈ name, continuesName c = true) ∧ (∀ c ∈ name.head?, isDigit c = false) ∧
      flatPieces line = ["n", ":", "", "f", "g", "a", "rest[0]"].map String.toList ∧
      ∃ token ∈ tokenize line, refersTo token name = true := by
  intro line name
  have hname : IsName name := by decide
  have hpieces : flatPieces line = ["n", ":", "", "f", "g", "a", "rest[0]"].map String.toList := by
    decide +kernel
  have hiff := exists_token_iff_exists_piece hname.continues hname.first line
  refine ⟨hname.continues, hname.first, hpieces, (hiff.2 hname.ne_nil).mpr ?_⟩
  rw [hpieces]
  exact ⟨"rest[0]".toList, by decide, "[0]".toList, rfl, by decide⟩

end GoRepl.Token
