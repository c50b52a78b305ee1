import GoRepl.Fragment.Basic

/-!
# Trimming

What `Text.strip` takes from a text and what it leaves.  A text that is trimmed begins and ends with
characters that stay, so trimming once more changes nothing, and neither does trimming what has been
indented before.
-/

namespace GoRepl.Text

variable {p : Char → Bool}

theorem forall_mem_takeWhile (p : Char → Bool) (t : Text) : ∀ c ∈ t.takeWhile p, p c = true :=
  fun c hc ↦ List.all_eq_true.mp List.all_takeWhile c hc

theorem forall_head?_dropWhile (p : Char → Bool) (t : Text) :
    ∀ c ∈ (t.dropWhile p).head?, p c = false := by
  intro c hc
  have h := List.head?_dropWhile_not p t
  rwa [Option.mem_def.mp hc] at h

theorem dropWhile_eq_self {t : Text} (h : ∀ c ∈ t.head?, p c = false) : t.dropWhile p = t := by
  cases t with
  | nil => rfl
  | cons c t => rw [List.dropWhile_cons, if_neg (by simp [h c rfl])]

/-- Only the characters of the text matter for what is trimmed off it. -/
theorem strip_congr {q : Char → Bool} {t : Text} (h : ∀ c ∈ t, p c = q c) :
    strip p t = strip q t := by
  have hdrop : ∀ u : Text, (∀ c ∈ u, p c = q c) → u.dropWhile p = u.dropWhile q := by
    intro u hu
    induction u with
    | nil => rfl
    | cons c u ih =>
      rw [List.dropWhile_cons, List.dropWhile_cons, hu c List.mem_cons_self,
        ih fun d hd ↦ hu d (List.mem_cons_of_mem c hd)]
  unfold strip dropEndWhile
  rw [hdrop t h, hdrop _ fun c hc ↦ ?_]
  exact h c ((List.dropWhile_suffix q).subset (List.mem_reverse.mp hc))

/-- Trimmed from the right, a text lacks its longest end of characters that do not stay. -/
theorem exists_dropEndWhile_append (p : Char → Bool) (t : Text) :
    ∃ tail, t = dropEndWhile p t ++ tail ∧ ∀ c ∈ tail, p c = true := by
  refine ⟨(t.reverse.takeWhile p).reverse, ?_, fun c hc ↦ ?_⟩
  · unfold dropEndWhile
    rw [← List.reverse_append, List.takeWhile_append_dropWhile, List.reverse_reverse]
  · exact forall_mem_takeWhile p _ c (List.mem_reverse.mp hc)

theorem exists_strip_append (p : Char → Bool) (t : Text) :
    ∃ front tail, t = front ++ strip p t ++ tail ∧ (∀ c ∈ front, p c = true) ∧
      ∀ c ∈ tail, p c = true := by
  obtain ⟨tail, htail, hp⟩ := exists_dropEndWhile_append p (t.dropWhile p)
  refine ⟨t.takeWhile p, tail, ?_, forall_mem_takeWhile p t, hp⟩
  calc t = t.takeWhile p ++ t.dropWhile p := List.takeWhile_append_dropWhile.symm
    _ = t.takeWhile p ++ (strip p t ++ tail) := congrArg _ htail
    _ = t.takeWhile p ++ strip p t ++ tail := (List.append_assoc ..).symm

theorem mem_of_mem_strip {t : Text} {c : Char} (h : c ∈ strip p t) : c ∈ t := by
  obtain ⟨front, tail, ht, -⟩ := exists_strip_append p t
  rw [ht]
  simp [h]

/-! ## Texts that are trimmed -/

theorem forall_getLast?_dropEndWhile (p : Char → Bool) (t : Text) :
    ∀ c ∈ (dropEndWhile p t).getLast?, p c = false := by
  unfold dropEndWhile
  rw [List.getLast?_reverse]
  exact forall_head?_dropWhile p t.reverse

theorem forall_head?_strip (p : Char → Bool) (t : Text) :
    ∀ c ∈ (strip p t).head?, p c = false := by
  intro c hc
  obtain ⟨tail, htail, -⟩ := exists_dropEndWhile_append p (t.dropWhile p)
  refine forall_head?_dropWhile p t c ?_
  rw [htail, List.head?_append]
  change c ∈ ((strip p t).head?).or tail.head?
  rw [Option.mem_def.mp hc]
  rfl

theorem dropEndWhile_eq_self {t : Text} (h : ∀ c ∈ t.getLast?, p c = false) :
    dropEndWhile p t = t := by
  unfold dropEndWhile
  rw [dropWhile_eq_self (by rwa [List.head?_reverse]), List.reverse_reverse]

theorem strip_eq_self_iff {t : Text} :
    strip p t = t ↔ (∀ c ∈ t.head?, p c = false) ∧ ∀ c ∈ t.getLast?, p c = false := by
  constructor
  · intro h
    have hhead := forall_head?_strip p t
    have hlast := forall_getLast?_dropEndWhile p (t.dropWhile p)
    change ∀ c ∈ (strip p t).getLast?, p c = false at hlast
    rw [h] at hhead hlast
    exact ⟨hhead, hlast⟩
  · rintro ⟨hhead, hlast⟩
    unfold strip
    rw [dropWhile_eq_self hhead, dropEndWhile_eq_self hlast]

theorem strip_strip (p : Char → Bool) (t : Text) : strip p (strip p t) = strip p t :=
  strip_eq_self_iff.mpr
    ⟨forall_head?_strip p t, forall_getLast?_dropEndWhile p (t.dropWhile p)⟩

@[simp] theorem trim_trim (t : Text) : t.trim.trim = t.trim := strip_strip isBlank t

theorem trimEnd_eq_self {t : Text} (h : t.trim = t) : t.trimEnd = t :=
  dropEndWhile_eq_self (strip_eq_self_iff.mp h).2

/-- Indentation is trimmed off again. -/
@[simp] theorem trim_indented (depth : Nat) (t : Text) : (indented depth t).trim = t.trim := by
  have hblank : ∀ c ∈ (List.replicate depth indentUnit).flatten, isBlank c = true := by
    intro c hc
    obtain ⟨unit, hunit, hc⟩ := List.mem_flatten.mp hc
    rw [List.eq_of_mem_replicate hunit] at hc
    exact List.all_eq_true.mp (by decide : indentUnit.all isBlank = true) c hc
  unfold indented trim strip
  rw [List.dropWhile_append_of_pos hblank]

/-! ## What stays -/

/-- Trimming from the right stops at a character that is not trimmed. -/
theorem dropEndWhile_append {t u : Text} {c : Char} (hc : t.getLast? = some c)
    (hp : p c = false) : dropEndWhile p (t ++ u) = t ++ dropEndWhile p u := by
  obtain ⟨t, rfl⟩ := List.getLast?_eq_some_iff.mp hc
  unfold dropEndWhile
  rw [List.reverse_append, List.dropWhile_append]
  split
  · rename_i h
    rw [List.isEmpty_iff.mp h]
    simp [hp]
  · simp

/-- What is trimmed from the left of a text that begins with a name behind a gap. -/
theorem dropWhile_gap_append {name : Text} (hname : name ≠ []) (hp : ∀ c ∈ name, p c = false)
    (gap after : Text) :
    (gap ++ (name ++ after)).dropWhile p = gap.dropWhile p ++ (name ++ after) := by
  rw [List.dropWhile_append]
  split
  · rename_i h
    obtain ⟨a, rest, rfl⟩ := List.exists_cons_of_ne_nil hname
    rw [List.isEmpty_iff.mp h, List.cons_append, List.dropWhile_cons,
      if_neg (by simp [hp a List.mem_cons_self]), List.nil_append]
  · rfl

/-- Trimming takes nothing of a name, nor of the gap before it but its beginning. -/
theorem strip_gap_append {name : Text} (hname : name ≠ []) (hp : ∀ c ∈ name, p c = false)
    (gap after : Text) :
    strip p (gap ++ name ++ after) = gap.dropWhile p ++ name ++ dropEndWhile p after := by
  have hlast : (gap.dropWhile p ++ name).getLast? = some (name.getLast hname) := by
    rw [List.getLast?_append, List.getLast?_eq_some_getLast hname]
    rfl
  unfold strip
  rw [List.append_assoc, dropWhile_gap_append hname hp, ← List.append_assoc,
    dropEndWhile_append hlast (hp _ (List.getLast_mem hname))]

/-! ## Trimming twice -/

theorem dropEndWhile_append_of_pos {t tail : Text} (htail : ∀ c ∈ tail, p c = true) :
    dropEndWhile p (t ++ tail) = dropEndWhile p t := by
  unfold dropEndWhile
  rw [List.reverse_append,
    List.dropWhile_append_of_pos fun c hc ↦ htail c (List.mem_reverse.mp hc)]

/-- What is trimmed from the right is trimmed from both ends. -/
theorem strip_append_of_pos {t tail : Text} (htail : ∀ c ∈ tail, p c = true) :
    strip p (t ++ tail) = strip p t := by
  unfold strip
  rw [List.dropWhile_append]
  split
  · rename_i h
    rw [List.isEmpty_iff.mp h, ← List.append_nil tail, List.dropWhile_append_of_pos htail]
    rfl
  · exact dropEndWhile_append_of_pos htail

theorem strip_between {front t tail : Text} (hfront : ∀ c ∈ front, p c = true)
    (htail : ∀ c ∈ tail, p c = true) : strip p (front ++ t ++ tail) = strip p t := by
  rw [strip_append_of_pos htail]
  unfold strip
  rw [List.dropWhile_append_of_pos hfront]

theorem strip_dropEndWhile (p : Char → Bool) (t : Text) :
    strip p (dropEndWhile p t) = strip p t := by
  obtain ⟨tail, htail, hp⟩ := exists_dropEndWhile_append p t
  calc strip p (dropEndWhile p t) = strip p (dropEndWhile p t ++ tail) :=
        (strip_append_of_pos hp).symm
    _ = strip p t := by rw [← htail]

/-- A character before a text of which something stays is not trimmed from the right. -/
theorem dropEndWhile_cons {t : Text} (ht : strip p t ≠ []) (c : Char) :
    dropEndWhile p (c :: t) = c :: dropEndWhile p t := by
  have hne : dropEndWhile p t ≠ [] := by
    intro h
    refine ht ?_
    rw [← strip_dropEndWhile, h, strip_nil]
  unfold dropEndWhile at hne ⊢
  rw [List.reverse_cons, List.dropWhile_append,
    if_neg fun h ↦ hne (by simp [List.isEmpty_iff.mp h])]
  simp

end GoRepl.Text
