import GuidAtlas.Text.Basic
import Mathlib.Data.List.Infix
import Mathlib.Data.List.TakeWhile

/-!
Trimming: what the ends of a trimmed text look like, and the texts that trimming leaves alone.
-/

namespace GuidAtlas.Text

variable {p : Char → Bool} {t : Text}

theorem head?_trimStartOf (p : Char → Bool) (t : Text) :
    ∀ c ∈ (trimStartOf p t).head?, p c = false := by
  intro c hc
  have h := List.head?_dropWhile_not p t
  rw [trimStartOf, Option.mem_def] at hc
  rw [hc] at h
  exact h

theorem trimStartOf_eq_self (h : ∀ c ∈ t.head?, p c = false) : trimStartOf p t = t := by
  cases t with
  | nil => rfl
  | cons c t => exact List.dropWhile_cons_of_neg (by simp [h c rfl])

theorem trimStartOf_append {blanks : Text} (h : ∀ c ∈ blanks, p c = true) (t : Text) :
    trimStartOf p (blanks ++ t) = trimStartOf p t :=
  List.dropWhile_append_of_pos h

theorem reverse_trimEndOf (p : Char → Bool) (t : Text) :
    (trimEndOf p t).reverse = trimStartOf p t.reverse := by
  simp [trimEndOf, trimStartOf]

theorem getLast?_trimEndOf (p : Char → Bool) (t : Text) :
    ∀ c ∈ (trimEndOf p t).getLast?, p c = false := by
  rw [← List.head?_reverse, reverse_trimEndOf]
  exact head?_trimStartOf p t.reverse

theorem trimEndOf_eq_self (h : ∀ c ∈ t.getLast?, p c = false) : trimEndOf p t = t := by
  rw [← List.head?_reverse] at h
  rw [← List.reverse_inj, reverse_trimEndOf, trimStartOf_eq_self h]

theorem trimEndOf_append {blanks : Text} (h : ∀ c ∈ blanks, p c = true) (t : Text) :
    trimEndOf p (t ++ blanks) = trimEndOf p t := by
  rw [← List.reverse_inj, reverse_trimEndOf, reverse_trimEndOf, List.reverse_append,
    trimStartOf_append fun c hc => h c (List.mem_reverse.1 hc)]

/-- Trimming the end stops at the latest at a character that is kept. -/
theorem trimEndOf_append_cons {c : Char} (hc : p c = false) (before after : Text) :
    trimEndOf p (before ++ c :: after) = before ++ c :: trimEndOf p after := by
  rw [← List.reverse_inj, reverse_trimEndOf, trimStartOf]
  simp only [List.reverse_append, List.reverse_cons, reverse_trimEndOf, List.append_assoc]
  rw [List.dropWhile_append]
  by_cases hempty : (after.reverse.dropWhile p).isEmpty = true
  case pos =>
    have hnil : after.reverse.dropWhile p = [] := List.isEmpty_iff.1 hempty
    simp [trimStartOf, hnil, hc]
  case neg => rw [if_neg hempty, trimStartOf]

/-- So do both ends, each at its side of the character. -/
theorem trimOf_append_cons {c : Char} (hc : p c = false) (before after : Text) :
    trimOf p (before ++ c :: after) = trimStartOf p before ++ c :: trimEndOf p after := by
  have hstart : trimStartOf p (before ++ c :: after) = trimStartOf p before ++ c :: after := by
    rw [trimStartOf, List.dropWhile_append]
    split
    case isTrue hempty =>
      rw [trimStartOf, List.isEmpty_iff.1 hempty, List.dropWhile_cons_of_neg (by simp [hc])]
      rfl
    case isFalse => rfl
  rw [trimOf, hstart, trimEndOf_append_cons hc]

theorem trimEndOf_prefix (p : Char → Bool) (t : Text) : trimEndOf p t <+: t := by
  rw [← List.reverse_suffix, reverse_trimEndOf]
  exact List.dropWhile_suffix p

theorem count_trimEndOf {c : Char} (hc : p c = false) (t : Text) :
    (trimEndOf p t).count c = t.count c := by
  have hparts : (t.reverse.takeWhile p).count c + (t.reverse.dropWhile p).count c = t.count c := by
    rw [← List.count_append, List.takeWhile_append_dropWhile, List.count_reverse]
  have hdropped : (t.reverse.takeWhile p).count c = 0 := by
    refine List.count_eq_zero.2 fun hmem => ?_
    rw [List.mem_takeWhile_imp hmem] at hc
    cases hc
  rw [trimEndOf, List.count_reverse, ← hparts, hdropped, Nat.zero_add]

theorem trimOf_isInfix (p : Char → Bool) (t : Text) : trimOf p t <:+: t := by
  have hend : trimOf p t <+: trimStartOf p t := trimEndOf_prefix p (trimStartOf p t)
  exact hend.isInfix.trans (List.dropWhile_suffix p).isInfix

theorem trimOf_subset (p : Char → Bool) (t : Text) : trimOf p t ⊆ t := (trimOf_isInfix p t).subset

theorem trimOf_append_left {blanks : Text} (h : ∀ c ∈ blanks, p c = true) (t : Text) :
    trimOf p (blanks ++ t) = trimOf p t := by
  rw [trimOf, trimOf, trimStartOf_append h]

theorem trimOf_append_right {blanks : Text} (h : ∀ c ∈ blanks, p c = true) (t : Text) :
    trimOf p (t ++ blanks) = trimOf p t := by
  rw [trimOf, trimOf, trimStartOf, List.dropWhile_append]
  by_cases hempty : (t.dropWhile p).isEmpty = true
  case pos =>
    have hblanks : blanks.dropWhile p = [] := by simpa [trimStartOf] using trimStartOf_append h []
    rw [if_pos hempty, hblanks, trimStartOf, List.isEmpty_iff.1 hempty]
  case neg => rw [if_neg hempty, trimEndOf_append h, trimStartOf]

theorem mem_trimStartOf {c : Char} (h : c ∈ t) (hc : p c = false) : c ∈ trimStartOf p t := by
  rw [← List.takeWhile_append_dropWhile (p := p) (l := t), List.mem_append] at h
  rcases h with h | h
  · have hp := List.all_eq_true.1 (List.all_takeWhile (p := p) (l := t)) c h
    rw [hc] at hp
    cases hp
  · exact h

theorem mem_trimOf {c : Char} (h : c ∈ t) (hc : p c = false) : c ∈ trimOf p t := by
  rw [trimOf, ← List.mem_reverse, reverse_trimEndOf]
  exact mem_trimStartOf (List.mem_reverse.2 (mem_trimStartOf h hc)) hc

theorem trimOf_trimStartOf (p : Char → Bool) (t : Text) :
    trimOf p (trimStartOf p t) = trimOf p t := by
  rw [trimOf, trimOf, trimStartOf_eq_self (head?_trimStartOf p t)]

theorem head?_trimOf (p : Char → Bool) (t : Text) : ∀ c ∈ (trimOf p t).head?, p c = false := by
  intro c hc
  refine head?_trimStartOf p t c ?_
  obtain ⟨rest, hrest⟩ := trimEndOf_prefix p (trimStartOf p t)
  rw [← hrest, List.head?_append, Option.mem_def]
  rw [trimOf, Option.mem_def] at hc
  rw [hc, Option.some_or]

theorem getLast?_trimOf (p : Char → Bool) (t : Text) : ∀ c ∈ (trimOf p t).getLast?, p c = false :=
  getLast?_trimEndOf p (trimStartOf p t)

theorem trimOf_eq_self (hhead : ∀ c ∈ t.head?, p c = false)
    (hlast : ∀ c ∈ t.getLast?, p c = false) : trimOf p t = t := by
  rw [trimOf, trimStartOf_eq_self hhead, trimEndOf_eq_self hlast]

theorem trimOf_trimOf (p : Char → Bool) (t : Text) : trimOf p (trimOf p t) = trimOf p t :=
  trimOf_eq_self (head?_trimOf p t) (getLast?_trimOf p t)

theorem trimOf_append {before after : Text} (hbefore : ∀ c ∈ before, p c = true)
    (hafter : ∀ c ∈ after, p c = true) (hhead : ∀ c ∈ t.head?, p c = false)
    (hlast : ∀ c ∈ t.getLast?, p c = false) : trimOf p (before ++ t ++ after) = t := by
  rw [trimOf, List.append_assoc, trimStartOf_append hbefore]
  cases t with
  | nil =>
      have hnil := trimStartOf_append hafter []
      rw [List.append_nil] at hnil
      rw [List.nil_append, hnil]
      rfl
  | cons c t =>
      have hstart : trimStartOf p (c :: t ++ after) = c :: t ++ after :=
        trimStartOf_eq_self (by simpa using hhead)
      rw [hstart, trimEndOf_append hafter, trimEndOf_eq_self hlast]

theorem exists_eq_trimOf (p : Char → Bool) (t : Text) :
    ∃ before after, t = before ++ trimOf p t ++ after ∧ (∀ c ∈ before, p c = true) ∧
      ∀ c ∈ after, p c = true := by
  refine ⟨t.takeWhile p, ((trimStartOf p t).reverse.takeWhile p).reverse, ?_, ?_, ?_⟩
  · rw [trimOf, trimEndOf, List.append_assoc, ← List.reverse_append,
      List.takeWhile_append_dropWhile, List.reverse_reverse, trimStartOf,
      List.takeWhile_append_dropWhile]
  · exact fun c hc => List.mem_takeWhile_imp hc
  · exact fun c hc => List.mem_takeWhile_imp (List.mem_reverse.1 hc)

theorem trimOf_eq_nil (h : ∀ c ∈ t, p c = true) : trimOf p t = [] := by
  have hright := trimOf_append_right h []
  rw [List.nil_append] at hright
  exact hright

/-- A piece whose ends are kept stops the trimming from both sides. -/
theorem trimOf_append_middle {middle : Text} (hne : middle ≠ [])
    (hhead : ∀ c ∈ middle.head?, p c = false) (hlast : ∀ c ∈ middle.getLast?, p c = false)
    (before after : Text) :
    trimOf p (before ++ middle ++ after) =
      trimStartOf p before ++ middle ++ trimEndOf p after := by
  have hend : trimEndOf p (middle ++ after) = middle ++ trimEndOf p after := by
    obtain ⟨init, d, rfl⟩ := (List.eq_nil_or_concat' middle).resolve_left hne
    have hd : p d = false := hlast d (by simp)
    rw [List.append_assoc, List.singleton_append, trimEndOf_append_cons hd, List.append_assoc,
      List.singleton_append]
  obtain ⟨c, rest, rfl⟩ := List.exists_cons_of_ne_nil hne
  have hc : p c = false := hhead c rfl
  have hcons : c :: trimEndOf p (rest ++ after) = trimEndOf p (c :: (rest ++ after)) :=
    (trimEndOf_append_cons hc [] (rest ++ after)).symm
  rw [List.append_assoc, List.cons_append, trimOf_append_cons hc, hcons, List.append_assoc]
  exact congrArg (trimStartOf p before ++ ·) hend

/-- Trimming one kind of characters does not matter to trimming another kind behind which none of
the first is left. -/
theorem trimOf_trimOf_of_eq_self {q : Char → Bool} (h : trimOf q (trimOf p t) = trimOf p t) :
    trimOf p (trimOf q t) = trimOf p t := by
  obtain ⟨before, after, heq, hbefore, hafter⟩ := exists_eq_trimOf p t
  by_cases hnil : trimOf p t = []
  case pos =>
    have hall : ∀ c ∈ t, p c = true := by
      intro c hc
      rw [heq, hnil, List.append_nil] at hc
      exact (List.mem_append.1 hc).elim (hbefore c) (hafter c)
    rw [hnil]
    exact trimOf_eq_nil fun c hc => hall c (trimOf_subset q t hc)
  case neg =>
    have hq : trimOf q t = trimStartOf q before ++ trimOf p t ++ trimEndOf q after := by
      have hhead := head?_trimOf q (trimOf p t)
      have hlast := getLast?_trimOf q (trimOf p t)
      rw [h] at hhead hlast
      conv_lhs => rw [heq]
      exact trimOf_append_middle hnil hhead hlast before after
    have hstart : trimStartOf q before <:+ before := List.dropWhile_suffix q
    have hend : trimEndOf q after <+: after := trimEndOf_prefix q after
    rw [hq]
    exact trimOf_append (fun c hc => hbefore c (hstart.subset hc))
      (fun c hc => hafter c (hend.subset hc)) (head?_trimOf p t) (getLast?_trimOf p t)

end GuidAtlas.Text
