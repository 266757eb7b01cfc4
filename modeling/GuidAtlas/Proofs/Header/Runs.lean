import GuidAtlas.Header.Word
import GuidAtlas.Proofs.Text.Search
import GuidAtlas.Proofs.Text.Utf8
import Mathlib.Data.List.Basic
import Mathlib.Data.List.TakeWhile

/-!
The words of a line as runs of characters. A run takes every character that belongs to words and
everything behind an opening bracket up to the closing one, and it is read from the line with dots
for the separators of qualified names.
-/

namespace GuidAtlas.Header

open Text

variable {t word before after : Text} {c : Char}

/-- The character `a` with no `b` behind it. -/
def StandsLast (a b : Char) (t : Text) : Prop := ∃ before behind, t = before ++ a :: behind ∧
  b ∉ behind

/-- An opening bracket is not closed yet; brackets do not nest here. -/
def InBrackets (t : Text) : Prop := StandsLast '<' '>' t

/-- A word that stands in front of a text and goes on as long as it can. -/
structure IsRun (word after : Text) : Prop where
  mem : ∀ before c rest, word = before ++ c :: rest → isWordChar c = true ∨ InBrackets before
  stops : ∀ c ∈ after.head?, isWordChar c = false ∧ ¬InBrackets word

section

variable {a b : Char}

@[simp] theorem not_standsLast_nil : ¬StandsLast a b [] := by
  rintro ⟨before, behind, h, -⟩
  simp at h

theorem standsLast_concat : StandsLast a b (t ++ [c]) ↔ c = a ∨ c ≠ b ∧ StandsLast a b t := by
  constructor
  · rintro ⟨before, behind, h, hbehind⟩
    rcases List.eq_nil_or_concat' behind with rfl | ⟨behind, d, rfl⟩
    · exact .inl (by simpa using congrArg List.getLast? h)
    · have hparts : t ++ [c] = (before ++ a :: behind) ++ [d] := by simpa using h
      obtain ⟨rfl, hc⟩ := List.append_inj' hparts rfl
      obtain rfl : c = d := by simpa using hc
      rw [List.mem_append, not_or] at hbehind
      exact .inr ⟨fun heq => hbehind.2 (by simp [heq]), before, behind, rfl, hbehind.1⟩
  · rintro (rfl | ⟨hc, before, behind, rfl, hbehind⟩)
    · exact ⟨t, [], rfl, List.not_mem_nil⟩
    · exact ⟨before, behind ++ [c], by simp, by simp [hbehind, Ne.symm hc]⟩

theorem standsLast_append_cons (hab : a ≠ b) (s : Text) :
    StandsLast a b (s ++ b :: t) ↔ StandsLast a b t := by
  induction t using List.reverseRecOn with
  | nil => simp [standsLast_concat, Ne.symm hab]
  | append_singleton t c ih =>
      rw [← List.cons_append, ← List.append_assoc, standsLast_concat, standsLast_concat, ih]

theorem StandsLast.mem (h : StandsLast a b t) : a ∈ t := by
  obtain ⟨before, behind, rfl, -⟩ := h
  simp

/-- The last of two characters decides. -/
theorem not_standsLast_iff (hab : a ≠ b) (ht : a ∈ t) : ¬StandsLast a b t ↔ StandsLast b a t := by
  induction t using List.reverseRecOn with
  | nil => cases ht
  | append_singleton t c ih =>
      rw [standsLast_concat, standsLast_concat]
      by_cases hca : c = a
      case pos => simp [hca, hab]
      case neg =>
        have hrest : a ∈ t := by simpa [Ne.symm hca] using ht
        by_cases hcb : c = b
        case pos => simp [hcb, Ne.symm hab]
        case neg => simp [hca, hcb, ih hrest]

end

@[simp] theorem not_inBrackets_nil : ¬InBrackets [] := not_standsLast_nil

theorem inBrackets_concat : InBrackets (t ++ [c]) ↔ c = '<' ∨ c ≠ '>' ∧ InBrackets t :=
  standsLast_concat

theorem wordAtStart_cons (inBrackets : Bool) (c : Char) (t : Text) :
    wordAtStart inBrackets (c :: t) = if isWordChar c = true ∨ inBrackets = true then
      c :: wordAtStart (c = '<' || (c ≠ '>' && inBrackets)) t else [] := by
  have hopen : isWordChar '<' = true := by decide
  have hclose : isWordChar '>' = true := by decide
  rw [wordAtStart]
  refine if_congr ?_ rfl rfl
  by_cases hc : c = '<'
  · simp [hc, hopen]
  · by_cases hd : c = '>'
    · simp [hd, hclose]
    · simp [hc, hd, or_comm]

/-- What is read of a word of which a part has been passed. -/
theorem wordAtStart_append_iff {passed : Text} {inBrackets : Bool}
    (hpassed : inBrackets = true ↔ InBrackets passed) :
    wordAtStart inBrackets (word ++ after) = word ↔
      (∀ before c rest, word = before ++ c :: rest →
        isWordChar c = true ∨ InBrackets (passed ++ before)) ∧
      ∀ c ∈ after.head?, isWordChar c = false ∧ ¬InBrackets (passed ++ word) := by
  -- On the word; the flag always tells whether what has been passed ends inside brackets.
  induction word generalizing passed inBrackets with
  | nil =>
      cases after with
      | nil => simp [wordAtStart]
      | cons c after => simp [wordAtStart_cons, ← hpassed]
  | cons c word ih =>
      have hnext : (c = '<' || (c ≠ '>' && inBrackets)) = true ↔ InBrackets (passed ++ [c]) := by
        simp [inBrackets_concat, ← hpassed]
      have hread : wordAtStart inBrackets (c :: word ++ after) = c :: word ↔
          (isWordChar c = true ∨ InBrackets passed) ∧
            wordAtStart (c = '<' || (c ≠ '>' && inBrackets)) (word ++ after) = word := by
        rw [List.cons_append, wordAtStart_cons, ← hpassed]
        split
        case isTrue hc => simp [hc]
        case isFalse hc => simp [hc]
      rw [hread, ih hnext, ← and_assoc, List.append_assoc, List.singleton_append]
      refine and_congr_left fun _ => ⟨fun ⟨hc, hword⟩ before d rest hpart => ?_, fun h => ⟨?_, ?_⟩⟩
      · cases before with
        | nil =>
            obtain ⟨rfl, -⟩ := List.cons.inj hpart
            rwa [List.append_nil]
        | cons e before =>
            obtain ⟨rfl, htail⟩ := List.cons.inj hpart
            simpa using hword before d rest htail
      · simpa using h [] c word rfl
      · intro before d rest hpart
        simpa using h (c :: before) d rest (by rw [hpart, List.cons_append])

theorem isRun_iff : IsRun word after ↔ wordAtStart false (word ++ after) = word := by
  have hnone : false = true ↔ InBrackets [] := by simp
  rw [wordAtStart_append_iff hnone]
  exact ⟨fun h => ⟨h.mem, h.stops⟩, fun h => ⟨h.1, h.2⟩⟩

instance (word after : Text) : Decidable (IsRun word after) := decidable_of_iff _ isRun_iff.symm

theorem wordAtStart_isPrefix (inBrackets : Bool) (t : Text) : wordAtStart inBrackets t <+: t := by
  induction t generalizing inBrackets with
  | nil => exact List.nil_prefix
  | cons c t ih =>
      rw [wordAtStart_cons]
      split
      · exact List.cons_prefix_cons.2 ⟨rfl, ih _⟩
      · exact List.nil_prefix

theorem exists_isRun (t : Text) :
    ∃ after, t = wordAtStart false t ++ after ∧ IsRun (wordAtStart false t) after := by
  obtain ⟨after, hafter⟩ := wordAtStart_isPrefix false t
  exact ⟨after, hafter.symm, isRun_iff.2 (by rw [hafter])⟩

theorem IsRun.head (h : IsRun (c :: word) after) : isWordChar c = true :=
  (h.mem [] c word rfl).resolve_right not_inBrackets_nil

theorem isRun_of_isWordChar (hword : ∀ c ∈ word, isWordChar c = true) (hopen : '<' ∉ word)
    (hafter : ∀ c ∈ after.head?, isWordChar c = false) : IsRun word after where
  mem before c rest hpart := .inl (hword c (by simp [hpart]))
  stops c hc := ⟨hafter c hc, fun h => hopen h.mem⟩

/-- The first word of a text is the first run in it. -/
theorem wordIn?_eq_some_iff : wordIn? t = some (before, word) ↔
    ∃ after, t = before ++ (word ++ after) ∧ (∀ c ∈ before, isWordChar c = false) ∧ word ≠ [] ∧
      IsRun word after := by
  constructor
  · intro h
    obtain ⟨after, htext, hrun⟩ := exists_isRun (t.dropWhile (!isWordChar ·))
    rw [wordIn?] at h
    split at h
    case h_1 => cases h
    case h_2 hne =>
      cases h
      refine ⟨after, ?_, fun c hc => ?_, hne, hrun⟩
      · rw [← htext, List.takeWhile_append_dropWhile]
      · simpa using List.mem_takeWhile_imp hc
  · rintro ⟨after, rfl, hbefore, hne, hrun⟩
    obtain ⟨c, rest, rfl⟩ := List.exists_cons_of_ne_nil hne
    have hpassed : ∀ d ∈ before, (!isWordChar d) = true := fun d hd => by simp [hbefore d hd]
    have htake : (before ++ (c :: rest ++ after)).takeWhile (!isWordChar ·) = before := by
      rw [List.takeWhile_append_of_pos hpassed]
      simp [hrun.head]
    have hdrop : (before ++ (c :: rest ++ after)).dropWhile (!isWordChar ·) =
        c :: rest ++ after := by
      rw [List.dropWhile_append_of_pos hpassed]
      simp [hrun.head]
    rw [wordIn?, htake, hdrop, isRun_iff.1 hrun]

theorem wordIn?_eq_none_iff : wordIn? t = none ↔ ∀ c ∈ t, isWordChar c = false := by
  constructor
  · intro h
    have hrest : t.dropWhile (!isWordChar ·) = [] := by
      cases hdrop : t.dropWhile (!isWordChar ·) with
      | nil => rfl
      | cons c rest =>
          have hc : isWordChar c = true := by
            have hhead := List.head?_dropWhile_not (!isWordChar ·) t
            rw [hdrop] at hhead
            simpa using hhead
          rw [wordIn?, hdrop, wordAtStart_cons, if_pos (.inl hc)] at h
          cases h
    simpa using List.dropWhile_eq_nil_iff.1 hrest
  · intro h
    have hrest : t.dropWhile (!isWordChar ·) = [] :=
      List.dropWhile_eq_nil_iff.2 fun c hc => by simp [h c hc]
    rw [wordIn?, hrest]
    rfl

@[simp] theorem dotted_nil : dotted [] = [] := rfl

theorem dotted_colons (t : Text) : dotted (':' :: ':' :: t) = '.' :: dotted t := rfl

theorem dotted_cons (h : ¬"::".toList <+: c :: t) : dotted (c :: t) = c :: dotted t := by
  have hstart : "::".toList.isPrefixOf (c :: t) = false := by
    rwa [Bool.eq_false_iff, ne_eq, List.isPrefixOf_iff_prefix]
  rw [dotted, replace, replaceFrom, hstart]
  rfl

theorem dotted_eq_self (h : ¬"::".toList <:+: t) : dotted t = t := replace_eq_self h

theorem dotted_append_cons (hc : c ≠ ':') (a b : Text) :
    dotted (a ++ c :: b) = dotted a ++ c :: dotted b :=
  replace_append_cons (by decide) (by simp [hc]) "." a b

theorem dotted_cons_of_ne (hc : c ≠ ':') (t : Text) : dotted (c :: t) = c :: dotted t :=
  dotted_append_cons hc [] t

theorem dotted_append {a b : Text} (h : ∀ c ∈ b.head?, c ≠ ':') :
    dotted (a ++ b) = dotted a ++ dotted b := by
  cases b with
  | nil => simp
  | cons c b =>
      have hc : c ≠ ':' := h c rfl
      rw [dotted_append_cons hc, dotted_cons_of_ne hc]

theorem head?_dotted (h : ∀ c ∈ t.head?, c ≠ ':') : (dotted t).head? = t.head? := by
  cases t with
  | nil => rfl
  | cons c t => rw [dotted_cons_of_ne (h c rfl), List.head?_cons, List.head?_cons]

@[elab_as_elim] theorem colons_induction {motive : Text → Prop} (t : Text) (nil : motive [])
    (colons : ∀ t, motive t → motive (':' :: ':' :: t))
    (cons : ∀ c t, ¬"::".toList <+: c :: t → motive t → motive (c :: t)) : motive t := by
  match t with
  | [] => exact nil
  | c :: t =>
      by_cases h : "::".toList <+: c :: t
      case pos =>
        obtain ⟨rest, hrest⟩ := h
        obtain ⟨rfl, rfl⟩ := List.cons.inj hrest
        exact colons rest (colons_induction rest nil colons cons)
      case neg => exact cons c t h (colons_induction t nil colons cons)
termination_by t.length

theorem dotted_ne_nil (h : t ≠ []) : dotted t ≠ [] := by
  induction t using colons_induction with
  | nil => exact h
  | colons t => simp [dotted_colons]
  | cons c t hpart => simp [dotted_cons hpart]

theorem dot_mem_dotted (h : "::".toList <:+: t) : '.' ∈ dotted t := by
  induction t using colons_induction with
  | nil => simp at h
  | colons t => simp [dotted_colons]
  | cons c t hpart ih =>
      rw [dotted_cons hpart]
      exact List.mem_cons_of_mem c (ih ((List.infix_cons_iff.1 h).resolve_left hpart))

theorem exists_append_of_dotted {x y : Text} (h : dotted t = x ++ y) :
    ∃ a b, t = a ++ b ∧ dotted a = x ∧ dotted b = y := by
  induction t using colons_induction generalizing x with
  | nil =>
      obtain ⟨rfl, rfl⟩ := List.append_eq_nil_iff.1 h.symm
      exact ⟨[], [], rfl, rfl, rfl⟩
  | colons t ih =>
      cases x with
      | nil => exact ⟨[], _, rfl, rfl, h⟩
      | cons d x =>
          rw [dotted_colons] at h
          obtain ⟨rfl, htail⟩ := List.cons.inj h
          obtain ⟨a, b, rfl, rfl, rfl⟩ := ih htail
          exact ⟨':' :: ':' :: a, b, rfl, dotted_colons a, rfl⟩
  | cons c t hpart ih =>
      cases x with
      | nil => exact ⟨[], _, rfl, rfl, h⟩
      | cons d x =>
          rw [dotted_cons hpart] at h
          obtain ⟨rfl, htail⟩ := List.cons.inj h
          obtain ⟨a, b, rfl, rfl, rfl⟩ := ih htail
          have hfirst : ¬"::".toList <+: c :: a := fun hstart =>
            hpart (hstart.trans (List.prefix_append (c :: a) b))
          exact ⟨c :: a, b, rfl, dotted_cons hfirst, rfl⟩

theorem exists_append_cons_of_dotted {x y : Text} (hc : c ≠ '.') (h : dotted t = x ++ c :: y) :
    ∃ a b, t = a ++ c :: b ∧ dotted a = x ∧ dotted b = y := by
  obtain ⟨a, rest, rfl, rfl, hrest⟩ := exists_append_of_dotted h
  induction rest using colons_induction with
  | nil => cases hrest
  | colons rest =>
      rw [dotted_colons] at hrest
      exact absurd (List.cons.inj hrest).1.symm hc
  | cons d rest hpart =>
      rw [dotted_cons hpart] at hrest
      obtain ⟨rfl, htail⟩ := List.cons.inj hrest
      exact ⟨a, rest, rfl, rfl, htail⟩

theorem mem_dotted_iff (hcolon : c ≠ ':') (hdot : c ≠ '.') : c ∈ dotted t ↔ c ∈ t := by
  constructor
  · intro h
    obtain ⟨x, y, hpart⟩ := List.append_of_mem h
    obtain ⟨a, b, rfl, -, -⟩ := exists_append_cons_of_dotted hdot hpart
    simp
  · intro h
    obtain ⟨a, b, rfl⟩ := List.append_of_mem h
    simp [dotted_append_cons hcolon]

theorem count_dotted (hcolon : c ≠ ':') (hdot : c ≠ '.') (t : Text) :
    (dotted t).count c = t.count c :=
  count_replace (by decide) (by simp [hcolon]) (by simp [hdot]) t

/-- Brackets stand in the same order without the separators. -/
theorem standsLast_dotted_iff {a b : Char} (ha : a ≠ ':' ∧ a ≠ '.') (hb : b ≠ ':' ∧ b ≠ '.') :
    StandsLast a b (dotted t) ↔ StandsLast a b t := by
  constructor
  · rintro ⟨before, behind, hpart, hbehind⟩
    obtain ⟨front, rest, rfl, rfl, rfl⟩ := exists_append_cons_of_dotted ha.2 hpart
    exact ⟨front, rest, rfl, fun hmem => hbehind ((mem_dotted_iff hb.1 hb.2).2 hmem)⟩
  · rintro ⟨before, behind, rfl, hbehind⟩
    exact ⟨dotted before, dotted behind, dotted_append_cons ha.1 before behind,
      fun hmem => hbehind ((mem_dotted_iff hb.1 hb.2).1 hmem)⟩

theorem utf8Length_dotted_le (t : Text) : utf8Length (dotted t) ≤ utf8Length t := by
  induction t using colons_induction with
  | nil => exact Nat.le_refl _
  | colons t ih =>
      have hsize : '.'.utf8Size ≤ ':'.utf8Size := by decide
      rw [dotted_colons, utf8Length_cons, utf8Length_cons, utf8Length_cons]
      omega
  | cons c t hpart ih =>
      rw [dotted_cons hpart, utf8Length_cons, utf8Length_cons]
      omega

theorem utf8Length_dotted_lt (h : "::".toList <:+: t) : utf8Length (dotted t) < utf8Length t := by
  induction t using colons_induction with
  | nil => simp at h
  | colons t =>
      have hle := utf8Length_dotted_le t
      have hsize : '.'.utf8Size ≤ ':'.utf8Size ∧ 0 < ':'.utf8Size := by decide
      rw [dotted_colons, utf8Length_cons, utf8Length_cons, utf8Length_cons]
      omega
  | cons c t hpart ih =>
      have hrest := ih ((List.infix_cons_iff.1 h).resolve_left hpart)
      rw [dotted_cons hpart, utf8Length_cons, utf8Length_cons]
      omega

end GuidAtlas.Header
