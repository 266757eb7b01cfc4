import GuidAtlas.Text.Basic
import Mathlib.Data.List.Forall2
import Mathlib.Data.List.Infix

/-!
Searching, cutting and splitting texts, in terms of prefixes and infixes.
-/

namespace GuidAtlas.Text

theorem forall_mem_of_all {p : Char → Prop} [DecidablePred p] {t : Text}
    (h : t.all (fun c => decide (p c)) = true) : ∀ c ∈ t, p c := by
  simpa using h

theorem afterStart?_eq_some_iff {start t rest : Text} :
    afterStart? start t = some rest ↔ t = start ++ rest := by
  induction start generalizing t with
  | nil => simp [afterStart?]
  | cons a start ih =>
      cases t with
      | nil => simp [afterStart?]
      | cons c t =>
          by_cases h : a = c
          · simp [afterStart?, h, ih]
          · simp [afterStart?, h, Ne.symm h]

@[simp] theorem afterStart?_append (start rest : Text) :
    afterStart? start (start ++ rest) = some rest :=
  afterStart?_eq_some_iff.2 rfl

theorem afterStart?_eq_none_iff {start t : Text} : afterStart? start t = none ↔ ¬ start <+: t := by
  rw [Option.eq_none_iff_forall_ne_some]
  constructor
  · rintro h ⟨rest, rfl⟩
    exact h rest (afterStart?_append start rest)
  · exact fun h rest hrest => h ⟨rest, (afterStart?_eq_some_iff.1 hrest).symm⟩

theorem startsWith_iff {t start : Text} : startsWith t start = true ↔ start <+: t :=
  List.isPrefixOf_iff_prefix

theorem cut?_eq_none_iff {sep t : Text} : cut? sep t = none ↔ ¬ sep <:+: t := by
  induction t with
  | nil => cases sep <;> simp [cut?]
  | cons c t ih =>
      simp only [cut?, List.infix_cons_iff]
      cases h : afterStart? sep (c :: t) with
      | some rest =>
          have hstart : sep <+: c :: t := ⟨rest, (afterStart?_eq_some_iff.1 h).symm⟩
          simp [hstart]
      | none => simp [afterStart?_eq_none_iff.1 h, ih]

theorem contains_iff {t part : Text} : contains t part = true ↔ part <:+: t := by
  rw [contains, ← not_iff_not, ← cut?_eq_none_iff]
  simp

theorem cut?_append {d : Char} {sep before : Text} (h : d ∉ before) (after : Text) :
    cut? (d :: sep) (before ++ d :: sep ++ after) = some (before, after) := by
  induction before with
  | nil => simp [cut?, afterStart?]
  | cons c before ih =>
      have hc : d ≠ c := fun hd => h (by simp [hd])
      have hrest := ih fun hmem => h (List.mem_cons_of_mem _ hmem)
      simp only [List.append_assoc, List.cons_append] at hrest
      simp [cut?, afterStart?, hc, hrest]

theorem eq_of_append_cons_eq {d : Char} {s t after rest : Text} (hs : d ∉ s) (ht : d ∉ t)
    (h : s ++ d :: after = t ++ d :: rest) : s = t := by
  have hfirst := @cut?_append d [] s hs after
  have hsecond := @cut?_append d [] t ht rest
  rw [List.append_assoc] at hfirst hsecond
  have htext : s ++ ([d] ++ after) = t ++ ([d] ++ rest) := h
  rw [htext, hsecond] at hfirst
  cases hfirst
  rfl

theorem eq_append_of_cut? {sep t before rest : Text} (h : cut? sep t = some (before, rest)) :
    t = before ++ sep ++ rest := by
  fun_induction cut? sep t generalizing before with
  | case1 hempty =>
      cases h
      simpa using hempty
  | case2 => cases h
  | case3 c t after hstart =>
      cases h
      exact afterStart?_eq_some_iff.1 hstart
  | case4 c t hstart ih =>
      obtain ⟨⟨before, rest⟩, htail, heq⟩ := Option.map_eq_some_iff.1 h
      cases heq
      simp [ih htail]

theorem cutLast?_eq_none {d : Char} {t : Text} (h : d ∉ t) : cutLast? [d] t = none := by
  induction t with
  | nil => rfl
  | cons c t ih =>
      have hc : d ≠ c := fun hd => h (by simp [hd])
      simp [cutLast?, afterStart?, hc, ih fun hmem => h (List.mem_cons_of_mem _ hmem)]

theorem cutLast?_append {d : Char} {after : Text} (h : d ∉ after) (before : Text) :
    cutLast? [d] (before ++ d :: after) = some (before, after) := by
  induction before with
  | nil => simp [cutLast?, cutLast?_eq_none h, afterStart?]
  | cons c before ih => simp [cutLast?, ih]

theorem eq_append_of_cutLast? {sep t before rest : Text}
    (h : cutLast? sep t = some (before, rest)) : t = before ++ sep ++ rest := by
  fun_induction cutLast? sep t generalizing before with
  | case1 hempty =>
      cases h
      simpa using hempty
  | case2 => cases h
  | case3 c t before rest htail ih =>
      cases h
      simp [ih htail]
  | case4 c t htail ih =>
      obtain ⟨rest, hrest, heq⟩ := Option.map_eq_some_iff.1 h
      cases heq
      simpa using afterStart?_eq_some_iff.1 hrest

theorem cutLast?_eq_none_iff {sep t : Text} : cutLast? sep t = none ↔ ¬sep <:+: t := by
  induction t with
  | nil => cases sep <;> simp [cutLast?]
  | cons c t ih =>
      rw [cutLast?, List.infix_cons_iff]
      cases htail : cutLast? sep t with
      | some parts => simp_all
      | none => simp [afterStart?_eq_none_iff, ih.1 htail]

theorem not_infix_of_cutLast? {sep t before rest : Text} (hsep : sep ≠ [])
    (h : cutLast? sep t = some (before, rest)) : ¬sep <:+: rest := by
  fun_induction cutLast? sep t generalizing before with
  | case1 hempty => exact absurd (List.isEmpty_iff.1 hempty) hsep
  | case2 => cases h
  | case3 c t before rest htail ih =>
      cases h
      exact ih htail
  | case4 c t htail ih =>
      obtain ⟨rest, hstart, heq⟩ := Option.map_eq_some_iff.1 h
      cases heq
      obtain ⟨d, sep, rfl⟩ := List.exists_cons_of_ne_nil hsep
      obtain ⟨rfl, rfl⟩ := List.cons.inj (afterStart?_eq_some_iff.1 hstart)
      exact fun hpart =>
        cutLast?_eq_none_iff.1 htail (hpart.trans (List.suffix_append sep rest).isInfix)

theorem splitAt_of_not_mem {sep : Char} {t : Text} (h : sep ∉ t) : splitAt sep t = [t] := by
  induction t with
  | nil => rfl
  | cons c t ih =>
      have hc : c ≠ sep := fun hd => h (by simp [hd])
      simp [splitAt, hc, ih fun hmem => h (List.mem_cons_of_mem _ hmem)]

theorem splitAt_append {sep : Char} {piece : Text} (h : sep ∉ piece) (t : Text) :
    splitAt sep (piece ++ sep :: t) = piece :: splitAt sep t := by
  induction piece with
  | nil => simp [splitAt]
  | cons c piece ih =>
      have hc : c ≠ sep := fun hd => h (by simp [hd])
      simp [splitAt, hc, ih fun hmem => h (List.mem_cons_of_mem _ hmem)]

theorem splitAt_ne_nil (sep : Char) (t : Text) : splitAt sep t ≠ [] := by
  fun_cases splitAt sep t <;> exact List.cons_ne_nil _ _

theorem splitAt_append_sep (sep : Char) (s t : Text) :
    splitAt sep (s ++ sep :: t) = splitAt sep s ++ splitAt sep t := by
  induction s with
  | nil => simp [splitAt]
  | cons c s ih =>
      by_cases hc : c = sep
      · simp [splitAt, hc, ih]
      · obtain ⟨piece, pieces, hpieces⟩ := List.exists_cons_of_ne_nil (splitAt_ne_nil sep s)
        simp [splitAt, hc, ih, hpieces]

@[simp] theorem join_nil (sep : Text) : join sep [] = [] := rfl

@[simp] theorem join_singleton (sep part : Text) : join sep [part] = part :=
  List.intercalate_singleton

theorem join_cons_cons (sep first second : Text) (parts : List Text) :
    join sep (first :: second :: parts) = first ++ sep ++ join sep (second :: parts) :=
  List.intercalate_cons_cons

theorem join_cons (sep first : Text) {parts : List Text} (h : parts ≠ []) :
    join sep (first :: parts) = first ++ sep ++ join sep parts := by
  obtain ⟨second, parts, rfl⟩ := List.exists_cons_of_ne_nil h
  exact join_cons_cons sep first second parts

theorem infix_join_of_mem {part : Text} {parts : List Text} (h : part ∈ parts) (sep : Text) :
    part <:+: join sep parts := by
  induction parts with
  | nil => cases h
  | cons first parts ih =>
      by_cases hparts : parts = []
      case pos =>
        subst hparts
        rw [List.mem_singleton.1 h, join_singleton]
      case neg =>
        rw [join_cons _ _ hparts]
        rcases List.mem_cons.1 h with rfl | h
        · exact ⟨[], sep ++ join sep parts, by simp⟩
        · exact (ih h).trans (List.suffix_append _ _).isInfix

theorem join_append (sep : Text) (first : List Text) {parts : List Text} (h : parts ≠ []) :
    join sep (first ++ parts) = first.flatMap (· ++ sep) ++ join sep parts := by
  induction first with
  | nil => rfl
  | cons part first ih =>
      rw [List.cons_append, join_cons _ _ (List.append_ne_nil_of_right_ne_nil _ h), ih,
        List.flatMap_cons]
      simp only [List.append_assoc]

theorem join_splitAt (sep : Char) (t : Text) : join [sep] (splitAt sep t) = t := by
  fun_induction splitAt sep t with
  | case1 => rfl
  | case2 t ih =>
      rw [join_cons _ _ (splitAt_ne_nil sep t), ih]
      rfl
  | case3 c t hc hpieces ih => exact absurd hpieces (splitAt_ne_nil sep t)
  | case4 c t hc first pieces hpieces ih =>
      rw [← ih, hpieces]
      cases pieces <;> rfl

theorem infix_of_mem_splitAt {sep : Char} {t piece : Text} (h : piece ∈ splitAt sep t) :
    piece <:+: t := by
  rw [← join_splitAt sep t]
  exact infix_join_of_mem h [sep]

theorem mem_join {sep : Text} {parts : List Text} {c : Char} (h : c ∈ join sep parts) :
    c ∈ sep ∨ ∃ part ∈ parts, c ∈ part := by
  induction parts with
  | nil => simp at h
  | cons first parts ih =>
      cases parts with
      | nil => exact .inr ⟨first, by simp, by simpa using h⟩
      | cons second parts =>
          rw [join_cons_cons, List.append_assoc] at h
          rcases List.mem_append.1 h with h | h
          · exact .inr ⟨first, by simp, h⟩
          · rcases List.mem_append.1 h with h | h
            · exact .inl h
            · rcases ih h with h | ⟨part, hpart, hc⟩
              · exact .inl h
              · exact .inr ⟨part, List.mem_cons_of_mem _ hpart, hc⟩

theorem not_mem_join {sep : Text} {parts : List Text} {c : Char} (hsep : c ∉ sep)
    (hparts : ∀ part ∈ parts, c ∉ part) : c ∉ join sep parts := by
  intro hmem
  rcases mem_join hmem with hmem | ⟨part, hpart, hmem⟩
  · exact hsep hmem
  · exact hparts part hpart hmem

theorem filter_join (p : Char → Bool) (sep : Text) (parts : List Text) :
    (join sep parts).filter p = join (sep.filter p) (parts.map (·.filter p)) := by
  induction parts with
  | nil => rfl
  | cons first parts ih =>
      cases parts with
      | nil => simp
      | cons second parts =>
          rw [List.map_cons] at ih
          rw [join_cons_cons, List.filter_append, List.filter_append, ih]
          exact (join_cons_cons _ _ _ _).symm

theorem count_join {sep : Text} {c : Char} (h : c ∉ sep) (parts : List Text) :
    (join sep parts).count c = parts.flatten.count c := by
  induction parts with
  | nil => rfl
  | cons first parts ih =>
      cases parts with
      | nil => simp
      | cons second parts =>
          rw [join_cons_cons, List.count_append, List.count_append, List.count_eq_zero.2 h, ih,
            Nat.add_zero, ← List.count_append, ← List.flatten_cons]

theorem splitAt_prepend {sep : Char} {blanks t piece : Text} {pieces : List Text}
    (hblanks : sep ∉ blanks) (h : splitAt sep t = piece :: pieces) :
    splitAt sep (blanks ++ t) = (blanks ++ piece) :: pieces := by
  induction blanks with
  | nil => exact h
  | cons c blanks ih =>
      have hc : c ≠ sep := fun hd => hblanks (by simp [hd])
      simp [splitAt, hc, ih fun hmem => hblanks (List.mem_cons_of_mem _ hmem)]

/-- Splitting at the first character of a separator leaves the rest of it at the pieces. -/
theorem splitAt_join {sep : Char} {blanks : Text} (hblanks : sep ∉ blanks) {first : Text}
    {parts : List Text} (h : ∀ part ∈ first :: parts, sep ∉ part) :
    splitAt sep (join (sep :: blanks) (first :: parts)) = first :: parts.map (blanks ++ ·) := by
  induction parts generalizing first with
  | nil => simpa using splitAt_of_not_mem (h first (by simp))
  | cons second parts ih =>
      have hparts := ih fun part hpart => h part (List.mem_cons_of_mem _ hpart)
      rw [join_cons_cons, List.append_assoc, List.cons_append, splitAt_append (h first (by simp)),
        splitAt_prepend hblanks hparts]
      rfl

theorem replace_eq_self {old new t : Text} (h : ¬ old <:+: t) : replace old new t = t := by
  rw [replace]
  induction t with
  | nil => rfl
  | cons c t ih =>
      rw [List.infix_cons_iff, not_or] at h
      have hstart : old.isPrefixOf (c :: t) = false := by
        rw [Bool.eq_false_iff, ne_eq, List.isPrefixOf_iff_prefix]
        exact h.1
      simp [replaceFrom, hstart, ih h.2]

theorem replaceFrom_skip {old new passed : Text} (t : Text) :
    replaceFrom old new passed.length (passed ++ t) = replaceFrom old new 0 t := by
  induction passed with
  | nil => rfl
  | cons c passed ih => exact ih

/-- Nothing is replaced in a part in which no occurrence starts. -/
theorem replace_append_left {d : Char} {old before : Text} (h : d ∉ before) (new t : Text) :
    replace (d :: old) new (before ++ t) = before ++ replace (d :: old) new t := by
  induction before with
  | nil => rfl
  | cons c before ih =>
      have hc : d ≠ c := fun hd => h (by simp [hd])
      have hrest := ih fun hmem => h (List.mem_cons_of_mem _ hmem)
      simp only [replace] at hrest
      simp [replace, replaceFrom, hc, hrest]

theorem replace_append {d : Char} {old before : Text} (h : d ∉ before) (new t : Text) :
    replace (d :: old) new (before ++ d :: old ++ t) =
      before ++ new ++ replace (d :: old) new t := by
  have hstart : (d :: old).isPrefixOf (d :: (old ++ t)) = true := by simp
  have hfirst : replace (d :: old) new (d :: (old ++ t)) = new ++ replace (d :: old) new t := by
    rw [replace, replaceFrom, if_pos hstart, List.length_cons, Nat.add_sub_cancel, replaceFrom_skip,
      replace]
  rw [List.append_assoc, List.cons_append, replace_append_left h, hfirst, List.append_assoc]

theorem replace_join {d : Char} {old : Text} (new : Text) {parts : List Text}
    (h : ∀ part ∈ parts, d ∉ part) :
    replace (d :: old) new (join (d :: old) parts) = join new parts := by
  induction parts with
  | nil => rfl
  | cons first parts ih =>
      have hfirst := h first List.mem_cons_self
      cases parts with
      | nil =>
          rw [join_singleton, join_singleton]
          exact replace_eq_self fun hpart => hfirst (hpart.subset List.mem_cons_self)
      | cons second parts =>
          rw [join_cons_cons, join_cons_cons, replace_append hfirst,
            ih fun part hpart => h part (List.mem_cons_of_mem _ hpart)]

/-- A start of two texts is one of the first, or goes on into the second. -/
theorem prefix_append_cases {part a b : Text} (h : part <+: a ++ b) :
    part <+: a ∨ ∃ rest, part = a ++ rest ∧ rest <+: b := by
  rcases List.prefix_or_prefix_of_prefix h (List.prefix_append a b) with hpart | ⟨rest, rfl⟩
  · exact .inl hpart
  · exact .inr ⟨rest, rfl, (List.prefix_append_right_inj a).1 h⟩

/-- A start that lacks a character ends before it. -/
theorem prefix_append_cons_iff {part a b : Text} {d : Char} (hd : d ∉ part) :
    part <+: a ++ d :: b ↔ part <+: a := by
  refine ⟨fun h => ?_, fun h => h.trans (List.prefix_append a _)⟩
  rcases prefix_append_cases h with h | ⟨rest, rfl, hrest⟩
  · exact h
  · cases rest with
    | nil => simp
    | cons c rest =>
        obtain ⟨rfl, -⟩ := List.cons_prefix_cons.1 hrest
        simp at hd

/-- No occurrence reaches over a character that it lacks, so a text is replaced part by part. -/
theorem replaceFrom_append_cons {old new a : Text} {d : Char} (hne : old ≠ []) (hd : d ∉ old)
    {skip : Nat} (hskip : skip ≤ a.length) (b : Text) :
    replaceFrom old new skip (a ++ d :: b) =
      replaceFrom old new skip a ++ d :: replaceFrom old new 0 b := by
  induction a generalizing skip with
  | nil =>
      have hnone : old.isPrefixOf (d :: b) = false := by
        rw [Bool.eq_false_iff, ne_eq, List.isPrefixOf_iff_prefix]
        intro hstart
        exact hne (List.prefix_nil.1 ((@prefix_append_cons_iff old [] b d hd).1 hstart))
      rw [Nat.le_zero.1 hskip, List.nil_append, replaceFrom, replaceFrom, hnone]
      rfl
  | cons c a ih =>
      cases skip with
      | succ skip => exact ih (Nat.le_of_succ_le_succ hskip)
      | zero =>
          have hstart : old.isPrefixOf (c :: (a ++ d :: b)) = old.isPrefixOf (c :: a) := by
            rw [Bool.eq_iff_iff, List.isPrefixOf_iff_prefix, List.isPrefixOf_iff_prefix,
              ← List.cons_append, prefix_append_cons_iff hd]
          rw [List.cons_append, replaceFrom, replaceFrom, hstart]
          split
          case isTrue hfound =>
            have hlength := (List.isPrefixOf_iff_prefix.1 hfound).length_le
            rw [ih (by rw [List.length_cons] at hlength; omega), List.append_assoc]
          case isFalse => rw [ih (Nat.zero_le _), List.cons_append]

theorem replace_append_cons {old : Text} {d : Char} (hne : old ≠ []) (hd : d ∉ old)
    (new a b : Text) :
    replace old new (a ++ d :: b) = replace old new a ++ d :: replace old new b :=
  replaceFrom_append_cons hne hd (Nat.zero_le _) b

theorem count_replaceFrom {old new t : Text} {d : Char} (hne : old ≠ []) (hold : d ∉ old)
    (hnew : d ∉ new) {skip : Nat} (hskip : d ∉ t.take skip) :
    (replaceFrom old new skip t).count d = t.count d := by
  fun_induction replaceFrom old new skip t with
  | case1 skip => rfl
  | case2 skip c t ih =>
      rw [List.take_succ_cons, List.mem_cons, not_or] at hskip
      rw [ih hskip.2, List.count_cons_of_ne (Ne.symm hskip.1)]
  | case3 c t hfound ih =>
      obtain ⟨first, old, rfl⟩ := List.exists_cons_of_ne_nil hne
      obtain ⟨rfl, rest, rfl⟩ := List.cons_prefix_cons.1 (List.isPrefixOf_iff_prefix.1 hfound)
      rw [List.mem_cons, not_or] at hold
      rw [List.count_append, List.count_eq_zero.2 hnew, Nat.zero_add,
        ih (by simpa using hold.2), List.count_cons_of_ne (Ne.symm hold.1)]
  | case4 c t hother ih => rw [List.count_cons, List.count_cons, ih List.not_mem_nil]

theorem count_replace {old new : Text} {d : Char} (hne : old ≠ []) (hold : d ∉ old) (hnew : d ∉ new)
    (t : Text) : (replace old new t).count d = t.count d :=
  count_replaceFrom hne hold hnew List.not_mem_nil

theorem mem_replaceFrom {old new t : Text} {skip : Nat} {c : Char}
    (h : c ∈ replaceFrom old new skip t) : c ∈ new ∨ c ∈ t := by
  fun_induction replaceFrom old new skip t with
  | case1 skip => cases h
  | case2 skip d t ih => exact (ih h).imp_right (List.mem_cons_of_mem d)
  | case3 d t hfound ih =>
      rcases List.mem_append.1 h with h | h
      · exact .inl h
      · exact (ih h).imp_right (List.mem_cons_of_mem d)
  | case4 d t hother ih =>
      rcases List.mem_cons.1 h with rfl | h
      · exact .inr List.mem_cons_self
      · exact (ih h).imp_right (List.mem_cons_of_mem d)

/-- No occurrence of a part reaches over a character that it lacks. -/
theorem infix_append_cons {part a b : Text} {d : Char} (h : part <:+: a ++ d :: b) (hd : d ∉ part) :
    part <:+: a ∨ part <:+: b := by
  induction a with
  | nil =>
      rw [List.nil_append, List.infix_cons_iff] at h
      refine h.imp_left fun h => ?_
      exact ((@prefix_append_cons_iff part [] b d hd).1 h).isInfix
  | cons c a ih =>
      rw [List.cons_append, List.infix_cons_iff, ← List.cons_append, prefix_append_cons_iff hd] at h
      rcases h with h | h
      · exact .inl h.isInfix
      · exact (ih h).imp_left List.infix_cons

/-- Characters that a part lacks may be left out behind any point of a text. -/
theorem infix_append_filter {part a t : Text} {p : Char → Bool} (hpart : ∀ c ∈ part, p c = true)
    (h : part <:+: a ++ t) : part <:+: a ++ t.filter p := by
  induction t generalizing a with
  | nil => exact h
  | cons c t ih =>
      cases hc : p c with
      | true =>
          rw [← List.singleton_append, ← List.append_assoc] at h
          rw [List.filter_cons_of_pos hc, ← List.singleton_append, ← List.append_assoc]
          exact ih h
      | false =>
          have hnot : c ∉ part := fun hmem => by simp [hpart c hmem] at hc
          rw [List.filter_cons_of_neg (by simp [hc])]
          rcases infix_append_cons h hnot with h | h
          · exact h.trans (List.prefix_append a _).isInfix
          · exact (@ih [] h).trans (List.suffix_append a _).isInfix

/-- A part that ends in the only one of a character in a text stands right before it. -/
theorem suffix_of_infix_append_cons {part a b : Text} {d : Char}
    (h : part ++ [d] <:+: a ++ d :: b) (ha : d ∉ a) (hb : d ∉ b) : part <:+ a := by
  obtain ⟨s, t, htext⟩ := h
  have htext : (s ++ part) ++ d :: t = a ++ d :: b := by simpa using htext
  have hone : (a ++ d :: b).count d = 1 := by
    simp [List.count_eq_zero_of_not_mem ha, List.count_eq_zero_of_not_mem hb]
  have hnot : d ∉ s ++ part := by
    intro hmem
    have hpos := List.count_pos_iff.2 hmem
    rw [← htext, List.count_append, List.count_cons_self] at hone
    omega
  exact ⟨s, eq_of_append_cons_eq hnot ha htext⟩

theorem infix_join {part sep : Text} {parts : List Text} (h : part <:+: join sep parts)
    (hne : part ≠ []) (hsepNe : sep ≠ []) (hsep : ∀ d ∈ sep, d ∉ part) :
    ∃ piece ∈ parts, part <:+: piece := by
  induction parts with
  | nil => exact absurd (List.infix_nil.1 h) hne
  | cons first parts ih =>
      cases parts with
      | nil => exact ⟨first, List.mem_cons_self, by simpa using h⟩
      | cons second parts =>
          have hrest {sep : Text} (hsep : ∀ d ∈ sep, d ∉ part) {t : Text}
              (h : part <:+: sep ++ t) : part <:+: t := by
            induction sep with
            | nil => exact h
            | cons d sep ih =>
                rcases @infix_append_cons part [] _ d h (hsep d List.mem_cons_self) with h | h
                · exact absurd (List.infix_nil.1 h) hne
                · exact ih (fun e he => hsep e (List.mem_cons_of_mem _ he)) h
          obtain ⟨d, sep, rfl⟩ := List.exists_cons_of_ne_nil hsepNe
          rw [join_cons_cons, List.append_assoc] at h
          rcases infix_append_cons h (hsep d List.mem_cons_self) with h | h
          · exact ⟨first, List.mem_cons_self, h⟩
          · obtain ⟨piece, hpiece, hpart⟩ :=
              ih (hrest (fun e he => hsep e (List.mem_cons_of_mem _ he)) h)
            exact ⟨piece, List.mem_cons_of_mem _ hpiece, hpart⟩

theorem replaceChar_eq_self {old : Char} {t : Text} (h : old ∉ t) (new : Text) :
    replaceChar old new t = t := by
  rw [replaceChar]
  induction t with
  | nil => rfl
  | cons c t ih =>
      have hc : c ≠ old := fun hd => h (by simp [hd])
      rw [List.flatMap_cons, if_neg hc, ih fun hmem => h (List.mem_cons_of_mem _ hmem)]
      rfl

theorem count_replaceChar {old d : Char} {new : Text} (hold : d ≠ old) (hnew : d ∉ new) (t : Text) :
    (replaceChar old new t).count d = t.count d := by
  induction t with
  | nil => rfl
  | cons c t ih =>
      rw [replaceChar] at ih
      rw [replaceChar, List.flatMap_cons, List.count_append, ih, List.count_cons, Nat.add_comm]
      congr 1
      by_cases hc : c = old
      case pos => simp [hc, List.count_eq_zero.2 hnew, Ne.symm hold]
      case neg => simp [hc, List.count_singleton]

theorem piecesFrom_ne_nil (sep : Text) (skip : Nat) (t : Text) : piecesFrom sep skip t ≠ [] := by
  fun_induction piecesFrom sep skip t with
  | case2 skip c t ih => exact ih
  | _ => exact List.cons_ne_nil _ _

theorem join_piecesFrom {sep : Text} (h : sep ≠ []) (skip : Nat) (t : Text) :
    join sep (piecesFrom sep skip t) = t.drop skip := by
  fun_induction piecesFrom sep skip t with
  | case1 skip => simp
  | case2 skip c t ih => exact ih
  | case3 c t hstart ih =>
      obtain ⟨d, sep, rfl⟩ := List.exists_cons_of_ne_nil h
      obtain ⟨hd, rest, rfl⟩ := List.cons_prefix_cons.1 (List.isPrefixOf_iff_prefix.1 hstart)
      rw [join_cons _ _ (piecesFrom_ne_nil _ _ _), ih]
      simp [hd]
  | case4 c t hother hpieces ih => exact absurd hpieces (piecesFrom_ne_nil sep 0 t)
  | case5 c t hother first pieces hpieces ih =>
      rw [hpieces, List.drop_zero] at ih
      rw [List.drop_zero, ← ih]
      cases pieces <;> rfl

theorem infix_of_mem_pieces {sep t piece : Text} (hsep : sep ≠ []) (h : piece ∈ pieces sep t) :
    piece <:+: t := by
  have hjoin := join_piecesFrom hsep 0 t
  rw [List.drop_zero] at hjoin
  rw [← hjoin]
  exact infix_join_of_mem h sep

theorem pieces_eq_singleton {sep t : Text} (h : ¬ sep <:+: t) : pieces sep t = [t] := by
  rw [pieces]
  induction t with
  | nil => rfl
  | cons c t ih =>
      rw [List.infix_cons_iff, not_or] at h
      have hstart : sep.isPrefixOf (c :: t) = false := by
        rw [Bool.eq_false_iff, ne_eq, List.isPrefixOf_iff_prefix]
        exact h.1
      simp [piecesFrom, hstart, ih h.2]

theorem piecesFrom_skip {sep passed : Text} (t : Text) :
    piecesFrom sep passed.length (passed ++ t) = piecesFrom sep 0 t := by
  induction passed with
  | nil => rfl
  | cons c passed ih => exact ih

theorem pieces_sep_append {sep : Text} (h : sep ≠ []) (t : Text) :
    pieces sep (sep ++ t) = [] :: pieces sep t := by
  obtain ⟨d, sep, rfl⟩ := List.exists_cons_of_ne_nil h
  have hstart : (d :: sep).isPrefixOf (d :: (sep ++ t)) = true := by simp
  rw [pieces, List.cons_append, piecesFrom, if_pos hstart, List.length_cons, Nat.add_sub_cancel,
    piecesFrom_skip, pieces]

/-- Each occurrence ends a piece if none can start inside of another one. -/
theorem piecesFrom_append_sep {d : Char} {sep before : Text} (hd : d ∉ sep) {skip : Nat}
    (hskip : skip ≤ before.length) (after : Text) :
    piecesFrom (d :: sep) skip (before ++ (d :: sep ++ after)) =
      piecesFrom (d :: sep) skip before ++ pieces (d :: sep) after := by
  induction before generalizing skip with
  | nil =>
      rw [Nat.le_zero.1 hskip]
      exact pieces_sep_append (List.cons_ne_nil d sep) after
  | cons c before ih =>
      cases skip with
      | succ skip => exact ih (Nat.le_of_succ_le_succ hskip)
      | zero =>
          have hstart : (d :: sep).isPrefixOf (c :: (before ++ (d :: sep ++ after))) =
              (d :: sep).isPrefixOf (c :: before) := by
            rw [Bool.eq_iff_iff, List.isPrefixOf_iff_prefix, List.isPrefixOf_iff_prefix,
              List.cons_prefix_cons, List.cons_prefix_cons, List.cons_append,
              prefix_append_cons_iff hd]
          rw [List.cons_append, piecesFrom, piecesFrom, hstart]
          split
          case isTrue hfound =>
            have hlength := (List.isPrefixOf_iff_prefix.1 hfound).length_le
            have hrest := ih (Nat.le_of_succ_le_succ hlength)
            exact congrArg ([] :: ·) hrest
          case isFalse =>
            rw [ih (Nat.zero_le _)]
            cases hpieces : piecesFrom (d :: sep) 0 before with
            | nil => exact absurd hpieces (piecesFrom_ne_nil _ _ _)
            | cons first rest => rfl

theorem piecesFrom_append {sep tail : Text} (hne : sep ≠ []) (htail : ∀ d ∈ sep, d ∉ tail)
    {skip : Nat} {t : Text} (hskip : skip ≤ t.length) :
    List.Forall₂ (fun whole piece => whole = piece ∨ whole = piece ++ tail)
      (piecesFrom sep skip (t ++ tail)) (piecesFrom sep skip t) := by
  obtain ⟨first, rest, rfl⟩ := List.exists_cons_of_ne_nil hne
  induction t generalizing skip with
  | nil =>
      have hnone : ¬first :: rest <:+: tail := fun hpart =>
        htail first List.mem_cons_self (hpart.subset List.mem_cons_self)
      have htailed : piecesFrom (first :: rest) 0 tail = [tail] := pieces_eq_singleton hnone
      rw [Nat.le_zero.1 hskip, List.nil_append, htailed]
      exact .cons (.inr rfl) .nil
  | cons c t ih =>
      cases skip with
      | succ skip => exact ih (Nat.le_of_succ_le_succ hskip)
      | zero =>
          have hstart : (first :: rest).isPrefixOf (c :: t ++ tail) =
              (first :: rest).isPrefixOf (c :: t) := by
            cases tail with
            | nil => rw [List.append_nil]
            | cons d tail =>
                have hd : d ∉ first :: rest := fun hmem => htail d hmem List.mem_cons_self
                rw [Bool.eq_iff_iff, List.isPrefixOf_iff_prefix, List.isPrefixOf_iff_prefix,
                  prefix_append_cons_iff hd]
          rw [List.cons_append] at hstart ⊢
          rw [piecesFrom, piecesFrom, hstart]
          split
          case isTrue hfound =>
            have hlength := (List.isPrefixOf_iff_prefix.1 hfound).length_le
            exact .cons (.inl rfl) (ih (Nat.le_of_succ_le_succ hlength))
          case isFalse =>
            have hrest := ih (Nat.zero_le t.length)
            generalize piecesFrom (first :: rest) 0 (t ++ tail) = wholes at hrest
            generalize piecesFrom (first :: rest) 0 t = parts at hrest
            cases hrest with
            | nil => exact .cons (.inl rfl) .nil
            | cons hpiece hrest =>
                refine .cons ?_ hrest
                rcases hpiece with rfl | rfl
                · exact .inl rfl
                · exact .inr rfl

end GuidAtlas.Text
