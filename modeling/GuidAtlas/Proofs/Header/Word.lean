import GuidAtlas.Proofs.Header.Runs
import GuidAtlas.Proofs.Text.Skeleton

/-!
Reading words on the line they stand on, and the names that identifiers are.
-/

namespace GuidAtlas.Header

open Text

/-- Nonempty runs of ASCII letters, digits and underscores. -/
structure IsIdentifier (t : Text) : Prop where
  ne_nil : t ≠ []
  mem : ∀ c ∈ t, c ∈ identifierChars

instance (t : Text) : Decidable (IsIdentifier t) :=
  decidable_of_iff (t ≠ [] ∧ t.all (identifierChars.elem ·) = true)
    ⟨fun h => ⟨h.1, by simpa using h.2⟩, fun h => ⟨h.ne_nil, by simpa using h.mem⟩⟩

variable {t word before after line : Text}

theorem IsIdentifier.induction {p : Char → Bool} (hall : identifierChars.all p = true)
    (h : IsIdentifier word) {c : Char} (hc : c ∈ word) : p c = true :=
  List.all_eq_true.1 hall c (h.mem c hc)

theorem IsIdentifier.not_mem {d : Char} (hd : identifierChars.all (· ≠ d) = true)
    (h : IsIdentifier word) : d ∉ word := by
  intro hmem
  simpa using h.induction hd hmem

theorem IsIdentifier.not_blank (h : IsIdentifier word) {c : Char} (hc : c ∈ word) :
    isBlank c = false := by
  simpa using h.induction (p := (!isBlank ·)) (by decide) hc

theorem IsIdentifier.isTight (h : IsIdentifier word) : IsTight word :=
  foldl_tighten_of_not_blank (fun _ hc => h.not_blank hc) h.ne_nil false

theorem IsIdentifier.isWordChar (h : IsIdentifier word) {c : Char} (hc : c ∈ word) :
    isWordChar c = true :=
  h.induction (p := fun c => Header.isWordChar c) (by decide) hc

theorem IsIdentifier.isRun (h : IsIdentifier word)
    (hafter : ∀ c ∈ after.head?, Header.isWordChar c = false) : IsRun word after :=
  isRun_of_isWordChar (fun _ hc => h.isWordChar hc) (h.not_mem (by decide)) hafter

/-- The next word on a line of which a part is read. -/
theorem nextWord_append {passed : Text} (hbefore : before.all (!isWordChar ·) = true)
    (hword : IsIdentifier word) (hafter : after.head?.all (!isWordChar ·) = true)
    (hcolon : ':' ∉ before ++ after) (hline : line = passed ++ (before ++ (word ++ after)))
    (below : List Text) :
    nextWord ⟨line, utf8Length passed, below⟩ =
      ⟨some ⟨word, line, utf8Length (passed ++ (before ++ word)), below⟩, 0⟩ := by
  have hbefore : ∀ c ∈ before, isWordChar c = false := by simpa using hbefore
  have hafter : ∀ c ∈ after.head?, isWordChar c = false := by
    intro c hc
    rw [Option.mem_def.1 hc] at hafter
    simpa using hafter
  have hdotted : dotted (before ++ (word ++ after)) = before ++ (word ++ after) := by
    refine dotted_eq_self fun hpart => ?_
    have hmem : ':' ∈ before ++ (word ++ after) := hpart.subset (by simp)
    have hname := hword.not_mem (d := ':') (by decide)
    simp only [List.mem_append] at hmem hcolon
    tauto
  have hoffset : utf8Length passed + utf8Length before + utf8Length word =
      utf8Length (passed ++ (before ++ word)) := by
    rw [utf8Length_append, utf8Length_append, Nat.add_assoc]
  have hfirst : wordIn? (before ++ (word ++ after)) = some (before, word) :=
    wordIn?_eq_some_iff.2 ⟨after, rfl, hbefore, hword.ne_nil, hword.isRun hafter⟩
  rw [nextWord, wordOnLine?, hline, dropBytes_utf8Length, hdotted, hfirst, ← hoffset]
  rfl

theorem tidy_identifier (h : IsIdentifier word) : tidy word = word := by
  have hbracket : replace "<." "<" word = word :=
    replace_eq_self fun hpart =>
      h.not_mem (d := '<') (by decide) (hpart.subset (by simp))
  have hstar : trimEndOf (· = '*') word = word := by
    refine trimEndOf_eq_self fun c hc => ?_
    simpa using h.induction (p := (· ≠ '*')) (by decide) (List.mem_of_getLast? hc)
  have hcomma : replaceChar ',' ", " word = word :=
    replaceChar_eq_self (h.not_mem (d := ',') (by decide)) _
  rw [tidy, hbracket, hstar, hcomma, collapse_eq_self h.isTight]

theorem exists_first_valid {lines : List Text} (h : ∃ line ∈ lines, isValid line false = true) :
    ∃ skipped line rest, lines = skipped ++ line :: rest ∧
      (∀ passed ∈ skipped, isValid passed false = false) ∧ isValid line false = true := by
  obtain ⟨line, hline⟩ := Option.isSome_iff_exists.1
    (List.find?_isSome (p := (isValid · false)).2 h)
  obtain ⟨hvalid, skipped, rest, hlines, hskipped⟩ := List.find?_eq_some_iff_append.1 hline
  exact ⟨skipped, line, rest, hlines, by simpa using hskipped, hvalid⟩

theorem abiPathFrom_eq_nil {above : List Text} (h : ∀ line ∈ above, ¬"namespace".toList <:+: line)
    (depth window : Nat) : abiPathFrom [] depth window above = [] := by
  induction above generalizing depth window with
  | nil => cases depth <;> cases window <;> rfl
  | cons line above ih =>
      have hnone : namespacesOf line = [] := by
        rw [namespacesOf, pieces_eq_singleton (h line List.mem_cons_self)]
        rfl
      have hrest := ih fun line hline => h line (List.mem_cons_of_mem _ hline)
      cases depth with
      | zero => cases window <;> rfl
      | succ depth =>
          cases window with
          | zero => rfl
          | succ window => simp [abiPathFrom, hnone, qualify, hrest]

/-- Names have no path in a header without namespaces. -/
theorem abiPath_eq_nil {above : List Text} (h : ∀ line ∈ above, ¬"namespace".toList <:+: line) :
    abiPath above = [] :=
  abiPathFrom_eq_nil h _ _

end GuidAtlas.Header
