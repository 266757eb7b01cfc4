import GuidAtlas.Text.Blank
import GuidAtlas.Proofs.Text.Search
import GuidAtlas.Proofs.Text.Trim

/-!
Texts that have no blanks to lose: single spaces between words and none at the ends. They are told
by a scan that remembers whether a word is open.
-/

namespace GuidAtlas.Text

theorem not_mem_of_blanks {blanks : Text} (h : ∀ c ∈ blanks, isBlank c = true) {d : Char}
    (hd : isBlank d = false) : d ∉ blanks := by
  intro hmem
  rw [h d hmem] at hd
  cases hd

/-- One step of the scan for texts with single spaces; it fails at any other blank. -/
def tighten (state : Option Bool) (c : Char) : Option Bool :=
  state.bind fun openWord =>
    if c = ' ' then if openWord then some false else none
    else if isBlank c then none
    else some true

/-- The scan over a text ends inside a word. -/
def IsTight (t : Text) : Prop := t.foldl tighten (some false) = some true

variable {t : Text}

@[simp] theorem foldl_tighten_none (t : Text) : t.foldl tighten none = none := by
  induction t with
  | nil => rfl
  | cons c t ih => exact ih

theorem tighten_of_not_blank {c : Char} (hc : isBlank c = false) (openWord : Bool) :
    tighten (some openWord) c = some true := by
  have hspace : c ≠ ' ' := by
    rintro rfl
    cases hc
  simp [tighten, hspace, hc]

theorem foldl_tighten_of_not_blank (h : ∀ c ∈ t, isBlank c = false) (hne : t ≠ [])
    (openWord : Bool) : t.foldl tighten (some openWord) = some true := by
  induction t generalizing openWord with
  | nil => exact absurd rfl hne
  | cons c t ih =>
      rw [List.foldl_cons, tighten_of_not_blank (h c List.mem_cons_self)]
      by_cases ht : t = []
      · rw [ht, List.foldl_nil]
      · exact ih (fun d hd => h d (List.mem_cons_of_mem _ hd)) ht true

/-- A character that the scan passes is a space inside a text or no blank. -/
theorem tighten_cases {state : Option Bool} {c : Char} {next : Bool}
    (h : tighten state c = some next) :
    (state = some true ∧ c = ' ' ∧ next = false) ∨ (isBlank c = false ∧ next = true) := by
  cases state with
  | none => cases h
  | some openWord =>
      simp only [tighten, Option.bind_some] at h
      by_cases hspace : c = ' '
      case pos => cases openWord <;> simp_all
      case neg =>
        cases hblank : isBlank c with
        | true => simp [hspace, hblank] at h
        | false => exact .inr ⟨rfl, by simpa [hspace, hblank, eq_comm] using h⟩

/-- The words of a tight text, with what follows it put to the last of them. `closed` is what is
left of the rest behind any open word. -/
theorem join_words_append {w rest closed : Text}
    (hrest : ∀ w : Text, w ≠ [] →
      wordsFrom w rest ≠ [] ∧ join [' '] (wordsFrom w rest) = w.reverse ++ closed)
    (h : t.foldl tighten (some !w.isEmpty) = some true) :
    wordsFrom w (t ++ rest) ≠ [] ∧
      join [' '] (wordsFrom w (t ++ rest)) = w.reverse ++ (t ++ closed) := by
  -- On the text; the word read so far is open exactly when the scan is inside a word.
  induction t generalizing w with
  | nil =>
      have hw : w.isEmpty = false := by simpa using h
      exact hrest w (by simpa using hw)
  | cons c t ih =>
      rw [List.foldl_cons] at h
      cases hstep : tighten (some !w.isEmpty) c with
      | none =>
          rw [hstep, foldl_tighten_none] at h
          cases h
      | some next =>
          rw [hstep] at h
          rcases tighten_cases hstep with ⟨hw, rfl, rfl⟩ | ⟨hblank, rfl⟩
          · have hw : w.isEmpty = false := by simpa using hw
            obtain ⟨hne, hjoin⟩ := ih (w := []) h
            have hspace : isBlank ' ' = true := by decide
            obtain ⟨first, rest, hcons⟩ := List.exists_cons_of_ne_nil hne
            rw [hcons] at hjoin
            simp [wordsFrom, hspace, hw, hcons, join_cons_cons, hjoin]
          · have hopen : (!(c :: w).isEmpty) = true := rfl
            rw [← hopen] at h
            obtain ⟨hne, hjoin⟩ := ih h
            simp [wordsFrom, hblank, hne, hjoin]

theorem collapse_append {rest closed : Text} (h : IsTight t)
    (hrest : ∀ w : Text, w ≠ [] →
      wordsFrom w rest ≠ [] ∧ join [' '] (wordsFrom w rest) = w.reverse ++ closed) :
    collapse (t ++ rest) = t ++ closed :=
  (join_words_append (w := []) hrest h).2

theorem collapse_eq_self (h : IsTight t) : collapse t = t :=
  by simpa using @collapse_append t [] [] h fun w hw => by simp [wordsFrom, hw]

theorem count_wordsFrom {c : Char} (hc : isBlank c = false) (w t : Text) :
    (wordsFrom w t).flatten.count c = w.count c + t.count c := by
  have hne {d : Char} (hd : isBlank d = true) : d ≠ c := by
    rintro rfl
    rw [hd] at hc
    cases hc
  fun_induction wordsFrom w t with
  | case1 w hw => rw [List.isEmpty_iff.1 hw, List.flatten_nil, List.count_nil]
  | case2 w hw => rw [List.flatten_singleton, List.count_reverse, List.count_nil, Nat.add_zero]
  | case3 w d t hd hw ih => rw [ih, List.isEmpty_iff.1 hw, List.count_cons_of_ne (hne hd)]
  | case4 w d t hd hw ih => simp [ih, List.count_cons_of_ne (hne hd)]
  | case5 w d t hd ih =>
      rw [ih, List.count_cons, List.count_cons]
      omega

theorem count_collapse {c : Char} (hc : isBlank c = false) (t : Text) :
    (collapse t).count c = t.count c := by
  have hspace : c ∉ [' '] := by
    rw [List.mem_singleton]
    rintro rfl
    exact absurd hc (by decide)
  rw [collapse, count_join hspace, words, count_wordsFrom hc, List.count_nil, Nat.zero_add]

theorem IsTight.ne_nil (h : IsTight t) : t ≠ [] := by
  rintro rfl
  cases h

theorem IsTight.head?_not_blank (h : IsTight t) : ∀ c ∈ t.head?, isBlank c = false := by
  intro c hc
  cases t with
  | nil => cases hc
  | cons d t =>
      cases hc
      rw [IsTight, List.foldl_cons] at h
      cases hstep : tighten (some false) c with
      | none =>
          rw [hstep, foldl_tighten_none] at h
          cases h
      | some next =>
          rcases tighten_cases hstep with ⟨hopen, -, -⟩ | ⟨hblank, -⟩
          · cases hopen
          · exact hblank

theorem IsTight.getLast?_not_blank (h : IsTight t) : ∀ c ∈ t.getLast?, isBlank c = false := by
  intro c hc
  obtain ⟨init, rfl⟩ : ∃ init, t = init ++ [c] := List.getLast?_eq_some_iff.1 hc
  rw [IsTight, List.foldl_append, List.foldl_cons, List.foldl_nil] at h
  rcases tighten_cases h with ⟨-, -, hfalse⟩ | ⟨hblank, -⟩
  · cases hfalse
  · exact hblank

theorem trim_eq_self (h : IsTight t) : trim t = t :=
  trimOf_eq_self h.head?_not_blank h.getLast?_not_blank

end GuidAtlas.Text
