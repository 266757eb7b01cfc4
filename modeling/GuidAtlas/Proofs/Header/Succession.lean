import GuidAtlas.Header.Declaration
import GuidAtlas.Proofs.Header.Word

/-!
Reading word after word. The place behind a word is counted in the text with dots, so behind a path
with separators the next reading begins before its end.
-/

namespace GuidAtlas.Header

open Text

/-- The text behind a place on its line. -/
def Place.rest (place : Place) : Text := dropBytes place.offset place.line

def Place.advance (place : Place) (n : Nat) : Place := { place with offset := place.offset + n }

/-- A word as its line has it, and the place where it begins. -/
structure Occurrence where
  source : Text
  start : Place

namespace Occurrence

def stop (occurrence : Occurrence) : Place :=
  occurrence.start.advance (utf8Length occurrence.source)

def word (occurrence : Occurrence) : Word := ⟨dotted occurrence.source, occurrence.stop⟩

/-- What a reading makes of a word. -/
def read (occurrence : Occurrence) : Word :=
  ⟨dotted occurrence.source, occurrence.start.advance (utf8Length (dotted occurrence.source))⟩

def name (occurrence : Occurrence) : Text := tidy (dotted occurrence.source)

/-- A word without separators, of which a reading finds the end. -/
def IsPlain (occurrence : Occurrence) : Prop := ¬"::".toList <:+: occurrence.source

end Occurrence

instance (occurrence : Occurrence) : Decidable occurrence.IsPlain :=
  inferInstanceAs (Decidable ¬"::".toList <:+: occurrence.source)

/-- The words from a place on: those on the rest of its line, and then those on the valid lines
below it, as far as each of these is found in the search window of the one before. -/
inductive WordsFrom : Place → List Occurrence → Prop
  | here {place : Place} {gap source after : Text} {occurrences : List Occurrence}
      (text : place.rest = gap ++ (source ++ after))
      (parts : dotted place.rest = gap ++ (dotted source ++ dotted after))
      (passed : ∀ c ∈ gap, isWordChar c = false) (ne_nil : source ≠ [])
      (run : IsRun (dotted source) (dotted after))
      (later : WordsFrom ((place.advance (utf8Length gap)).advance (utf8Length source))
        occurrences) :
      WordsFrom place (⟨source, place.advance (utf8Length gap)⟩ :: occurrences)
  | lower {place : Place} {skipped rest : List Text} {line : Text} {occurrences : List Occurrence}
      (ended : ∀ c ∈ dotted place.rest, isWordChar c = false)
      (lines : place.below = skipped ++ line :: rest)
      (invalid : ∀ passed ∈ skipped, isValid passed false = false)
      (near : skipped.length < searchWindow) (valid : isValid line false = true)
      (words : WordsFrom ⟨line, 0, rest⟩ occurrences) : WordsFrom place occurrences
  | done {place : Place} (ended : ∀ c ∈ dotted place.rest, isWordChar c = false)
      (invalid : ∀ line ∈ place.below.take searchWindow, isValid line false = false) :
      WordsFrom place []

/-- The words that successive readings give, each from the place where the one before stopped. -/
def nextWords : Nat → Place → List Word
  | 0, _ => []
  | k + 1, place =>
    match (nextWord place).value with
    | some word => word :: nextWords k word.stop
    | none => []

variable {place : Place} {occurrence : Occurrence} {occurrences : List Occurrence} {line : Text}

theorem Place.advance_advance (place : Place) (m n : Nat) :
    (place.advance m).advance n = place.advance (m + n) := by
  simp only [Place.advance, Nat.add_assoc]

theorem Place.rest_advance {s rest : Text} (h : place.rest = s ++ rest) :
    (place.advance (utf8Length s)).rest = rest :=
  dropBytes_add h

/-- A gap without words has no separators either. -/
theorem dotted_eq_self_of_not_wordChar {gap : Text} (h : ∀ c ∈ dotted gap, isWordChar c = false) :
    dotted gap = gap := by
  refine dotted_eq_self fun hpart => ?_
  exact absurd (h '.' (dot_mem_dotted hpart)) (by decide)

theorem wordOnLine?_eq_none (h : ∀ c ∈ dotted place.rest, isWordChar c = false) :
    wordOnLine? place.line place.offset place.below = none := by
  rw [wordOnLine?, Option.map_eq_none_iff]
  exact wordIn?_eq_none_iff.2 h

theorem nextWord_value (place : Place) : (nextWord place).value =
    (wordOnLine? place.line place.offset place.below).or
      (wordBelow searchWindow place.below).value := by
  rw [nextWord]
  cases wordOnLine? place.line place.offset place.below <;> rfl

theorem nextWord_of_wordIn? {gap word : Text} (h : wordIn? (dotted place.rest) = some (gap, word)) :
    (nextWord place).value =
      some ⟨word, (place.advance (utf8Length gap)).advance (utf8Length word)⟩ := by
  rw [nextWord_value, wordOnLine?, ← Place.rest, h]
  rfl

theorem wordBelow_valid {window : Nat} {skipped rest : List Text}
    (hskipped : ∀ passed ∈ skipped, isValid passed false = false) (hnear : skipped.length < window)
    (hline : isValid line false = true) :
    (wordBelow window (skipped ++ line :: rest)).value = (nextWord ⟨line, 0, rest⟩).value := by
  induction skipped generalizing window with
  | nil =>
      obtain ⟨window, rfl⟩ := Nat.exists_eq_add_one.2 hnear
      rw [List.nil_append, wordBelow, if_pos hline, nextWord_value]
      cases wordOnLine? line 0 rest <;> rfl
  | cons passed skipped ih =>
      obtain ⟨hpassed, hskipped⟩ := List.forall_mem_cons.1 hskipped
      obtain ⟨window, rfl⟩ := Nat.exists_eq_add_one.2 (Nat.zero_lt_of_lt hnear)
      rw [List.cons_append, wordBelow, if_neg (by simp [hpassed])]
      exact ih hskipped (Nat.lt_of_succ_lt_succ hnear)

theorem wordBelow_invalid {window : Nat} {below : List Text}
    (h : ∀ line ∈ below.take window, isValid line false = false) :
    (wordBelow window below).value = none := by
  induction below generalizing window with
  | nil => cases window <;> rfl
  | cons line below ih =>
      cases window with
      | zero => rfl
      | succ window =>
          obtain ⟨hline, hbelow⟩ := List.forall_mem_cons.1 h
          rw [wordBelow, if_neg (by simp [hline])]
          exact ih hbelow

/-- A reading gives the first of the words, and stops as many bytes behind its beginning as it has
with dots. -/
theorem WordsFrom.nextWord_eq (h : WordsFrom place occurrences) :
    (nextWord place).value = occurrences.head?.map Occurrence.read := by
  induction h with
  | @here place gap source after occurrences text parts passed ne_nil run later ih =>
      exact nextWord_of_wordIn?
        (wordIn?_eq_some_iff.2 ⟨_, parts, passed, dotted_ne_nil ne_nil, run⟩)
  | lower ended lines invalid near valid words ih =>
      rw [nextWord_value, wordOnLine?_eq_none ended, lines, Option.none_or,
        wordBelow_valid invalid near valid, ih]
  | done ended invalid =>
      rw [nextWord_value, wordOnLine?_eq_none ended, Option.none_or, wordBelow_invalid invalid]
      rfl

theorem WordsFrom.tail (h : WordsFrom place occurrences) :
    ∀ occurrence ∈ occurrences.head?, WordsFrom occurrence.stop occurrences.tail := by
  induction h with
  | here text parts passed ne_nil run later ih =>
      intro occurrence hfirst
      cases hfirst
      exact later
  | lower ended lines invalid near valid words ih => exact ih
  | done ended invalid => simp

def Place.size (place : Place) : Nat := place.rest.length + (unlines place.below).length

theorem exists_occurrence (h : wordIn? (dotted place.rest) ≠ none) :
    ∃ gap source after, place.rest = gap ++ (source ++ after) ∧
      dotted place.rest = gap ++ (dotted source ++ dotted after) ∧
      (∀ c ∈ gap, isWordChar c = false) ∧ source ≠ [] ∧ IsRun (dotted source) (dotted after) := by
  obtain ⟨⟨before, word⟩, hfirst⟩ := Option.ne_none_iff_exists'.1 h
  obtain ⟨behind, hparts, hpassed, hne, hrun⟩ := wordIn?_eq_some_iff.1 hfirst
  obtain ⟨gap, rest, htext, rfl, hrest⟩ := exists_append_of_dotted hparts
  obtain ⟨source, after, rfl, rfl, rfl⟩ := exists_append_of_dotted hrest
  have hgap := dotted_eq_self_of_not_wordChar hpassed
  rw [hgap] at hparts hpassed
  refine ⟨gap, source, after, htext, hparts, hpassed, ?_, hrun⟩
  rintro rfl
  exact hne rfl

theorem exists_lower {below : List Text}
    (h : ¬∀ line ∈ below.take searchWindow, isValid line false = false) :
    ∃ skipped line rest, below = skipped ++ line :: rest ∧
      (∀ passed ∈ skipped, isValid passed false = false) ∧ skipped.length < searchWindow ∧
      isValid line false = true := by
  push Not at h
  obtain ⟨line, hline, hvalid⟩ := h
  obtain ⟨skipped, line, rest, hlines, hskipped, hvalid⟩ :=
    exists_first_valid ⟨line, hline, by simpa using hvalid⟩
  have hnear : skipped.length < searchWindow := by
    have hlength := congrArg List.length hlines
    rw [List.length_take, List.length_append, List.length_cons] at hlength
    omega
  refine ⟨skipped, line, rest ++ below.drop searchWindow, ?_, hskipped, hnear, hvalid⟩
  rw [← List.cons_append, ← List.append_assoc, ← hlines, List.take_append_drop]

theorem Place.size_advance {gap source after : Text} (htext : place.rest = gap ++ (source ++ after))
    (hne : source ≠ []) :
    ((place.advance (utf8Length gap)).advance (utf8Length source)).size < place.size := by
  have hrest : ((place.advance (utf8Length gap)).advance (utf8Length source)).rest = after :=
    Place.rest_advance (Place.rest_advance htext)
  have hpos := List.length_pos_iff.2 hne
  rw [Place.size, Place.size, hrest, htext, List.length_append, List.length_append]
  simp only [Place.advance]
  omega

theorem Place.size_lower {skipped rest : List Text}
    (hlines : place.below = skipped ++ line :: rest) : Place.size ⟨line, 0, rest⟩ < place.size := by
  have hbelow : unlines place.below = unlines skipped ++ (line ++ '\n' :: unlines rest) := by
    simp [hlines, unlines]
  rw [Place.size, Place.size, hbelow, List.length_append, List.length_append, List.length_cons]
  simp only [Place.rest, dropBytes]
  omega

theorem exists_wordsFrom (place : Place) : ∃ occurrences, WordsFrom place occurrences := by
  -- On what is left: a word is taken from its line, a line below is left without its end.
  induction hsize : place.size using Nat.strong_induction_on generalizing place with
  | _ size ih =>
      cases hfirst : wordIn? (dotted place.rest) with
      | some found =>
          obtain ⟨gap, source, after, htext, hparts, hpassed, hne, hrun⟩ :=
            @exists_occurrence place (by simp [hfirst])
          obtain ⟨occurrences, hlater⟩ := ih _ (hsize ▸ Place.size_advance htext hne) _ rfl
          exact ⟨_, .here htext hparts hpassed hne hrun hlater⟩
      | none =>
          have hover := wordIn?_eq_none_iff.1 hfirst
          by_cases hbelow : ∀ line ∈ place.below.take searchWindow, isValid line false = false
          case pos => exact ⟨[], .done hover hbelow⟩
          case neg =>
            obtain ⟨skipped, line, rest, hlines, hskipped, hnear, hvalid⟩ := exists_lower hbelow
            obtain ⟨occurrences, hwords⟩ := ih _ (hsize ▸ Place.size_lower hlines) _ rfl
            exact ⟨occurrences, .lower hover hlines hskipped hnear hvalid hwords⟩

theorem Occurrence.read_eq_word_iff : occurrence.read = occurrence.word ↔ occurrence.IsPlain := by
  have hlength : occurrence.read = occurrence.word ↔
      utf8Length (dotted occurrence.source) = utf8Length occurrence.source := by
    simp [Occurrence.read, Occurrence.word, Occurrence.stop, Place.advance]
  rw [hlength]
  constructor
  · exact fun h hpart => absurd h (Nat.ne_of_lt (utf8Length_dotted_lt hpart))
  · exact fun h => by rw [dotted_eq_self h]

theorem nextWords_succ (h : WordsFrom place (occurrence :: occurrences)) (k : Nat) :
    nextWords (k + 1) place = occurrence.read :: nextWords k occurrence.read.stop := by
  rw [nextWords, h.nextWord_eq]
  rfl

theorem nextWords_nil (h : WordsFrom place []) (k : Nat) : nextWords k place = [] := by
  cases k with
  | zero => rfl
  | succ k =>
      rw [nextWords, h.nextWord_eq]
      rfl

theorem nextWords_eq_iff (h : WordsFrom place occurrences) (k : Nat) :
    nextWords k place = (occurrences.take k).map Occurrence.word ↔
      ∀ occurrence ∈ occurrences.take k, occurrence.IsPlain := by
  induction k generalizing place occurrences with
  | zero => simp [nextWords]
  | succ k ih =>
      cases occurrences with
      | nil => simp [nextWords_nil h]
      | cons occurrence occurrences =>
          have htail := ih (h.tail occurrence rfl)
          rw [nextWords_succ h, List.take_succ_cons, List.map_cons, List.forall_mem_cons,
            List.cons_eq_cons, Occurrence.read_eq_word_iff]
          refine and_congr_right fun hplain => ?_
          rw [Occurrence.read_eq_word_iff.2 hplain]
          exact htail

theorem map_nextWords (h : WordsFrom place occurrences) {k : Nat}
    (hplain : ∀ occurrence ∈ occurrences.take k, occurrence.IsPlain) :
    (nextWords (k + 1) place).map (tidy ·.text) =
      (occurrences.take (k + 1)).map Occurrence.name := by
  induction k generalizing place occurrences with
  | zero =>
      cases occurrences with
      | nil => simp [nextWords_nil h]
      | cons occurrence occurrences =>
          rw [nextWords_succ h]
          rfl
  | succ k ih =>
      cases occurrences with
      | nil => simp [nextWords_nil h]
      | cons occurrence occurrences =>
          obtain ⟨hfirst, hrest⟩ := List.forall_mem_cons.1 hplain
          have htail := ih (h.tail occurrence rfl) hrest
          rw [nextWords_succ h, List.take_succ_cons, List.map_cons, List.map_cons,
            Occurrence.read_eq_word_iff.2 hfirst]
          exact congrArg _ htail

theorem WordsFrom.exists_after (h : WordsFrom place occurrences) :
    ∀ occurrence ∈ occurrences.head?, ∃ after, occurrence.start.rest = occurrence.source ++ after ∧
      IsRun (dotted occurrence.source) (dotted after) := by
  induction h with
  | here text parts passed ne_nil run later =>
      intro occurrence hfirst
      cases hfirst
      exact ⟨_, Place.rest_advance text, run⟩
  | lower ended lines invalid near valid words ih => exact ih
  | done ended invalid => simp

/-- The end of a path is read again: as many bytes of it as its separators have lost. -/
theorem WordsFrom.nextWord_again {front last : Text} {start : Place}
    (h : WordsFrom place (⟨front ++ last, start⟩ :: occurrences))
    (hfront : utf8Length (dotted (front ++ last)) = utf8Length front) (hne : last ≠ [])
    (hlast : ∀ c ∈ last, isWordChar c = true) (hopen : '<' ∉ last) :
    (nextWord (Occurrence.read ⟨front ++ last, start⟩).stop).value =
      some ⟨last, Occurrence.stop ⟨front ++ last, start⟩⟩ := by
  obtain ⟨after, hstart, hrun⟩ := h.exists_after _ rfl
  have hrest : (start.advance (utf8Length front)).rest = last ++ after :=
    Place.rest_advance (hstart.trans (List.append_assoc front last after))
  have hdotted : dotted (last ++ after) = last ++ dotted after := by
    have hcolon : ':' ∉ last := fun hc => absurd (hlast _ hc) (by decide)
    exact replace_append_left hcolon _ _
  have hagain : IsRun last (dotted after) :=
    isRun_of_isWordChar hlast hopen fun c hc => (hrun.stops c hc).1
  have hfirst : wordIn? (dotted (start.advance (utf8Length front)).rest) = some ([], last) := by
    rw [hrest, hdotted]
    exact wordIn?_eq_some_iff.2 ⟨_, rfl, by simp, hne, hagain⟩
  rw [Occurrence.read, hfront, nextWord_of_wordIn? hfirst, Place.advance_advance,
    Place.advance_advance, utf8Length_nil, Nat.zero_add, Occurrence.stop, utf8Length_append]

/-- Behind a plain kind, the name is the word that follows it. -/
theorem WordsFrom.kindAndName_eq (h : WordsFrom place (occurrence :: occurrences))
    (hplain : occurrence.IsPlain) (hne : occurrence.name ≠ []) (guid : Text) :
    (kindAndName guid place).value =
      .found guid ((occurrences.head?.map Occurrence.name).getD []) := by
  have hfirst := h.nextWord_eq
  have hsecond := (h.tail occurrence rfl).nextWord_eq
  rw [List.head?_cons, Option.map_some, Occurrence.read_eq_word_iff.2 hplain] at hfirst
  rw [List.tail_cons] at hsecond
  have hname : (tidy occurrence.word.text).isEmpty = false := by
    rwa [List.isEmpty_eq_false_iff]
  have hnext : (nextWord occurrence.word.stop).value = occurrences.head?.map Occurrence.read :=
    hsecond
  simp only [kindAndName, hfirst, hname, Bool.false_eq_true, if_false, hnext, Option.map_map]
  rfl

/-- Successive readings give the words of a text in their order, with the places behind them,
exactly as long as no word has separators; behind words without them the next one is right in any
case. So the name of a declaration is the word behind its kind if the kind is plain. Behind a path
its end is read again, as many bytes as its separators have lost. -/
theorem nextWords_succession (place : Place) :
    (∃ occurrences, WordsFrom place occurrences) ∧
    ∀ occurrences, WordsFrom place occurrences →
      (∀ k, nextWords k place = (occurrences.take k).map Occurrence.word ↔
        ∀ occurrence ∈ occurrences.take k, occurrence.IsPlain) ∧
      (∀ k, (∀ occurrence ∈ occurrences.take k, occurrence.IsPlain) →
        (nextWords (k + 1) place).map (tidy ·.text) =
          (occurrences.take (k + 1)).map Occurrence.name) ∧
      (∀ kind rest, occurrences = kind :: rest → kind.IsPlain → kind.name ≠ [] →
        ∀ guid, (kindAndName guid place).value =
          .found guid ((rest.head?.map Occurrence.name).getD [])) ∧
      ∀ front last start rest, occurrences = ⟨front ++ last, start⟩ :: rest →
        utf8Length (dotted (front ++ last)) = utf8Length front → last ≠ [] →
        (∀ c ∈ last, isWordChar c = true) → '<' ∉ last →
          (nextWords 2 place).map (·.text) = [dotted (front ++ last), last] := by
  refine ⟨exists_wordsFrom place, fun occurrences h =>
    ⟨nextWords_eq_iff h, fun k => map_nextWords h, ?_, ?_⟩⟩
  · rintro kind rest rfl hplain hne guid
    exact h.kindAndName_eq hplain hne guid
  · rintro front last start rest rfl hfront hne hlast hopen
    rw [nextWords_succ h, nextWords, h.nextWord_again hfront hne hlast hopen]
    rfl

def plainKind : Place := ⟨"\") enum Kind;", 0, ["", "\x7b", "next"]⟩

def plainKindWords : List Occurrence :=
  [⟨"enum", plainKind.advance 3⟩, ⟨"Kind", plainKind.advance 8⟩, ⟨"next", "next", 0, []⟩]

theorem nextWords_plainKind :
    WordsFrom plainKind plainKindWords ∧
    nextWords 3 plainKind = plainKindWords.map Occurrence.word ∧
    (kindAndName [] plainKind).value = .found [] "Kind" := by
  have hlast : WordsFrom ⟨"next", 0, []⟩ [⟨"next", "next", 0, []⟩] :=
    @WordsFrom.here _ [] "next" [] [] (by decide) (by decide) (List.forall_mem_nil _) (by decide)
      (by decide) (.done (List.forall_mem_nil _) (List.forall_mem_nil _))
  have hlower : WordsFrom (plainKind.advance 12) [⟨"next", "next", 0, []⟩] :=
    @WordsFrom.lower _ ["", "\x7b"] [] "next" _ (forall_mem_of_all (by decide)) rfl (by decide)
      (by decide) (by decide) hlast
  have hname : WordsFrom (plainKind.advance 7) plainKindWords.tail :=
    @WordsFrom.here _ " " "Kind" ";" _ (by decide) (by decide) (forall_mem_of_all (by decide))
      (by decide) (by decide) hlower
  have hwords : WordsFrom plainKind plainKindWords :=
    @WordsFrom.here _ "\") " "enum" " Kind;" _ (by decide) (by decide)
      (forall_mem_of_all (by decide)) (by decide) (by decide) hname
  obtain ⟨hplain, -, hkind, -⟩ := (nextWords_succession plainKind).2 _ hwords
  exact ⟨hwords, (hplain 3).2 (by decide), hkind _ _ rfl (by decide) (by decide) []⟩

def pathKind : Place :=
  ⟨"typedef DECLSPEC_UUID(\"AF86E2E0-B12D-4c6a-9C5A-D7AA65101E90\") Ns::Kind IFoo;", 59, []⟩

/-- The last letter of the kind is taken for the name. -/
theorem not_next_pathKind :
    WordsFrom pathKind [⟨"Ns::Kind", pathKind.advance 3⟩, ⟨"IFoo", pathKind.advance 12⟩] ∧
    (nextWords 2 pathKind).map (tidy ·.text) = ["Ns.Kind".toList, "d".toList] ∧
    (read false pathKind.line).declarations.map Declaration.name = ["d".toList] := by
  have hname : WordsFrom (pathKind.advance 11) [⟨"IFoo", pathKind.advance 12⟩] :=
    @WordsFrom.here _ " " "IFoo" ";" _ (by decide) (by decide) (forall_mem_of_all (by decide))
      (by decide) (by decide) (.done (forall_mem_of_all (by decide)) (List.forall_mem_nil _))
  refine ⟨?_, by decide, by decide⟩
  exact @WordsFrom.here _ "\") " "Ns::Kind" " IFoo;" _ (by decide) (by decide)
    (forall_mem_of_all (by decide)) (by decide) (by decide) hname

end GuidAtlas.Header
