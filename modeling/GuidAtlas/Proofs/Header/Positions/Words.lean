import GuidAtlas.Proofs.Header.Positions.Cursor
import GuidAtlas.Proofs.Header.Runs

/-!
Words by the index of their characters, counted in bytes behind an offset, and the namespaces above
a line by the positions of their keyword.
-/

namespace GuidAtlas.Header

open Text

namespace Cursor

/-- Ends a word in front of a character, and counts the bytes up to it behind the offset. -/
def endWord? (chars : Text) (index offset : Nat) (word : Text) (cursor : Cursor) :
    Option (Text × Nat × Cursor) :=
  if index ≤ chars.length then
    some (tidy word, offset + utf8Length (chars.take index), cursor)
  else none

/-- Looks at the characters of a line from an index on, and goes on with the next line as long as
the word is empty. -/
def wordFrom? (chars : Text) (index offset : Nat) (word : Text) (inBrackets : Bool)
    (cursor : Cursor) : Option (Text × Nat × Cursor) :=
  match _hchar : chars[index]? with
  | some c =>
    let inBrackets := c = '<' || (c ≠ '>' && inBrackets)
    if inBrackets || isWordChar c then
      wordFrom? chars (index + 1) offset (word ++ [c]) inBrackets cursor
    else if word.isEmpty then wordFrom? chars (index + 1) offset word inBrackets cursor
    else endWord? chars index offset word cursor
  | none =>
    if word.isEmpty then
      match _hadvance : cursor.advanceValid false searchWindow with
      | (some line, cursor) => wordFrom? (dotted line) 0 0 word inBrackets cursor
      | (none, cursor) => endWord? chars index offset word cursor
    else endWord? chars index offset word cursor
termination_by (cursor.below.length, chars.length - index)
decreasing_by
  · exact .right _ (Nat.sub_succ_lt_self _ _ (List.getElem?_eq_some_iff.1 _hchar).1)
  · exact .right _ (Nat.sub_succ_lt_self _ _ (List.getElem?_eq_some_iff.1 _hchar).1)
  · exact .left _ _ (length_below_lt _hadvance)

def nextWord? (offset : Nat) (cursor : Cursor) : Option (Text × Nat × Cursor) :=
  wordFrom? (dotted ((sliceFrom? offset cursor.current).getD [])) 0 offset [] false cursor

end Cursor

def previousValid? (lines : List Text) : (window index : Nat) → Option (Option (Text × Nat))
  | 0, _ => some none
  | _ + 1, 0 => some none
  | window + 1, index + 1 => do
    let line ← lines[index]?
    if isValid line false then return some (line, index)
    else previousValid? lines window index

/-- Puts the names behind the occurrences of `namespace` in front of a path, the last one first, up
to the root. -/
def qualifyBy? (path rest : Text) : Option (Text × Bool) :=
  match _hfound : findLast? "namespace" rest with
  | some found => do
    let behind ← sliceFrom? (found + utf8Length "namespace") rest
    let name := trimOf (fun c => c = ' ' || c = '{') behind
    let path := name ++ '.' :: path
    (sliceTo? found rest).pbind fun rest _ =>
      if name = "ABI".toList then some (path, true) else qualifyBy? path rest
  | none => some (path, false)
termination_by rest.length
decreasing_by exact length_lt_of_findLast? _hfound (by decide) ‹_›

def abiPathFrom? (lines : List Text) (path : Text) : (depth index : Nat) → Option Text
  | 0, _ => some []
  | depth + 1, index => do
    match ← previousValid? lines searchWindow index with
    | none => return []
    | some (line, index) =>
      let (path, rooted) ← qualifyBy? path line
      if rooted then return path else abiPathFrom? lines path depth index

theorem wordIn?_cons_of_word {c : Char} (hc : isWordChar c = true) (rest : Text) :
    wordIn? (c :: rest) =
      some ([], c :: wordAtStart (c = '<' || (c ≠ '>' && false)) rest) := by
  simp [wordIn?, hc, wordAtStart_cons]

theorem wordIn?_cons_of_passed {c : Char} (hc : isWordChar c = false) (rest : Text) :
    wordIn? (c :: rest) = (wordIn? rest).map fun (before, word) => (c :: before, word) := by
  simp only [wordIn?, List.dropWhile_cons, hc, List.takeWhile_cons, Bool.not_false, if_true]
  cases wordAtStart false (rest.dropWhile (!isWordChar ·)) <;> rfl

namespace Cursor

variable {word : Text} {cursor : Cursor}

theorem wordFrom?_inside (read rest : Text) (offset : Nat) (hword : word ≠ [])
    (inBrackets : Bool) (cursor : Cursor) :
    wordFrom? (read ++ rest) read.length offset word inBrackets cursor =
      some (tidy (word ++ wordAtStart inBrackets rest),
        offset + utf8Length (read ++ wordAtStart inBrackets rest), cursor) := by
  induction rest generalizing read word inBrackets with
  | nil =>
      rw [List.append_nil, wordFrom?, List.getElem?_length]
      simp [hword, endWord?, wordAtStart]
  | cons c rest ih =>
      have hnext := ih (read ++ [c]) (List.concat_ne_nil c word)
        (c = '<' || (c ≠ '>' && inBrackets))
      simp only [List.append_assoc, List.singleton_append, List.length_append,
        List.length_singleton] at hnext
      rw [wordFrom?, List.getElem?_append_right (Nat.le_refl _), Nat.sub_self,
        List.getElem?_cons_zero, wordAtStart]
      simp only
      split
      case isTrue hc => simpa using hnext
      case isFalse hc => simp [hword, endWord?]

theorem wordFrom?_passing (read rest : Text) (offset : Nat) (cursor : Cursor) :
    wordFrom? (read ++ rest) read.length offset [] false cursor =
      match wordIn? rest with
      | some (before, word) =>
        some (tidy word, offset + utf8Length (read ++ (before ++ word)), cursor)
      | none => wordFrom? (read ++ rest) (read ++ rest).length offset [] false cursor := by
  induction rest generalizing read with
  | nil => simp [wordIn?, wordAtStart]
  | cons c rest ih =>
      rw [wordFrom?, List.getElem?_append_right (Nat.le_refl _), Nat.sub_self,
        List.getElem?_cons_zero]
      simp only
      by_cases hc : isWordChar c = true
      case pos =>
        have hnext := wordFrom?_inside (read ++ [c]) rest offset (List.cons_ne_nil c [])
          (c = '<' || (c ≠ '>' && false)) cursor
        rw [wordIn?_cons_of_word hc]
        simpa [hc] using hnext
      case neg =>
        have hopen : c ≠ '<' := by
          rintro rfl
          exact hc (by decide)
        have hnext := ih (read ++ [c])
        simp only [List.append_assoc, List.singleton_append, List.length_append,
          List.length_singleton] at hnext
        rw [wordIn?_cons_of_passed (by simpa using hc)]
        simp only [hopen, hc, decide_false, Bool.and_false, Bool.or_self, Bool.false_eq_true,
          if_false, List.isEmpty_nil, if_true]
        rw [hnext]
        cases wordIn? rest <;> simp

theorem searches_wordBelow :
    Searches false none (fun line below => nextWord ⟨line, 0, below⟩) wordBelow where
  closed below := by cases below <;> rfl
  ended window := by cases window <;> rfl
  looked window line below := by
    rw [wordBelow, nextWord]
    cases wordOnLine? line 0 below <;> rfl

/-- A word by its characters agrees with the reading of a word: it ends at the same place. -/
def ReadsWord (cursor : Cursor) (result : Option (Text × Nat × Cursor))
    (reading : Reading (Option Word)) : Prop :=
  ∃ offset later, result =
      some ((reading.value.map fun word => tidy word.text).getD [], offset, later) ∧
    cursor.Takes reading.taken later ∧ ∀ word ∈ reading.value, later.place offset = word.stop

theorem readsWord_nextWord? (offset : Nat) (cursor : Cursor) :
    cursor.ReadsWord (cursor.nextWord? offset) (nextWord (cursor.place offset)) := by
  induction hn : cursor.below.length using Nat.strong_induction_on generalizing offset cursor with
  | h n ih =>
      rw [nextWord?, getD_sliceFrom?]
      have hread := wordFrom?_passing [] (dotted (dropBytes offset cursor.current)) offset cursor
      rw [List.nil_append, List.length_nil] at hread
      rw [hread]
      cases hword : wordIn? (dotted (dropBytes offset cursor.current)) with
      | some parts =>
          obtain ⟨before, word⟩ := parts
          have hfound : nextWord (cursor.place offset) = ⟨some ⟨word, cursor.current,
              offset + utf8Length before + utf8Length word, cursor.below⟩, 0⟩ := by
            simp only [nextWord, place, wordOnLine?, hword, Option.map_some]
          rw [hfound]
          refine ⟨_, cursor, rfl, .refl cursor, ?_⟩
          rintro word ⟨⟩
          simp [place, utf8Length_append, Nat.add_assoc]
      | none =>
          have hmissed : nextWord (cursor.place offset) = wordBelow searchWindow cursor.below := by
            simp only [nextWord, place, wordOnLine?, hword, Option.map_none]
          rw [hmissed, wordFrom?, List.getElem?_length]
          simp only [List.isEmpty_nil, if_true]
          rcases advanceValid_cases searches_wordBelow cursor searchWindow with
            ⟨later, taken, hadvance, htakes, hsearch⟩ |
              ⟨line, later, taken, hadvance, rfl, -, htakes, hsearch⟩
          · rw [hsearch, hadvance]
            have hempty : tidy [] = [] := by decide
            exact ⟨_, later, by simp only [endWord?, Nat.le_refl, if_true, hempty]; rfl, htakes,
              by simp⟩
          · obtain ⟨offset, last, hread, hlast, hstop⟩ :=
              ih _ (hn ▸ length_below_lt hadvance) 0 later rfl
            have hstart : later.nextWord? 0 =
                wordFrom? (dotted later.current) 0 0 [] false later := by
              rw [nextWord?, sliceFrom?, cutBytes?_zero]
              rfl
            rw [hsearch, hadvance]
            exact ⟨offset, last, hstart.symm.trans hread,
              Nat.add_comm _ _ ▸ htakes.trans hlast, hstop⟩

end Cursor

theorem namespacesOf_append {after : Text} (h : ¬"namespace".toList <:+: after) (before : Text) :
    namespacesOf (before ++ "namespace".toList ++ after) =
      trimOf (fun c => c = ' ' || c = '{') after :: namespacesOf before := by
  have hpieces : pieces "namespace" (before ++ "namespace".toList ++ after) =
      pieces "namespace" before ++ [after] := by
    rw [← pieces_eq_singleton h, List.append_assoc]
    exact @piecesFrom_append_sep 'n' "amespace" before (by decide) 0 (Nat.zero_le _) after
  have hne : pieces "namespace" before ≠ [] := piecesFrom_ne_nil _ _ _
  rw [namespacesOf, hpieces, List.tail_append_of_ne_nil hne, List.map_append, List.reverse_append]
  rfl

theorem qualifyBy?_eq (path rest : Text) :
    qualifyBy? path rest = some (qualify path (namespacesOf rest)) := by
  induction hn : rest.length using Nat.strong_induction_on generalizing path rest with
  | h n ih =>
      rw [qualifyBy?, findLast?]
      cases hfound : cutLast? "namespace" rest with
      | none =>
          have hnone : namespacesOf rest = [] := by
            rw [namespacesOf, pieces_eq_singleton (cutLast?_eq_none_iff.1 hfound)]
            rfl
          rw [hnone]
          rfl
      | some parts =>
          obtain ⟨before, after⟩ := parts
          have hafter := not_infix_of_cutLast? (by decide) hfound
          obtain rfl := eq_append_of_cutLast? hfound
          have hshort : before.length < n := by
            rw [← hn, List.length_append, List.length_append]
            simp
            omega
          have hto := sliceTo?_append before ("namespace".toList ++ after)
          rw [← List.append_assoc] at hto
          rw [namespacesOf_append hafter, qualify]
          simp only [Option.map_some, ← utf8Length_append, sliceFrom?_append, hto,
            Option.bind_eq_bind, Option.pbind_eq_bind, Option.bind_some]
          rw [ih _ hshort _ before rfl]
          split <;> rfl

theorem abiPathFrom_of_valid {line : Text} (h : isValid line false = true) (path : Text)
    (depth window : Nat) (above : List Text) :
    abiPathFrom path (depth + 1) (window + 1) (line :: above) =
      if (qualify path (namespacesOf line)).2 then (qualify path (namespacesOf line)).1
      else abiPathFrom (qualify path (namespacesOf line)).1 depth searchWindow above := by
  rw [abiPathFrom, if_pos h]
  cases qualify path (namespacesOf line) with
  | mk path rooted => cases rooted <;> rfl

/-- The search above a line stays among the lines. The path goes on from the line it finds. -/
theorem previousValid?_cases {lines : List Text} {index : Nat} (hindex : index ≤ lines.length)
    (window : Nat) :
    (previousValid? lines window index = some none ∧
      ∀ path depth, abiPathFrom path (depth + 1) window (lines.take index).reverse = []) ∨
    ∃ line i, previousValid? lines window index = some (some (line, i)) ∧ i ≤ lines.length ∧
      ∀ path depth, abiPathFrom path (depth + 1) window (lines.take index).reverse =
        if (qualify path (namespacesOf line)).2 then (qualify path (namespacesOf line)).1
        else abiPathFrom (qualify path (namespacesOf line)).1 depth searchWindow
          (lines.take i).reverse := by
  induction window generalizing index with
  | zero => exact .inl ⟨rfl, fun path depth => by cases (lines.take index).reverse <;> rfl⟩
  | succ window ih =>
      cases index with
      | zero => exact .inl ⟨rfl, fun path depth => rfl⟩
      | succ index =>
          have hline : lines[index]? = some lines[index] := List.getElem?_eq_getElem hindex
          rw [previousValid?, hline, reverse_take_succ hindex]
          simp only [Option.bind_eq_bind, Option.bind_some]
          by_cases hvalid : isValid lines[index] false = true
          case pos =>
            rw [if_pos hvalid]
            exact .inr ⟨lines[index], index, rfl, Nat.le_of_lt hindex,
              fun path depth => abiPathFrom_of_valid hvalid path depth window _⟩
          case neg =>
            have hskip (path : Text) (depth : Nat) : abiPathFrom path (depth + 1) (window + 1)
                (lines[index] :: (lines.take index).reverse) =
                  abiPathFrom path (depth + 1) window (lines.take index).reverse := by
              rw [abiPathFrom, if_neg hvalid]
            rw [if_neg hvalid]
            simp only [hskip]
            exact ih (Nat.le_of_lt hindex)

/-- An index behind the lines misses. -/
example : previousValid? ["namespace ABI"] searchWindow 2 = none := by decide

theorem abiPathFrom?_eq {lines : List Text} {index : Nat} (hindex : index ≤ lines.length)
    (path : Text) (depth : Nat) : abiPathFrom? lines path depth index =
      some (abiPathFrom path depth searchWindow (lines.take index).reverse) := by
  induction depth generalizing path index with
  | zero => cases (lines.take index).reverse <;> rfl
  | succ depth ih =>
      rw [abiPathFrom?]
      rcases previousValid?_cases hindex searchWindow with ⟨hprevious, hpath⟩ |
        ⟨line, i, hprevious, hi, hpath⟩
      · rw [hprevious, hpath]
        rfl
      · rw [hprevious, hpath]
        simp only [Option.bind_eq_bind, Option.bind_some, qualifyBy?_eq, ih hi]
        split <;> rfl

end GuidAtlas.Header
