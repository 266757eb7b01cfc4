import GuidAtlas.Proofs.Lookup.Reading

/-!
What the reader makes of a document of plain lines. Each line is read by one or two rounds that
begin at its first character and end at the first character of the next line that is not blank.
-/

namespace GuidAtlas.Lookup

open Text Reader

inductive LineEnd where
  | lf
  | crlf

def LineEnd.text : LineEnd → Text
  | .lf => ['\n']
  | .crlf => ['\r', '\n']

theorem LineEnd.text_eq (stop : LineEnd) :
    ∃ before, (∀ c ∈ before, c ≠ '\n') ∧ stop.text = before ++ ['\n'] := by
  cases stop with
  | lf => exact ⟨[], by simp, rfl⟩
  | crlf => exact ⟨['\r'], by simp, rfl⟩

theorem LineEnd.text_cons (stop : LineEnd) :
    ∃ c rest, stop.text = c :: rest ∧ endsLine c = true := by
  cases stop with
  | lf => exact ⟨'\n', [], rfl, rfl⟩
  | crlf => exact ⟨'\r', ['\n'], rfl, rfl⟩

inductive DocumentLine where
  | blank
  | comment (mark : Char) (text : Text)
  | header (name : Text)
  | entry (key : Text) (separator : Char) (value : Text)

namespace DocumentLine

def text : DocumentLine → Text
  | blank => []
  | comment mark text => mark :: text
  | header name => '[' :: (name ++ [']'])
  | entry key separator value => key ++ separator :: value

def items : DocumentLine → List Item
  | blank => []
  | comment _ _ => []
  | header name => [.header (trim name)]
  | entry key _ value => [.entry (trim key) (trim value)]

/-- A line that is nothing else than it seems. -/
def Plain : DocumentLine → Prop
  | blank => True
  | comment mark text => (mark = ';' ∨ mark = '#') ∧ '\n' ∉ text
  | header name => Unbroken (· = ']') name
  | entry key separator value =>
    (∃ c rest, key = c :: rest ∧ isBlank c = false ∧ c ∉ [';', '#', '[']) ∧
      Unbroken endsKey key ∧ endsKey separator = true ∧ Unbroken endsLine value

instance : DecidablePred Plain
  | blank => .isTrue trivial
  | comment mark text => inferInstanceAs (Decidable ((mark = ';' ∨ mark = '#') ∧ '\n' ∉ text))
  | header name => inferInstanceAs (Decidable (Unbroken (· = ']') name))
  | entry [] _ _ => .isFalse fun ⟨⟨_, _, hcons, _⟩, _⟩ => by cases hcons
  | entry (c :: rest) separator value =>
    decidable_of_iff ((isBlank c = false ∧ c ∉ [';', '#', '[']) ∧ Unbroken endsKey (c :: rest) ∧
      endsKey separator = true ∧ Unbroken endsLine value) (by simp [Plain])

end DocumentLine

def documentText (lines : List (DocumentLine × LineEnd)) : Text :=
  lines.flatMap fun (line, stop) => line.text ++ stop.text

namespace Reader

variable {position : Position} {t r : Text}

theorem skipFrom_lineEnd (stop : LineEnd) (h : NotIndented r)
    (hfits : position.Fits (stop.text ++ r)) :
    ∃ place : Position, skipFrom position (stop.text ++ r) = skipFrom place r ∧
      place.BeginsLine r := by
  cases stop with
  | lf => exact ⟨position.onto r, skipFrom_lf h position, Position.onto_beginsLine (hfits rfl)⟩
  | crlf =>
      refine ⟨(position.onto ('\n' :: r)).onto r, ?_, Position.onto_beginsLine rfl⟩
      rw [← skipFrom_lf h]
      simp [LineEnd.text, skipFrom]

variable {stop : LineEnd}

theorem itemsFrom_comment {mark : Char} {text : Text}
    (hplain : (DocumentLine.comment mark text).Plain)
    (hplace : position.BeginsLine (mark :: text ++ (stop.text ++ r))) (rounds : Nat) :
    ∃ place : Position, place.BeginsLine r ∧
      itemsFrom (rounds + 1) [] (skipFrom position (mark :: text ++ (stop.text ++ r))) =
        itemsFrom rounds [] (skipFrom place r) := by
  obtain ⟨hmark, htext⟩ := hplain
  obtain ⟨before, hbefore, hstop⟩ := stop.text_eq
  have hblank : isBlank mark = false := by rcases hmark with rfl | rfl <;> rfl
  have hcomment : (mark = ';' || mark = '#') = true := by simpa using hmark
  have hcolumn : ¬1 < position.column := Nat.not_lt.2 hplace.column_le
  have hline : mark :: text ++ (stop.text ++ r) = (mark :: text ++ before) ++ '\n' :: r := by
    simp [hstop]
  have hnolf : ∀ c ∈ mark :: text ++ before, decide (c ≠ '\n') = true := by
    intro c hc
    rw [decide_eq_true_eq]
    rintro rfl
    rcases List.mem_append.1 hc with hc | hc
    · rcases List.mem_cons.1 hc with rfl | hc
      · rcases hmark with hmark | hmark <;> cases hmark
      · exact htext hc
    · exact hbefore _ hc rfl
  obtain ⟨place, hdrop, hfits⟩ := dropFrom_append hnolf (by simp) (hline ▸ hplace.fits)
  refine ⟨place.onto r, Position.onto_beginsLine (hfits rfl), ?_⟩
  have hround : round [] mark ⟨position, mark :: (text ++ (stop.text ++ r))⟩ =
      .more [] [] (skipFrom (place.onto r) r) := by
    simp only [round, hcomment, if_true, hcolumn, if_false, dropLine, dropWhile]
    rw [← List.cons_append, hline, hdrop]
    rfl
  rw [List.cons_append, skipFrom_of_not_blank hblank, itemsFrom_silent hround]

theorem itemsFrom_header {name : Text} (hplain : (DocumentLine.header name).Plain)
    (h : NotIndented r) (position : Position) (rounds : Nat) :
    ∃ place : Position, place.BeginsLine r ∧
      itemsFrom (rounds + 1) [] (skipFrom position ('[' :: (name ++ [']']) ++ (stop.text ++ r))) =
        (itemsFrom rounds [] (skipFrom place r)).map ([.header (trim name)] ++ ·) := by
  have hline : '[' :: (name ++ [']']) ++ (stop.text ++ r) =
      '[' :: (name ++ ']' :: (stop.text ++ r)) := by simp
  obtain ⟨close, hname, -⟩ := upToFrom_append hplain (by simp)
    (position.onto_fits (name ++ ']' :: (stop.text ++ r)))
  obtain ⟨place, hskip, hplace⟩ := skipFrom_lineEnd stop h (close.onto_fits (stop.text ++ r))
  refine ⟨place, hplace, ?_⟩
  have hround : round [] '[' ⟨position, '[' :: (name ++ ']' :: (stop.text ++ r))⟩ =
      .more [.header (trim name)] [] (skipFrom place r) := by
    simp only [round, sectionRound, readSection, upTo, next, List.tail_cons, hname]
    simp [skip, hskip]
  rw [hline, skipFrom_of_not_blank (by rfl), itemsFrom_succ hround]

theorem round_key {key : Text} {separator : Char}
    (hhead : ∃ c rest, key = c :: rest ∧ isBlank c = false ∧ c ∉ [';', '#', '['])
    (hkey : Unbroken endsKey key) (hseparator : endsKey separator = true)
    (hfits : position.Fits (key ++ separator :: t)) :
    ∃ c rest, ∃ place : Position, key ++ separator :: t = c :: rest ∧ isBlank c = false ∧
      round [] c ⟨position, c :: rest⟩ = .more [] (trim key) ⟨place, separator :: t⟩ := by
  obtain ⟨c, rest, hcons, hblank, hmark⟩ := hhead
  obtain ⟨place, hread, -⟩ := upToFrom_append hkey hseparator hfits
  have hends : endsKey c = false := hkey.not_stop c (by simp [hcons])
  have hspace : c ≠ ' ' := by rintro rfl; cases hblank
  have htab : c ≠ '\t' := by rintro rfl; cases hblank
  have hlf : c ≠ '\n' := by rintro rfl; cases hblank
  have hcr : c ≠ '\r' := by rintro rfl; cases hblank
  have hskip : skipFrom place (separator :: t) = ⟨place, separator :: t⟩ := by
    refine skipFrom_of_not_blank ?_ place t
    have hcases : separator = '=' ∨ separator = ':' := by simpa [endsKey] using hseparator
    rcases hcases with rfl | rfl <;> rfl
  simp only [List.mem_cons, List.not_mem_nil, or_false, not_or] at hmark
  refine ⟨c, rest ++ separator :: t, place, by simp [hcons], hblank, ?_⟩
  rw [hcons, List.cons_append] at hread
  simp [round, hmark, hends, hspace, htab, hlf, hcr, endsLine, upTo, hread, skip, hskip, hcons]

theorem dropWhile_blank {value : Text} (h : ∀ c ∈ value, endsLine c = false) :
    value.dropWhile (fun c => isBlank c && !endsLine c) = trimStart value := by
  induction value with
  | nil => rfl
  | cons c value ih =>
      have hc := h c List.mem_cons_self
      have ih := ih fun d hd => h d (List.mem_cons_of_mem _ hd)
      rw [trimStart, trimStartOf, List.dropWhile_cons, List.dropWhile_cons, ih, hc]
      simp [trimStart, trimStartOf]

theorem readValue_append (separator : Char) {blanks t : Text}
    (hblanks : ∀ c ∈ blanks, (isBlank c && !endsLine c) = true)
    (ht : ∃ d rest, t = d :: rest ∧ (isBlank d && !endsLine d) = false) (position : Position) :
    ∃ place : Position, place.Fits t ∧
      readValue ⟨position, separator :: (blanks ++ t)⟩ =
        (trim (upToFrom endsLine place t).1, (upToFrom endsLine place t).2) := by
  obtain ⟨d, rest, rfl, hd⟩ := ht
  obtain ⟨place, hdrop, hplace⟩ := dropFrom_append hblanks hd
    (position.onto_fits (blanks ++ d :: rest))
  refine ⟨place, hplace, ?_⟩
  simp only [readValue, next, List.tail_cons, dropWhile, upTo, hdrop]

theorem readValue_line (separator : Char) {value : Text} (hvalue : Unbroken endsLine value)
    (position : Position) :
    ∃ place : Position, place.Fits (stop.text ++ r) ∧
      readValue ⟨position, separator :: (value ++ (stop.text ++ r))⟩ =
        (trim value, ⟨place, stop.text ++ r⟩) := by
  obtain ⟨c, ending, hstop, hc⟩ := stop.text_cons
  have hdrop := dropWhile_blank hvalue.not_stop
  have hsplit :=
    List.takeWhile_append_dropWhile (p := fun c => isBlank c && !endsLine c) (l := value)
  rw [hdrop] at hsplit
  have hsuffix : trimStart value <:+ value := List.dropWhile_suffix _
  have hhead : ∃ d rest, trimStart value ++ (stop.text ++ r) = d :: rest ∧
      (isBlank d && !endsLine d) = false := by
    cases hcons : trimStart value with
    | nil => exact ⟨c, ending ++ r, by simp [hstop], by simp [hc]⟩
    | cons d rest =>
        have hblank := head?_trimStartOf isBlank value d (by rw [← trimStart, hcons]; rfl)
        exact ⟨d, rest ++ (stop.text ++ r), rfl, by simp [hblank]⟩
  obtain ⟨first, hfirst, hread⟩ := readValue_append separator
    (List.all_eq_true.1 (List.all_takeWhile (l := value))) hhead position
  rw [← List.append_assoc, hsplit] at hread
  rw [hstop, List.cons_append] at hfirst
  obtain ⟨place, hupTo, hplace⟩ := upToFrom_append (hvalue.of_suffix hsuffix) hc hfirst
  refine ⟨place, by rw [hstop]; exact hplace, ?_⟩
  rw [← List.cons_append, ← hstop] at hupTo
  have htrim : trim (trimStart value) = trim value := trimOf_trimStartOf isBlank value
  rw [hread, hupTo, htrim]

/-- A key and its value take a round each. -/
theorem itemsFrom_key {key : Text} {separator : Char}
    (hhead : ∃ c rest, key = c :: rest ∧ isBlank c = false ∧ c ∉ [';', '#', '['])
    (hkey : Unbroken endsKey key) (hseparator : endsKey separator = true)
    (hfits : position.Fits (key ++ separator :: t)) :
    ∃ before : Position, ∀ rounds value reader,
      readValue ⟨before, separator :: t⟩ = (value, reader) →
      itemsFrom (rounds + 2) [] (skipFrom position (key ++ separator :: t)) =
        (itemsFrom rounds [] reader.skip).map ([.entry (trim key) value] ++ ·) := by
  obtain ⟨c, rest, before, hline, hblank, hround⟩ := round_key hhead hkey hseparator hfits
  refine ⟨before, fun rounds value reader hread => ?_⟩
  have hkey : (trim key).isEmpty = false := by
    obtain ⟨d, tail, rfl, hd, -⟩ := hhead
    rw [List.isEmpty_eq_false_iff]
    exact List.ne_nil_of_mem (mem_trimOf List.mem_cons_self hd)
  have hvalue : round (trim key) separator ⟨before, separator :: t⟩ =
      .more [.entry (trim key) value] [] reader.skip := by
    rcases (by simpa [endsKey] using hseparator : separator = '=' ∨ separator = ':') with
      rfl | rfl <;> simp [round, endsKey, hkey, hread]
  rw [hline, skipFrom_of_not_blank hblank, itemsFrom_silent hround, itemsFrom_succ hvalue]

theorem itemsFrom_entry {key value : Text} {separator : Char}
    (hplain : (DocumentLine.entry key separator value).Plain) (h : NotIndented r)
    (hfits : position.Fits (key ++ separator :: value ++ (stop.text ++ r))) (rounds : Nat) :
    ∃ place : Position, place.BeginsLine r ∧
      itemsFrom (rounds + 2) []
          (skipFrom position (key ++ separator :: value ++ (stop.text ++ r))) =
        (itemsFrom rounds [] (skipFrom place r)).map ([.entry (trim key) (trim value)] ++ ·) := by
  obtain ⟨hhead, hkey, hseparator, hvalue⟩ := hplain
  rw [List.append_assoc, List.cons_append] at hfits ⊢
  obtain ⟨before, hitems⟩ := itemsFrom_key hhead hkey hseparator hfits
  obtain ⟨close, hclose, hread⟩ := readValue_line separator hvalue before
  obtain ⟨place, hskip, hplace⟩ := skipFrom_lineEnd stop h hclose
  refine ⟨place, hplace, ?_⟩
  rw [hitems rounds _ _ hread, skip, hskip]

/-- One line of a document is read in at most as many rounds as it has characters. -/
theorem itemsFrom_line {line : DocumentLine} (hplain : line.Plain) (h : NotIndented r)
    {rounds : Nat} (hrounds : (line.text ++ (stop.text ++ r)).length ≤ rounds)
    (hplace : position.BeginsLine (line.text ++ (stop.text ++ r))) :
    ∃ rest, ∃ place : Position, r.length ≤ rest ∧ place.BeginsLine r ∧
      itemsFrom rounds [] (skipFrom position (line.text ++ (stop.text ++ r))) =
        (itemsFrom rest [] (skipFrom place r)).map (line.items ++ ·) := by
  have hid (result : Except DocumentFault (List Item)) : result.map ([] ++ ·) = result := by
    cases result <;> rfl
  simp only [List.length_append] at hrounds
  -- A blank line is passed over within a round, a key and its value take a round each.
  cases line with
  | blank =>
      obtain ⟨place, hskip, hnext⟩ := skipFrom_lineEnd stop h hplace.fits
      exact ⟨rounds, place, by omega, hnext, by rw [DocumentLine.items, hid, ← hskip]; rfl⟩
  | comment mark text =>
      rw [DocumentLine.text, List.length_cons] at hrounds
      obtain ⟨rest, rfl⟩ := Nat.exists_eq_add_of_le' (show 1 ≤ rounds by omega)
      obtain ⟨place, hnext, heq⟩ := itemsFrom_comment hplain hplace rest
      exact ⟨rest, place, by omega, hnext, by rw [DocumentLine.items, hid, ← heq]; rfl⟩
  | header name =>
      rw [DocumentLine.text, List.length_cons] at hrounds
      obtain ⟨rest, rfl⟩ := Nat.exists_eq_add_of_le' (show 1 ≤ rounds by omega)
      obtain ⟨place, hnext, heq⟩ := itemsFrom_header hplain h position rest
      exact ⟨rest, place, by omega, hnext, heq⟩
  | entry key separator value =>
      obtain ⟨c, tail, hcons, -⟩ := hplain.1
      rw [DocumentLine.text, hcons, List.length_append, List.length_cons, List.length_cons]
        at hrounds
      obtain ⟨rest, rfl⟩ := Nat.exists_eq_add_of_le' (show 2 ≤ rounds by omega)
      obtain ⟨place, hnext, heq⟩ := itemsFrom_entry hplain h hplace.fits rest
      exact ⟨rest, place, by omega, hnext, heq⟩

theorem notIndented_documentText {lines : List (DocumentLine × LineEnd)}
    (hplain : ∀ line ∈ lines, line.1.Plain) (h : NotIndented r) :
    NotIndented (documentText lines ++ r) := by
  match lines with
  | [] => exact h
  | (line, stop) :: lines =>
      have hline := hplain _ List.mem_cons_self
      intro c hc
      cases line with
      | blank => cases stop <;> cases hc <;> decide
      | comment mark text => cases hc; rcases hline.1 with rfl | rfl <;> decide
      | header name => cases hc; decide
      | entry key separator value =>
          obtain ⟨d, tail, rfl, hd, -⟩ := hline.1
          cases hc
          exact ⟨fun heq => by subst heq; contradiction, fun heq => by subst heq; contradiction⟩

theorem itemsFrom_documentText_append {lines : List (DocumentLine × LineEnd)}
    (hplain : ∀ line ∈ lines, line.1.Plain) (h : NotIndented r) {rounds : Nat}
    (hrounds : (documentText lines ++ r).length ≤ rounds)
    (hplace : position.BeginsLine (documentText lines ++ r)) :
    ∃ rest, ∃ place : Position, r.length ≤ rest ∧ place.BeginsLine r ∧
      itemsFrom rounds [] (skipFrom position (documentText lines ++ r)) =
        (itemsFrom rest [] (skipFrom place r)).map (lines.flatMap (·.1.items) ++ ·) := by
  induction lines generalizing rounds position with
  | nil =>
      refine ⟨rounds, position, hrounds, hplace, ?_⟩
      rw [documentText, List.flatMap_nil, List.nil_append]
      cases itemsFrom rounds [] (skipFrom position r) <;> rfl
  | cons entry lines ih =>
      obtain ⟨line, stop⟩ := entry
      have hlines : ∀ line ∈ lines, line.1.Plain := fun l hl => hplain l (List.mem_cons_of_mem _ hl)
      have htext : documentText ((line, stop) :: lines) ++ r =
          line.text ++ (stop.text ++ (documentText lines ++ r)) := by
        simp [documentText]
      rw [htext] at hrounds hplace ⊢
      obtain ⟨rest, place, hrest, hnext, heq⟩ := itemsFrom_line (hplain _ List.mem_cons_self)
        (notIndented_documentText hlines h) hrounds hplace
      obtain ⟨rest, place, hrest, hnext, htail⟩ := ih hlines hrest hnext
      refine ⟨rest, place, hrest, hnext, ?_⟩
      rw [heq, htail]
      cases itemsFrom rest [] (skipFrom place r) <;> simp [Except.map]

theorem itemsFrom_documentText {lines : List (DocumentLine × LineEnd)}
    (hplain : ∀ line ∈ lines, line.1.Plain) {rounds : Nat}
    (hrounds : (documentText lines).length ≤ rounds)
    (hplace : position.BeginsLine (documentText lines)) :
    itemsFrom rounds [] (skipFrom position (documentText lines)) =
      .ok (lines.flatMap (·.1.items)) := by
  rw [← List.append_nil (documentText lines)] at hrounds hplace ⊢
  obtain ⟨rest, place, -, -, heq⟩ := itemsFrom_documentText_append hplain
    notIndented_nil hrounds hplace
  have hend : itemsFrom rest [] (skipFrom place []) = .ok [] := by cases rest <;> rfl
  rw [heq, hend]
  simp [Except.map]

end Reader

theorem DocumentLine.Plain.head {line : DocumentLine} (h : line.Plain) :
    line = .blank ∨ ∃ c rest, line.text = c :: rest ∧ isBlank c = false := by
  cases line with
  | blank => exact .inl rfl
  | comment mark text => exact .inr ⟨mark, text, rfl, by rcases h.1 with rfl | rfl <;> rfl⟩
  | header name => exact .inr ⟨'[', name ++ [']'], rfl, rfl⟩
  | entry key separator value =>
      obtain ⟨c, rest, rfl, hblank, -⟩ := h.1
      exact .inr ⟨c, rest ++ separator :: value, rfl, hblank⟩

/-- A document of plain lines holds the items of its lines. The first line is not reached by
skipping blanks, which makes a difference if it is empty. -/
theorem readItems_documentText {lines : List (DocumentLine × LineEnd)}
    (hplain : ∀ line ∈ lines, line.1.Plain) :
    readItems (documentText lines) = .ok (lines.flatMap (·.1.items)) := by
  match lines with
  | [] => rfl
  | (line, stop) :: rest =>
      have hrest : ∀ line ∈ rest, line.1.Plain := fun l hl => hplain l (List.mem_cons_of_mem _ hl)
      rcases (hplain _ List.mem_cons_self).head with hblank | ⟨c, tail, hline, hblank⟩
      case inl =>
        cases hblank
        have hindent := notIndented_documentText hrest notIndented_nil
        rw [List.append_nil] at hindent
        have hskip := skipFrom_lf hindent
        cases stop with
        | lf =>
            exact (itemsFrom_silent (by rfl)).trans
              (itemsFrom_documentText hrest (Nat.le_refl _) (Position.onto_beginsLine rfl))
        | crlf =>
            refine (itemsFrom_silent (by rfl)).trans ?_
            exact (congrArg _ (hskip _)).trans
              (itemsFrom_documentText hrest (Nat.le_succ _) (Position.onto_beginsLine rfl))
      case inr =>
        have htext : documentText ((line, stop) :: rest) =
            c :: (tail ++ (stop.text ++ documentText rest)) := by
          simp [documentText, hline]
        have hread := itemsFrom_documentText hplain (Nat.le_refl _)
          (@Position.onto_beginsLine ⟨0, 0⟩ _ rfl)
        rw [htext, skipFrom_of_not_blank hblank, ← htext] at hread
        exact hread

end GuidAtlas.Lookup
