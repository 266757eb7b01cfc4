import GuidAtlas.Export.Page
import GuidAtlas.Proofs.Text.Lines

/-!
Markup read back: the tags of a text, their attributes, and the entities in it. Escaped text has no
characters that begin or end a tag or an attribute, so a tag is read in front of whatever follows
it.
-/

namespace GuidAtlas.Export

open Text

/-- What a character of a text becomes when all four replacements are made. -/
def escapeChar (c : Char) : Text :=
  if c = '&' then "&amp;"
  else if c = '<' then "&lt;"
  else if c = '>' then "&gt;"
  else if c = '"' then "&quot;"
  else [c]

/-- The entities and what they stand for. -/
def entities : List (Text × Char) :=
  [("&amp;", '&'), ("&lt;", '<'), ("&gt;", '>'), ("&quot;", '"')]

/-- Undoes entities, with `skip` characters of the one at hand still to be passed over. -/
def unescapeFrom : (skip : Nat) → Text → Text
  | _, [] => []
  | skip + 1, _ :: t => unescapeFrom skip t
  | 0, c :: t =>
    match entities.find? (·.1.isPrefixOf (c :: t)) with
    | some (entity, d) => d :: unescapeFrom (entity.length - 1) t
    | none => c :: unescapeFrom 0 t

/-- Text with its entities undone, from the left and none of them twice. -/
def unescapeMarkup (t : Text) : Text := unescapeFrom 0 t

/-- A tag of a page: what is between its brackets, and the text up to the next tag. -/
structure Tag where
  head : Text
  text : Text
  deriving DecidableEq

def Tag.ofPiece (piece : Text) : Tag :=
  ⟨piece.takeWhile (· ≠ '>'), (piece.dropWhile (· ≠ '>')).tail⟩

def tags (t : Text) : List Tag := (splitAt '<' t).tail.map Tag.ofPiece

def quotedPairs : List Text → List (Text × Text)
  | key :: value :: rest =>
    (trimOf (fun c => c = ' ' || c = '=') key, unescapeMarkup value) :: quotedPairs rest
  | _ => []

namespace Tag

def name (tag : Tag) : Text := tag.head.takeWhile (· ≠ ' ')

/-- The names and values of the attributes, which are in double quotes. -/
def attributes (tag : Tag) : List (Text × Text) :=
  quotedPairs (splitAt '"' (tag.head.dropWhile (· ≠ ' ')))

def value? (tag : Tag) (key : Text) : Option Text := tag.attributes.lookup key

end Tag

theorem escapeMarkup_eq (t : Text) : escapeMarkup t = t.flatMap escapeChar := by
  unfold escapeMarkup replaceChar
  rw [List.flatMap_assoc, List.flatMap_assoc, List.flatMap_assoc]
  refine List.flatMap_congr fun c _ => ?_
  unfold escapeChar
  split_ifs with hand hless hgreater hquote
  · rfl
  · rw [hless]; rfl
  · rw [hgreater]; rfl
  · rw [hquote]; rfl
  · simp only [List.flatMap_singleton, if_neg hless, if_neg hgreater, if_neg hquote]

theorem unescapeMarkup_cons {c : Char} (h : c ≠ '&') (t : Text) :
    unescapeMarkup (c :: t) = c :: unescapeMarkup t := by
  have hnone : entities.find? (·.1.isPrefixOf (c :: t)) = none := by
    simp [entities, List.isPrefixOf, Ne.symm h]
  rw [unescapeMarkup, unescapeFrom, hnone, unescapeMarkup]

theorem unescapeMarkup_escapeChar (c : Char) (t : Text) :
    unescapeMarkup (escapeChar c ++ t) = c :: unescapeMarkup t := by
  unfold escapeChar
  split_ifs with hand hless hgreater hquote
  · rw [hand]; rfl
  · rw [hless]; rfl
  · rw [hgreater]; rfl
  · rw [hquote]; rfl
  · exact unescapeMarkup_cons hand t

/-- Undoing the entities of a text undoes its escapes, entities that were in it included. -/
@[simp] theorem unescapeMarkup_escapeMarkup (t : Text) : unescapeMarkup (escapeMarkup t) = t := by
  rw [escapeMarkup_eq]
  induction t with
  | nil => rfl
  | cons c t ih => rw [List.flatMap_cons, unescapeMarkup_escapeChar, ih]

theorem unescapeMarkup_eq_self {t : Text} (h : '&' ∉ t) : unescapeMarkup t = t := by
  induction t with
  | nil => rfl
  | cons c t ih =>
      rw [List.mem_cons, not_or] at h
      rw [unescapeMarkup_cons (Ne.symm h.1), ih h.2]

/-- Text that stands in a tag without ending it or the attribute that it is the value of. -/
structure FitsAttribute (t : Text) : Prop where
  no_less : '<' ∉ t
  no_greater : '>' ∉ t
  no_quote : '"' ∉ t

theorem fitsAttribute_escapeMarkup (t : Text) : FitsAttribute (escapeMarkup t) := by
  have hchar (c : Char) : FitsAttribute (escapeChar c) := by
    unfold escapeChar
    split_ifs with hand hless hgreater hquote
    case neg =>
      exact ⟨by simpa using Ne.symm hless, by simpa using Ne.symm hgreater,
        by simpa using Ne.symm hquote⟩
    all_goals exact ⟨by decide, by decide, by decide⟩
  rw [escapeMarkup_eq]
  exact ⟨by simp [(hchar _).no_less], by simp [(hchar _).no_greater],
    by simp [(hchar _).no_quote]⟩

theorem splitAt_eq_cons (sep : Char) (t : Text) :
    splitAt sep t = t.takeWhile (· ≠ sep) :: (splitAt sep t).tail := by
  induction t with
  | nil => rfl
  | cons c t ih =>
      rw [splitAt]
      split
      case isTrue h => simp [h]
      case isFalse h =>
        rw [ih]
        simp [h]

theorem cut_append_cons {sep : Char} {before : Text} (h : sep ∉ before) (t : Text) :
    (before ++ sep :: t).takeWhile (· ≠ sep) = before ∧
      (before ++ sep :: t).dropWhile (· ≠ sep) = sep :: t := by
  have hall : ∀ c ∈ before, decide (c ≠ sep) = true := fun c hc =>
    decide_eq_true fun heq => h (heq ▸ hc)
  rw [List.takeWhile_append_of_pos hall, List.dropWhile_append_of_pos hall]
  simp

theorem tags_of_not_mem {t : Text} (h : '<' ∉ t) : tags t = [] := by
  rw [tags, splitAt_of_not_mem h]
  rfl

theorem tags_append_left {before : Text} (h : '<' ∉ before) (t : Text) :
    tags (before ++ t) = tags t := by
  rw [tags, tags, splitAt_prepend h (splitAt_eq_cons '<' t)]
  rfl

/-- A tag is read in front of whatever follows it. -/
theorem tags_cons {head : Text} (hless : '<' ∉ head) (hgreater : '>' ∉ head) (t : Text) :
    tags ('<' :: (head ++ '>' :: t)) = ⟨head, t.takeWhile (· ≠ '<')⟩ :: tags t := by
  have hpiece : splitAt '<' (head ++ '>' :: t) =
      (head ++ '>' :: t.takeWhile (· ≠ '<')) :: (splitAt '<' t).tail := by
    have hclosed : '<' ∉ head ++ ['>'] := by simpa using hless
    simpa using splitAt_prepend hclosed (splitAt_eq_cons '<' t)
  have htag : Tag.ofPiece (head ++ '>' :: t.takeWhile (· ≠ '<')) =
      ⟨head, t.takeWhile (· ≠ '<')⟩ := by
    obtain ⟨hhead, hrest⟩ := cut_append_cons hgreater (t.takeWhile (· ≠ '<'))
    rw [Tag.ofPiece, hhead, hrest, List.tail_cons]
  have hsplit : splitAt '<' ('<' :: (head ++ '>' :: t)) = [] :: splitAt '<' (head ++ '>' :: t) := by
    simp [splitAt]
  rw [tags, hsplit, List.tail_cons, hpiece, List.map_cons, htag, tags]

theorem tags_cons_text {head text : Text} (hless : '<' ∉ head) (hgreater : '>' ∉ head)
    (htext : '<' ∉ text) (t : Text) :
    tags ('<' :: (head ++ '>' :: (text ++ '<' :: t))) = ⟨head, text⟩ :: tags ('<' :: t) := by
  rw [tags_cons hless hgreater, tags_append_left htext, (cut_append_cons htext t).1]

/-- A reader of tags finds these values in a text, and whatever it finds in what follows it. -/
def Finds {β : Type} (f : Tag → Option β) (t : Text) (values : List β) : Prop :=
  ∀ rest, (tags (t ++ rest)).filterMap f = values ++ (tags rest).filterMap f

section Finds

variable {α β : Type} {f : Tag → Option β} {t : Text} {values : List β}

theorem Finds.filterMap_tags (h : Finds f t values) : (tags t).filterMap f = values := by
  have hnil := h []
  rwa [List.append_nil, tags_of_not_mem (List.not_mem_nil), List.filterMap_nil,
    List.append_nil] at hnil

theorem Finds.append {other : Text} {others : List β} (h : Finds f t values)
    (hother : Finds f other others) : Finds f (t ++ other) (values ++ others) := by
  intro rest
  rw [List.append_assoc, h, hother, List.append_assoc]

theorem Finds.append_silent {other : Text} (h : Finds f t values) (hother : Finds f other []) :
    Finds f (t ++ other) values := by
  simpa using h.append hother

theorem Finds.silent_append {other : Text} (h : Finds f t []) (hother : Finds f other values) :
    Finds f (t ++ other) values :=
  h.append hother

theorem finds_text (h : '<' ∉ t) : Finds f t [] := fun rest => by
  rw [tags_append_left h, List.nil_append]

theorem finds_tag {head : Text} (hless : '<' ∉ head) (hgreater : '>' ∉ head) {value : Option β}
    (hvalue : ∀ text, f ⟨head, text⟩ = value) :
    Finds f ('<' :: (head ++ ['>'])) value.toList := by
  intro rest
  have htext : '<' :: (head ++ ['>']) ++ rest = '<' :: (head ++ '>' :: rest) := by simp
  rw [htext, tags_cons hless hgreater, List.filterMap_cons, hvalue]
  cases value <;> rfl

theorem finds_cell {head text next : Text} (hless : '<' ∉ head) (hgreater : '>' ∉ head)
    (htext : '<' ∉ text) {value : Option β} (hvalue : f ⟨head, text⟩ = value)
    (hstart : next.head? = some '<') (hnext : Finds f next []) :
    Finds f ('<' :: (head ++ '>' :: (text ++ next))) value.toList := by
  obtain ⟨next, rfl⟩ := List.head?_eq_some_iff.1 hstart
  intro rest
  have happend : '<' :: (head ++ '>' :: (text ++ '<' :: next)) ++ rest =
      '<' :: (head ++ '>' :: (text ++ '<' :: (next ++ rest))) := by simp
  have hrest := hnext rest
  rw [List.cons_append, List.nil_append] at hrest
  rw [happend, tags_cons_text hless hgreater htext, List.filterMap_cons, hvalue, hrest]
  cases value <;> rfl

theorem finds_flatMap {items : List α} {row : α → Text} {rowValues : α → List β}
    (h : ∀ item ∈ items, Finds f (row item) (rowValues item)) :
    Finds f (items.flatMap row) (items.flatMap rowValues) := by
  induction items with
  | nil => exact finds_text List.not_mem_nil
  | cons item items ih =>
      obtain ⟨hitem, hitems⟩ := List.forall_mem_cons.1 h
      exact hitem.append (ih hitems)

theorem not_mem_of_mem_splitAt {sep : Char} {t piece : Text} (h : piece ∈ splitAt sep t) :
    sep ∉ piece := by
  fun_induction splitAt sep t generalizing piece with
  | case1 => simp [List.mem_singleton.1 h]
  | case2 t ih =>
      rcases List.mem_cons.1 h with rfl | h
      · exact List.not_mem_nil
      · exact ih h
  | case3 c t hc hpieces ih => exact absurd hpieces (splitAt_ne_nil sep t)
  | case4 c t hc first pieces hpieces ih =>
      rw [hpieces] at ih
      rcases List.mem_cons.1 h with rfl | h
      · rw [List.mem_cons, not_or]
        exact ⟨Ne.symm hc, ih List.mem_cons_self⟩
      · exact ih (List.mem_cons_of_mem first h)

theorem not_mem_takeWhile (sep : Char) (t : Text) : sep ∉ t.takeWhile (· ≠ sep) :=
  not_mem_of_mem_splitAt (splitAt_eq_cons sep t ▸ List.mem_cons_self)

theorem eq_append_flatMap (sep : Char) (t : Text) :
    t = t.takeWhile (· ≠ sep) ++ (splitAt sep t).tail.flatMap (sep :: ·) := by
  induction t with
  | nil => rfl
  | cons c t ih =>
      rw [splitAt]
      split
      case isTrue heq =>
        rw [List.tail_cons, splitAt_eq_cons, List.flatMap_cons, List.cons_append, ← ih, heq]
        simp
      case isFalse hne =>
        have hhead : (c :: t).takeWhile (· ≠ sep) = c :: t.takeWhile (· ≠ sep) := by simp [hne]
        rw [splitAt_eq_cons, hhead, List.cons_append]
        exact congrArg (c :: ·) ih

/-- Whether the tags of a text are whole and have these names only. -/
def hasOnlyTags (names : List Text) (t : Text) : Bool :=
  (splitAt '<' t).tail.all fun piece => piece.elem '>' && names.elem (Tag.ofPiece piece).name

/-- A text of whole tags that a reader passes over. -/
theorem finds_silent {names : List Text} (hsilent : ∀ tag : Tag, tag.name ∈ names → f tag = none)
    (h : hasOnlyTags names t = true) : Finds f t [] := by
  have hpiece : ∀ piece ∈ (splitAt '<' t).tail, Finds f ('<' :: piece) [] := by
    intro piece hmem
    obtain ⟨hclosed, hname⟩ := Bool.and_eq_true_iff.1 (List.all_eq_true.1 h piece hmem)
    rw [List.elem_iff] at hclosed hname
    have hless := not_mem_of_mem_splitAt (List.mem_of_mem_tail hmem)
    obtain ⟨head, text, rfl, hgreater⟩ := List.eq_append_cons_of_mem hclosed
    rw [Tag.ofPiece, (cut_append_cons hgreater text).1] at hname
    rw [List.mem_append, List.mem_cons, not_or, not_or] at hless
    have htag := finds_tag hless.1 hgreater fun _ => hsilent _ hname
    simpa using htag.append (finds_text hless.2.2)
  have hfinds := (finds_text (not_mem_takeWhile '<' t)).append (finds_flatMap hpiece)
  have hnil : (splitAt '<' t).tail.flatMap (fun _ => ([] : List β)) = [] :=
    List.flatMap_eq_nil_iff.2 fun _ _ => rfl
  rwa [← eq_append_flatMap, hnil] at hfinds

end Finds

def attributeText : Text × Text → Text
  | (key, value) => ' ' :: (key ++ '=' :: '"' :: (value ++ ['"']))

def headText (name : Text) (pairs : List (Text × Text)) (closing : Text) : Text :=
  name ++ (pairs.flatMap attributeText ++ closing)

/-- A tag with attributes, from its opening bracket to its closing one. -/
def tagText (name : Text) (pairs : List (Text × Text)) (closing : Text) : Text :=
  '<' :: (headText name pairs closing ++ ['>'])

/-- A tag with the text of its element, and what follows that. -/
def elementText (name : Text) (pairs : List (Text × Text)) (text next : Text) : Text :=
  '<' :: (headText name pairs [] ++ '>' :: (text ++ next))

def isMarkupName (name : Text) : Bool := name.all fun c => !List.elem c [' ', '=', '"', '<', '>']

theorem not_mem_of_isMarkupName {name : Text} {c : Char} (h : isMarkupName name = true)
    (hc : c ∈ [' ', '=', '"', '<', '>']) : c ∉ name := fun hmem => by
  have helem := List.all_eq_true.1 h c hmem
  rw [List.elem_eq_true_of_mem hc] at helem
  cases helem

theorem fitsAttribute_of_isMarkupName {name : Text} (h : isMarkupName name = true) :
    FitsAttribute name :=
  ⟨not_mem_of_isMarkupName h (by decide), not_mem_of_isMarkupName h (by decide),
    not_mem_of_isMarkupName h (by decide)⟩

/-- A tag that is read back as it was written. -/
structure FitsTag (name : Text) (pairs : List (Text × Text)) (closing : Text) : Prop where
  name : isMarkupName name = true
  key : ∀ pair ∈ pairs, isMarkupName pair.1 = true
  value : ∀ pair ∈ pairs, FitsAttribute pair.2
  closing : closing = [] ∨ closing = " /".toList

theorem quotedPairs_splitAt {pairs : List (Text × Text)} {closing : Text}
    (hkeys : ∀ pair ∈ pairs, isMarkupName pair.1 = true)
    (hvalues : ∀ pair ∈ pairs, FitsAttribute pair.2) (hclosing : '"' ∉ closing) :
    quotedPairs (splitAt '"' (pairs.flatMap attributeText ++ closing)) =
      pairs.map fun pair => (pair.1, unescapeMarkup pair.2) := by
  induction pairs with
  | nil => rw [List.flatMap_nil, List.nil_append, splitAt_of_not_mem hclosing]; rfl
  | cons pair pairs ih =>
      obtain ⟨key, value⟩ := pair
      obtain ⟨hkey, hkeys⟩ := List.forall_mem_cons.1 hkeys
      obtain ⟨hvalue, hvalues⟩ := List.forall_mem_cons.1 hvalues
      have hbefore : '"' ∉ ' ' :: (key ++ ['=']) := by
        simpa using not_mem_of_isMarkupName hkey (by decide)
      have htext : attributeText (key, value) ++ pairs.flatMap attributeText ++ closing =
          (' ' :: (key ++ ['='])) ++ '"' :: (value ++ '"' ::
            (pairs.flatMap attributeText ++ closing)) := by
        simp [attributeText]
      have htrim : trimOf (fun c => c = ' ' || c = '=') (' ' :: (key ++ ['='])) = key := by
        have hends (c : Char) (hc : c ∈ key) : (decide (c = ' ') || decide (c = '=')) = false := by
          have hspace : c ≠ ' ' := fun heq => not_mem_of_isMarkupName hkey (by decide) (heq ▸ hc)
          have hequals : c ≠ '=' := fun heq => not_mem_of_isMarkupName hkey (by decide) (heq ▸ hc)
          simp [hspace, hequals]
        exact @trimOf_append _ key [' '] ['='] (by simp) (by simp)
          (fun c hc => hends c (List.mem_of_head? hc))
          (fun c hc => hends c (List.mem_of_getLast? hc))
      rw [List.flatMap_cons, htext, splitAt_append hbefore, splitAt_append hvalue.no_quote,
        quotedPairs, ih hkeys hvalues, htrim, List.map_cons]

namespace FitsTag

variable {name closing : Text} {pairs : List (Text × Text)}

theorem single {key value : Text} (hname : isMarkupName name = true)
    (hkey : isMarkupName key = true) (hvalue : FitsAttribute value)
    (hclosing : closing = [] ∨ closing = " /".toList) : FitsTag name [(key, value)] closing :=
  ⟨hname, List.forall_mem_singleton.2 hkey, List.forall_mem_singleton.2 hvalue, hclosing⟩

theorem bare (hname : isMarkupName name = true) : FitsTag name [] [] :=
  ⟨hname, List.forall_mem_nil _, List.forall_mem_nil _, .inl rfl⟩

theorem cut_head (h : FitsTag name pairs closing) :
    (headText name pairs closing).takeWhile (· ≠ ' ') = name ∧
      (headText name pairs closing).dropWhile (· ≠ ' ') =
        pairs.flatMap attributeText ++ closing := by
  have hrest : ∀ c ∈ (pairs.flatMap attributeText ++ closing).head?, c = ' ' := by
    cases pairs with
    | nil => rcases h.closing with rfl | rfl <;> simp
    | cons pair pairs => exact fun c hc => (Option.some.inj hc).symm
  have hspace : ' ' ∉ name := not_mem_of_isMarkupName h.name (by decide)
  rw [headText]
  generalize pairs.flatMap attributeText ++ closing = rest at hrest
  cases rest with
  | nil =>
      have hall : ∀ c ∈ name, decide (c ≠ ' ') = true := fun c hc =>
        decide_eq_true fun heq => hspace (heq ▸ hc)
      rw [List.takeWhile_append_of_pos hall, List.dropWhile_append_of_pos hall]
      simp
  | cons c rest =>
      cases hrest c rfl
      exact cut_append_cons hspace rest

theorem name_eq (h : FitsTag name pairs closing) (text : Text) :
    (Tag.mk (headText name pairs closing) text).name = name :=
  h.cut_head.1

theorem attributes_eq (h : FitsTag name pairs closing) (text : Text) :
    (Tag.mk (headText name pairs closing) text).attributes =
      pairs.map fun pair => (pair.1, unescapeMarkup pair.2) := by
  have hquote : '"' ∉ closing := by rcases h.closing with rfl | rfl <;> decide
  rw [Tag.attributes, h.cut_head.2, quotedPairs_splitAt h.key h.value hquote]

theorem not_mem_head (h : FitsTag name pairs closing) :
    '<' ∉ headText name pairs closing ∧ '>' ∉ headText name pairs closing := by
  have hclosing : '<' ∉ closing ∧ '>' ∉ closing := by rcases h.closing with rfl | rfl <;> decide
  have hattribute {c : Char} (hc : c ∈ pairs.flatMap attributeText) : c ≠ '<' ∧ c ≠ '>' := by
    obtain ⟨pair, hpair, hmem⟩ := List.mem_flatMap.1 hc
    have hkey := fitsAttribute_of_isMarkupName (h.key pair hpair)
    have hvalue := h.value pair hpair
    constructor
    · rintro rfl
      simp [attributeText, hkey.no_less, hvalue.no_less] at hmem
    · rintro rfl
      simp [attributeText, hkey.no_greater, hvalue.no_greater] at hmem
  have hname := fitsAttribute_of_isMarkupName h.name
  simp only [headText, List.mem_append, not_or]
  exact ⟨⟨hname.no_less, fun hmem => (hattribute hmem).1 rfl, hclosing.1⟩,
    ⟨hname.no_greater, fun hmem => (hattribute hmem).2 rfl, hclosing.2⟩⟩

theorem finds {β : Type} {f : Tag → Option β} (h : FitsTag name pairs closing) {value : Option β}
    (hvalue : ∀ tag : Tag, tag.name = name →
      tag.attributes = pairs.map (fun pair => (pair.1, unescapeMarkup pair.2)) → f tag = value) :
    Finds f (tagText name pairs closing) value.toList :=
  finds_tag h.not_mem_head.1 h.not_mem_head.2 fun text =>
    hvalue _ (h.name_eq text) (h.attributes_eq text)

theorem finds_element {β : Type} {f : Tag → Option β} {text next : Text}
    (h : FitsTag name pairs []) (htext : '<' ∉ text) (hstart : next.head? = some '<')
    (hnext : Finds f next []) {value : Option β}
    (hvalue : ∀ tag : Tag, tag.name = name →
      tag.attributes = pairs.map (fun pair => (pair.1, unescapeMarkup pair.2)) →
      tag.text = text → f tag = value) :
    Finds f (elementText name pairs text next) value.toList :=
  finds_cell h.not_mem_head.1 h.not_mem_head.2 htext
    (hvalue ⟨_, text⟩ (h.name_eq text) (h.attributes_eq text) rfl) hstart hnext

end FitsTag

end GuidAtlas.Export
