import GuidAtlas.Proofs.Header.Recognition

/-!
What the rule of a form reads on its line: the GUID in upper case and the name, and nothing of the
lines below.
-/

namespace GuidAtlas.Header

open Text Pieces

variable {printed : Printed} {form : Form} {projected : Bool} {above below : List Text}
  {guid name : Text}

theorem Form.exists_call {count index : Nat} (h : form.argument? = some (count, index)) :
    ∃ head blanks args tail, form.pieces = call head (',' :: blanks) args tail ∧ '(' ∉ head ∧
      (∀ c ∈ blanks, isBlank c = true) ∧ args.length = count ∧
      args[index]? = some Pieces.name ∧ args.all (litsAll isArgumentChar) = true := by
  have hspace : ∀ c ∈ [' '], isBlank c = true := by simp; decide
  cases form <;> cases h
  case startList => exact ⟨_, [], _, _, rfl, by decide, by simp, rfl, rfl, by decide⟩
  all_goals exact ⟨_, [' '], _, _, rfl, by decide, hspace, rfl, rfl, by decide⟩

namespace Printed

theorem values_number (printed : Printed) (index : Nat) :
    printed.values (.number index) = printed.numbers.getD index [] := rfl

theorem values_name (h : printed.path = [name]) : printed.values .name = name := by
  rw [values, h, join_singleton]

theorem name_of_single (hform : printed.form ≠ .variableTemplate) (h : printed.path = [name]) :
    printed.name projected = name := by
  rw [Printed.name, if_neg fun hroot => hform hroot.2.1, dottedPath, h, join_singleton]

namespace Fits

theorem exists_name (h : printed.Fits) (hform : printed.form ≠ .variableTemplate) :
    ∃ name, printed.path = [name] ∧ IsIdentifier name := by
  obtain ⟨name, hpath⟩ := List.length_eq_one_iff.1 (h.single hform)
  exact ⟨name, hpath, h.identifier name (by simp [hpath])⟩

theorem argument_text (h : printed.Fits) {count index : Nat}
    (hform : printed.form.argument? = some (count, index)) (hname : printed.path = [name]) :
    argument guid count index printed.text below = ⟨.found guid name, 0⟩ := by
  obtain ⟨head, blanks, args, tail, hpieces, hhead, hblanks, rfl, hindex, hargs⟩ :=
    Form.exists_call hform
  have hfills := h.fills
  have hne : args ≠ [] := by
    rintro rfl
    cases hindex
  rw [hpieces] at hfills
  have hread := arguments_call hfills hhead rfl hblanks hne hargs below
  have hfound : (args.map (fillAll printed.values))[index]? = some name := by
    rw [List.getElem?_map, hindex, ← values_name hname]
    simp [Pieces.name, Piece.fill]
  rw [argument, text, hpieces, hread]
  simp only [Option.bind_some, hfound]

theorem nameAfter_text (h : printed.Fits)
    (hform : printed.form = .midlInterface ∨ printed.form = .declspecClass)
    (hname : printed.path = [name]) (habove : ∀ line ∈ above, ¬"namespace".toList <:+: line) :
    nameAfter guid above ⟨printed.text,
      utf8Length (fillAll printed.values printed.form.beforeGuid ++ printed.guid), below⟩ =
        ⟨.found guid name, 0⟩ := by
  have hword := h.identifier name (by simp [hname])
  obtain ⟨after, hafter, hrest⟩ : ∃ after, (after = [] ∨ after = [';']) ∧
      fillAll printed.values printed.form.afterGuid = ['"', ')', ' '] ++ (name ++ after) := by
    have hvalue := values_name hname
    rcases hform with hform | hform
    · exact ⟨[], .inl rfl, by rw [hform, ← hvalue]; rfl⟩
    · exact ⟨[';'], .inr rfl, by rw [hform, ← hvalue]; rfl⟩
  have hshows : printed.form.showsGuid = true := by
    rcases hform with hform | hform <;> rw [hform] <;> rfl
  have hline : printed.text = fillAll printed.values printed.form.beforeGuid ++ printed.guid ++
      (['"', ')', ' '] ++ (name ++ after)) := by
    rw [text_eq hshows, hrest]
  have hnext := nextWord_append (by decide) hword (by rcases hafter with rfl | rfl <;> decide)
    (by rcases hafter with rfl | rfl <;> decide) hline below
  have hne : name.isEmpty = false := by simpa using hword.ne_nil
  simp only [nameAfter, hnext, Option.map_some, Option.getD_some, tidy_identifier hword, hne,
    abiPath_eq_nil habove, List.nil_append, Bool.false_eq_true, if_false]

/-- The second word behind the GUID; the first one is the kind of type. -/
theorem kindAndName_text (h : printed.Fits) (hform : printed.form = .declspecTypedef)
    (hname : printed.path = [name]) :
    kindAndName guid ⟨printed.text,
      utf8Length (fillAll printed.values printed.form.beforeGuid ++ printed.guid), below⟩ =
        ⟨.found guid name, 0⟩ := by
  have hword := h.identifier name (by simp [hname])
  -- The name stands twice; only what is behind the first one matters.
  obtain rfl := values_name hname
  generalize hvalue : printed.values .name = name at hword ⊢
  let kind : Text := ['s', 't', 'r', 'u', 'c', 't']
  have hkind : IsIdentifier kind := by decide
  have hshows : printed.form.showsGuid = true := by
    rw [hform]
    rfl
  have hcolon : ':' ∉ name := hword.not_mem (by decide)
  let passed := fillAll printed.values printed.form.beforeGuid ++ printed.guid
  have hline : printed.text =
      passed ++ (['"', ')', ' '] ++ (kind ++ ' ' :: (name ++ ' ' :: (name ++ [';'])))) := by
    have hrest : fillAll printed.values printed.form.afterGuid =
        ['"', ')', ' '] ++ (kind ++ ' ' :: (name ++ ' ' :: (name ++ [';']))) := by
      rw [hform, ← hvalue]
      rfl
    rw [text_eq hshows, hrest]
  have hfirst := nextWord_append (by decide) hkind rfl (by simp [hcolon]) hline below
  have hsecond := @nextWord_append name [' '] (' ' :: (name ++ [';'])) printed.text
    (passed ++ (['"', ')', ' '] ++ kind)) (by decide) hword rfl (by simp [hcolon])
    (by simp [hline]) below
  have hne : kind.isEmpty = false := rfl
  rw [kindAndName, hfirst]
  simp only [tidy_identifier hkind, hne, Bool.false_eq_true, if_false, hsecond, Option.map_some,
    tidy_identifier hword, Option.getD_some]

theorem writtenForm_bstr (h : printed.Fits) (hform : printed.form = .bstr)
    (hname : printed.path = [name]) {offset : Nat} :
    writtenForm guid above ⟨printed.text, offset, below⟩ = ⟨.found guid name, 0⟩ := by
  have hword := h.identifier name (by simp [hname])
  have hbracket := h.contains_uuid
  have hmarkers := h.any_nameAfterMarkers (by rw [hform]; decide)
  have hequals : '=' ∉ [' ', 'L', '"', '{'] ++ (printed.guid ++ ['}', '"', ';']) := by
    have hguid : '=' ∉ printed.guid := fun hmem =>
      absurd (Guid.mem_guidChars h.guid hmem) (by decide)
    simp [hguid]
  have hrest : afterStart? "const BSTR " printed.text =
      some (name ++ ' ' :: '=' :: ([' ', 'L', '"', '{'] ++ (printed.guid ++ ['}', '"', ';']))) := by
    rw [text, hform, ← values_name hname]
    rfl
  have hassigned := assigned?_append hword hequals
  obtain ⟨form, written, path, numbers⟩ := printed
  cases hform
  simp only [writtenForm, hbracket, hmarkers, hrest, hassigned, Bool.or_false]
  rfl

/-- Two forms end in the numbers between braces, after a part without braces. -/
theorem pieces_eq_bracedNumbers
    (hform : printed.form = .staticUuid ∨ printed.form = .variableTemplate) :
    ∃ before, printed.form.pieces = before ++ bracedNumbers ∧
      litsAll (fun c => !(['{', '}'].elem c)) before = true := by
  rcases hform with hform | hform <;> rw [hform]
  · exact ⟨[_, _, _], rfl, by decide⟩
  · exact ⟨[_, _, _], rfl, by decide⟩

theorem exists_before_bracedNumbers (h : printed.Fits)
    (hform : printed.form = .staticUuid ∨ printed.form = .variableTemplate) :
    ∃ before, printed.text = before ++ fillAll printed.values bracedNumbers ∧
      '{' ∉ before ∧ '}' ∉ before := by
  obtain ⟨before, hpieces, hlits⟩ := pieces_eq_bracedNumbers hform
  have hfills : Fills printed.values before :=
    h.fills.of_subset (hpieces ▸ List.subset_append_left before bracedNumbers)
  have hbrace {d : Char} (hd : d ∈ ['{', '}']) : d ∉ fillAll printed.values before :=
    not_mem_fillAll hfills hlits (by decide) hd
  refine ⟨fillAll printed.values before, ?_, hbrace (by decide), hbrace (by decide)⟩
  rw [text, hpieces, fillAll_append]

/-- Behind the name there is no other mark that ends one. -/
theorem not_mem_bracedNumbers (h : printed.Fits)
    (hform : printed.form = .staticUuid ∨ printed.form = .variableTemplate) {d : Char}
    (hd : d ∈ ['=', '>']) : d ∉ fillAll printed.values bracedNumbers := by
  obtain ⟨before, hpieces, -⟩ := pieces_eq_bracedNumbers hform
  have hfills : Fills printed.values bracedNumbers :=
    h.fills.of_subset (hpieces ▸ List.subset_append_right before bracedNumbers)
  have hlits : litsAll (fun c => !(['=', '>'].elem c)) bracedNumbers = true := by decide
  exact not_mem_fillAll hfills hlits (by decide) hd

theorem spelled_numbers (h : printed.Fits)
    (hform : printed.form = .staticUuid ∨ printed.form = .variableTemplate) :
    List.Forall₂ Guid.Numeral printed.numbers (Guid.fieldsOf printed.guid) := by
  rcases hform with hform | hform
  all_goals simpa only [NumbersFit, hform] using h.numbers

theorem ofInitializer?_text (h : printed.Fits)
    (hform : printed.form = .staticUuid ∨ printed.form = .variableTemplate) :
    Guid.ofInitializer? printed.text = some (upper printed.guid) := by
  obtain ⟨before, htext, hbefore⟩ := h.exists_before_bracedNumbers hform
  rw [htext]
  exact ofInitializer?_bracedNumbers printed.values_number h.guid (h.spelled_numbers hform) hbefore

theorem initializer_text (h : printed.Fits)
    (hform : printed.form = .staticUuid ∨ printed.form = .variableTemplate) :
    initializer printed.text below = ⟨some (upper printed.guid), 0⟩ := by
  obtain ⟨before, htext, hbefore⟩ := h.exists_before_bracedNumbers hform
  rw [htext]
  exact initializer_bracedNumbers printed.values_number h.guid (h.spelled_numbers hform) hbefore
    below

theorem readLine_staticUuid (h : printed.Fits) (hform : printed.form = .staticUuid)
    (hname : printed.path = [name]) :
    readLine projected above printed.text below = ⟨.found (upper printed.guid) name, 0⟩ := by
  have hword := h.identifier name (by simp [hname])
  have hrest : afterStart? "static const UUID " printed.text =
      some (name ++ ' ' :: '=' :: (' ' :: fillAll printed.values bracedNumbers)) := by
    rw [text, hform, ← values_name hname]
    rfl
  have hequals : '=' ∉ ' ' :: fillAll printed.values bracedNumbers := by
    simpa using h.not_mem_bracedNumbers (.inl hform) List.mem_cons_self
  rw [readLine, hrest]
  simp only [staticUuid, assigned?_append hword hequals, h.initializer_text (.inl hform)]

theorem readLine_defineGuid (h : printed.Fits) (hform : printed.form = .defineGuid)
    (hname : printed.path = [name]) :
    readLine projected above printed.text below = ⟨.found (upper printed.guid) name, 0⟩ := by
  have hnumbers : List.Forall₂ Guid.Numeral printed.numbers (Guid.fieldsOf printed.guid) := by
    simpa only [NumbersFit, hform] using h.numbers
  have hlength : printed.numbers.length = 11 := hnumbers.length_eq.trans (Guid.length_fieldsOf _)
  let args := Pieces.name :: Pieces.numbers 0 11
  have hfills : Fills printed.values (call "DEFINE_GUID" ", " args ";") := by
    have hfills := h.fills
    rwa [hform] at hfills
  have hspace : ∀ c ∈ [' '], isBlank c = true := by simp; decide
  have hread : arguments 12 printed.text below = ⟨some (args.map (fillAll printed.values)), 0⟩ := by
    rw [text, hform]
    exact arguments_call hfills (by decide) rfl hspace (List.cons_ne_nil _ _) (by decide) below
  have hargs : args.map (fillAll printed.values) = name :: printed.numbers := by
    rw [List.map_cons, map_fillAll_numbers printed.values_number (by omega), List.drop_zero,
      ← hlength, List.take_length, ← values_name hname]
    simp [Pieces.name, Piece.fill]
  have hguid := Guid.ofNumbers?_numerals h.guid hnumbers
  have hstatic : printed.form ≠ .staticUuid := by simp [hform]
  rw [readLine, afterStart?_staticUuid hstatic, isDefineGuid_text, hform]
  simp only [defineGuid, hread, hargs, List.head?_cons, List.tail_cons, hguid, decide_true, if_true,
    Option.bind_eq_bind, Option.bind_some]
  rfl

/-- Dots take the place of the double colons between the parts of a path. -/
theorem dotted_path (h : printed.Fits) : dotted (join "::" printed.path) = printed.dottedPath :=
  replace_join _ fun part hpart => (h.identifier part hpart).not_mem (d := ':') (by decide)

theorem startsWith_root (h : printed.Fits) {first second : Text} {rest : List Text}
    (hpath : printed.path = first :: second :: rest) :
    startsWith printed.dottedPath "ABI." = decide (first = "ABI".toList) := by
  have hdot : '.' ∉ first := (h.identifier first (by simp [hpath])).not_mem (by decide)
  have hdotted : printed.dottedPath = first ++ '.' :: join "." (second :: rest) := by
    rw [dottedPath, hpath, join_cons_cons, List.append_assoc]
    rfl
  rw [Bool.eq_iff_iff, startsWith_iff, decide_eq_true_eq, hdotted]
  constructor
  · rintro ⟨after, hafter⟩
    have habi : "ABI".toList ++ '.' :: after = first ++ '.' :: join "." (second :: rest) := hafter
    exact (eq_of_append_cons_eq (by decide) hdot habi).symm
  · rintro rfl
    exact ⟨join "." (second :: rest), rfl⟩

theorem templateName_dottedPath (h : printed.Fits) (hform : printed.form = .variableTemplate) :
    templateName projected printed.dottedPath = printed.name projected := by
  obtain ⟨first, rest, hpath⟩ := List.exists_cons_of_ne_nil h.path_ne_nil
  have hdot : '.' ∉ first := (h.identifier first (by simp [hpath])).not_mem (by decide)
  cases rest with
  | nil =>
      have hdotted : printed.dottedPath = first := by rw [dottedPath, hpath, join_singleton]
      simp [templateName, Printed.name, hdotted, hpath, hdot]
  | cons second rest =>
      have hmem : printed.dottedPath.elem '.' = true := by
        rw [List.elem_iff, dottedPath, hpath, join_cons_cons]
        simp
      have hroot := h.startsWith_root hpath
      rw [templateName, hmem, hroot, Printed.name, hform, hpath]
      by_cases habi : first = "ABI".toList <;> cases projected <;> simp [habi]

theorem readLine_variableTemplate (h : printed.Fits) (hform : printed.form = .variableTemplate) :
    readLine projected above printed.text below =
      ⟨.found (upper printed.guid) (printed.name projected), 0⟩ := by
  have hstatic : printed.form ≠ .staticUuid := by simp [hform]
  let path := join "::" printed.path
  have hmarker : cut? "inline constexpr guid" printed.text = some ("template <> ".toList,
      " guid_v".toList ++ '<' :: (path ++ '>' :: fillAll printed.values bracedNumbers)) := by
    rw [text, hform]
    rfl
  have hopened : cut? "<" (" guid_v".toList ++
      '<' :: (path ++ '>' :: fillAll printed.values bracedNumbers)) =
        some (" guid_v".toList, path ++ '>' :: fillAll printed.values bracedNumbers) := rfl
  have hclosed : cutLast? ">" (path ++ '>' :: fillAll printed.values bracedNumbers) =
      some (path, fillAll printed.values bracedNumbers) :=
    cutLast?_append (h.not_mem_bracedNumbers (.inr hform) (by decide)) path
  have hlong : ¬utf8Length printed.dottedPath ≤ 3 := by
    have := h.long hform
    omega
  have hfound : variableTemplate projected printed.text (" guid_v".toList ++
      '<' :: (path ++ '>' :: fillAll printed.values bracedNumbers)) =
        .found (upper printed.guid) (printed.name projected) := by
    rw [variableTemplate, hopened, h.ofInitializer?_text (.inr hform)]
    show (((cutLast? ">" _).bind _ : Option Outcome).getD _ = _)
    rw [hclosed]
    show (if utf8Length (dotted path) ≤ 3 then _ else _) = _
    rw [h.dotted_path, if_neg hlong, h.templateName_dottedPath hform]
  rw [readLine, afterStart?_staticUuid hstatic, isDefineGuid_text, hform, hmarker]
  exact congrArg (Reading.mk · 0) hfound

/-- A printed declaration is read from its own line alone, below lines without namespaces. -/
theorem readLine_text (h : printed.Fits)
    (habove : ∀ line ∈ above, ¬"namespace".toList <:+: line) :
    readLine projected above printed.text below =
      ⟨.found (upper printed.guid) (printed.name projected), 0⟩ := by
  by_cases htemplate : printed.form = .variableTemplate
  case pos => exact h.readLine_variableTemplate htemplate
  case neg =>
    obtain ⟨name, hname, -⟩ := h.exists_name htemplate
    rw [name_of_single htemplate hname]
    -- The forms with numbers first, then those that show the GUID, rule by rule.
    cases hform : printed.form
    case variableTemplate => exact absurd hform htemplate
    case staticUuid => exact h.readLine_staticUuid hform hname
    case defineGuid => exact h.readLine_defineGuid hform hname
    all_goals
      rw [h.readLine_eq_writtenForm (by rw [hform]; rfl)]
    case midlInterface =>
      rw [h.writtenForm_nameAfter (.inl hform), h.nameAfter_text (.inl hform) hname habove]
    case declspecClass =>
      rw [h.writtenForm_nameAfter (.inr hform), h.nameAfter_text (.inr hform) hname habove]
    case declspecTypedef => rw [writtenForm_kindAndName hform, h.kindAndName_text hform hname]
    case bstr => exact h.writtenForm_bstr hform hname
    all_goals
      rw [h.writtenForm_argument (by rw [hform]; rfl), h.argument_text (by rw [hform]; rfl) hname]

end Fits

end Printed

end GuidAtlas.Header
