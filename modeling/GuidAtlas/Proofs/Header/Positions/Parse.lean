import GuidAtlas.Proofs.Header.Positions.Gathering
import GuidAtlas.Proofs.Header.Positions.Words
import GuidAtlas.Scan.Diagnostic

/-!
A header read by position. Every slice lies between characters of its text, every index in its list
and every loop ends, whatever the text is and wherever the cursor stands; and what is read is what
the reading of the text by its parts gives.
-/

namespace GuidAtlas.Header

open Text

/-- The declaration of a variable template, by the positions of its marker and its brackets. -/
def variableTemplate? (projected : Bool) (line : Text) (marker : Nat) : Option Outcome := do
  let rest ← sliceFrom? marker line
  match (find? "<" rest).map (· + marker), findLast? ">" line with
  | some opening, some closing =>
    if closing ≤ opening then return .nothing
    else
      let name ← slice? (opening + 1) closing line
      match ← initializerGuid? line with
      | none => return .nothing
      | some guid =>
        return if utf8Length (dotted name) ≤ 3 then .unread
          else .found guid (templateName projected (dotted name))
  | _, _ => return .nothing

namespace Cursor

def staticUuid? (rest : Text) (cursor : Cursor) : Option (Outcome × Cursor) :=
  match assigned? rest with
  | none => some (.unread, cursor)
  | some name => do
    match ← cursor.initializer? with
    | (some guid, cursor) => return (.found guid name, cursor)
    | (none, cursor) => return (.unread, cursor)

def defineGuid? (line : Text) (cursor : Cursor) : Option (Outcome × Cursor) := do
  let unnamed : Outcome :=
    if contains line "STATIC_IID_" || contains line "STATIC_CLSID_" then .nothing else .unread
  match ← cursor.arguments? 12 with
  | (none, cursor) => return (unnamed, cursor)
  | (some args, cursor) =>
    let numbers ← if 1 ≤ args.length then some (args.drop 1) else none
    match Guid.ofNumbers? numbers with
    | none => return (unnamed, cursor)
    | some guid =>
      let name ← args[0]?
      return (.found guid name, cursor)

def argument? (guid : Text) (count index : Nat) (cursor : Cursor) :
    Option (Outcome × Cursor) := do
  match ← cursor.arguments? count with
  | (none, cursor) => return (.unread, cursor)
  | (some args, cursor) =>
    let name ← args[index]?
    return (.found guid name, cursor)

def kindAndName? (guid : Text) (offset : Nat) (cursor : Cursor) : Option (Outcome × Cursor) := do
  let (kind, offset, cursor) ← cursor.nextWord? offset
  if kind.isEmpty then return (.unread, cursor)
  else
    let (name, _, cursor) ← cursor.nextWord? offset
    return (.found guid name, cursor)

def nameAfter? (guid : Text) (offset : Nat) (cursor : Cursor) : Option (Outcome × Cursor) := do
  let start := cursor.pos
  let (word, _, cursor) ← cursor.nextWord? offset
  if word.isEmpty then return (.unread, cursor)
  else
    let path ← abiPathFrom? cursor.lines [] namespaceDepth start
    return (.found guid (path ++ word), cursor)

/-- The forms that show a written GUID, which ends at an offset. -/
def writtenForm? (guid line : Text) (offset : Nat) (cursor : Cursor) :
    Option (Outcome × Cursor) :=
  let starts := startsWith line
  if starts "typedef DECLSPEC_UUID" || contains line "[uuid(" then cursor.kindAndName? guid offset
  else if nameAfterStarts.any (startsWith line) || nameAfterMarkers.any (contains line) then
    cursor.nameAfter? guid offset
  else if starts "DECLARE_INTERFACE_IID_" || starts "IMMPID_START_LIST" then
    cursor.argument? guid 3 0
  else if starts "DECLARE_INTERFACE_IID" || starts "CROSS_PLATFORM_UUIDOF" then
    cursor.argument? guid 2 0
  else if starts "DEFINE_GUIDSTRUCT" then cursor.argument? guid 2 1
  else if starts "DEFINE_CODECAPI_GUID" then cursor.argument? guid 13 0
  else match afterStart? "const BSTR " line with
    | some rest =>
      some (match assigned? rest with
        | some name => .found guid name
        | none => .unread, cursor)
    | none => some (if starts "DECLARE_EVENTGUID_STRING" then .nothing else .unread, cursor)

def readLine? (projected : Bool) (line : Text) (cursor : Cursor) : Option (Outcome × Cursor) :=
  match afterStart? "static const UUID " line with
  | some rest => cursor.staticUuid? rest
  | none =>
    if isDefineGuid line then cursor.defineGuid? line
    else match (find? "inline constexpr guid" line).filter (0 < ·) with
      | some marker => (variableTemplate? projected line marker).map (·, cursor)
      | none =>
        match Guid.first? line with
        | none => some (.nothing, cursor)
        | some (before, guid) =>
          cursor.writtenForm? (upper guid) line (utf8Length before + utf8Length guid)

end Cursor

structure Parsed where
  declarations : List Declaration
  diagnostics : List Diagnostic

def Parsed.push (parsed : Parsed) (file : Text) (line : Nat) : Outcome → Parsed
  | .found guid name =>
    { parsed with declarations := parsed.declarations ++ [⟨guid, name, line⟩] }
  | .unread => { parsed with diagnostics := parsed.diagnostics ++ [⟨file, line, .unread⟩] }
  | .nothing => parsed

section Brackets

variable {after name tail : Text}

/-- Without a bracket behind an opening one that closes it, the last closing one stands before
it. -/
theorem findLast?_le_of_cutLast?_eq_none (head : Text) (h : cutLast? ">" after = none) :
    ∀ closing ∈ findLast? ">" (head ++ "<".toList ++ after), closing ≤ utf8Length head := by
  intro closing hclosing
  have hafter : '>' ∉ after := fun hmem =>
    cutLast?_eq_none_iff.1 h ((List.singleton_infix_iff _ _).2 hmem)
  have hlast : findLast? ">" (head ++ "<".toList ++ after) = findLast? ">" (head ++ "<".toList) :=
    findLast?_append_of_not_mem hafter _
  have hle := findLast?_add_le (hlast ▸ hclosing)
  rw [utf8Length_append] at hle
  exact Nat.le_of_succ_le_succ hle

/-- What stands between an opening bracket and the last closing one behind it is the slice between
their positions. -/
theorem slice?_of_cutLast? (head : Text) (h : cutLast? ">" after = some (name, tail)) :
    ∃ closing, findLast? ">" (head ++ "<".toList ++ after) = some closing ∧
      utf8Length head < closing ∧
      slice? (utf8Length head + 1) closing (head ++ "<".toList ++ after) = some name := by
  obtain rfl := eq_append_of_cutLast? h
  have hbehind : utf8Length head + 1 = utf8Length (head ++ "<".toList) :=
    (utf8Length_append head "<").symm
  refine ⟨utf8Length name + utf8Length (head ++ "<".toList), ?_, by omega, ?_⟩
  · rw [findLast?_append_of_some (findLast?_of_cutLast? h), Nat.add_comm]
  · rw [hbehind, List.append_assoc name, slice?_append]

end Brackets

theorem variableTemplate?_eq {line before rest : Text}
    (h : cut? "inline constexpr guid" line = some (before, rest)) (projected : Bool) :
    variableTemplate? projected line (utf8Length before) =
      some (variableTemplate projected line rest) := by
  have hline := eq_append_of_cut? h
  have hrest : sliceFrom? (utf8Length before) line =
      some ("inline constexpr guid".toList ++ rest) := by
    rw [hline, List.append_assoc, sliceFrom?_append]
  have hmarker : find? "<" ("inline constexpr guid".toList ++ rest) =
      (find? "<" rest).map (· + utf8Length "inline constexpr guid") :=
    find?_append (by decide) [] rest
  rw [variableTemplate?, hrest, Option.bind_eq_bind, Option.bind_some, hmarker, variableTemplate,
    find?]
  cases hopen : cut? "<" rest with
  | none => rfl
  | some parts =>
      obtain ⟨inside, after⟩ := parts
      obtain rfl := eq_append_of_cut? hopen
      let head := before ++ "inline constexpr guid".toList ++ inside
      have hparts : line = head ++ "<".toList ++ after := by
        simp only [hline, head, List.append_assoc]
      have hopening : utf8Length inside + utf8Length "inline constexpr guid" + utf8Length before =
          utf8Length head := by
        simp only [head, utf8Length_append]
        omega
      simp only [Option.map_some, hopening, Option.bind_eq_bind, Option.bind_some]
      cases hclose : cutLast? ">" after with
      | none =>
          have hle := findLast?_le_of_cutLast?_eq_none head hclose
          rw [← hparts] at hle
          cases hbracket : findLast? ">" line with
          | none => rfl
          | some closing =>
              simp only [if_pos (hle closing hbracket)]
              rfl
      | some parts =>
          obtain ⟨name, tail⟩ := parts
          obtain ⟨closing, hbracket, hlt, hname⟩ := slice?_of_cutLast? head hclose
          rw [← hparts] at hbracket hname
          simp only [hbracket, if_neg (Nat.not_le.2 hlt), hname, Option.bind_some,
            initializerGuid?_eq]
          cases Guid.ofInitializer? line <;> rfl

namespace Cursor

variable {cursor : Cursor} {line : Text}

theorem reads_staticUuid? (h : isValid cursor.current true = true) (rest : Text) :
    cursor.Reads (cursor.staticUuid? rest) (staticUuid rest cursor.current cursor.below) := by
  rw [staticUuid?, staticUuid]
  cases assigned? rest with
  | none => exact ⟨cursor, rfl, .refl cursor⟩
  | some name =>
      obtain ⟨later, hread, htakes⟩ := reads_initializer? h
      refine ⟨later, ?_, htakes⟩
      simp only [hread, Option.bind_eq_bind, Option.bind_some]
      cases (initializer cursor.current cursor.below).value <;> rfl

theorem length_of_arguments {count : Nat} {line : Text} {below args : List Text}
    (h : (arguments count line below).value = some args) : args.length = count := by
  simpa using (Option.filter_eq_some_iff.1 h).2

theorem reads_defineGuid? (cursor : Cursor) :
    cursor.Reads (cursor.defineGuid? cursor.current)
      (defineGuid cursor.current cursor.below) := by
  obtain ⟨later, hread, htakes⟩ := reads_arguments? 12 cursor
  refine ⟨later, ?_, htakes⟩
  simp only [defineGuid?, defineGuid, hread, Option.bind_eq_bind, Option.bind_some]
  cases hargs : (arguments 12 cursor.current cursor.below).value with
  | none => rfl
  | some args =>
      have hlength := length_of_arguments hargs
      obtain ⟨name, numbers, rfl⟩ := List.exists_cons_of_length_eq_add_one hlength
      have hsome : 1 ≤ (name :: numbers).length := Nat.succ_pos _
      simp only [if_pos hsome, List.drop_succ_cons, List.drop_zero, List.getElem?_cons_zero,
        Option.bind_some, List.head?_cons, List.tail_cons]
      cases Guid.ofNumbers? numbers <;> rfl

theorem reads_argument? {count index : Nat} (h : index < count) (guid : Text) (cursor : Cursor) :
    cursor.Reads (cursor.argument? guid count index)
      (argument guid count index cursor.current cursor.below) := by
  obtain ⟨later, hread, htakes⟩ := reads_arguments? count cursor
  refine ⟨later, ?_, htakes⟩
  simp only [argument?, argument, hread, Option.bind_eq_bind, Option.bind_some]
  cases hargs : (arguments count cursor.current cursor.below).value with
  | none => rfl
  | some args =>
      have hindex : index < args.length := length_of_arguments hargs ▸ h
      simp only [List.getElem?_eq_getElem hindex, Option.bind_some]
      rfl

theorem reads_kindAndName? (guid : Text) (offset : Nat) (cursor : Cursor) :
    cursor.Reads (cursor.kindAndName? guid offset) (kindAndName guid (cursor.place offset)) := by
  obtain ⟨behind, later, hread, htakes, hstop⟩ := readsWord_nextWord? offset cursor
  simp only [kindAndName?, kindAndName, hread, Option.bind_eq_bind, Option.bind_some]
  cases hkind : (nextWord (cursor.place offset)).value with
  | none => exact ⟨later, rfl, htakes⟩
  | some kind =>
      simp only [Option.map_some, Option.getD_some]
      by_cases hempty : (tidy kind.text).isEmpty = true
      case pos =>
        simp only [if_pos hempty]
        exact ⟨later, rfl, htakes⟩
      case neg =>
        obtain ⟨_, last, hname, hlast, -⟩ := readsWord_nextWord? behind later
        rw [hstop kind hkind] at hname hlast
        simp only [if_neg hempty, hname, Option.bind_some]
        exact ⟨last, rfl, htakes.trans hlast⟩

theorem reads_nameAfter? (h : cursor.pos ≤ cursor.lines.length) (guid : Text) (offset : Nat) :
    cursor.Reads (cursor.nameAfter? guid offset)
      (nameAfter guid cursor.above (cursor.place offset)) := by
  obtain ⟨behind, later, hread, htakes, -⟩ := readsWord_nextWord? offset cursor
  refine ⟨later, ?_, htakes⟩
  simp only [nameAfter?, nameAfter, hread, Option.bind_eq_bind, Option.bind_some]
  split
  case isTrue => rfl
  case isFalse =>
    rw [htakes.lines, abiPathFrom?_eq h]
    rfl

theorem reads_writtenForm? (h : cursor.pos ≤ cursor.lines.length) (guid : Text) (offset : Nat) :
    cursor.Reads (cursor.writtenForm? guid cursor.current offset)
      (writtenForm guid cursor.above (cursor.place offset)) := by
  refine .ite (reads_kindAndName? guid offset cursor) (.ite (reads_nameAfter? h guid offset)
    (.ite (reads_argument? (by decide) guid cursor) (.ite (reads_argument? (by decide) guid cursor)
      (.ite (reads_argument? (by decide) guid cursor)
        (.ite (reads_argument? (by decide) guid cursor) ?_)))))
  simp only [place]
  cases afterStart? "const BSTR " cursor.current with
  | some rest => exact ⟨cursor, rfl, .refl cursor⟩
  | none => exact ⟨cursor, rfl, .refl cursor⟩

theorem isValid_of_not_allowed (h : isValid line false = true) (allowBraces : Bool) :
    isValid line allowBraces = true := by
  simp_all [isValid]

theorem reads_readLine? (h : cursor.pos ≤ cursor.lines.length)
    (hvalid : isValid cursor.current false = true) (projected : Bool) :
    cursor.Reads (cursor.readLine? projected cursor.current)
      (readLine projected cursor.above cursor.current cursor.below) := by
  rw [readLine?, readLine]
  cases afterStart? "static const UUID " cursor.current with
  | some rest => exact reads_staticUuid? (isValid_of_not_allowed hvalid true) rest
  | none =>
      refine .ite (reads_defineGuid? cursor) ?_
      have hwritten : cursor.Reads
          (match Guid.first? cursor.current with
            | none => some (.nothing, cursor)
            | some (before, guid) => cursor.writtenForm? (upper guid) cursor.current
              (utf8Length before + utf8Length guid))
          (match Guid.first? cursor.current with
            | none => ⟨.nothing, 0⟩
            | some (before, guid) => writtenForm (upper guid) cursor.above
              (cursor.place (utf8Length before + utf8Length guid))) := by
        cases Guid.first? cursor.current with
        | none => exact ⟨cursor, rfl, .refl cursor⟩
        | some parts => exact reads_writtenForm? h (upper parts.2) _
      cases hmarker : cut? "inline constexpr guid" cursor.current with
      | none =>
          rw [find?, hmarker]
          exact hwritten
      | some parts =>
          obtain ⟨before, rest⟩ := parts
          rw [find?_of_cut? hmarker]
          cases before with
          | nil => exact hwritten
          | cons c before =>
              have hpositive : 0 < utf8Length (c :: before) :=
                Nat.add_pos_left c.utf8Size_pos _
              have hinside : (some (utf8Length (c :: before))).filter (0 < ·) =
                  some (utf8Length (c :: before)) := by
                rw [Option.filter_some, if_pos (decide_eq_true hpositive)]
              have htemplate := variableTemplate?_eq hmarker projected
              rw [hinside]
              exact ⟨cursor, congrArg (Option.map (·, cursor)) htemplate, .refl cursor⟩

end Cursor

theorem Cursor.Takes.length_sub_step_lt {cursor later : Cursor} {taken : Nat}
    (h : cursor.Takes taken later) (hpos : cursor.pos < cursor.lines.length) :
    later.step.lines.length - later.step.pos < cursor.lines.length - cursor.pos := by
  have := h.pos
  simp only [Cursor.step, h.lines]
  omega

/-- Reads a line after the other until the cursor stands behind the last one, which each step comes
closer to. -/
def parseFrom? (projected : Bool) (file : Text) (cursor : Cursor) (parsed : Parsed) :
    Option Parsed :=
  if _hdone : cursor.lines.length ≤ cursor.pos then some parsed
  else if _hvalid : isValid cursor.current false then
    match _hread : cursor.readLine? projected cursor.current with
    | some (outcome, later) =>
      parseFrom? projected file later.step (parsed.push file (cursor.pos + 1) outcome)
    | none => none
  else parseFrom? projected file cursor.step parsed
termination_by cursor.lines.length - cursor.pos
decreasing_by
  · have hpos := Nat.lt_of_not_le _hdone
    obtain ⟨later, hread, htakes⟩ := Cursor.reads_readLine? (Nat.le_of_lt hpos) _hvalid projected
    cases _hread.symm.trans hread
    exact htakes.length_sub_step_lt hpos
  · exact (Cursor.Takes.refl cursor).length_sub_step_lt (Nat.lt_of_not_le _hdone)

/-- Everything in the text of a header; the file labels the problems. -/
def parse? (projected : Bool) (file t : Text) : Option Parsed := do
  let lines ← preprocess? t
  parseFrom? projected file ⟨lines, 0⟩ ⟨[], []⟩

/-- What has been read, with the contents of the lines below. -/
def Parsed.followedBy (parsed : Parsed) (file : Text) (contents : Contents) : Parsed :=
  ⟨parsed.declarations ++ contents.declarations, parsed.diagnostics ++ contents.diagnostics file⟩

@[simp] theorem Parsed.followedBy_nil (parsed : Parsed) (file : Text) :
    parsed.followedBy file ⟨[], []⟩ = parsed := by
  simp [followedBy, Contents.diagnostics]

theorem Parsed.followedBy_withOutcome (parsed : Parsed) (file : Text) (contents : Contents)
    (above : List Text) (outcome : Outcome) :
    parsed.followedBy file (contents.withOutcome above outcome) =
      (parsed.push file (above.length + 1) outcome).followedBy file contents := by
  cases outcome <;> simp [followedBy, push, Contents.withOutcome, Contents.diagnostics]

theorem contentsFrom_take_drop (projected : Bool) (lines : List Text) (i skip : Nat) :
    contentsFrom projected (lines.take i).reverse skip (lines.drop i) =
      contentsFrom projected (lines.take (i + skip)).reverse 0 (lines.drop (i + skip)) := by
  induction skip generalizing i with
  | zero => rfl
  | succ skip ih =>
      by_cases hi : i < lines.length
      case pos =>
        rw [List.drop_eq_getElem_cons hi, contentsFrom, ← reverse_take_succ hi, ih,
          Nat.add_right_comm, Nat.add_assoc]
      case neg =>
        rw [List.drop_eq_nil_of_le (by omega), List.drop_eq_nil_of_le (by omega)]
        rfl

/-- The contents behind the lines that a cursor has taken are those from the next step on. -/
theorem Cursor.Takes.contentsFrom_eq {cursor later : Cursor} {taken : Nat}
    (h : cursor.Takes taken later) (projected : Bool) :
    contentsFrom projected cursor.step.above taken cursor.below =
      contentsFrom projected later.step.above 0 (later.step.lines.drop later.step.pos) := by
  have hbelow : later.step.lines.drop later.step.pos =
      cursor.lines.drop (cursor.pos + 1 + taken) :=
    h.below.trans (List.drop_drop ..)
  rw [h.above, hbelow, ← contentsFrom_take_drop]
  rfl

/-- One step after the other, a cursor reads the contents of the lines from its own on; behind the
last line there are none. -/
theorem parseFrom?_eq (projected : Bool) (file : Text) (cursor : Cursor) (parsed : Parsed) :
    parseFrom? projected file cursor parsed = some (parsed.followedBy file
      (contentsFrom projected cursor.above 0 (cursor.lines.drop cursor.pos))) := by
  fun_induction parseFrom? projected file cursor parsed with
  | case1 cursor parsed hdone =>
      rw [List.drop_eq_nil_of_le hdone]
      simp [contentsFrom]
  | case2 cursor parsed hdone hvalid outcome later hread ih =>
      have hpos : cursor.pos < cursor.lines.length := Nat.lt_of_not_le hdone
      obtain ⟨later, hline, htakes⟩ :=
        Cursor.reads_readLine? (Nat.le_of_lt hpos) hvalid projected
      cases hread.symm.trans hline
      rw [Cursor.drop_eq_cons hpos, contentsFrom, if_pos hvalid, ← Cursor.above_step hpos, ih,
        Parsed.followedBy_withOutcome, Cursor.length_above hpos, htakes.contentsFrom_eq]
  | case3 cursor parsed hdone hvalid hread =>
      obtain ⟨later, hline, -⟩ :=
        Cursor.reads_readLine? (Nat.le_of_not_le hdone) hvalid projected
      cases hread.symm.trans hline
  | case4 cursor parsed hdone hvalid ih =>
      have hpos : cursor.pos < cursor.lines.length := Nat.lt_of_not_le hdone
      rw [Cursor.drop_eq_cons hpos, contentsFrom, if_neg hvalid, ← Cursor.above_step hpos]
      exact ih

/-- No slice and no index misses and every loop ends, in any text: the result is there, and it is
what the reading of the text gives. -/
theorem parse?_eq_some_read (projected : Bool) (file t : Text) : parse? projected file t =
    some ⟨(read projected t).declarations, (read projected t).diagnostics file⟩ := by
  rw [parse?, preprocess?_eq]
  exact parseFrom?_eq projected file ⟨prepare t, 0⟩ ⟨[], []⟩

end GuidAtlas.Header
