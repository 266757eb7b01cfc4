import GuidAtlas.CommandLine.Run
import GuidAtlas.Proofs.Except
import GuidAtlas.Proofs.Text.Case
import GuidAtlas.Proofs.Text.Trim

/-!
What the program prints for a GUID. It asks twice, for the GUID as typed and for the GUID without
its decoration, and takes an answer that is equal to the question for no answer. So a name that is
equal to its GUID is passed over.
-/

namespace GuidAtlas

namespace Guid

open Text

variable {t : Text}

def isDecoration (c : Char) : Bool := c = '"' || c = ' ' || c = '{' || c = '}'

theorem stripDecoration_eq (t : Text) : stripDecoration t = trimOf isDecoration t := rfl

theorem upperChar_of_isDecoration {c : Char} (h : isDecoration c = true) : upperChar c = [c] := by
  simp only [isDecoration, Bool.or_eq_true, decide_eq_true_eq] at h
  rcases h with ((rfl | rfl) | rfl) | rfl <;> decide +kernel

theorem stripDecoration_eq_self_of_upper (h : stripDecoration (upper t) = upper t) :
    stripDecoration t = t := by
  have hhead := head?_trimOf isDecoration (upper t)
  have hlast := getLast?_trimOf isDecoration (upper t)
  rw [← stripDecoration_eq, h] at hhead hlast
  have hkept (c : Char) (h : isDecoration c = true → isDecoration c = false) :
      isDecoration c = false := by
    cases hc : isDecoration c with
    | false => rfl
    | true => exact hc.symm.trans (h hc)
  refine trimOf_eq_self (fun c hc => hkept c fun hdecoration => ?_)
    fun c hc => hkept c fun hdecoration => ?_
  · obtain ⟨rest, rfl⟩ := List.head?_eq_some_iff.1 hc
    rw [upper_cons, upperChar_of_isDecoration hdecoration] at hhead
    exact hhead c rfl
  · obtain ⟨init, rfl⟩ := List.getLast?_eq_some_iff.1 hc
    rw [upper_append, upper_cons, upperChar_of_isDecoration hdecoration] at hlast
    exact hlast c (by simp)

/-- The key of a text is that of the text without decoration if the key itself has none. -/
theorem normalizeKey_stripDecoration (h : stripDecoration (normalizeKey t) = normalizeKey t) :
    normalizeKey (stripDecoration t) = normalizeKey t := by
  have hplain : stripDecoration (trim t) = trim t := stripDecoration_eq_self_of_upper h
  exact congrArg upper (trimOf_trimOf_of_eq_self hplain)

end Guid

namespace Lookup

open Text Storage

/-- What names are looked up in. -/
inductive Source where
  | file (database : Database)
  | table (registry : Registry)

namespace Source

def names : Source → Directory Text
  | .file database => database.names
  | .table registry => registry.names

def nameOf? : Source → Text → Option Text
  | .file database => database.nameOf?
  | .table registry => registry.nameOf?

def interfaceName : Source → Text → Text
  | .file database => database.interfaceName
  | .table registry => registry.interfaceName

/-- The source that is asked with the path of a database or without one. -/
def at? (tree : Tree) : Option Path → Option Source
  | some path => (Database.load tree path).toOption.map .file
  | none => some (.table .embedded)

/-- No key stands in quotes, spaces or braces. -/
def Undecorated (source : Source) : Prop :=
  ∀ entry ∈ source.names.entries, Guid.stripDecoration entry.1 = entry.1

variable {source : Source} {guid name : Text}

theorem nameOf?_eq (source : Source) (guid : Text) :
    source.nameOf? guid = source.names.get? (Guid.normalizeKey guid) := by
  cases source with
  | file database => rfl
  | table registry => rfl

theorem interfaceName_eq (source : Source) (guid : Text) :
    source.interfaceName guid = (source.nameOf? guid).getD guid := by
  cases source with
  | file database => rfl
  | table registry => rfl

theorem interfaceName_of_at? {tree : Tree} {path : Option Path} (h : at? tree path = some source)
    (guid : Text) : (Lookup.interfaceName tree path guid).1 = source.interfaceName guid := by
  cases path with
  | none =>
      obtain rfl := Option.some.inj h
      rw [interfaceName, Lookup.interfaceName]
  | some path =>
      obtain ⟨database, hload, rfl⟩ := Option.map_eq_some_iff.1 h
      show (Database.query tree path guid).1 = database.interfaceName guid
      rw [Database.query, toOption_eq_some_iff.1 hload]

/-- In a source without decorated keys, a GUID that is known as typed is the one that is known
without its decoration. -/
theorem Undecorated.nameOf?_stripDecoration (h : source.Undecorated)
    (hname : source.nameOf? guid = some name) :
    source.nameOf? (Guid.stripDecoration guid) = some name := by
  rw [nameOf?_eq] at hname ⊢
  have hmem : (Guid.normalizeKey guid, name) ∈ source.names.entries := by
    obtain ⟨before, after, heq, -⟩ := List.lookup_eq_some_iff.1 hname
    rw [heq]
    simp
  rwa [Guid.normalizeKey_stripDecoration (h _ hmem)]

end Source

end Lookup

namespace CommandLine

open Text Storage Lookup

/-- The name of a GUID as typed, else that of the GUID without decoration, else what is typed. -/
def answer (source : Source) (typed : Text) : Text :=
  (source.nameOf? typed <|> source.nameOf? (Guid.stripDecoration typed)).getD typed

/-- The GUID is known without its decoration only, under a name that is equal to it. -/
def NamedLikeItself (source : Source) (typed : Text) : Prop :=
  source.nameOf? typed = none ∧
    source.nameOf? (Guid.stripDecoration typed) = some (Guid.stripDecoration typed)

/-- The GUID is known as typed under a name that is equal to it, and without its decoration under
another name. -/
def NamedAsTyped (source : Source) (typed : Text) : Prop :=
  source.nameOf? typed = some typed ∧
    ∃ name, source.nameOf? (Guid.stripDecoration typed) = some name ∧
      name ≠ Guid.stripDecoration typed ∧ name ≠ typed

variable {source : Source} {typed name : Text}

theorem interfaceName_of_name {guid : Text} (hname : source.nameOf? guid = some name) :
    source.interfaceName guid = name := by
  rw [Source.interfaceName_eq, hname, Option.getD_some]

theorem interfaceName_of_unknown {guid : Text} (hname : source.nameOf? guid = none) :
    source.interfaceName guid = guid := by
  rw [Source.interfaceName_eq, hname, Option.getD_none]

theorem resolve_of_plain (h : Guid.stripDecoration typed = typed) :
    resolve source.interfaceName typed = (source.nameOf? typed).getD typed := by
  rw [resolve, h, decide_eq_true rfl, Bool.or_true, if_pos rfl, Source.interfaceName_eq]

/-- A name other than the typed text ends the search. -/
theorem resolve_of_name (hname : source.nameOf? typed = some name) (hne : name ≠ typed) :
    resolve source.interfaceName typed = name := by
  simp only [resolve, interfaceName_of_name hname]
  rw [decide_eq_true hne, Bool.true_or, if_pos rfl]

/-- Without such a name the text without decoration decides, if it is known under a name other than
itself. -/
theorem resolve_of_decorated (hdecorated : Guid.stripDecoration typed ≠ typed)
    (hecho : source.interfaceName typed = typed) :
    resolve source.interfaceName typed =
      if source.interfaceName (Guid.stripDecoration typed) = Guid.stripDecoration typed then typed
      else source.interfaceName (Guid.stripDecoration typed) := by
  have hskip : (decide (typed ≠ typed) || decide (Guid.stripDecoration typed = typed)) = false := by
    simp [hdecorated]
  simp only [resolve, hecho]
  rw [hskip]
  exact if_neg Bool.false_ne_true

theorem answer_of_name (hname : source.nameOf? typed = some name) : answer source typed = name := by
  rw [answer, hname]
  rfl

theorem answer_of_unknown (hname : source.nameOf? typed = none) :
    answer source typed = (source.nameOf? (Guid.stripDecoration typed)).getD typed := by
  rw [answer, hname]
  rfl

theorem ite_eq_right_iff_ne {bare : Text} (hbare : bare ≠ typed) :
    (if name = bare then typed else name) = name ↔ name ≠ bare := by
  constructor
  · rintro h rfl
    rw [if_pos rfl] at h
    exact hbare h.symm
  · exact fun hne => if_neg hne

/-- The program prints the answer unless a name that is equal to its GUID is passed over. -/
theorem resolve_eq_answer_iff (source : Source) (typed : Text) :
    resolve source.interfaceName typed = answer source typed ↔
      Guid.stripDecoration typed = typed ∨
        ¬ NamedLikeItself source typed ∧ ¬ NamedAsTyped source typed := by
  by_cases hplain : Guid.stripDecoration typed = typed
  case pos =>
    refine iff_of_true ?_ (.inl hplain)
    rw [resolve_of_plain hplain, answer, hplain]
    cases source.nameOf? typed <;> rfl
  case neg =>
    rw [or_iff_right hplain]
    cases hname : source.nameOf? typed with
    | none =>
        have htyped : ¬ NamedAsTyped source typed := by
          rintro ⟨hsome, -⟩
          rw [hname] at hsome
          cases hsome
        rw [resolve_of_decorated hplain (interfaceName_of_unknown hname), answer_of_unknown hname,
          and_iff_left htyped, NamedLikeItself, Source.interfaceName_eq, and_iff_right hname]
        cases source.nameOf? (Guid.stripDecoration typed) with
        | none => simp
        | some name =>
            rw [Option.getD_some, Option.getD_some, Option.some_inj]
            exact ite_eq_right_iff_ne hplain
    | some name =>
        have hknown : ¬ NamedLikeItself source typed := by
          rintro ⟨hnone, -⟩
          rw [hname] at hnone
          cases hnone
        rw [answer_of_name hname, and_iff_right hknown, NamedAsTyped, hname]
        by_cases hecho : name = typed
        case pos =>
          subst hecho
          rw [resolve_of_decorated hplain (interfaceName_of_name hname), Source.interfaceName_eq]
          cases source.nameOf? (Guid.stripDecoration name) with
          | none => simp
          | some other =>
              rw [Option.getD_some, ite_eq_left_iff]
              simp
        case neg =>
          refine iff_of_true (resolve_of_name hname hecho) ?_
          rintro ⟨hsame, -⟩
          exact hecho (Option.some.inj hsame)

/-- Over keys without decoration, the name behind a decoration is printed unless it is equal to the
text without the decoration. -/
theorem resolve_eq_name_iff (hkeys : source.Undecorated)
    (hname : source.nameOf? (Guid.stripDecoration typed) = some name) :
    resolve source.interfaceName typed = name ↔
      (source.nameOf? typed).isSome ∨ name ≠ Guid.stripDecoration typed := by
  have hbare : source.interfaceName (Guid.stripDecoration typed) = name :=
    interfaceName_of_name hname
  by_cases hplain : Guid.stripDecoration typed = typed
  case pos =>
    rw [hplain] at hname
    refine iff_of_true ?_ (.inl (by rw [hname]; rfl))
    rw [resolve_of_plain hplain, hname, Option.getD_some]
  case neg =>
    cases htyped : source.nameOf? typed with
    | none =>
        rw [resolve_of_decorated hplain (interfaceName_of_unknown htyped), hbare,
          Option.isSome_none, or_iff_right Bool.false_ne_true]
        exact ite_eq_right_iff_ne hplain
    | some known =>
        refine iff_of_true ?_ (.inl rfl)
        obtain rfl : known = name :=
          Option.some.inj ((hkeys.nameOf?_stripDecoration htyped).symm.trans hname)
        by_cases hecho : known = typed
        case pos =>
          have hne : known ≠ Guid.stripDecoration typed := by
            rw [hecho]
            exact Ne.symm hplain
          rw [resolve_of_decorated hplain ((interfaceName_of_name htyped).trans hecho), hbare,
            if_neg hne]
        case neg => exact resolve_of_name htyped hecho

/-- What `lookup` prints, in a database that loads, in the embedded table and in any other table:
the answer, unless a name that is equal to its GUID is passed over. -/
theorem lookup_prints_iff (source : Source) (typed : Text) :
    (∀ (given : Given) (tree : Tree), Source.at? tree given.database = some source →
      given.words = [typed] →
        (lookup given tree).output = .ok (resolve source.interfaceName typed ++ "\n")) ∧
    (resolve source.interfaceName typed = answer source typed ↔
      Guid.stripDecoration typed = typed ∨
        ¬ NamedLikeItself source typed ∧ ¬ NamedAsTyped source typed) ∧
    (source.Undecorated → ∀ name, source.nameOf? (Guid.stripDecoration typed) = some name →
      (resolve source.interfaceName typed = name ↔
        (source.nameOf? typed).isSome ∨ name ≠ Guid.stripDecoration typed)) := by
  refine ⟨?_, resolve_eq_answer_iff source typed, fun hkeys _ => resolve_eq_name_iff hkeys⟩
  intro given tree hsource hwords
  have hname : (fun guid => (Lookup.interfaceName tree given.database guid).1) =
      source.interfaceName := funext fun guid => Source.interfaceName_of_at? hsource guid
  simp only [lookup, hwords, List.headD_cons]
  rw [hname]

/-- Braces and small letters do not hide a GUID. -/
theorem lookup_prints_braced :
    let document : Text := "[All Interfaces]\nAB-1 = IUnknown\n"
    let tree := Tree.empty.put ["db.ini", "work"] (.file (encode document))
    let typed : Text := "\"\x7bab-1\x7d\""
    let given : Given := { database := some "db.ini", words := [typed] }
    ∃ source, Source.at? tree given.database = some source ∧ source.Undecorated ∧
      source.nameOf? (Guid.stripDecoration typed) = some "IUnknown".toList ∧
      (lookup given tree).output = .ok "IUnknown\n" := by
  intro document tree typed given
  have hsource : (Source.at? tree given.database).any (fun source =>
      source.names.entries.all (fun entry => Guid.stripDecoration entry.1 = entry.1) &&
        source.nameOf? (Guid.stripDecoration typed) = some "IUnknown".toList) = true := by
    decide +kernel
  obtain ⟨source, hat, hsource⟩ := (Option.any_eq_true _ _).1 hsource
  obtain ⟨hall, hname⟩ := Bool.and_eq_true_iff.1 hsource
  have hkeys : source.Undecorated := fun entry hentry =>
    of_decide_eq_true (List.all_eq_true.1 hall entry hentry)
  have hname := of_decide_eq_true hname
  obtain ⟨hprints, -, hnames⟩ := lookup_prints_iff source typed
  have hresolve := (hnames hkeys _ hname).2 (.inr (by decide))
  have hline : ("IUnknown" : Text) ++ ("\n" : Text) = "IUnknown\n".toList := by decide
  refine ⟨source, hat, hkeys, hname, ?_⟩
  rw [hprints given tree hat rfl, hresolve, hline]

/-- The GUID that names itself is printed with the braces it is typed in. -/
theorem lookup_echoes_known_guid :
    let document : Text := "[All Interfaces]\nA = A\n"
    let tree := Tree.empty.put ["db.ini", "work"] (.file (encode document))
    let typed : Text := "\x7bA\x7d"
    let given : Given := { database := some "db.ini", words := [typed] }
    ∃ source, Source.at? tree given.database = some source ∧ source.Undecorated ∧
      answer source typed = "A".toList ∧ (lookup given tree).output = .ok "\x7bA\x7d\n" := by
  intro document tree typed given
  have hsource : (Source.at? tree given.database).any (fun source =>
      source.names.entries.all (fun entry => Guid.stripDecoration entry.1 = entry.1) &&
        answer source typed = "A".toList) = true := by decide +kernel
  have houtput : (lookup given tree).output.toOption = some "\x7bA\x7d\n".toList := by
    decide +kernel
  obtain ⟨source, hat, hsource⟩ := (Option.any_eq_true _ _).1 hsource
  obtain ⟨hall, hanswer⟩ := Bool.and_eq_true_iff.1 hsource
  refine ⟨source, hat, ?_, of_decide_eq_true hanswer, ?_⟩
  · intro entry hentry
    exact of_decide_eq_true (List.all_eq_true.1 hall entry hentry)
  · exact toOption_eq_some_iff.1 houtput

end CommandLine

end GuidAtlas
