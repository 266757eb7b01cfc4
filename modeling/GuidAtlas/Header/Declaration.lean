import GuidAtlas.Header.Word

/-!
The declarations of a header that bind a GUID to a name. The most specific form is tried first, and
a line that shows a GUID in no known form is recorded as unread.
-/

namespace GuidAtlas.Header

open Text

inductive Outcome where
  | found (guid name : Text)
  | unread
  | nothing
  deriving DecidableEq, Repr

/-- The part before the only equals sign of a text. -/
def assigned? (t : Text) : Option Text :=
  match splitAt '=' t with
  | [name, _] => some (trim name)
  | _ => none

def staticUuid (rest line : Text) (below : List Text) : Reading Outcome :=
  match assigned? rest with
  | none => ⟨.unread, 0⟩
  | some name =>
    let reading := initializer line below
    ⟨match reading.value with
      | some guid => .found guid name
      | none => .unread, reading.taken⟩

def isDefineGuid (line : Text) : Bool :=
  startsWith line "DEFINE_GUID" && !startsWith line "DEFINE_GUIDSTRUCT" &&
    !startsWith line "DEFINE_GUIDEX"

def defineGuid (line : Text) (below : List Text) : Reading Outcome :=
  let reading := arguments 12 line below
  let found := do
    let args ← reading.value
    let name ← args.head?
    let guid ← Guid.ofNumbers? args.tail
    return Outcome.found guid name
  ⟨found.getD (if contains line "STATIC_IID_" || contains line "STATIC_CLSID_" then .nothing
    else .unread), reading.taken⟩

/-- The name of a variable template `guid_v<Windows::Foo::IBar>`; in a language projection a dotted
name is put under `ABI`. -/
def templateName (projected : Bool) (name : Text) : Text :=
  if projected && name.elem '.' && !startsWith name "ABI." then "ABI." ++ name else name

def variableTemplate (projected : Bool) (line afterMarker : Text) : Outcome :=
  let found := do
    let (_, rest) ← cut? "<" afterMarker
    let (name, _) ← cutLast? ">" rest
    let guid ← Guid.ofInitializer? line
    return if utf8Length (dotted name) ≤ 3 then Outcome.unread
      else .found guid (templateName projected (dotted name))
  found.getD .nothing

def argument (guid : Text) (count index : Nat) (line : Text) (below : List Text) :
    Reading Outcome :=
  let reading := arguments count line below
  ⟨match reading.value.bind (·[index]?) with
    | some name => .found guid name
    | none => .unread, reading.taken⟩

/-- The second word after the GUID is the name; the first is the kind of type. -/
def kindAndName (guid : Text) (place : Place) : Reading Outcome :=
  let first := nextWord place
  match first.value with
  | none => ⟨.unread, first.taken⟩
  | some kind =>
    if (tidy kind.text).isEmpty then ⟨.unread, first.taken⟩
    else
      let second := nextWord kind.stop
      ⟨.found guid ((second.value.map fun word => tidy word.text).getD []),
        first.taken + second.taken⟩

/-- The word after the GUID is the name, in the `ABI` namespaces above the line. -/
def nameAfter (guid : Text) (above : List Text) (place : Place) : Reading Outcome :=
  let reading := nextWord place
  let name := (reading.value.map fun word => tidy word.text).getD []
  ⟨if name.isEmpty then .unread else .found guid (abiPath above ++ name), reading.taken⟩

def nameAfterStarts : List Text :=
  ["MIDL_INTERFACE", "ENUMG", "interface DX_DECLARE_INTERFACE",
    "interface DWRITE_DECLARE_INTERFACE", "interface DML_DECLARE_INTERFACE"]

def nameAfterMarkers : List Text := ["DECLSPEC_UUID", "__declspec(uuid("]

/-- The forms that show a written GUID, which ends at `place`. -/
def writtenForm (guid : Text) (above : List Text) (place : Place) : Reading Outcome :=
  let line := place.line
  let starts := startsWith line
  if starts "typedef DECLSPEC_UUID" || contains line "[uuid(" then kindAndName guid place
  else if nameAfterStarts.any (startsWith line) || nameAfterMarkers.any (contains line) then
    nameAfter guid above place
  else if starts "DECLARE_INTERFACE_IID_" || starts "IMMPID_START_LIST" then
    argument guid 3 0 line place.below
  else if starts "DECLARE_INTERFACE_IID" || starts "CROSS_PLATFORM_UUIDOF" then
    argument guid 2 0 line place.below
  else if starts "DEFINE_GUIDSTRUCT" then argument guid 2 1 line place.below
  else if starts "DEFINE_CODECAPI_GUID" then argument guid 13 0 line place.below
  else match afterStart? "const BSTR " line with
    | some rest =>
      ⟨match assigned? rest with
        | some name => .found guid name
        | none => .unread, 0⟩
    | none => ⟨if starts "DECLARE_EVENTGUID_STRING" then .nothing else .unread, 0⟩

/-- What a valid line declares, given the lines above it, nearest first, and below it. -/
def readLine (projected : Bool) (above : List Text) (line : Text) (below : List Text) :
    Reading Outcome :=
  match afterStart? "static const UUID " line with
  | some rest => staticUuid rest line below
  | none =>
    if isDefineGuid line then defineGuid line below
    else match cut? "inline constexpr guid" line with
      | some (_ :: _, rest) => ⟨variableTemplate projected line rest, 0⟩
      | _ =>
        match Guid.first? line with
        | none => ⟨.nothing, 0⟩
        | some (before, guid) =>
          writtenForm (upper guid) above
            ⟨line, utf8Length before + utf8Length guid, below⟩

structure Declaration where
  guid : Text
  name : Text
  /-- Lines count from one. -/
  line : Nat
  deriving DecidableEq, Repr

structure Contents where
  declarations : List Declaration
  /-- The lines that show a GUID in no known form. -/
  unread : List Nat
  deriving DecidableEq, Repr

/-- Puts the outcome of a line, which stands below the lines `above`, in front. -/
def Contents.withOutcome (contents : Contents) (above : List Text) : Outcome → Contents
  | .found guid name =>
    { contents with declarations := ⟨guid, name, above.length + 1⟩ :: contents.declarations }
  | .unread => { contents with unread := (above.length + 1) :: contents.unread }
  | .nothing => contents

/-- Reads the lines below `above`, the nearest first, after `skip` lines that a declaration has
taken. -/
def contentsFrom (projected : Bool) (above : List Text) : (skip : Nat) → List Text → Contents
  | _, [] => ⟨[], []⟩
  | skip + 1, line :: below => contentsFrom projected (line :: above) skip below
  | 0, line :: below =>
    if isValid line false then
      let reading := readLine projected above line below
      (contentsFrom projected (line :: above) reading.taken below).withOutcome above reading.value
    else contentsFrom projected (line :: above) 0 below

/-- Everything in the text of one header. `projected` tells that the header belongs to a language
projection of the runtime, whose names lack the `ABI` root. -/
def read (projected : Bool) (t : Text) : Contents := contentsFrom projected [] 0 (prepare t)

end GuidAtlas.Header
