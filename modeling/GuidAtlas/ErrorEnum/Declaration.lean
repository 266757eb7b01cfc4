import GuidAtlas.ErrorEnum.Grammar
import GuidAtlas.ErrorEnum.Lexer

/-!
Declarations of types. Of those that are no enumerations nothing but their shape is checked.
-/

namespace GuidAtlas.ErrorEnum

open Text

structure Field where
  attributes : List Attribute
  visibility : Tokens
  name : Text
  type : SourceType

def Field.tokens (field : Field) : Tokens :=
  attributeTokens field.attributes ++ field.visibility ++
    [.name field.name, .mark ':' false] ++ field.type.tokens

structure Variant where
  attributes : List Attribute
  name : Text
  /-- The fields with names, each with whether a comma follows it; `none` if the variant is written
  without them. -/
  fields? : Option (List (Field × Bool))
  /-- The number given to the variant, with its sign of equality. -/
  number : Tokens

namespace Variant

def fieldTokens (variant : Variant) : Tokens :=
  match variant.fields? with
  | some fields => [.group .curly (listed Field.tokens fields)]
  | none => []

def tokens (variant : Variant) : Tokens :=
  attributeTokens variant.attributes ++ .name variant.name :: variant.fieldTokens ++ variant.number

end Variant

structure Enumeration where
  attributes : List Attribute
  visibility : Tokens
  name : Text
  generics : Tokens
  conditions : Tokens
  variants : List (Variant × Bool)

def Enumeration.tokens (e : Enumeration) : Tokens :=
  attributeTokens e.attributes ++ e.visibility ++ [.name "enum", .name e.name] ++ e.generics ++
    e.conditions ++ [.group .curly (listed Variant.tokens e.variants)]

inductive Declaration where
  | enumeration (e : Enumeration)
  | record

namespace Reader

open Tokens

/-- Whether round brackets after `pub` say where something is visible. -/
def restricts : Tokens → Bool
  | [.name w] => w = "crate".toList || w = "self".toList || w = "super".toList
  | .name w :: _ => w = "in".toList
  | _ => false

def restriction : Reader Tokens := do
  if ← sees (startsWord "in") then
    let intro ← word "in"
    return intro ++ (← plainPath).tokens
  else return [.name (← anyWord)]

def visibility : Reader Tokens :=
  when (startsWord "pub") do
    let intro ← word "pub"
    match ← get with
    | .group .round content :: _ =>
      if restricts content then
        return intro ++ [.group .round (← inside .round restriction)]
      else return intro
    | _ => return intro

/-! Generics. -/

structure Parameter where
  isLifetime : Bool
  tokens : Tokens

/-- A colon and what it introduces, which may be nothing; then the colon is left out. -/
def boundsAfterColon (ends : Tokens → Bool) (bound : Reader Bound) : Reader Tokens :=
  when (startsMark ":") do
    let colon ← mark ":"
    let bounds ← boundsUpTo ends bound ((← get).length + 1)
    if bounds.isEmpty then return [] else return colon ++ boundTokens bounds

def lifetimeBound : Reader Bound := return ⟨← lifetimeToken, false⟩

def endsParameter (tokens : Tokens) : Bool :=
  tokens.isEmpty || startsMark "," tokens || startsMark ">" tokens

def endsTypeParameter (tokens : Tokens) : Bool := endsParameter tokens || startsMark "=" tokens

def typeParameter (inner : Inner) : Reader Tokens := do
  let name ← name
  let bounds ← boundsAfterColon endsTypeParameter (bound inner false true)
  let standard ← when (startsMark "=") do
    let sign ← mark "="
    return sign ++ (← inner.type true).tokens
  return .name name :: bounds ++ standard

def constantParameter (inner : Inner) : Reader Tokens := do
  let intro ← word "const"
  let name ← name
  let colon ← mark ":"
  let type ← inner.type true
  let standard ← when (startsMark "=") do
    let sign ← mark "="
    return sign ++ (← constantArgument inner)
  return intro ++ .name name :: colon ++ type.tokens ++ standard

def genericParameter (inner : Inner) : Reader Parameter := do
  let attributes ← attributes inner.expression
  let start := attributeTokens attributes
  let tokens ← get
  if startsLifetime tokens then
    let life ← lifetimeToken
    return ⟨true, start ++ life ++ (← boundsAfterColon endsParameter lifetimeBound)⟩
  else if startsWord "const" tokens then return ⟨false, start ++ (← constantParameter inner)⟩
  else if startsWord "_" tokens then return ⟨false, start ++ (← word "_")⟩
  else return ⟨false, start ++ (← typeParameter inner)⟩

def generics (inner : Inner) : Reader Tokens :=
  when (startsMark "<") do
    let opening ← mark "<"
    let parameters ← commaList (startsMark ">") (genericParameter inner)
    let closing ← mark ">"
    if parameters.isEmpty then return []
    else
      return opening ++ frontFirst Parameter.isLifetime Parameter.tokens parameters ++ closing

def endsCondition (tokens : Tokens) : Bool :=
  tokens.isEmpty || startsGroup .curly tokens || startsMark "," tokens || startsMark ";" tokens ||
    (startsMark ":" tokens && !startsMark "::" tokens) || startsMark "=" tokens

def condition (inner : Inner) : Reader Tokens := do
  let tokens ← get
  if startsLifetime tokens && startsMark ":" (tokens.drop 1) then
    let life ← lifetimeToken
    let colon ← mark ":"
    let bounds ← boundsUpTo endsCondition lifetimeBound ((← get).length + 1)
    return life ++ colon ++ boundTokens bounds
  else
    let lifetimes ← optionalLifetimesFor inner
    let type ← inner.type true
    let colon ← mark ":"
    let bounds ← boundsUpTo endsCondition (bound inner false true) ((← get).length + 1)
    return lifetimes ++ type.tokens ++ colon ++ boundTokens bounds

def conditionsFrom (inner : Inner) : (fuel : Nat) → Reader (List (Tokens × Bool))
  | 0 => failure
  | fuel + 1 => do
    if ← sees endsCondition then return []
    let condition ← condition inner
    if ← sees (startsMark ",") then
      let _ ← mark ","
      return (condition, true) :: (← conditionsFrom inner fuel)
    else return [(condition, false)]

def conditions (inner : Inner) : Reader Tokens :=
  when (startsWord "where") do
    let intro ← word "where"
    let conditions ← conditionsFrom inner ((← get).length + 1)
    if conditions.isEmpty then return [] else return intro ++ listed id conditions

/-! Fields and variants. -/

def fieldName : Reader Text := do
  if ← sees (startsWord "_") then anyWord else name

/-- Reads a field with a name. `record` reads what may stand for the type of a field called `_`. -/
def namedField (inner : Inner) (record : Reader Tokens) : Reader Field := do
  let attributes ← attributes inner.expression
  let visibility ← visibility
  let name ← fieldName
  let _ ← mark ":"
  let startsRecord (tokens : Tokens) : Bool :=
    startsWord "struct" tokens || (startsWord "union" tokens && startsGroup .curly (tokens.drop 1))
  if name = "_".toList && (← sees startsRecord) then
    return ⟨attributes, visibility, name, { tokens := ← record, shape := .other }⟩
  else return ⟨attributes, visibility, name, ← inner.type true⟩

/-- A record in place of a type. Its fields are checked and its tokens kept. -/
def unnamedRecord (fields : Reader Unit) : Reader Tokens := do
  let tokens ← get
  let _ ← anyWord
  fields
  return tokens.take 2

/-- Reads fields with names in which records are nested less than `depth` times. -/
def namedFieldsWithin (inner : Inner) : (depth : Nat) → Reader (List (Field × Bool))
  | 0 => failure
  | depth + 1 =>
    inside .curly (commaList List.isEmpty
      (namedField inner (unnamedRecord do let _ ← namedFieldsWithin inner depth)))

def namedFields (inner : Inner) : Reader (List (Field × Bool)) := do
  namedFieldsWithin inner (countOf (← get) + 1)

def placedField (inner : Inner) : Reader Unit := do
  let _ ← attributes inner.expression
  let _ ← visibility
  let _ ← inner.type true

def placedFields (inner : Inner) : Reader Unit := do
  let _ ← inside .round (commaList List.isEmpty (placedField inner))

def variantFields (inner : Inner) : Reader (Option (List (Field × Bool))) := do
  if ← sees (startsGroup .curly) then return some (← namedFields inner)
  else if ← sees (startsGroup .round) then
    placedFields inner
    return none
  else return none

/-- Reads a variant. Its visibility is passed over. -/
def variant (inner : Inner) : Reader Variant := do
  let attributes ← attributes inner.expression
  let _ ← visibility
  let name ← name
  let fields? ← variantFields inner
  let number ← when (startsMark "=") do
    let sign ← mark "="
    return sign ++ (← inner.expression)
  return ⟨attributes, name, fields?, number⟩

/-! Declarations. -/

def enumeration (inner : Inner) (attributes : List Attribute) (visibility : Tokens) :
    Reader Declaration := do
  let _ ← word "enum"
  let name ← name
  let generics ← generics inner
  let conditions ← conditions inner
  let variants ← inside .curly (commaList List.isEmpty (variant inner))
  return .enumeration ⟨attributes, visibility, name, generics, conditions, variants⟩

def structureBody (inner : Inner) : Reader Unit := do
  let conditioned ← sees (startsWord "where")
  let _ ← conditions inner
  if !conditioned && (← sees (startsGroup .round)) then
    placedFields inner
    let _ ← conditions inner
    let _ ← mark ";"
  else if ← sees (startsGroup .curly) then
    let _ ← namedFields inner
  else
    let _ ← mark ";"

def structureDeclaration (inner : Inner) : Reader Declaration := do
  let _ ← word "struct"
  let _ ← name
  let _ ← generics inner
  structureBody inner
  return .record

def unionDeclaration (inner : Inner) : Reader Declaration := do
  let _ ← word "union"
  let _ ← name
  let _ ← generics inner
  let _ ← conditions inner
  let _ ← namedFields inner
  return .record

def declaration (inner : Inner) : Reader Declaration := do
  let attributes ← attributes inner.expression
  let visibility ← visibility
  let tokens ← get
  if startsWord "struct" tokens then structureDeclaration inner
  else if startsWord "enum" tokens then enumeration inner attributes visibility
  else if startsWord "union" tokens then unionDeclaration inner
  else failure

end Reader

def Declaration.parse? (t : Text) : Option Declaration := do
  let tokens ← tokens? t
  Reader.all (Reader.declaration (innerFor tokens)) tokens

end GuidAtlas.ErrorEnum
