import GuidAtlas.ErrorEnum.Declaration

/-!
What is generated for an enumeration of errors: the enumeration with the traits it needs, a trait
that puts errors into a context, and conversions into the variants that wrap a source.
-/

namespace GuidAtlas.ErrorEnum

open Text

inductive Refusal where
  | notEnumeration
  | unnamedFields
  | contextType
  | missingContext
  deriving DecidableEq, Repr

def Refusal.message : Refusal → Text
  | .notEnumeration => "guidex_error can only be applied to enums"
  | .unnamedFields => "guidex_error requires named fields so source/context can be wired"
  | .contextType => "context field must be Option<Cow<'static, str>>"
  | .missingContext =>
    "guidex_error requires `context: Option<Cow<'static, str>>` next to a source field"

def contextName : Text := "context"

def sourceName : Text := "source"

def internalName : Text := "Internal"

def messageName : Text := "message"

/-- Whether a field is called the source or marked as one. -/
def Field.isSource (field : Field) : Bool :=
  field.name = sourceName ||
    field.attributes.any fun a => a.isNamed "source" || a.isNamed "from"

/-- What the generated items need to know about a variant. -/
structure VariantPlan where
  name : Text
  fields : List Text
  /-- The field that holds the source, and its type. -/
  source? : Option (Text × Tokens)
  hasContext : Bool
  /-- The attributes that say when the variant is there. -/
  conditions : Tokens

namespace VariantPlan

def ofVariant (variant : Variant) : Except Refusal VariantPlan :=
  match variant.fields? with
  | none => .error .unnamedFields
  | some items =>
    let fields := items.map (·.1)
    let context? := fields.find? (·.name = contextName)
    if context?.any fun field => !field.type.shape.isOptionalText then .error .contextType
    else
      .ok
        { name := variant.name
          fields := fields.map (·.name)
          source? := (fields.find? Field.isSource).map fun field => (field.name, field.type.tokens)
          hasContext := context?.isSome
          conditions := attributeTokens (variant.attributes.filter (·.isNamed "cfg")) }

def isInternal (plan : VariantPlan) : Bool := plan.name = internalName

/-- Whether there is a source without a place for its context. -/
def lacksContext (plan : VariantPlan) : Bool := plan.source?.isSome && !plan.hasContext

end VariantPlan

/-- A field of a value that is built. A field without a value takes the variable of its name. -/
structure FieldValue where
  name : Text
  value : Option Text

structure Construction where
  owner : Text
  variant : Text
  fields : List FieldValue

/-! Text of the generated code. -/

def block (t : Text) : Text := "\x7b " ++ t ++ " \x7d"

def FieldValue.text (field : FieldValue) : Text :=
  match field.value with
  | some value => field.name ++ ": " ++ value
  | none => field.name

def Construction.text (c : Construction) : Text :=
  c.owner ++ "::" ++ c.variant ++ " " ++ block (join ", " (c.fields.map FieldValue.text))

def borrowedText : Text := "std::borrow::Cow<'static, str>"

def contextParameters : Text := "(self, context: impl Into<" ++ borrowedText ++ ">) -> "

def derivedMark : Text := "#[automatically_derived] "

inductive Item where
  /-- The enumeration with traits added to those it derives. -/
  | declaration (added : List Text) (e : Enumeration)
  | contextTrait (owner traitName : Text)
  /-- The trait for results with the enumeration; an arm for each variant with a context. -/
  | contextMethod (owner traitName : Text) (variants : List VariantPlan)
  /-- Makes a value of the enumeration from the value of a parameter. -/
  | conversion (conditions : Tokens) (isMarked : Bool) (owner parameter type : Text)
    (value : Construction)
  | contextConversion (conditions : Tokens) (owner traitName parameter type : Text)
    (value : Construction)
  | contextFormat

namespace Item

def deriveText (added : List Text) : Text :=
  if added.isEmpty then [] else "#[derive(" ++ join ", " added ++ ")] "

def armText (owner : Text) (plan : VariantPlan) : Text :=
  textOf plan.conditions ++ owner ++ "::" ++ plan.name ++ " " ++ block "context: slot, .." ++
    " => *slot = Some(context.into()), "

def traitText (owner traitName : Text) : Text :=
  "pub trait " ++ traitName ++ "<T> " ++
    block ("fn context" ++ contextParameters ++ "Result<T, " ++ owner ++ ">;")

def methodText (owner traitName : Text) (variants : List VariantPlan) : Text :=
  let arms := (variants.filter (·.hasContext)).flatMap (armText owner)
  let body := "match &mut err " ++ block (arms ++ "_ => " ++ block []) ++ " err"
  derivedMark ++ "impl<T> " ++ traitName ++ "<T> for Result<T, " ++ owner ++ "> " ++
    block ("#[inline] fn context" ++ contextParameters ++ "Self " ++
      block ("self.map_err(|mut err| " ++ block body ++ ")"))

def conversionText (isMarked : Bool) (owner parameter type : Text) (value : Construction) : Text :=
  (if isMarked then derivedMark else []) ++ "impl From<" ++ type ++ "> for " ++ owner ++ " " ++
    block ("#[inline] fn from(" ++ parameter ++ ": " ++ type ++ ") -> Self " ++ block value.text)

def contextConversionText (owner traitName parameter type : Text) (value : Construction) : Text :=
  "impl<T> " ++ traitName ++ "<T> for std::result::Result<T, " ++ type ++ "> " ++
    block ("#[inline] fn context" ++ contextParameters ++ "std::result::Result<T, " ++ owner ++
      "> " ++ block ("self.map_err(|" ++ parameter ++ "| " ++ value.text ++ ")"))

def formatText : Text :=
  "#[allow(dead_code)] fn format_context(context: &Option<" ++ borrowedText ++ ">) -> " ++
    borrowedText ++ " " ++
    block ("context.as_ref().map_or(std::borrow::Cow::Borrowed(\"\"), " ++
      "|c| std::borrow::Cow::Owned(format!(\" (\x7bc\x7d)\")))")

def text : Item → Text
  | declaration added e =>
    "#[allow(non_shorthand_field_patterns)] " ++ deriveText added ++ textOf e.tokens
  | contextTrait owner traitName => traitText owner traitName
  | contextMethod owner traitName variants => methodText owner traitName variants
  | conversion conditions isMarked owner parameter type value =>
    textOf conditions ++ conversionText isMarked owner parameter type value
  | contextConversion conditions owner traitName parameter type value =>
    textOf conditions ++ contextConversionText owner traitName parameter type value
  | contextFormat => formatText

end Item

/-! What is generated for which variants. -/

/-- The traits that an enumeration of errors has to derive, by the name they are looked for and the
path they are added by. -/
def neededTraits : List (Text × Text) := [("Debug", "Debug"), ("Error", "::thiserror::Error")]

def Enumeration.derivedTraits (e : Enumeration) : List Text :=
  (e.attributes.filter (·.isNamed "derive")).flatMap Attribute.listedNames

def Enumeration.missingTraits (e : Enumeration) : List Text :=
  (neededTraits.filter fun (name, _) => !e.derivedTraits.elem name).map (·.2)

/-- The name of the trait with the context method. A raw name loses its mark. -/
def traitNameOf (name : Text) : Text := (afterStart? "r#" name).getD name ++ "Ext"

def sourceItems (owner : Text) (plan : VariantPlan) : List Item :=
  match plan.source? with
  | none => []
  | some (field, type) =>
    if plan.isInternal then []
    else
      let source : FieldValue := ⟨field, none⟩
      [.conversion plan.conditions true owner field (textOf type)
          ⟨"Self", plan.name, [source, ⟨contextName, some "None"⟩]⟩,
        .contextConversion plan.conditions owner (traitNameOf owner) field (textOf type)
          ⟨owner, plan.name, [source, ⟨contextName, some "Some(context.into())"⟩]⟩]

def internalValue (form : Text) : Construction :=
  ⟨"Self", internalName,
    [⟨messageName, some ("std::borrow::Cow::" ++ form ++ "(s)")⟩, ⟨contextName, some "None"⟩]⟩

def internalItems (owner : Text) (plans : List VariantPlan) : List Item :=
  match plans.find? VariantPlan.isInternal with
  | none => []
  | some plan =>
    [.conversion plan.conditions false owner "s" "&'static str" (internalValue "Borrowed"),
      .conversion plan.conditions false owner "s" "String" (internalValue "Owned")]

def itemsFor (e : Enumeration) (plans : List VariantPlan) : List Item :=
  let traitName := traitNameOf e.name
  [.declaration e.missingTraits e, .contextTrait e.name traitName,
      .contextMethod e.name traitName plans] ++
    plans.flatMap (sourceItems e.name) ++ internalItems e.name plans ++ [.contextFormat]

/-- The plans of all variants, unless one of them is refused. -/
def Enumeration.plans (e : Enumeration) : Except Refusal (List VariantPlan) := do
  let plans ← e.variants.mapM fun (variant, _) => VariantPlan.ofVariant variant
  if plans.any VariantPlan.lacksContext then .error .missingContext else .ok plans

def expand : Declaration → Except Refusal (List Item)
  | .record => .error .notEnumeration
  | .enumeration e => e.plans.map (itemsFor e)

end GuidAtlas.ErrorEnum
