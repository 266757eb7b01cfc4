import GuidAtlas.ErrorEnum.Expansion
import GuidAtlas.Proofs.Except
import Mathlib.Data.List.Perm.Basic

/-!
The values that generated conversions build. A conversion lists the source or the message and the
context, whatever other fields the variant has; it is well formed if these are all of them.
Attributes may take variants, fields and conversions away, so all this is said under every choice of
the conditions that hold.
-/

namespace GuidAtlas.ErrorEnum

open Text

/-! Variants and fields. -/

/-- What a name stands for. A raw name stands for the name without its mark. -/
def identifier (name : Text) : Text := (afterStart? "r#" name).getD name

def conditionsOf (attributes : List Attribute) : Tokens :=
  attributeTokens (attributes.filter (·.isNamed "cfg"))

namespace Variant

def fields (v : Variant) : List Field := (v.fields?.getD []).map (·.1)

def context? (v : Variant) : Option Field := v.fields.find? (·.name = contextName)

def source? (v : Variant) : Option Field := v.fields.find? Field.isSource

def isInternal (v : Variant) : Bool := v.name = internalName

/-- What a variant has to look like. -/
structure MeetsRequirements (v : Variant) : Prop where
  named : v.fields?.isSome
  contextType : ∀ field ∈ v.context?, field.type.shape.isOptionalText = true
  contextBesideSource : v.source?.isSome → v.context?.isSome

def fieldsUnder (holds : Tokens → Bool) (v : Variant) : List Text :=
  (v.fields.filter fun field => holds (conditionsOf field.attributes)).map (identifier ·.name)

def plan (v : Variant) : VariantPlan where
  name := v.name
  fields := v.fields.map (·.name)
  source? := v.source?.map fun field => (field.name, field.type.tokens)
  hasContext := v.context?.isSome
  conditions := conditionsOf v.attributes

end Variant

namespace Enumeration

def allVariants (e : Enumeration) : List Variant := e.variants.map (·.1)

def internal? (e : Enumeration) : Option Variant := e.allVariants.find? Variant.isInternal

def variantsUnder (holds : Tokens → Bool) (e : Enumeration) (name : Text) : List Variant :=
  e.allVariants.filter fun v =>
    holds (conditionsOf v.attributes) && identifier v.name = identifier name

/-- There is a variant of the name, and it has exactly the fields, in any order. -/
def Accepts (holds : Tokens → Bool) (e : Enumeration) (name : Text) (fields : List Text) : Prop :=
  e.variantsUnder holds name ≠ [] ∧
    ∀ v ∈ e.variantsUnder holds name, (fields.map identifier).Perm (v.fieldsUnder holds)

end Enumeration

/-! What is accepted. -/

theorem ofVariant_of_fields {v : Variant} (h : v.fields?.isSome) :
    VariantPlan.ofVariant v =
      if v.context?.any fun field => !field.type.shape.isOptionalText then .error .contextType
      else .ok v.plan := by
  obtain ⟨attributes, name, fields?, number⟩ := v
  cases fields? with
  | none => cases h
  | some items => rfl

theorem ofVariant_eq_ok_iff (v : Variant) (plan : VariantPlan) :
    VariantPlan.ofVariant v = .ok plan ↔
      v.fields?.isSome ∧ (∀ field ∈ v.context?, field.type.shape.isOptionalText = true) ∧
        v.plan = plan := by
  by_cases hfields : v.fields?.isSome
  case pos =>
    rw [ofVariant_of_fields hfields, and_iff_right hfields]
    cases v.context? with
    | none => simp
    | some field => cases htype : field.type.shape.isOptionalText <;> simp [htype]
  case neg =>
    have hnone : v.fields? = none := by simpa using hfields
    unfold VariantPlan.ofVariant
    simp [hnone]

theorem lacksContext_plan (v : Variant) :
    v.plan.lacksContext = (v.source?.isSome && !v.context?.isSome) := by
  show ((v.source?.map _).isSome && _) = _
  rw [Option.isSome_map]
  rfl

/-- The enumeration is accepted exactly if all variants meet the requirements, whatever further
fields they have. -/
theorem plans_eq_ok_iff (e : Enumeration) (plans : List VariantPlan) :
    e.plans = .ok plans ↔
      (∀ v ∈ e.allVariants, v.MeetsRequirements) ∧ e.allVariants.map Variant.plan = plans := by
  have hentry (entry : Variant × Bool) (plan : VariantPlan) :
      VariantPlan.ofVariant entry.1 = .ok plan ↔
        (entry.1.fields?.isSome ∧
          ∀ field ∈ entry.1.context?, field.type.shape.isOptionalText = true) ∧
        entry.1.plan = plan := by
    rw [ofVariant_eq_ok_iff, and_assoc]
  have hplans : e.variants.map (fun entry => entry.1.plan) = e.allVariants.map Variant.plan := by
    rw [Enumeration.allVariants, List.map_map]
    rfl
  unfold Enumeration.plans
  simp only [bind_eq_ok_iff, mapM_eq_ok_iff hentry, hplans]
  constructor
  · rintro ⟨-, ⟨hshape, rfl⟩, hok⟩
    split at hok
    case isTrue => cases hok
    case isFalse hlacks =>
      refine ⟨?_, Except.ok.inj hok⟩
      intro v hv
      obtain ⟨entry, hentry, rfl⟩ := List.mem_map.1 hv
      obtain ⟨hnamed, htype⟩ := hshape entry hentry
      refine ⟨hnamed, htype, fun hsource => ?_⟩
      have hplan : ¬ entry.1.plan.lacksContext = true := fun hlack =>
        hlacks (List.any_eq_true.2 ⟨_, List.mem_map_of_mem hv, hlack⟩)
      rw [lacksContext_plan, hsource, Bool.true_and, Bool.not_eq_true, Bool.not_eq_false'] at hplan
      exact hplan
  · rintro ⟨hmeets, rfl⟩
    refine ⟨_, ⟨fun entry hentry => ?_, rfl⟩, if_neg ?_⟩
    · have hv := hmeets entry.1 (List.mem_map_of_mem hentry)
      exact ⟨hv.named, hv.contextType⟩
    · intro hany
      obtain ⟨plan, hplan, hlack⟩ := List.any_eq_true.1 hany
      obtain ⟨v, hv, rfl⟩ := List.mem_map.1 hplan
      rw [lacksContext_plan] at hlack
      obtain ⟨hsource, hcontext⟩ := Bool.and_eq_true_iff.1 hlack
      rw [(hmeets v hv).contextBesideSource hsource] at hcontext
      cases hcontext

theorem expand_eq_ok_iff (e : Enumeration) (items : List Item) :
    expand (.enumeration e) = .ok items ↔
      (∀ v ∈ e.allVariants, v.MeetsRequirements) ∧
        itemsFor e (e.allVariants.map Variant.plan) = items := by
  show e.plans.map (itemsFor e) = .ok items ↔ _
  rw [map_eq_ok_iff]
  simp only [plans_eq_ok_iff]
  constructor
  · rintro ⟨-, ⟨hmeets, rfl⟩, hitems⟩
    exact ⟨hmeets, hitems⟩
  · rintro ⟨hmeets, hitems⟩
    exact ⟨_, ⟨hmeets, rfl⟩, hitems⟩

/-! What is built. -/

/-- The value that an item builds, and when the item is there. -/
def Item.builds? : Item → Option (Tokens × Construction)
  | conversion conditions _ _ _ _ value => some (conditions, value)
  | contextConversion conditions _ _ _ _ value => some (conditions, value)
  | _ => none

def sourceValue (owner variant source context : Text) : Construction :=
  ⟨owner, variant, [⟨source, none⟩, ⟨contextName, some context⟩]⟩

theorem exists_builds_pair {first second : Item} {conditions given : Tokens}
    {c value other : Construction} (hfirst : first.builds? = some (given, value))
    (hsecond : second.builds? = some (given, other)) :
    (∃ item ∈ [first, second], item.builds? = some (conditions, c)) ↔
      conditions = given ∧ (c = value ∨ c = other) := by
  simp only [List.exists_mem_cons_iff, hfirst, hsecond, Option.some_inj, Prod.mk.injEq]
  simp [eq_comm, and_or_left]

theorem builds_sourceItems_iff (owner : Text) (v : Variant) (conditions : Tokens)
    (c : Construction) :
    (∃ item ∈ sourceItems owner v.plan, item.builds? = some (conditions, c)) ↔
      v.isInternal = false ∧ conditions = conditionsOf v.attributes ∧
        ∃ source, v.source? = some source ∧
          (c = sourceValue "Self" v.name source.name "None" ∨
            c = sourceValue owner v.name source.name "Some(context.into())") := by
  have hinternal : v.plan.isInternal = v.isInternal := rfl
  have hsource : v.plan.source? = v.source?.map fun field => (field.name, field.type.tokens) := rfl
  unfold sourceItems
  rw [hsource, hinternal]
  cases v.source? with
  | none => simp
  | some source =>
      cases v.isInternal with
      | true => simp
      | false =>
          refine (exists_builds_pair rfl rfl).trans ?_
          simp [sourceValue, Variant.plan]

theorem builds_internalItems_iff (e : Enumeration) (conditions : Tokens) (c : Construction) :
    (∃ item ∈ internalItems e.name (e.allVariants.map Variant.plan),
        item.builds? = some (conditions, c)) ↔
      ∃ v, e.internal? = some v ∧ conditions = conditionsOf v.attributes ∧
        (c = internalValue "Borrowed" ∨ c = internalValue "Owned") := by
  have hfind : (e.allVariants.map Variant.plan).find? VariantPlan.isInternal =
      e.internal?.map Variant.plan := List.find?_map
  unfold internalItems
  rw [hfind]
  cases e.internal? with
  | none => simp
  | some v =>
      refine (exists_builds_pair rfl rfl).trans ?_
      simp [Variant.plan]

/-- Only the conversions build values. -/
theorem mem_itemsFor_iff {e : Enumeration} {plans : List VariantPlan} {item : Item}
    (h : item.builds?.isSome) :
    item ∈ itemsFor e plans ↔
      (∃ plan ∈ plans, item ∈ sourceItems e.name plan) ∨ item ∈ internalItems e.name plans := by
  unfold itemsFor
  simp only [List.mem_append, List.mem_cons, List.mem_flatMap, List.not_mem_nil, or_false]
  constructor
  · rintro ((((rfl | rfl | rfl) | hsource) | hinternal) | rfl)
    · cases h
    · cases h
    · cases h
    · exact .inl hsource
    · exact .inr hinternal
    · cases h
  · rintro (hsource | hinternal)
    · exact .inl (.inl (.inr hsource))
    · exact .inl (.inr hinternal)

theorem builds_itemsFor_iff (e : Enumeration) (conditions : Tokens) (c : Construction) :
    (∃ item ∈ itemsFor e (e.allVariants.map Variant.plan), item.builds? = some (conditions, c)) ↔
      (∃ v ∈ e.allVariants, v.isInternal = false ∧ conditions = conditionsOf v.attributes ∧
        ∃ source, v.source? = some source ∧
          (c = sourceValue "Self" v.name source.name "None" ∨
            c = sourceValue e.name v.name source.name "Some(context.into())")) ∨
      ∃ v, e.internal? = some v ∧ conditions = conditionsOf v.attributes ∧
        (c = internalValue "Borrowed" ∨ c = internalValue "Owned") := by
  rw [← builds_internalItems_iff]
  simp only [← builds_sourceItems_iff]
  constructor
  · rintro ⟨item, hitem, hbuilds⟩
    rcases (mem_itemsFor_iff (by rw [hbuilds]; rfl)).1 hitem with ⟨plan, hplan, hitem⟩ | hitem
    · obtain ⟨v, hv, rfl⟩ := List.mem_map.1 hplan
      exact .inl ⟨v, hv, item, hitem, hbuilds⟩
    · exact .inr ⟨item, hitem, hbuilds⟩
  · rintro (⟨v, hv, item, hitem, hbuilds⟩ | ⟨item, hitem, hbuilds⟩)
    · refine ⟨item, (mem_itemsFor_iff (by rw [hbuilds]; rfl)).2 (.inl ?_), hbuilds⟩
      exact ⟨v.plan, List.mem_map_of_mem hv, hitem⟩
    · exact ⟨item, (mem_itemsFor_iff (by rw [hbuilds]; rfl)).2 (.inr hitem), hbuilds⟩

namespace Enumeration

/-- Every value that is built under the conditions that hold is one of the enumeration. -/
def BuildsCompletely (holds : Tokens → Bool) (e : Enumeration) (items : List Item) : Prop :=
  ∀ item ∈ items, ∀ conditions c, item.builds? = some (conditions, c) → holds conditions = true →
    e.Accepts holds c.variant (c.fields.map (·.name))

/-- The variants that are built from a source have the source and the context only, and those that
are built from a message the message and the context. -/
def FitsConversions (holds : Tokens → Bool) (e : Enumeration) : Prop :=
  (∀ v ∈ e.allVariants, holds (conditionsOf v.attributes) = true → v.isInternal = false →
    ∀ source ∈ v.source?, ∀ w ∈ e.variantsUnder holds v.name,
      [identifier source.name, contextName].Perm (w.fieldsUnder holds)) ∧
  ∀ v ∈ e.internal?, holds (conditionsOf v.attributes) = true →
    ∀ w ∈ e.variantsUnder holds internalName,
      [messageName, contextName].Perm (w.fieldsUnder holds)

instance (holds : Tokens → Bool) (e : Enumeration) : Decidable (e.FitsConversions holds) :=
  inferInstanceAs (Decidable (_ ∧ _))

variable {holds : Tokens → Bool} {e : Enumeration}

theorem mem_variantsUnder_self {v : Variant} (hv : v ∈ e.allVariants)
    (hholds : holds (conditionsOf v.attributes) = true) : v ∈ e.variantsUnder holds v.name :=
  List.mem_filter.2 ⟨hv, by simp [hholds]⟩

/-- A value of a variant that is there is one of the enumeration if the fields fit. -/
theorem accepts_iff {v : Variant} (hv : v ∈ e.allVariants)
    (hholds : holds (conditionsOf v.attributes) = true) (fields : List Text) :
    e.Accepts holds v.name fields ↔
      ∀ w ∈ e.variantsUnder holds v.name, (fields.map identifier).Perm (w.fieldsUnder holds) :=
  and_iff_right (List.ne_nil_of_mem (mem_variantsUnder_self hv hholds))

theorem buildsCompletely_itemsFor_iff (holds : Tokens → Bool) (e : Enumeration) :
    e.BuildsCompletely holds (itemsFor e (e.allVariants.map Variant.plan)) ↔
      e.FitsConversions holds := by
  have hbuilt : e.BuildsCompletely holds (itemsFor e (e.allVariants.map Variant.plan)) ↔
      ∀ conditions c, (∃ item ∈ itemsFor e (e.allVariants.map Variant.plan),
        item.builds? = some (conditions, c)) → holds conditions = true →
          e.Accepts holds c.variant (c.fields.map (·.name)) := by
    constructor
    · rintro h conditions c ⟨item, hitem, hbuilds⟩
      exact h item hitem conditions c hbuilds
    · intro h item hitem conditions c hbuilds
      exact h conditions c ⟨item, hitem, hbuilds⟩
  have hinternal {v : Variant} (hv : v ∈ e.internal?) :
      v ∈ e.allVariants ∧ v.name = internalName := by
    have hname : v.isInternal = true := List.find?_some hv
    exact ⟨List.mem_of_find?_eq_some hv, of_decide_eq_true hname⟩
  rw [hbuilt]
  simp only [builds_itemsFor_iff]
  constructor
  · intro h
    refine ⟨fun v hv hholds hname source hsource => ?_, fun v hv hholds => ?_⟩
    · exact (accepts_iff hv hholds _).1
        (h _ _ (.inl ⟨v, hv, hname, rfl, source, hsource, .inl rfl⟩) hholds)
    · obtain ⟨hmem, hname⟩ := hinternal hv
      have haccepts := h _ _ (.inr ⟨v, hv, rfl, .inl rfl⟩) hholds
      rw [← hname]
      exact (accepts_iff hmem hholds _).1 (by rwa [hname])
  · rintro ⟨hsources, hmessages⟩ conditions c hc hholds
    rcases hc with ⟨v, hv, hname, rfl, source, hsource, hvalue⟩ | ⟨v, hv, rfl, hvalue⟩
    · have haccepts := (accepts_iff hv hholds [source.name, contextName]).2
        (hsources v hv hholds hname source hsource)
      obtain rfl | rfl := hvalue
      · exact haccepts
      · exact haccepts
    · obtain ⟨hmem, hname⟩ := hinternal hv
      have haccepts := (accepts_iff hmem hholds [messageName, contextName]).2
        (by rw [hname]; exact hmessages v hv hholds)
      rw [hname] at haccepts
      obtain rfl | rfl := hvalue
      · exact haccepts
      · exact haccepts

/-- An enumeration is accepted if its variants have named fields, contexts of the right type and a
context beside each source, whatever further fields they have. What is then built is complete
exactly if there are no further ones where it is built. -/
theorem expand_buildsCompletely_iff (e : Enumeration) :
    ((∃ items, expand (.enumeration e) = .ok items) ↔
      ∀ v ∈ e.allVariants, v.MeetsRequirements) ∧
    ∀ items, expand (.enumeration e) = .ok items → ∀ holds : Tokens → Bool,
      (e.BuildsCompletely holds items ↔ e.FitsConversions holds) := by
  constructor
  · constructor
    · rintro ⟨items, hitems⟩
      exact ((expand_eq_ok_iff e items).1 hitems).1
    · exact fun hmeets => ⟨_, (expand_eq_ok_iff e _).2 ⟨hmeets, rfl⟩⟩
  · intro items hitems holds
    obtain ⟨-, rfl⟩ := (expand_eq_ok_iff e items).1 hitems
    exact buildsCompletely_itemsFor_iff holds e

/-- Whether a text declares an enumeration that is accepted and of which `p` holds. -/
def declares (p : Enumeration → Bool) (t : Text) : Bool :=
  (Declaration.parse? t).any fun
    | .enumeration e => (expand (.enumeration e)).toOption.isSome && p e
    | .record => false

theorem exists_of_declares {p : Enumeration → Bool} {t : Text} (h : declares p t = true) :
    ∃ e items, Declaration.parse? t = some (.enumeration e) ∧
      expand (.enumeration e) = .ok items ∧ p e = true := by
  obtain ⟨declaration, hparse, hdeclared⟩ := (Option.any_eq_true _ _).1 h
  cases declaration with
  | record => cases hdeclared
  | enumeration e =>
      obtain ⟨haccepted, hp⟩ := Bool.and_eq_true_iff.1 hdeclared
      obtain ⟨items, hitems⟩ := Option.isSome_iff_exists.1 haccepted
      exact ⟨e, items, hparse, toOption_eq_some_iff.1 hitems, hp⟩

/-- A source by its mark and fields in another order. -/
theorem buildsCompletely_two_variants :
    let t : Text := "enum E \x7b" ++
      "Io \x7b #[from] cause: io::Error, context: Option<Cow<'static, str>> \x7d, " ++
      "Internal \x7b context: Option<Cow<'static, str>>, message: Cow<'static, str> \x7d \x7d"
    ∃ e items, Declaration.parse? t = some (.enumeration e) ∧
      expand (.enumeration e) = .ok items ∧ e.BuildsCompletely (fun _ => true) items := by
  intro t
  have hdeclares : declares (fun e => e.FitsConversions fun _ => true) t = true := by
    decide +kernel
  obtain ⟨e, items, hparse, hexpand, hfits⟩ := exists_of_declares hdeclares
  have hcomplete := (expand_buildsCompletely_iff e).2 items hexpand fun _ => true
  exact ⟨e, items, hparse, hexpand, hcomplete.2 (of_decide_eq_true hfits)⟩

/-- A message without a place for its context is accepted, and built with a context. -/
theorem not_buildsCompletely_bare_message :
    let t : Text := "enum E \x7b Internal \x7b message: Cow<'static, str> \x7d \x7d"
    ∃ e items, Declaration.parse? t = some (.enumeration e) ∧
      expand (.enumeration e) = .ok items ∧ ¬ e.BuildsCompletely (fun _ => true) items := by
  intro t
  have hdeclares : declares (fun e => ! e.FitsConversions fun _ => true) t = true := by
    decide +kernel
  obtain ⟨e, items, hparse, hexpand, hfits⟩ := exists_of_declares hdeclares
  refine ⟨e, items, hparse, hexpand, ?_⟩
  obtain ⟨-, rfl⟩ := (expand_eq_ok_iff e items).1 hexpand
  rw [buildsCompletely_itemsFor_iff]
  simpa using hfits

end Enumeration

end GuidAtlas.ErrorEnum
