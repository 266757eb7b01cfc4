import GuidAtlas.Proofs.Directory
import GuidAtlas.Settings.Layered

/-!
What a layer does to a setting, which stands under two names in tables or at an index of a list. A
value whose path leads elsewhere leaves the setting alone, except that it may drop a list.
-/

namespace GuidAtlas

open Text

namespace KeyPath

/-- Whether a path leads to the setting `name` in `group`, to a part of it or to the whole group.
A subscript behind the group makes it a list. -/
def Meets (group name : Text) : List KeyStep → Prop
  | .member g :: .member n :: _ => g = group ∧ n = name
  | .member g :: _ => g = group
  | _ => True

instance (group name : Text) : (path : List KeyStep) → Decidable (Meets group name path)
  | [] | .item _ :: _ => isTrue trivial
  | [.member g] | .member g :: .item _ :: _ => inferInstanceAs (Decidable (g = group))
  | .member g :: .member n :: _ => inferInstanceAs (Decidable (g = group ∧ n = name))

theorem exists_ofKey_eq (key : Text) : ∃ name path, ofKey key = .member name :: path := by
  unfold ofKey
  cases hparse : parse? key with
  | none => exact ⟨key, [], rfl⟩
  | some path =>
      unfold parse? at hparse
      obtain ⟨⟨name, t⟩, -, hsteps⟩ := Option.bind_eq_some_iff.1 hparse
      obtain ⟨rest, -, hpath⟩ := Option.bind_eq_some_iff.1 hsteps
      exact ⟨name, rest, (Option.some.inj hpath).symm⟩

end KeyPath

namespace Sourced

/-! Parts of a node. -/

def member? : Sourced → Text → Option Sourced
  | .table members _, key => members.lookup key
  | _, _ => none

def item? : Sourced → Nat → Option Sourced
  | .list items _, index => items[index]?
  | _, _ => none

def inner? (root : Sourced) (group name : Text) : Option Sourced :=
  (root.member? group).bind (·.member? name)

/-- What stands at an index in the list that is written for a group. -/
def innerItem? (root : Sourced) (group : Text) (index : Nat) : Option Sourced :=
  (root.member? group).bind (·.item? index)

/-- Neither a table nor a list says anything about the setting. -/
def IsUnset (root : Sourced) (group name : Text) (index : Nat) : Prop :=
  root.inner? group name = none ∧ root.innerItem? group index = none

variable {f : Sourced → Sourced} {root node : Sourced} {group name : Text} {path : List KeyStep}

theorem lookup_asTable (node : Sourced) (key : Text) :
    node.asTable.1.lookup key = node.member? key := by
  cases node <;> rfl

theorem member?_changeAt (f : Sourced → Sourced) (key other : Text) (path : List KeyStep)
    (node : Sourced) :
    (changeAt f (.member key :: path) node).member? other =
      if other = key then some (changeAt f path ((node.member? key).getD null))
      else node.member? other := by
  rw [← lookup_asTable node other, ← lookup_asTable node key]
  exact Directory.lookup_insertInto key other _ _

theorem item?_changeAt (f : Sourced → Sourced) (key : Text) (path : List KeyStep) (node : Sourced)
    (index : Nat) : (changeAt f (.member key :: path) node).item? index = none := rfl

theorem member?_getD_null (node? : Option Sourced) (key : Text) :
    (node?.getD null).member? key = node?.bind (·.member? key) := by
  cases node? <;> rfl

/-- A path that does not lead to the setting leaves its group alone or changes another member of the
group. -/
theorem member?_changeAt_of_not_meets (h : ¬ KeyPath.Meets group name path) :
    (changeAt f path root).member? group = root.member? group ∨
      ∃ other rest, name ≠ other ∧ (changeAt f path root).member? group =
        some (changeAt f (.member other :: rest) ((root.member? group).getD null)) := by
  match path, h with
  | [], h => exact absurd trivial h
  | .item index :: path, h => exact absurd trivial h
  | [.member g], h => exact .inl ((member?_changeAt ..).trans (if_neg fun heq => h heq.symm))
  | .member g :: .item index :: path, h =>
      exact .inl ((member?_changeAt ..).trans (if_neg fun heq => h heq.symm))
  | .member g :: .member other :: rest, h =>
      rw [member?_changeAt]
      by_cases hgroup : group = g
      case neg => exact .inl (if_neg hgroup)
      case pos =>
        subst hgroup
        exact .inr ⟨other, rest, fun heq => h ⟨rfl, heq.symm⟩, if_pos rfl⟩

theorem inner?_changeAt_of_not_meets (h : ¬ KeyPath.Meets group name path) :
    (changeAt f path root).inner? group name = root.inner? group name := by
  unfold inner?
  rcases member?_changeAt_of_not_meets h with
    hgroup | ⟨other, rest, hne, hgroup⟩
  · rw [hgroup]
  · rw [hgroup, Option.bind_some, member?_changeAt, if_neg hne, member?_getD_null]

/-- What stands in a list stays there, or the list gives way to a table. -/
theorem innerItem?_changeAt_of_not_meets (h : ¬ KeyPath.Meets group name path) (index : Nat) :
    (changeAt f path root).innerItem? group index = root.innerItem? group index ∨
      (changeAt f path root).innerItem? group index = none := by
  unfold innerItem?
  rcases member?_changeAt_of_not_meets h with
    hgroup | ⟨other, rest, -, hgroup⟩
  · exact .inl (by rw [hgroup])
  · exact .inr (by rw [hgroup, Option.bind_some, item?_changeAt])

theorem IsUnset.changeAt {index : Nat} (hunset : root.IsUnset group name index)
    (h : ¬ KeyPath.Meets group name path) :
    (changeAt f path root).IsUnset group name index := by
  refine ⟨(inner?_changeAt_of_not_meets h).trans hunset.1, ?_⟩
  rcases innerItem?_changeAt_of_not_meets h index with hitem | hitem
  · exact hitem.trans hunset.2
  · exact hitem

theorem inner?_changeAt_self (f : Sourced → Sourced) (root : Sourced) (group name : Text) :
    (changeAt f [.member group, .member name] root).inner? group name =
      some (f ((root.inner? group name).getD null)) := by
  rw [inner?, member?_changeAt, if_pos rfl, Option.bind_some, member?_changeAt, if_pos rfl,
    member?_getD_null]
  rfl

/-! Tables keep their members in order. -/

def IsKeyed : Sourced → Prop
  | .table members _ => members.Pairwise (·.1 < ·.1)
  | _ => True

/-- A table of groups, which has no group twice, nor has one of them a member twice. -/
structure HasGroups (root : Sourced) : Prop where
  isTable : ∃ members origin, root = .table members origin
  isKeyed : root.IsKeyed
  groups : ∀ key group, root.member? key = some group → group.IsKeyed

theorem IsKeyed.asTable (h : node.IsKeyed) : node.asTable.1.Pairwise (·.1 < ·.1) := by
  cases node with
  | leaf value origin => exact .nil
  | list items origin => exact .nil
  | table members origin => exact h

theorem pairwise_overlayAll (source : Text) (values : List (Text × Value))
    {members : List (Text × Sourced)} (h : members.Pairwise (·.1 < ·.1)) :
    (overlayAll source members values).Pairwise (·.1 < ·.1) := by
  induction values generalizing members with
  | nil => exact h
  | cons value values ih => exact ih (Directory.pairwise_insertInto _ _ h)

theorem IsKeyed.overlay (h : node.IsKeyed) (source : Text) (value : Value) :
    (overlay source node value).IsKeyed := by
  cases value with
  | table values => exact pairwise_overlayAll source values h.asTable
  | list items => exact trivial
  | null => exact trivial
  | bool b => exact trivial
  | integer n => exact trivial
  | float x => exact trivial
  | text t => exact trivial

theorem IsKeyed.changeAt (hf : ∀ old : Sourced, old.IsKeyed → (f old).IsKeyed) (h : node.IsKeyed)
    (path : List KeyStep) : (changeAt f path node).IsKeyed := by
  match path with
  | [] => exact hf node h
  | .member key :: path => exact Directory.pairwise_insertInto _ _ h.asTable
  | .item index :: path => exact trivial

theorem IsKeyed.getD_null {node? : Option Sourced} (h : ∀ node ∈ node?, node.IsKeyed) :
    (node?.getD null).IsKeyed := by
  cases node? with
  | none => exact trivial
  | some node => exact h node rfl

theorem HasGroups.changeAt (hf : ∀ old : Sourced, old.IsKeyed → (f old).IsKeyed)
    (h : root.HasGroups) (key : Text) (path : List KeyStep) :
    (changeAt f (.member key :: path) root).HasGroups where
  isTable := ⟨_, _, rfl⟩
  isKeyed := h.isKeyed.changeAt hf _
  groups other group hgroup := by
    rw [member?_changeAt] at hgroup
    split at hgroup
    case isTrue =>
      rw [← Option.some.inj hgroup]
      exact (IsKeyed.getD_null (h.groups key)).changeAt hf path
    case isFalse => exact h.groups other group hgroup

/-! Layers. -/

variable {source : Text} {members : List (Text × Value)}

theorem layer_cons (source : Text) (root : Sourced) (entry : Text × Value)
    (members : List (Text × Value)) :
    layer source root (entry :: members) =
      layer source (changeAt (overlay source · entry.2) (KeyPath.ofKey entry.1) root) members := rfl

theorem layer_append (source : Text) (root : Sourced) (before after : List (Text × Value)) :
    layer source root (before ++ after) = layer source (layer source root before) after :=
  List.foldl_append

theorem HasGroups.layer (h : root.HasGroups) (source : Text) (members : List (Text × Value)) :
    (layer source root members).HasGroups := by
  induction members generalizing root with
  | nil => exact h
  | cons entry members ih =>
      obtain ⟨name, path, hpath⟩ := KeyPath.exists_ofKey_eq entry.1
      rw [layer_cons, hpath]
      exact ih (h.changeAt (fun old hold => hold.overlay source entry.2) name path)

theorem inner?_layer_of_not_meets
    (h : ∀ entry ∈ members, ¬ KeyPath.Meets group name (KeyPath.ofKey entry.1)) :
    (layer source root members).inner? group name = root.inner? group name := by
  induction members generalizing root with
  | nil => rfl
  | cons entry members ih =>
      obtain ⟨hentry, hmembers⟩ := List.forall_mem_cons.1 h
      rw [layer_cons, ih hmembers, inner?_changeAt_of_not_meets hentry]

theorem IsUnset.layer {index : Nat} (hunset : root.IsUnset group name index)
    (h : ∀ entry ∈ members, ¬ KeyPath.Meets group name (KeyPath.ofKey entry.1)) :
    (layer source root members).IsUnset group name index := by
  induction members generalizing root with
  | nil => exact hunset
  | cons entry members ih =>
      obtain ⟨hentry, hmembers⟩ := List.forall_mem_cons.1 h
      rw [layer_cons]
      exact ih (hunset.changeAt hentry) hmembers

/-- The last value for a setting is laid over what stands there, and is not touched again. -/
theorem inner?_layer_last {before after : List (Text × Value)} {key : Text} {value : Value}
    (hkey : KeyPath.ofKey key = [.member group, .member name])
    (hafter : ∀ entry ∈ after, ¬ KeyPath.Meets group name (KeyPath.ofKey entry.1)) :
    (layer source root (before ++ (key, value) :: after)).inner? group name =
      some (overlay source (((layer source root before).inner? group name).getD null) value) := by
  rw [layer_append, layer_cons, inner?_layer_of_not_meets hafter, hkey, inner?_changeAt_self]

end Sourced

end GuidAtlas
