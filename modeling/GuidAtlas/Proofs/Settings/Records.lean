import GuidAtlas.Proofs.Except
import GuidAtlas.Proofs.Settings.Layers

/-!
Fields of records that are made of nodes. A field gets the value of its own node, whatever the
others hold, and keeps the standard value without one. So does each of the nine settings, whose node
stands in one of three groups.
-/

namespace GuidAtlas

open Text

namespace Layered

variable {ρ α : Type} {fields : List (Field ρ)} {index : Nat} {name key : Text}
  {convert : Convert α} {get : ρ → α} {record next standard : ρ}

def Field.Keeps (get : ρ → α) (field : Field ρ) : Prop :=
  ∀ record key node next, field.set record key node = .ok next → get next = get record

/-- `get` reads what the field `name` puts, and no other field changes that. -/
structure Reads (fields : List (Field ρ)) (index : Nat) (name : Text) (convert : Convert α)
    (get : ρ → α) : Prop where
  own : ∃ field, fields[index]? = some field ∧ field.name = name ∧
    ∀ record key node next, field.set record key node = .ok next → convert key node = .ok (get next)
  others : ∀ i ≠ index, ∀ field, fields[i]? = some field → field.name ≠ name ∧ field.Keeps get

@[simp] theorem name_field (name : Text) (convert : Convert α) (put : ρ → α → ρ) :
    (field name convert put).name = name := rfl

theorem set_field_eq_ok_iff {put : ρ → α → ρ} {node : Sourced} :
    (field name convert put).set record key node = .ok next ↔
      ∃ a, convert key node = .ok a ∧ put record a = next :=
  map_eq_ok_iff

@[simp] theorem keeps_field {β : Type} {name : Text} {convert : Convert β} {put : ρ → β → ρ}
    (h : ∀ record b, get (put record b) = get record) : (field name convert put).Keeps get := by
  intro record key node next hset
  obtain ⟨b, -, rfl⟩ := set_field_eq_ok_iff.1 hset
  exact h record b

theorem Reads.of_find? (h : Reads fields index name convert get) {field : Field ρ}
    (hfind : fields.find? (·.name = name) = some field) {node : Sourced}
    (hset : field.set record key node = .ok next) : convert key node = .ok (get next) := by
  obtain ⟨own, hown, -, hget⟩ := h.own
  obtain ⟨i, hi⟩ := List.mem_iff_getElem?.1 (List.mem_of_find?_eq_some hfind)
  by_cases hindex : i = index
  case pos =>
    subst hindex
    obtain rfl := Option.some.inj (hi.symm.trans hown)
    exact hget record key node next hset
  case neg =>
    have hname : field.name = name := by simpa using List.find?_some hfind
    exact absurd hname (h.others i hindex field hi).1

theorem Reads.keeps_of_find? (h : Reads fields index name convert get) {other : Text}
    (hother : other ≠ name) {field : Field ρ}
    (hfind : fields.find? (·.name = other) = some field) : field.Keeps get := by
  obtain ⟨own, hown, hname, -⟩ := h.own
  obtain ⟨i, hi⟩ := List.mem_iff_getElem?.1 (List.mem_of_find?_eq_some hfind)
  have hfield : field.name = other := by simpa using List.find?_some hfind
  refine (h.others i ?_ field hi).2
  rintro rfl
  obtain rfl := Option.some.inj (hi.symm.trans hown)
  exact hother (hfield.symm.trans hname)

theorem Reads.exists_find? (h : Reads fields index name convert get) :
    ∃ field, fields.find? (·.name = name) = some field := by
  obtain ⟨own, hown, hname, -⟩ := h.own
  refine Option.isSome_iff_exists.1 (List.find?_isSome.2 ⟨own, List.mem_of_getElem? hown, ?_⟩)
  simpa using hname

theorem Reads.get_of_step (h : Reads fields index name convert get) {other : Text} {node : Sourced}
    {members : List (Text × Sourced)} (hother : other ≠ name)
    (hok : setMembers fields key record ((other, node) :: members) = .ok next) :
    ∃ between, get between = get record ∧ setMembers fields key between members = .ok next := by
  unfold setMembers at hok
  cases hfind : fields.find? (·.name = other) with
  | none =>
      rw [hfind] at hok
      exact ⟨record, rfl, hok⟩
  | some field =>
      rw [hfind] at hok
      obtain ⟨between, hset, hrest⟩ := bind_eq_ok_iff.1 hok
      exact ⟨between, h.keeps_of_find? hother hfind _ _ _ _ hset, hrest⟩

theorem Reads.get_setMembers_of_absent (h : Reads fields index name convert get)
    {members : List (Text × Sourced)} (habsent : ∀ entry ∈ members, entry.1 ≠ name)
    (hok : setMembers fields key record members = .ok next) : get next = get record := by
  induction members generalizing record with
  | nil => rw [Except.ok.inj hok]
  | cons entry members ih =>
      obtain ⟨hentry, hmembers⟩ := List.forall_mem_cons.1 habsent
      obtain ⟨between, hbetween, hrest⟩ := h.get_of_step hentry hok
      rw [ih hmembers hrest, hbetween]

theorem Reads.get_setMembers (h : Reads fields index name convert get)
    {members : List (Text × Sourced)} (hsorted : members.Pairwise (·.1 < ·.1)) {node : Sourced}
    (hmember : members.lookup name = some node)
    (hok : setMembers fields key record members = .ok next) :
    convert (innerKey key name) node = .ok (get next) := by
  induction members generalizing record with
  | nil => cases hmember
  | cons entry members ih =>
      obtain ⟨hfirst, hrest⟩ := List.pairwise_cons.1 hsorted
      obtain ⟨other, inner⟩ := entry
      rw [Directory.lookup_cons_if] at hmember
      by_cases hother : name = other
      case neg =>
        rw [if_neg hother] at hmember
        obtain ⟨between, -, hok⟩ := h.get_of_step (Ne.symm hother) hok
        exact ih hrest hmember hok
      case pos =>
        subst hother
        rw [if_pos rfl] at hmember
        obtain rfl := Option.some.inj hmember
        obtain ⟨field, hfind⟩ := h.exists_find?
        unfold setMembers at hok
        rw [hfind] at hok
        obtain ⟨between, hset, hok⟩ := bind_eq_ok_iff.1 hok
        -- The keys behind are greater, so nothing sets the field again.
        have habsent : ∀ entry ∈ members, entry.1 ≠ name := by
          intro entry hentry heq
          have hlt := hfirst entry hentry
          rw [heq] at hlt
          exact List.lt_irrefl _ hlt
        rw [h.get_setMembers_of_absent habsent hok]
        exact h.of_find? hfind hset

theorem get_setItems {items : List Sourced} {start : Nat}
    (hkeeps : ∀ i < items.length, ∀ field, fields[i]? = some field → field.Keeps get)
    (hok : setItems key record start fields items = .ok next) : get next = get record := by
  induction items generalizing fields start record with
  | nil =>
      cases fields with
      | nil => rw [Except.ok.inj hok]
      | cons field fields => rw [Except.ok.inj hok]
  | cons node items ih =>
      cases fields with
      | nil => rw [Except.ok.inj hok]
      | cons field fields =>
          unfold setItems at hok
          obtain ⟨between, hset, hok⟩ := bind_eq_ok_iff.1 hok
          have hfirst : get between = get record :=
            hkeeps 0 (Nat.succ_pos _) field rfl _ _ _ _ hset
          rw [ih (fun i hi other hother => hkeeps (i + 1) (Nat.succ_lt_succ hi) other hother) hok,
            hfirst]

/-- The field of a record has the value of its node, or the standard value without one. -/
theorem Reads.get_record (h : Reads fields index name convert get) {title : Text} {node : Sourced}
    (hkeyed : node.IsKeyed) (hok : Layered.record title fields standard key node = .ok next) :
    (∀ inner, node.member? name = some inner →
      convert (innerKey key name) inner = .ok (get next)) ∧
    (node.member? name = none → node.item? index = none → get next = get standard) := by
  cases node with
  | leaf value origin => cases hok
  | list items origin =>
      refine ⟨?_, fun _ hitem => ?_⟩
      · intro inner hinner
        cases hinner
      · refine get_setItems (fun i hi field hfield => (h.others i ?_ field hfield).2) hok
        have hlength : items.length ≤ index := List.getElem?_eq_none_iff.1 hitem
        omega
  | table members origin =>
      refine ⟨fun inner hinner => h.get_setMembers hkeyed hinner hok, fun hmember _ => ?_⟩
      have habsent : ∀ entry ∈ members, entry.1 ≠ name := by
        intro entry hentry heq
        have hne := List.lookup_eq_none_iff.1 hmember entry hentry
        rw [heq, bne_self_eq_false] at hne
        cases hne
      exact h.get_setMembers_of_absent habsent hok

theorem Reads.of_eraseIdx {put : ρ → α → ρ}
    (hown : fields[index]? = some (field name convert put))
    (hput : ∀ record a, get (put record a) = a)
    (hothers : ∀ other ∈ fields.eraseIdx index, other.name ≠ name ∧ other.Keeps get) :
    Reads fields index name convert get where
  own := by
    refine ⟨field name convert put, hown, rfl, fun record key node next hset => ?_⟩
    obtain ⟨a, ha, rfl⟩ := set_field_eq_ok_iff.1 hset
    rw [ha, hput]
  others i hi other hother := hothers other (List.mem_eraseIdx_iff_getElem?.2 ⟨i, hi, hother⟩)

/-! Groups of settings. -/

theorem reads_scan : Reads settingsFields 0 "scan" scan Settings.scan :=
  .of_eraseIdx rfl (fun _ _ => rfl) (by simp [settingsFields])

theorem reads_output : Reads settingsFields 1 "export" output Settings.output :=
  .of_eraseIdx rfl (fun _ _ => rfl) (by simp [settingsFields])

theorem reads_logging : Reads settingsFields 2 "logging" logging Settings.logging :=
  .of_eraseIdx rfl (fun _ _ => rfl) (by simp [settingsFields])

theorem Reads.get_settings {title group : Text} {place : Nat} {getGroup : Settings → ρ}
    {root : Sourced} {s : Settings} (h : Reads fields index name convert get)
    (hgroup : Reads settingsFields place group (Layered.record title fields standard) getGroup)
    (hstandard : getGroup .standard = standard) (hroot : root.HasGroups)
    (hok : settings root = .ok s) :
    (∀ inner, root.inner? group name = some inner →
      ∃ key, convert key inner = .ok (get (getGroup s))) ∧
    (root.IsUnset group name index → get (getGroup s) = get standard) := by
  obtain ⟨hsome, hnone⟩ := hgroup.get_record hroot.isKeyed hok
  cases hmember : root.member? group with
  | none =>
      refine ⟨fun inner hinner => ?_, fun _ => ?_⟩
      · rw [Sourced.inner?, hmember] at hinner
        cases hinner
      · obtain ⟨members, origin, rfl⟩ := hroot.isTable
        rw [hnone hmember rfl, hstandard]
  | some node =>
      obtain ⟨hinner, hunset⟩ := h.get_record (hroot.groups group node hmember) (hsome node hmember)
      unfold Sourced.IsUnset Sourced.inner? Sourced.innerItem?
      rw [hmember, Option.bind_some, Option.bind_some]
      exact ⟨fun inner h => ⟨_, hinner inner h⟩, fun h => hunset h.1 h.2⟩

end Layered

/-- A setting: what is written as a field of a group. -/
inductive Setting where
  | sdkPath
  | sdkBuild
  | onlyWinrt
  | subfolders
  | outputDir
  | formats
  | level
  | logPath
  | json
  deriving DecidableEq, Repr

namespace Setting

def group : Setting → Text
  | sdkPath | sdkBuild | onlyWinrt | subfolders => "scan"
  | outputDir | formats => "export"
  | level | logPath | json => "logging"

def name : Setting → Text
  | sdkPath => "sdk_path"
  | sdkBuild => "sdk_build"
  | onlyWinrt => "only_winrt"
  | subfolders => "subfolders"
  | outputDir => "output_dir"
  | formats => "formats"
  | level => "level"
  | logPath => "path"
  | json => "json"

def index : Setting → Nat
  | sdkPath | outputDir | level => 0
  | sdkBuild | formats | logPath => 1
  | onlyWinrt | json => 2
  | subfolders => 3

def Value : Setting → Type
  | sdkPath | outputDir | level => Text
  | sdkBuild => Nat
  | onlyWinrt | json => Bool
  | subfolders => List Text
  | formats => List ExportFormat
  | logPath => Option Text

def get : (σ : Setting) → Settings → σ.Value
  | sdkPath, s => s.scan.sdkPath
  | sdkBuild, s => s.scan.sdkBuild
  | onlyWinrt, s => s.scan.onlyWinrt
  | subfolders, s => s.scan.subfolders
  | outputDir, s => s.output.outputDir
  | formats, s => s.output.formats
  | level, s => s.logging.level
  | logPath, s => s.logging.path
  | json, s => s.logging.json

open Layered in
def convert : (σ : Setting) → Convert σ.Value
  | sdkPath | outputDir | level => text
  | sdkBuild => natural32
  | onlyWinrt | json => bool
  | subfolders => list text
  | formats => list format
  | logPath => optionalText

/-- Whether a path leads to the setting, to a part of it or to the whole group. -/
def Meets (σ : Setting) (path : List KeyStep) : Prop := KeyPath.Meets σ.group σ.name path

instance (σ : Setting) (path : List KeyStep) : Decidable (σ.Meets path) :=
  inferInstanceAs (Decidable (KeyPath.Meets σ.group σ.name path))

def IsUnset (σ : Setting) (root : Sourced) : Prop := root.IsUnset σ.group σ.name σ.index

open Layered in
theorem get_settings (σ : Setting) {root : Sourced} {s : Settings} (hroot : root.HasGroups)
    (hok : settings root = .ok s) :
    (∀ inner, root.inner? σ.group σ.name = some inner →
      ∃ key, σ.convert key inner = .ok (σ.get s)) ∧
    (σ.IsUnset root → σ.get s = σ.get .standard) := by
  cases σ with
  | sdkPath =>
      have h : Reads scanFields 0 "sdk_path" text ScanSettings.sdkPath :=
        .of_eraseIdx rfl (fun _ _ => rfl) (by simp [scanFields])
      exact h.get_settings reads_scan rfl hroot hok
  | sdkBuild =>
      have h : Reads scanFields 1 "sdk_build" natural32 ScanSettings.sdkBuild :=
        .of_eraseIdx rfl (fun _ _ => rfl) (by simp [scanFields])
      exact h.get_settings reads_scan rfl hroot hok
  | onlyWinrt =>
      have h : Reads scanFields 2 "only_winrt" bool ScanSettings.onlyWinrt :=
        .of_eraseIdx rfl (fun _ _ => rfl) (by simp [scanFields])
      exact h.get_settings reads_scan rfl hroot hok
  | subfolders =>
      have h : Reads scanFields 3 "subfolders" (list text) ScanSettings.subfolders :=
        .of_eraseIdx rfl (fun _ _ => rfl) (by simp [scanFields])
      exact h.get_settings reads_scan rfl hroot hok
  | outputDir =>
      have h : Reads outputFields 0 "output_dir" text ExportSettings.outputDir :=
        .of_eraseIdx rfl (fun _ _ => rfl) (by simp [outputFields])
      exact h.get_settings reads_output rfl hroot hok
  | formats =>
      have h : Reads outputFields 1 "formats" (list format) ExportSettings.formats :=
        .of_eraseIdx rfl (fun _ _ => rfl) (by simp [outputFields])
      exact h.get_settings reads_output rfl hroot hok
  | level =>
      have h : Reads loggingFields 0 "level" text LoggingSettings.level :=
        .of_eraseIdx rfl (fun _ _ => rfl) (by simp [loggingFields])
      exact h.get_settings reads_logging rfl hroot hok
  | logPath =>
      have h : Reads loggingFields 1 "path" optionalText LoggingSettings.path :=
        .of_eraseIdx rfl (fun _ _ => rfl) (by simp [loggingFields])
      exact h.get_settings reads_logging rfl hroot hok
  | json =>
      have h : Reads loggingFields 2 "json" bool LoggingSettings.json :=
        .of_eraseIdx rfl (fun _ _ => rfl) (by simp [loggingFields])
      exact h.get_settings reads_logging rfl hroot hok

end Setting

end GuidAtlas
