import GuidAtlas.Proofs.Number.Characters
import GuidAtlas.Proofs.Settings.Records
import GuidAtlas.Settings.Load

/-!
Settings from the environment. A variable for a text is read as a truth value or a number where it
can be, and printed again; the field holds what is printed.
-/

namespace GuidAtlas.Settings

open Text Storage

/-! What a variable is taken for. -/

/-- A text after it was read as a truth value, an integer or a number and printed again. -/
def respelled (v : Text) : Text :=
  if lower v = "true".toList then "true"
  else if lower v = "false".toList then "false"
  else match integer64? v, Binary64.parse? v with
    | some n, _ => decimalOfInt n
    | none, some x => x.text
    | none, none => v

/-- What a text is read as is printed like it: a truth value in small letters, an integer of
sixty-four bits or else a number as the program writes it, or nothing of the kind. -/
def SpellsItself (v : Text) : Prop :=
  if lower v = "true".toList ∨ lower v = "false".toList then lower v = v
  else match integer64? v with
    | some n => decimalOfInt n = v
    | none => ∀ x, Binary64.parse? v = some x → x.text = v

theorem respelled_eq_self_iff (v : Text) : respelled v = v ↔ SpellsItself v := by
  unfold respelled SpellsItself
  by_cases htrue : lower v = "true".toList
  case pos => rw [if_pos htrue, if_pos (.inl htrue), htrue]
  case neg =>
    rw [if_neg htrue]
    by_cases hfalse : lower v = "false".toList
    case pos => rw [if_pos hfalse, if_pos (.inr hfalse), hfalse]
    case neg =>
      rw [if_neg hfalse, if_neg (not_or.2 ⟨htrue, hfalse⟩)]
      cases integer64? v with
      | some n => exact Iff.rfl
      | none =>
          cases Binary64.parse? v with
          | some x => simp
          | none => simp

theorem toLower_mem_of_integer64? {t : Text} {n : Int} (h : integer64? t = some n) :
    ∀ c ∈ t, c.toLower ∈ Binary64.numberChars := by
  have hsmall : ∀ c ∈ Binary64.numberChars, c.toLower ∈ Binary64.numberChars :=
    forall_mem_of_all (by decide)
  intro c hc
  exact hsmall c (Binary64.mem_numberChars_of_signedInteger? (Option.filter_eq_some_iff.1 h).1 c hc)

/-- A text with a character that is in no number is not read as one. -/
theorem spellsItself_of_mem {v : Text} {c : Char} (hc : c ∈ v)
    (hplain : c.toLower ∉ Binary64.numberChars) (htrue : lower v ≠ "true".toList)
    (hfalse : lower v ≠ "false".toList) : SpellsItself v := by
  have hinteger : integer64? v = none :=
    Option.eq_none_iff_forall_ne_some.2 fun n hn => hplain (toLower_mem_of_integer64? hn c hc)
  have hnumber (x : Binary64) : Binary64.parse? v ≠ some x :=
    fun hx => hplain (Binary64.toLower_mem_of_parse? hx c hc)
  unfold SpellsItself
  rw [if_neg (not_or.2 ⟨htrue, hfalse⟩), hinteger]
  exact fun x hx => absurd hx (hnumber x)

/-- The value of a variable that is no list is a leaf, and its text is spelled anew. -/
theorem exists_overlay_valueOfVariable {key : Text} (hkey : listKeys.elem key = false)
    (source : Text) (old : Sourced) (v : Text) :
    ∃ value, Sourced.overlay source old (valueOfVariable key v) = .leaf value (some source) ∧
      Layered.textOf value = .ok (respelled v) := by
  unfold valueOfVariable respelled
  by_cases htrue : lower v = "true".toList
  case pos =>
    rw [if_pos htrue, if_pos htrue]
    exact ⟨.bool true, rfl, rfl⟩
  case neg =>
    rw [if_neg htrue, if_neg htrue]
    by_cases hfalse : lower v = "false".toList
    case pos =>
      rw [if_pos hfalse, if_pos hfalse]
      exact ⟨.bool false, rfl, rfl⟩
    case neg =>
      rw [if_neg hfalse, if_neg hfalse]
      cases integer64? v with
      | some n => exact ⟨.integer n, rfl, rfl⟩
      | none =>
          cases Binary64.parse? v with
          | some x => exact ⟨.float x, rfl, rfl⟩
          | none =>
              show ∃ value, Sourced.overlay source old
                  (if listKeys.elem key then .list ((splitAt ',' v).map .text) else .text v) = _ ∧ _
              rw [hkey]
              exact ⟨.text v, rfl, rfl⟩

/-! Variables and the settings they reach. -/

/-- Whether a variable sets the setting, a part of it or the whole group. -/
def Reaches (name : Text) (σ : Setting) : Prop :=
  ∃ key ∈ keyOfVariable? name, σ.Meets (KeyPath.ofKey key)

instance (name : Text) (σ : Setting) : Decidable (Reaches name σ) :=
  inferInstanceAs (Decidable (∃ _ ∈ _, _))

theorem not_meets_of_mem_variableMembers {σ : Setting} {env : List (Text × Text)}
    (h : ∀ entry ∈ env, ¬ Reaches entry.1 σ) :
    ∀ entry ∈ variableMembers env, ¬ σ.Meets (KeyPath.ofKey entry.1) := by
  intro entry hentry hmeets
  obtain ⟨⟨name, v⟩, hvariable, hmap⟩ := List.mem_filterMap.1 hentry
  obtain ⟨key, hkey, rfl⟩ := Option.map_eq_some_iff.1 hmap
  exact h _ hvariable ⟨key, hkey, hmeets⟩

theorem variableMembers_append_cons {before after : List (Text × Text)} {name v key : Text}
    (hkey : keyOfVariable? name = some key) :
    variableMembers (before ++ (name, v) :: after) =
      variableMembers before ++ (key, valueOfVariable key v) :: variableMembers after := by
  simp only [variableMembers, List.filterMap_append, List.filterMap_cons, hkey, Option.map_some]

def fileLayer (tree : Tree) (path : Option Path) : Except (Fault LoadFault) Sourced :=
  (readFile tree (path.getD defaultFile) path.isSome).map fun (members, origin) =>
    Sourced.layer origin (.table [] none) members

variable {tree : Tree} {path : Option Path} {env : List (Text × Text)} {s : Settings}
  {fromFile : Sourced}

theorem load_eq_ok_iff : load tree path env = .ok s ↔
    ∃ fromFile, fileLayer tree path = .ok fromFile ∧
      Layered.settings (Sourced.layer variableOrigin fromFile (variableMembers env)) = .ok s := by
  unfold load fileLayer
  simp only [bind_eq_ok_iff, map_eq_ok_iff]
  constructor
  · rintro ⟨⟨members, origin⟩, hread, hok⟩
    refine ⟨_, ⟨_, hread, rfl⟩, ?_⟩
    split at hok
    case h_1 settings hsettings => rwa [← Except.ok.inj hok]
    case h_2 => cases hok
  · rintro ⟨-, ⟨⟨members, origin⟩, hread, rfl⟩, hok⟩
    refine ⟨_, hread, ?_⟩
    dsimp only
    rw [hok]
    rfl

theorem hasGroups_fileLayer (h : fileLayer tree path = .ok fromFile) : fromFile.HasGroups := by
  obtain ⟨⟨members, origin⟩, -, rfl⟩ := map_eq_ok_iff.1 h
  have hempty : (Sourced.table [] none).HasGroups := by
    refine ⟨⟨_, _, rfl⟩, .nil, ?_⟩
    intro key group hgroup
    cases hgroup
  exact hempty.layer origin members

/-- A setting keeps its standard value if neither the file nor a variable says anything about it. -/
theorem get_of_isUnset {σ : Setting} (hfile : fileLayer tree path = .ok fromFile)
    (hok : Layered.settings (Sourced.layer variableOrigin fromFile (variableMembers env)) = .ok s)
    (hunset : σ.IsUnset fromFile) (henv : ∀ entry ∈ env, ¬ Reaches entry.1 σ) :
    σ.get s = σ.get .standard := by
  have hroot := (hasGroups_fileLayer hfile).layer variableOrigin (variableMembers env)
  exact (σ.get_settings hroot hok).2 (hunset.layer (not_meets_of_mem_variableMembers henv))

/-! Texts. -/

/-- The settings whose values are texts. -/
inductive TextSetting where
  | sdkPath
  | outputDir
  | level
  | logPath
  deriving DecidableEq, Repr

namespace TextSetting

def setting : TextSetting → Setting
  | sdkPath => .sdkPath
  | outputDir => .outputDir
  | level => .level
  | logPath => .logPath

def variableName : TextSetting → Text
  | sdkPath => "GUIDEX__SCAN__SDK_PATH"
  | outputDir => "GUIDEX__EXPORT__OUTPUT_DIR"
  | level => "GUIDEX__LOGGING__LEVEL"
  | logPath => "GUIDEX__LOGGING__PATH"

def key (σ : TextSetting) : Text := σ.setting.group ++ "." ++ σ.setting.name

def text : TextSetting → Settings → Option Text
  | sdkPath, s => some s.scan.sdkPath
  | outputDir, s => some s.output.outputDir
  | level, s => some s.logging.level
  | logPath, s => s.logging.path

theorem keyOfVariable?_variableName (σ : TextSetting) :
    keyOfVariable? σ.variableName = some σ.key := by
  cases σ <;> decide +kernel

theorem ofKey_key (σ : TextSetting) :
    KeyPath.ofKey σ.key = [.member σ.setting.group, .member σ.setting.name] := by
  cases σ <;> decide +kernel

theorem not_elem_listKeys (σ : TextSetting) : listKeys.elem σ.key = false := by
  cases σ <;> decide +kernel

theorem text_of_convert (σ : TextSetting) {key t : Text} {value : Value} {origin : Option Text}
    (htext : Layered.textOf value = .ok t)
    (hconvert : σ.setting.convert key (.leaf value origin) = .ok (σ.setting.get s)) :
    σ.text s = some t := by
  have hleaf : Layered.text key (.leaf value origin) = .ok t := by
    have hvalue : (Sourced.leaf value origin).toValue = value := by simp [Sourced.toValue]
    unfold Layered.text Layered.ofValue
    rw [hvalue, htext]
  have hoptional : Layered.optionalText key (.leaf value origin) = .ok (some t) := by
    cases value with
    | null => cases htext
    | _ => exact congrArg (·.map some) hleaf
  cases σ with
  | sdkPath => exact congrArg some (Except.ok.inj (hconvert.symm.trans hleaf))
  | outputDir => exact congrArg some (Except.ok.inj (hconvert.symm.trans hleaf))
  | level => exact congrArg some (Except.ok.inj (hconvert.symm.trans hleaf))
  | logPath => exact Except.ok.inj (hconvert.symm.trans hoptional)

theorem text_of_variable (σ : TextSetting) {before after : List (Text × Text)} {name v : Text}
    (hroot : fromFile.HasGroups) (hname : keyOfVariable? name = some σ.key)
    (hafter : ∀ entry ∈ after, ¬ Reaches entry.1 σ.setting)
    (hok : Layered.settings (Sourced.layer variableOrigin fromFile
      (variableMembers (before ++ (name, v) :: after))) = .ok s) :
    σ.text s = some (respelled v) := by
  rw [variableMembers_append_cons hname] at hok
  have hinner : (Sourced.layer variableOrigin fromFile (variableMembers before ++
        (σ.key, valueOfVariable σ.key v) :: variableMembers after)).inner?
      σ.setting.group σ.setting.name = some _ :=
    Sourced.inner?_layer_last σ.ofKey_key (not_meets_of_mem_variableMembers hafter)
  obtain ⟨value, hvalue, htext⟩ := exists_overlay_valueOfVariable σ.not_elem_listKeys
    variableOrigin (((Sourced.layer variableOrigin fromFile (variableMembers before)).inner?
      σ.setting.group σ.setting.name).getD .null) v
  rw [hvalue] at hinner
  obtain ⟨key, hconvert⟩ := (σ.setting.get_settings (hroot.layer _ _) hok).1 _ hinner
  exact σ.text_of_convert htext hconvert

end TextSetting

/-- What settings that were loaded hold, whatever the file says. The last variable for a text
counts, if no later one reaches the setting: the text is the value spelled anew, so it is the value
itself exactly if that spells itself. A setting that neither the file nor a variable reaches has its
standard value. -/
theorem load_fields (tree : Tree) (path : Option Path) (env : List (Text × Text)) (s : Settings)
    (hok : load tree path env = .ok s) :
    (∀ (σ : TextSetting) (before after : List (Text × Text)) (name v : Text),
      env = before ++ (name, v) :: after → keyOfVariable? name = keyOfVariable? σ.variableName →
      (∀ entry ∈ after, ¬ Reaches entry.1 σ.setting) →
        σ.text s = some (respelled v) ∧ (σ.text s = some v ↔ SpellsItself v)) ∧
    ∃ fromFile, fileLayer tree path = .ok fromFile ∧
      ∀ σ : Setting, σ.IsUnset fromFile → (∀ entry ∈ env, ¬ Reaches entry.1 σ) →
        σ.get s = σ.get .standard := by
  obtain ⟨fromFile, hfile, hsettings⟩ := load_eq_ok_iff.1 hok
  constructor
  · rintro σ before after name v rfl hname hafter
    have htext : σ.text s = some (respelled v) := by
      rw [σ.keyOfVariable?_variableName] at hname
      exact σ.text_of_variable (hasGroups_fileLayer hfile) hname hafter hsettings
    refine ⟨htext, ?_⟩
    rw [htext, Option.some_inj]
    exact respelled_eq_self_iff v
  · refine ⟨fromFile, hfile, fun σ hunset henv => ?_⟩
    exact get_of_isUnset hfile hsettings hunset henv

/-- A variable in small letters before one for another setting. -/
theorem load_fields_output_directory :
    let document : Text := "[export]\noutput_dir = \"old\"\n[scan]\nonly_winrt = true\n"
    let tree := Tree.empty.put ["guidex.toml", "work"] (.file (encode document))
    let env : List (Text × Text) :=
      [("guidex__export__output_dir", "new 007"), ("GUIDEX__SCAN__SDK_BUILD", "22621")]
    ∃ s, load tree none env = .ok s ∧ s.output.outputDir = "new 007".toList ∧
      s.logging.level = "info".toList := by
  intro document tree env
  have hload : (load tree none env).toOption.isSome = true := by decide +kernel
  have hplain : SpellsItself "new 007" :=
    spellsItself_of_mem (List.mem_cons_of_mem _ (List.mem_cons_of_mem _ List.mem_cons_self))
      (by decide) (by decide +kernel) (by decide +kernel)
  have hunset : (fileLayer tree none).toOption.any (fun root =>
      (root.inner? "logging" "level").isNone && (root.innerItem? "logging" 0).isNone) = true := by
    decide +kernel
  obtain ⟨s, hs⟩ := Option.isSome_iff_exists.1 hload
  have hok := toOption_eq_some_iff.1 hs
  obtain ⟨htexts, fromFile, hfile, hstandard⟩ := load_fields tree none env s hok
  obtain ⟨-, htext⟩ := htexts .outputDir [] [("GUIDEX__SCAN__SDK_BUILD", "22621")] _ _ rfl
    (by decide +kernel) (by decide +kernel)
  rw [hfile] at hunset
  obtain ⟨hinner, hitem⟩ := Bool.and_eq_true_iff.1 hunset
  have hlevel := hstandard .level
    ⟨Option.isNone_iff_eq_none.1 hinner, Option.isNone_iff_eq_none.1 hitem⟩ (by decide +kernel)
  exact ⟨s, hok, Option.some.inj (htext.2 hplain), hlevel⟩

/-- A directory with a name in digits is another one. -/
theorem load_changes_digits :
    ∃ s, load .empty none [("GUIDEX__EXPORT__OUTPUT_DIR", "007")] = .ok s ∧
      s.output.outputDir = "7".toList ∧ s.output.outputDir ≠ "007".toList := by
  have houtput : (load .empty none [("GUIDEX__EXPORT__OUTPUT_DIR", "007")]).toOption.map
      (·.output.outputDir) = some "7".toList := by decide +kernel
  obtain ⟨s, hs, hdirectory⟩ := Option.map_eq_some_iff.1 houtput
  refine ⟨s, toOption_eq_some_iff.1 hs, hdirectory, ?_⟩
  rw [hdirectory]
  decide

end GuidAtlas.Settings
