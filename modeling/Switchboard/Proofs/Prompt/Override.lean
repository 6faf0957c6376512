import Switchboard.Proofs.Config.Settled
import Switchboard.Proofs.Files.Boundary

/-!
Settings in front of a prompt, and what they make of the model that the prompt chooses.

* `FieldType.Fits` — the values that a field of a model can have once it was checked;
* `exists_ofModel_iff` — a choice is that of a model exactly when each of its fields fits;
* `Fronts`, `resolve_eq_ok` — the settings that stand in front of a prompt, and the choice that they leave;
* `resolve_restored_iff` — this choice is read again as the same model exactly when each setting that names a
  field of the model fits it;
* `resolve_untyped` — it need not.

A model is read with checks that turn many a value into one that fits. Settings in front of a prompt pass none
of these checks, so a text stays where a number belongs.
-/
namespace Switchboard.Prompt

open Config (Model)

/-! ### Types of fields -/

/-- What a field of a model is declared to be. -/
inductive FieldType where
  | text
  | optionalText
  | optionalNumber
  | optionalInteger

/-- Whether a value is of a type, and not merely read as one. -/
def FieldType.Fits : FieldType → Value → Prop
  | .text, v => ∃ s, v = .str s
  | .optionalText, v => v = .null ∨ ∃ s, v = .str s
  | .optionalNumber, v => v = .null ∨ ∃ x, v = .float x
  | .optionalInteger, v => v = .null ∨ ∃ n, v = .int n

/-- The fields of a model with their types. -/
def declared : List (String × FieldType) :=
  Model.fieldNames.zip [.text, .optionalText, .optionalText, .text, .optionalText, .optionalNumber,
    .optionalInteger]

theorem fits_optionalText (o : Option String) : FieldType.optionalText.Fits (Config.optionalText o) := by
  cases o with
  | none => exact .inl rfl
  | some s => exact .inr ⟨s, rfl⟩

theorem exists_optionalText {v : Value} (h : FieldType.optionalText.Fits v) :
    ∃ o, Config.optionalText o = v := by
  rcases h with rfl | ⟨s, rfl⟩
  · exact ⟨none, rfl⟩
  · exact ⟨some s, rfl⟩

/-- A value in the place of one that fits does so exactly when it fits itself. -/
theorem fits_getD {t : FieldType} {own : Value} (hown : t.Fits own) (o : Option Value) :
    t.Fits (o.getD own) ↔ ∀ v, o = some v → t.Fits v := by
  cases o with
  | none => simp [hown]
  | some v => simp

/-! ### Choices -/

namespace Choice

/-- Each field of a choice fits. -/
structure IsTyped (c : Choice) : Prop where
  provider : FieldType.text.Fits c.provider
  address : FieldType.optionalText.Fits c.address
  key : FieldType.optionalText.Fits c.key
  keyVariable : FieldType.text.Fits c.keyVariable
  name : FieldType.optionalText.Fits c.name
  temperature : FieldType.optionalNumber.Fits c.temperature
  maxTokens : FieldType.optionalInteger.Fits c.maxTokens

theorem isTyped_ofModel (m : Model) : (ofModel m).IsTyped := by
  refine ⟨⟨_, rfl⟩, fits_optionalText _, fits_optionalText _, ⟨_, rfl⟩, fits_optionalText _, ?_, ?_⟩
  · rw [ofModel]
    cases m.temperature with
    | none => exact .inl rfl
    | some x => exact .inr ⟨x, rfl⟩
  · rw [ofModel]
    cases m.maxTokens with
    | none => exact .inl rfl
    | some n => exact .inr ⟨n, rfl⟩

/-- A choice of fields that fit is that of a model. -/
theorem exists_ofModel_iff {c : Choice} : (∃ m, ofModel m = c) ↔ c.IsTyped := by
  constructor
  · rintro ⟨m, rfl⟩
    exact isTyped_ofModel m
  · obtain ⟨provider, address, key, keyVariable, name, temperature, maxTokens⟩ := c
    rintro ⟨⟨provider, rfl⟩, haddress, hkey, ⟨keyVariable, rfl⟩, hname, htemperature, hmaxTokens⟩
    obtain ⟨address, rfl⟩ := exists_optionalText haddress
    obtain ⟨key, rfl⟩ := exists_optionalText hkey
    obtain ⟨name, rfl⟩ := exists_optionalText hname
    rcases htemperature with rfl | ⟨x, rfl⟩ <;> rcases hmaxTokens with rfl | ⟨n, rfl⟩
    · exact ⟨⟨provider, address, key, keyVariable, name, none, none⟩, rfl⟩
    · exact ⟨⟨provider, address, key, keyVariable, name, none, some n⟩, rfl⟩
    · exact ⟨⟨provider, address, key, keyVariable, name, some x, none⟩, rfl⟩
    · exact ⟨⟨provider, address, key, keyVariable, name, some x, some n⟩, rfl⟩

/-- What is written of the choice of a model is what is written of the model. -/
theorem toValue_ofModel (m : Model) : (ofModel m).toValue = m.toValue := rfl

/-- A choice is read again as itself exactly when it is that of a model. -/
theorem read_toValue_iff {c : Choice} :
    (∃ m, Model.read c.toValue = .valid m ∧ ofModel m = c) ↔ c.IsTyped := by
  rw [← exists_ofModel_iff]
  constructor
  · rintro ⟨m, -, hm⟩
    exact ⟨m, hm⟩
  · rintro ⟨m, rfl⟩
    refine ⟨m, ?_, rfl⟩
    rw [toValue_ofModel]
    exact Model.faithful m

/-- Settings leave each field fitting exactly when those that name a field fit it. -/
theorem isTyped_override_iff {c : Choice} (h : c.IsTyped) (settings : List (Key × Value)) :
    (c.override settings).IsTyped ↔
      ∀ field ∈ declared, ∀ v, Members.get? (.text field.1) settings = some v → field.2.Fits v := by
  have hfield : ∀ {t : FieldType} {own : Value} (name : String), t.Fits own →
      (t.Fits ((Members.get? (.text name) settings).getD own) ↔
        ∀ v, Members.get? (.text name) settings = some v → t.Fits v) :=
    fun name hown => fits_getD hown _
  constructor
  · rintro ⟨hprovider, haddress, hkey, hkeyVariable, hname, htemperature, hmaxTokens⟩
    simp only [declared, Model.fieldNames, List.zip_cons_cons, List.zip_nil_left, List.forall_mem_cons]
    exact ⟨(hfield _ h.provider).mp hprovider, (hfield _ h.address).mp haddress, (hfield _ h.key).mp hkey,
      (hfield _ h.keyVariable).mp hkeyVariable, (hfield _ h.name).mp hname,
      (hfield _ h.temperature).mp htemperature, (hfield _ h.maxTokens).mp hmaxTokens, by simp⟩
  · intro hall
    simp only [declared, Model.fieldNames, List.zip_cons_cons, List.zip_nil_left, List.forall_mem_cons]
      at hall
    obtain ⟨hprovider, haddress, hkey, hkeyVariable, hname, htemperature, hmaxTokens, -⟩ := hall
    exact ⟨(hfield _ h.provider).mpr hprovider, (hfield _ h.address).mpr haddress,
      (hfield _ h.key).mpr hkey, (hfield _ h.keyVariable).mpr hkeyVariable, (hfield _ h.name).mpr hname,
      (hfield _ h.temperature).mpr htemperature, (hfield _ h.maxTokens).mpr hmaxTokens⟩

end Choice

/-! ### Prompts -/

/-- The settings in front of the text of a prompt: those of its file, and none if it has no file. -/
inductive Fronts (disk : Files.Disk) (boundary : Files.Boundary) (p : Config.Prompt) :
    List (Key × Value) → String → Prop where
  | own (h : Config.isGiven p.file = false) : Fronts disk boundary p [] (p.prompt.getD "")
  | file {file : String} {path : Files.Path} {document : Document} (hfile : p.file = some file)
      (hgiven : file ≠ "") (hpath : boundary.resolve file = .ok path)
      (hdocument : Document.load disk path = .ok document) :
      Fronts disk boundary p document.settings document.text

/-- Without settings a choice stays. -/
theorem Choice.override_nil (c : Choice) : c.override [] = c := rfl

theorem resolve_eq_ok {disk : Files.Disk} {boundary : Files.Boundary} {p : Config.Prompt} {c : Choice}
    {text : String} :
    resolve disk boundary p = .ok (c, text) ↔
      ∃ settings, Fronts disk boundary p settings text ∧ (Choice.ofModel p.model).override settings = c := by
  have hown : Config.isGiven p.file = false →
      ((.ok (Choice.ofModel p.model, p.prompt.getD "") : Except AgentError _) = .ok (c, text) ↔
        ∃ settings, Fronts disk boundary p settings text ∧
          (Choice.ofModel p.model).override settings = c) := by
    intro hnone
    rw [Except.ok.injEq, Prod.mk.injEq]
    constructor
    · rintro ⟨rfl, rfl⟩
      exact ⟨[], .own hnone, Choice.override_nil _⟩
    · rintro ⟨settings, hfronts, rfl⟩
      cases hfronts with
      | own => exact ⟨(Choice.override_nil _).symm, rfl⟩
      | file hfile hgiven => simp [Config.isGiven, hfile, hgiven] at hnone
  rw [resolve]
  cases hfile : p.file with
  | none => exact hown (by rw [hfile]; rfl)
  | some file =>
    by_cases hempty : file = ""
    · subst hempty
      exact hown (by rw [hfile]; rfl)
    dsimp only
    rw [if_neg (by simpa using hempty), bind_eq_ok]
    simp only [mapError_eq_ok, bind_eq_ok]
    constructor
    · rintro ⟨path, hpath, document, hdocument, hok⟩
      obtain ⟨rfl, rfl⟩ := Prod.mk.inj (Except.ok.inj hok)
      exact ⟨document.settings, .file hfile hempty hpath hdocument, rfl⟩
    · rintro ⟨settings, hfronts, rfl⟩
      cases hfronts with
      | own hnone => simp [Config.isGiven, hfile, hempty] at hnone
      | file hfile' hgiven hpath hdocument =>
        obtain rfl := Option.some.inj (hfile.symm.trans hfile')
        exact ⟨_, hpath, _, hdocument, rfl⟩

/-- **What settings in front of a prompt do to its model.** A prompt resolves to the choice of its model with
the settings in front of it in their places, as they are written. Such a choice is read again, and as the same
model, exactly when each setting that names a field of the model is of the type of this field. -/
theorem resolve_restored_iff (disk : Files.Disk) (boundary : Files.Boundary) (p : Config.Prompt) :
    (∀ c text, resolve disk boundary p = .ok (c, text) ↔
      ∃ settings, Fronts disk boundary p settings text ∧
        (Choice.ofModel p.model).override settings = c) ∧
    ∀ settings,
      (∃ m, Model.read ((Choice.ofModel p.model).override settings).toValue = .valid m ∧
          Choice.ofModel m = (Choice.ofModel p.model).override settings) ↔
        ∀ field ∈ declared, ∀ v, Members.get? (.text field.1) settings = some v → field.2.Fits v :=
  ⟨fun _ _ => resolve_eq_ok, fun settings =>
    Choice.read_toValue_iff.trans
      (Choice.isTyped_override_iff (Choice.isTyped_ofModel p.model) settings)⟩

/-- A prompt in a file, with the usual model. -/
def filed : Config.Prompt := ⟨none, some "p.md", "", Model.default⟩

/-- The root directory with one file in it. -/
def diskWith (content : String) : Files.Disk :=
  ⟨⟨"/", []⟩, [(⟨"/", ["p.md"]⟩, Text.Utf8.encode content)]⟩

/-- The text under a name in the settings of a document. -/
def Document.setting? (name : String) : Except DocumentError Document → Option String
  | .ok document =>
    match Members.get? (.text name) document.settings with
    | some (.str s) => some s
    | _ => none
  | .error _ => none

theorem Document.of_setting?_eq_some {name s : String} {r : Except DocumentError Document}
    (h : Document.setting? name r = some s) :
    ∃ document, r = .ok document ∧ Members.get? (.text name) document.settings = some (.str s) := by
  cases r with
  | error e => simp [setting?] at h
  | ok document =>
    rw [setting?] at h
    split at h
    · next found hfound =>
      obtain rfl := Option.some.inj h
      exact ⟨document, rfl, hfound⟩
    · cases h

/-- The temperature of a choice that is read as a model is read as a number. -/
theorem Choice.temperature_of_read {c : Choice} {m : Model} (h : Model.read c.toValue = .valid m) :
    ∃ x, Config.readOptionalNumber c.temperature = .valid x := by
  obtain ⟨fields, hobject, hfields⟩ := Config.readRecord_valid h
  obtain rfl := Value.object.inj hobject
  simp only [Config.Checked.seq_eq_valid, Config.Checked.map_eq_valid] at hfields
  obtain ⟨_, _, ⟨_, x, -, hx, -⟩, -, -⟩ := hfields
  exact ⟨x, Config.Checked.under_eq_valid.mp hx⟩

theorem resolve_untyped :
    ∃ c text, resolve (diskWith "---\ntemperature: hot\n---\nAnswer.") ⟨.ok ⟨"/", []⟩⟩ filed
        = .ok (c, text) ∧
      c.temperature = .str "hot" ∧ ¬ ∃ m, Model.read c.toValue = .valid m := by
  have hload : Document.setting? "temperature"
      (Document.load (diskWith "---\ntemperature: hot\n---\nAnswer.") ⟨"/", ["p.md"]⟩) = some "hot" := by
    decide +kernel
  obtain ⟨document, hdocument, hsetting⟩ := Document.of_setting?_eq_some hload
  have hroot : (⟨"/", []⟩ : Files.Path).IsNormal := ⟨rfl, by simp, by simp, by simp⟩
  have hpath : Files.Boundary.resolve ⟨.ok ⟨"/", []⟩⟩ "p.md" = .ok ⟨"/", ["p.md"]⟩ := by
    rw [Files.Boundary.resolve_eq rfl hroot (by simp [Files.Path.holdsNul])]
    decide
  have hhot : ((Choice.ofModel filed.model).override document.settings).temperature = .str "hot" := by
    rw [Choice.override]
    simp [hsetting]
  refine ⟨_, document.text, resolve_eq_ok.mpr ⟨_, .file rfl (by simp) hpath hdocument, rfl⟩, hhot, ?_⟩
  rintro ⟨m, hm⟩
  obtain ⟨x, hx⟩ := Choice.temperature_of_read hm
  have hfault : (Config.readOptionalNumber (.str "hot")).faults.length = 1 := by decide +kernel
  rw [hhot] at hx
  simp [hx, Config.Checked.faults] at hfault

end Switchboard.Prompt
