import SurveyChecks.Proofs.Checks.Lines
import SurveyChecks.Proofs.CommandLine.Configuration
import SurveyChecks.Proofs.CommandLine.Forms
import SurveyChecks.Proofs.CommandLine.Run

/-!
# How runs end

A run with arguments ends with status zero or one, or it breaks off without a report. Here are the
ways in which it breaks off: by the file of settings, by a value that does not serve its place, by
the form, and by a path or a text that cannot be stored. A key that is not known, a parameter that
is missing and a form whose sheets have the wrong columns or rows are reported; a text that is not
YAML, a key that is no text and a value code that is too long are not.
-/

namespace SurveyChecks

open SurveyChecks.Text

/-! ## Files of settings -/

namespace Settings

/-- The file of settings that is named holds a text. -/
def ConfigText (w : Workspace) (config : Option String) (text : String) : Prop :=
  ∃ path, config = some path ∧ path ≠ "" ∧ w.read path = .ok text

/-- The ways in which a file of settings breaks a run off: its text is not YAML, its data have no
entries, or a key is no text. -/
inductive Breaks (w : Workspace) (config : Option String) : ConfigurationError → Prop where
  /-- The text is not YAML, or a number in it is too great to be looked at. -/
  | notYaml {text : String} {e : Yaml.ReadError} (hconfig : ConfigText w config text)
      (hread : Yaml.readStored text 0 = .error e)
      (hvalue : ConfigurationError.valueMessage? e = none) : Breaks w config (.yaml e)
  /-- The data, or an item of them, have no items, or an item starts with a collection. -/
  | noEntries {text : String} {d : Data} {f : DataFault} (hconfig : ConfigText w config text)
      (hread : Yaml.readStored text 0 = .ok d)
      (hentries : fileEntries d = .error (.settings (.illTyped f))) :
      Breaks w config (.settings (.illTyped f))
  /-- The first key that is no text. -/
  | notText {text : String} {d k v : Data} {before after : List (Data × Data)} {f : DataFault}
      (hconfig : ConfigText w config text) (hread : Yaml.readStored text 0 = .ok d)
      (hentries : fileEntries d = .ok (before ++ (k, v) :: after))
      (hbefore : ∀ e ∈ before, ∃ t, keyText e.1 = .ok t) (hkey : keyText k = .error f) :
      Breaks w config (.settings (.illTyped f))

section Files

variable {w : Workspace} {a : Arguments} {config : Option String} {text : String} {d k v : Data}
  {e : ConfigurationError} {entries : List (Data × Data)} {flags : List (Parameter × Data)}

theorem configEntries_of_configText (h : ConfigText w config text) :
    configEntries w config = ((Yaml.readStored text 0).mapError .yaml).bind fileEntries := by
  obtain ⟨path, rfl, hpath, hread⟩ := h
  unfold configEntries
  split
  · contradiction
  · rw [Option.getD_some, hread]
    rfl

theorem configEntries_of_notYaml {e : Yaml.ReadError} (h : ConfigText w config text)
    (hread : Yaml.readStored text 0 = .error e) : configEntries w config = .error (.yaml e) := by
  rw [configEntries_of_configText h, hread]
  rfl

theorem configEntries_of_yaml (h : ConfigText w config text)
    (hread : Yaml.readStored text 0 = .ok d) : configEntries w config = fileEntries d := by
  rw [configEntries_of_configText h, hread]
  rfl

theorem ofArguments_of_entries_error (h : configEntries w a.config = .error e) :
    ofArguments w a = .error e := by
  rw [ofArguments, h]
  rfl

/-- There is no text of settings only when no file is named or the file cannot be read. -/
theorem configText_or (w : Workspace) (config : Option String) :
    configEntries w config = .ok [] ∨
      (∃ path fault, configEntries w config = .error (.file path fault)) ∨
      ∃ text, ConfigText w config text := by
  by_cases hnone : config.getD "" = ""
  · exact Or.inl (configEntries_of_unnamed hnone)
  · obtain ⟨path, rfl⟩ : ∃ path, config = some path := by
      cases config with
      | none => exact absurd rfl hnone
      | some path => exact ⟨path, rfl⟩
    cases hread : w.read path with
    | ok text => exact Or.inr (Or.inr ⟨text, path, rfl, hnone, hread⟩)
    | error fault =>
      refine Or.inr (Or.inl ⟨path, fault, ?_⟩)
      unfold configEntries
      split
      · contradiction
      · rw [Option.getD_some, hread]
        rfl

/-- Items are refused because they are no pairs, or because they have no items or no keys. -/
theorem error_of_entriesOfItems {m : OrderedMap Data Data} {position : Nat} {xs : List Data}
    (h : entriesOfItems m position xs = .error e) :
    (∃ f, e = .settings (.illTyped f)) ∨ ∃ n k, e = .notAPair n k := by
  induction xs generalizing m position with
  | nil => contradiction
  | cons x xs ih =>
    unfold entriesOfItems at h
    rcases bind_eq_error_iff.mp h with hparts | ⟨parts, -, h⟩
    · obtain ⟨f, -, rfl⟩ := mapError_eq_error_iff.mp hparts
      exact Or.inl ⟨f, rfl⟩
    · rcases bind_eq_error_iff.mp h with hpair | ⟨⟨k, v⟩, -, h⟩
      · unfold pairOf at hpair
        split at hpair
        · contradiction
        · exact Or.inr ⟨position, _, (Except.error.inj hpair).symm⟩
      · dsimp only at h
        split at h
        · exact ih h
        · exact Or.inl ⟨.notAKey, (Except.error.inj h).symm⟩

theorem error_of_fileEntries (h : fileEntries d = .error e) :
    (∃ f, e = .settings (.illTyped f)) ∨ ∃ n k, e = .notAPair n k := by
  unfold fileEntries at h
  split at h
  · contradiction
  · split at h
    · contradiction
    · rcases bind_eq_error_iff.mp h with hparts | ⟨parts, -, h⟩
      · obtain ⟨f, -, rfl⟩ := mapError_eq_error_iff.mp hparts
        exact Or.inl ⟨f, rfl⟩
      · exact error_of_entriesOfItems h

/-- Under a text, the parameter that is not known is the only fault. -/
theorem error_of_assignment {t : String} {e : SettingsError} (hk : keyText k = .ok t)
    (h : assignment (k, v) = .error e) : e = .unknown t := by
  rw [assignment, hk] at h
  simp only [Except.mapError, bind, Except.bind] at h
  split at h
  · contradiction
  · exact (Except.error.inj h).symm

/-- The keys are refused because of the first that is no text. -/
theorem mapM_keyText_eq_error_iff {e : SettingsError} :
    (entries.mapM fun x => (keyText x.1).mapError SettingsError.illTyped) = .error e ↔
      ∃ f before k v after, e = .illTyped f ∧ entries = before ++ (k, v) :: after ∧
        (∀ b ∈ before, ∃ t, keyText b.1 = .ok t) ∧ keyText k = .error f := by
  rw [mapM_eq_error_iff]
  constructor
  · rintro ⟨before, ⟨k, v⟩, after, rfl, hbefore, hk⟩
    obtain ⟨f, hf, rfl⟩ := mapError_eq_error_iff.mp hk
    refine ⟨f, before, k, v, after, rfl, rfl, fun b hb => ?_, hf⟩
    obtain ⟨t, ht⟩ := hbefore b hb
    exact ⟨t, mapError_eq_ok_iff.mp ht⟩
  · rintro ⟨f, before, k, v, after, rfl, rfl, hbefore, hk⟩
    refine ⟨before, (k, v), after, rfl, fun b hb => ?_, mapError_eq_error_iff.mpr ⟨f, hk, rfl⟩⟩
    obtain ⟨t, ht⟩ := hbefore b hb
    exact ⟨t, mapError_eq_ok_iff.mpr ht⟩

/-- The keys are looked at first, then the fields, then what is missing. -/
theorem overridden_eq_bind (entries : List (Data × Data)) (flags : List (Parameter × Data)) :
    overridden entries flags =
      (entries.mapM fun x => (keyText x.1).mapError SettingsError.illTyped) >>= fun _ =>
        entries.mapM assignment >>= fun assignments =>
          let s := ofAssignments (assignments ++ flags)
          if s.missing.isEmpty then .ok s else .error (.missing (s.missing.map Parameter.key)) :=
  rfl

/-- Entries are refused without a report just when a key is no text. -/
theorem overridden_eq_illTyped_iff {e : SettingsError} :
    overridden entries flags = .error e ∧ e.message? = none ↔
      ∃ f before k v after, e = .illTyped f ∧ entries = before ++ (k, v) :: after ∧
        (∀ b ∈ before, ∃ t, keyText b.1 = .ok t) ∧ keyText k = .error f := by
  rw [← mapM_keyText_eq_error_iff, overridden_eq_bind]
  constructor
  · rintro ⟨h, hmessage⟩
    rcases bind_eq_error_iff.mp h with h | ⟨ts, hts, h⟩
    · exact h
    · -- with texts for keys every fault is reported
      rcases bind_eq_error_iff.mp h with h | ⟨assignments, -, h⟩
      · obtain ⟨before, ⟨k, v⟩, after, rfl, -, hassignment⟩ := mapM_eq_error_iff.mp h
        obtain ⟨t, ht⟩ := exists_of_mapM_eq_ok hts (k, v) (by simp)
        rw [error_of_assignment (mapError_eq_ok_iff.mp ht) hassignment] at hmessage
        contradiction
      · dsimp only at h
        split at h
        · contradiction
        · obtain rfl := Except.error.inj h
          contradiction
  · intro h
    obtain ⟨f, before, k, v, after, rfl, -⟩ := mapM_keyText_eq_error_iff.mp h
    exact ⟨bind_eq_error_iff.mpr (Or.inl h), rfl⟩

theorem Breaks.refused (h : Breaks w a.config e) :
    ofArguments w a = .error e ∧ e.message? = none := by
  cases h with
  | notYaml hconfig hread hvalue =>
    exact ⟨ofArguments_of_entries_error (configEntries_of_notYaml hconfig hread), hvalue⟩
  | noEntries hconfig hread hentries =>
    refine ⟨ofArguments_of_entries_error ?_, rfl⟩
    rw [configEntries_of_yaml hconfig hread, hentries]
  | @notText text d k v before after f hconfig hread hentries hbefore hkey =>
    have hrefused : overridden (before ++ (k, v) :: after) a.parameters = .error (.illTyped f) :=
      (overridden_eq_illTyped_iff.mpr ⟨f, before, k, v, after, rfl, rfl, hbefore, hkey⟩).1
    refine ⟨?_, rfl⟩
    rw [ofArguments_of_entries ((configEntries_of_yaml hconfig hread).trans hentries), hrefused]
    rfl

/-- Entries from which no settings come, and that is not reported, have a key that is no text. -/
theorem exists_first_of_refused (hentries : configEntries w a.config = .ok entries)
    (h : ofArguments w a = .error e) (hmessage : e.message? = none) :
    ∃ f before k v after, e = .settings (.illTyped f) ∧ entries = before ++ (k, v) :: after ∧
      (∀ b ∈ before, ∃ t, keyText b.1 = .ok t) ∧ keyText k = .error f := by
  rw [ofArguments_of_entries hentries] at h
  obtain ⟨e', he', rfl⟩ := mapError_eq_error_iff.mp h
  obtain ⟨f, before, k, v, after, rfl, heq, hbefore, hkey⟩ :=
    overridden_eq_illTyped_iff.mp ⟨he', hmessage⟩
  exact ⟨f, before, k, v, after, rfl, heq, hbefore, hkey⟩

theorem breaks_of_configText (hconfig : ConfigText w a.config text) (h : ofArguments w a = .error e)
    (hmessage : e.message? = none) : Breaks w a.config e := by
  cases hread : Yaml.readStored text 0 with
  | error e' =>
    have hrefused := ofArguments_of_entries_error (configEntries_of_notYaml hconfig hread)
    obtain rfl := Except.error.inj (hrefused.symm.trans h)
    exact .notYaml hconfig hread hmessage
  | ok d =>
    have hconfigured := configEntries_of_yaml hconfig hread
    cases hfound : fileEntries d with
    | error e' =>
      have hrefused := ofArguments_of_entries_error (hconfigured.trans hfound)
      obtain rfl := Except.error.inj (hrefused.symm.trans h)
      rcases error_of_fileEntries hfound with ⟨f, rfl⟩ | ⟨n, k, rfl⟩
      · exact .noEntries hconfig hread hfound
      · contradiction
    | ok entries =>
      obtain ⟨f, before, k, v, after, rfl, rfl, hbefore, hkey⟩ :=
        exists_first_of_refused (hconfigured.trans hfound) h hmessage
      exact .notText hconfig hread hfound hbefore hkey

/-- There are no settings, and that is not reported, just when the file of settings breaks the run
off. -/
theorem breaks_iff :
    Breaks w a.config e ↔ ofArguments w a = .error e ∧ e.message? = none := by
  refine ⟨Breaks.refused, fun ⟨h, hmessage⟩ => ?_⟩
  rcases configText_or w a.config with hnone | ⟨path, fault, hfile⟩ | ⟨text, hconfig⟩
  · obtain ⟨_, before, k, v, after, -, heq, -⟩ := exists_first_of_refused hnone h hmessage
    simp at heq
  · obtain rfl := Except.error.inj ((ofArguments_of_entries_error hfile).symm.trans h)
    contradiction
  · exact breaks_of_configText hconfig h hmessage

end Files

end Settings

namespace Run

/-! ## The steps of a run -/

/-- The ways in which writing a text breaks a run off. -/
inductive WriteBreaks (w : Workspace) (path text : String) : FileFault → Prop where
  /-- The path has a character that no path has. -/
  | path {fault : FileFault} (hplace : w.placeToWrite path = .error fault)
      (hfault : fault = .nullCharacter ∨ fault = .notStorable) : WriteBreaks w path text fault
  /-- The path leads to a file, and the text has a character that cannot be stored. -/
  | text {p : Place} (hplace : w.placeToWrite path = .ok p) (htext : ¬ isStorable text) :
      WriteBreaks w path text .notStorable

section Steps

variable {a : Arguments} {w : Workspace} {s : Settings} {f : Form} {p : Place} {b : Breakdown}
  {path text note output script catalog : String} {next : Workspace → Outcome} {e : Ending}

theorem writing_of_not_isStorable (htext : ¬ isStorable text) (h : w.placeToWrite path = .ok p) :
    writing w path text note next = .brokenOff (w.withFile p (.text "")) (.file .notStorable) := by
  simp [writing, Workspace.write, h, htext, Except.map]

/-- Writing breaks off because of the write or because of what comes after it. -/
theorem writing_broken_iff :
    (writing w path text note next).ending = .broken b ↔
      (∃ fault, WriteBreaks w path text fault ∧ b = .file fault) ∨
      ∃ p, w.placeToWrite path = .ok p ∧ isStorable text ∧
        (next (w.withFile p (.text text))).ending = .broken b := by
  constructor
  · intro h
    cases hplace : w.placeToWrite path with
    | error fault =>
      rw [writing_of_fault hplace] at h
      split at h
      · rename_i hsilent
        exact Or.inl ⟨fault, .path hplace hsilent, (Ending.broken.inj h).symm⟩
      · contradiction
    | ok p =>
      by_cases htext : isStorable text
      · rw [writing_of_placeToWrite htext hplace] at h
        exact Or.inr ⟨p, rfl, htext, h⟩
      · rw [writing_of_not_isStorable htext hplace] at h
        exact Or.inl ⟨.notStorable, .text hplace htext, (Ending.broken.inj h).symm⟩
  · rintro (⟨fault, hbreaks, rfl⟩ | ⟨p, hplace, htext, h⟩)
    · cases hbreaks with
      | path hplace hsilent =>
        rw [writing_of_fault hplace, if_pos hsilent]
        rfl
      | text hplace htext =>
        rw [writing_of_not_isStorable htext hplace]
        rfl
    · rw [writing_of_placeToWrite htext hplace]
      exact h

/-- The last step breaks off only when the catalog is wanted and cannot be written. -/
theorem catalogStep_broken_iff :
    (catalogStep a f w).ending = .broken b ↔
      a.catalogPath ≠ "" ∧ ∃ catalog fault, f.catalog.toYaml = .ok catalog ∧
        WriteBreaks w a.catalogPath catalog fault ∧ b = .file fault := by
  obtain ⟨catalog, htext⟩ := Catalog.exists_toYaml f.catalog
  rw [catalogStep_eq]
  by_cases hcatalog : a.catalogPath = ""
  · rw [if_pos hcatalog]
    simp [hcatalog]
  · rw [if_neg hcatalog, htext]
    dsimp only
    rw [writing_broken_iff]
    simp [hcatalog]

/-- The step that writes the script breaks off because of a setting, the script or the catalog. -/
theorem scriptStep_broken_iff :
    (scriptStep a s f w).ending = .broken b ↔
      (∃ fault, s.parameters (Script.hasSurvey f) = .error fault ∧ b = .value fault) ∨
      ∃ q, s.parameters (Script.hasSurvey f) = .ok q ∧
        ((∃ fault, WriteBreaks w q.output (Script.text f q) fault ∧ b = .file fault) ∨
        ∃ p, w.placeToWrite q.output = .ok p ∧ isStorable (Script.text f q) ∧
          (catalogStep a f (w.withFile p (.text (Script.text f q)))).ending = .broken b) := by
  unfold scriptStep
  cases s.parameters (Script.hasSurvey f) with
  | error fault =>
    simp only [Outcome.brokenOff, Ending.broken.injEq, Except.error.injEq, reduceCtorEq, false_and,
      exists_false, or_false, exists_eq_left']
    exact eq_comm
  | ok q => simp [writing_broken_iff]

theorem formStep_ending_of_ok (h : Form.ofFile w path none = .ok f) :
    (formStep a s path w).ending = (scriptStep a s f w).ending := by
  unfold formStep
  rw [h]
  rfl

theorem formStep_ending_of_error {e : FormError} (h : Form.ofFile w path none = .error e) :
    (formStep a s path w).ending = if e ∈ silentErrors then .broken (.form e) else .status 1 := by
  unfold formStep
  rw [h, Outcome.ending_after]
  by_cases hsilent : e ∈ silentErrors
  · rw [if_pos hsilent]
    simp [isReported_of_mem hsilent, Outcome.brokenOff]
  · rw [if_neg hsilent]
    simp [(isReported_iff_of_ofFile h).mpr hsilent, Outcome.reported]

end Steps

/-! ## All ways to break off -/

/-- The ways in which a run with arguments breaks off. -/
inductive Escapes (a : Arguments) (w : Workspace) : Breakdown → Prop where
  /-- The file of settings breaks it off. -/
  | configuration {e : ConfigurationError} (h : Settings.Breaks w a.config e) :
      Escapes a w (.configuration e)
  /-- The path of the form is no text. -/
  | instrument {s : Settings} {fault : DataFault} (hsettings : Settings.ofArguments w a = .ok s)
      (hpath : Settings.pathText (s.value .instrument) = .error fault) : Escapes a w (.value fault)
  /-- There is no form, for a reason that is not reported. -/
  | form {s : Settings} {path : String} {e : FormError}
      (hsettings : Settings.ofArguments w a = .ok s)
      (hpath : Settings.pathText (s.value .instrument) = .ok path)
      (hform : Form.ofFile w path none = .error e) (hsilent : e ∈ silentErrors) :
      Escapes a w (.form e)
  /-- Another setting is not of the kind that its place needs. -/
  | parameters {s : Settings} {path : String} {f : Form} {fault : DataFault}
      (hsettings : Settings.ofArguments w a = .ok s)
      (hpath : Settings.pathText (s.value .instrument) = .ok path)
      (hform : Form.ofFile w path none = .ok f)
      (hparameters : s.parameters (Script.hasSurvey f) = .error fault) : Escapes a w (.value fault)
  /-- Writing the script breaks it off. -/
  | script {s : Settings} {f : Form} {output script : String} {fault : FileFault}
      (h : Resolves a w s f output script) (hwrite : WriteBreaks w output script fault) :
      Escapes a w (.file fault)
  /-- Writing the catalog breaks it off. -/
  | catalog {s : Settings} {f : Form} {p : Place} {output script catalog : String}
      {fault : FileFault} (h : Resolves a w s f output script)
      (hplace : w.placeToWrite output = .ok p) (hscript : isStorable script)
      (hcatalog : a.catalogPath ≠ "") (htext : f.catalog.toYaml = .ok catalog)
      (hwrite : WriteBreaks (w.withFile p (.text script)) a.catalogPath catalog fault) :
      Escapes a w (.file fault)

section Ends

variable {a : Arguments} {w : Workspace} {s : Settings} {f : Form} {b : Breakdown}
  {path text output script : String} {q : Parameters} {e : ConfigurationError} {d : Data}
  {entries : List (Data × Data)} {fields : List (String × Data)}

theorem withArguments_of_ok (hsettings : Settings.ofArguments w a = .ok s)
    (hpath : Settings.pathText (s.value .instrument) = .ok path) :
    withArguments a w = formStep a s path w := by
  unfold withArguments
  rw [hsettings]
  dsimp only
  rw [hpath]

theorem withArguments_of_instrument {fault : DataFault}
    (hsettings : Settings.ofArguments w a = .ok s)
    (hpath : Settings.pathText (s.value .instrument) = .error fault) :
    (withArguments a w).ending = .broken (.value fault) := by
  unfold withArguments
  rw [hsettings]
  dsimp only
  rw [hpath]
  rfl

theorem withArguments_of_error (h : Settings.ofArguments w a = .error e) :
    (withArguments a w).ending =
      if e.message? = none then .broken (.configuration e) else .status 1 := by
  unfold withArguments
  rw [h]
  cases hmessage : e.message? <;> simp [hmessage, Outcome.reported, Outcome.brokenOff]

theorem withArguments_of_form (hsettings : Settings.ofArguments w a = .ok s)
    (hpath : Settings.pathText (s.value .instrument) = .ok path)
    (hform : Form.ofFile w path none = .ok f) :
    (withArguments a w).ending = (scriptStep a s f w).ending := by
  rw [withArguments_of_ok hsettings hpath, formStep_ending_of_ok hform]

theorem Escapes.broken (h : Escapes a w b) : (withArguments a w).ending = .broken b := by
  cases h with
  | configuration h =>
    obtain ⟨hsettings, hmessage⟩ := Settings.breaks_iff.mp h
    rw [withArguments_of_error hsettings, if_pos hmessage]
  | instrument hsettings hpath => exact withArguments_of_instrument hsettings hpath
  | form hsettings hpath hform hsilent =>
    rw [withArguments_of_ok hsettings hpath, formStep_ending_of_error hform, if_pos hsilent]
  | parameters hsettings hpath hform hparameters =>
    rw [withArguments_of_form hsettings hpath hform]
    exact scriptStep_broken_iff.mpr (Or.inl ⟨_, hparameters, rfl⟩)
  | script h hwrite =>
    obtain ⟨path, q, hpath, hform, hparameters, rfl, rfl⟩ := h.exists_steps
    rw [withArguments_of_form h.settings hpath hform]
    exact scriptStep_broken_iff.mpr (Or.inr ⟨q, hparameters, Or.inl ⟨_, hwrite, rfl⟩⟩)
  | catalog h hplace hscript hcatalog htext hwrite =>
    obtain ⟨path, q, hpath, hform, hparameters, rfl, rfl⟩ := h.exists_steps
    rw [withArguments_of_form h.settings hpath hform]
    exact scriptStep_broken_iff.mpr (Or.inr ⟨q, hparameters, Or.inr ⟨_, hplace, hscript,
      catalogStep_broken_iff.mpr ⟨hcatalog, _, _, htext, hwrite, rfl⟩⟩⟩)

/-! ## Bad settings and bad forms -/

/-- The workspace with a file of settings. -/
def configured (text : String) : Workspace where
  files := [(["c.yaml".toList], .text text)]

end Ends

end Run

end SurveyChecks
