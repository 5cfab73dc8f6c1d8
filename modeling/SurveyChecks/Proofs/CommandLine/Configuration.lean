import SurveyChecks.CommandLine.Configuration
import SurveyChecks.Proofs.Data

/-!
# Where settings come from

Each parameter has the value of the last flag for it; without one, that of the last field of the
file whose key stands for it, hyphens counting as underscores; and else its initial value. There are
settings just when every key stands for a parameter and the required parameters are given. Without
flags the file gives the same settings, or the same error, when it is read by itself.
-/

namespace SurveyChecks

open SurveyChecks.Text

namespace Parameter

variable {p : Parameter} {k : String}

theorem key_injective : Function.Injective key := by
  intro p q h
  have hp := ofKey?_key p
  rw [h, ofKey?_key] at hp
  exact (Option.some.inj hp).symm

theorem ofKey?_eq_some_iff : ofKey? k = some p ↔ p.key = k := by
  constructor
  · intro h
    exact beq_iff_eq.mp (List.find?_some (p := fun p : Parameter => p.key == k) h)
  · rintro rfl
    exact ofKey?_key p

end Parameter

namespace Settings

/-! ## The fields of a file -/

/-- The fields are the entries, the keys as texts. -/
def AreFields (fields : List (String × Data)) (entries : List (Data × Data)) : Prop :=
  List.Forall₂ (fun f e => Data.Denotes f.1 e.1 ∧ f.2 = e.2) fields entries

/-- A key with underscores for hyphens is that of a parameter. -/
def isKnown (k : String) : Bool := (Parameter.all.map Parameter.key).contains (normalKey k)

/-- The values of fields for the parameters of their keys. -/
def assigned (fields : List (String × Data)) : List (Parameter × Data) :=
  fields.filterMap fun f => (Parameter.ofKey? (normalKey f.1)).map (·, f.2)

section Fields

variable {k : Data} {s : String} {v : Data} {p : Parameter} {f : String × Data}
  {fields : List (String × Data)} {entries : List (Data × Data)} {flags : List (Parameter × Data)}

theorem keyText_of_denotes (h : Data.Denotes s k) : keyText k = .ok (normalKey s) := by
  have hopened : k.opened = .text s := by
    rw [Data.opened_eq_unnamed, h]
    intro knot hknot
    rw [h] at hknot
    contradiction
  rw [keyText, changeableText, hopened]
  rfl

theorem isKnown_iff : isKnown s ↔ ∃ p, Parameter.ofKey? (normalKey s) = some p := by
  rw [isKnown, List.contains_iff_mem, List.mem_map]
  constructor
  · rintro ⟨p, -, hp⟩
    exact ⟨p, Parameter.ofKey?_eq_some_iff.mpr hp⟩
  · rintro ⟨p, hp⟩
    exact ⟨p, p.mem_all, Parameter.ofKey?_eq_some_iff.mp hp⟩

theorem assignment_of_known (h : Data.Denotes s k) (hp : Parameter.ofKey? (normalKey s) = some p) :
    assignment (k, v) = .ok (p, v) := by
  rw [assignment, keyText_of_denotes h]
  simp only [Except.mapError, bind, Except.bind, hp]
  rfl

theorem assignment_of_unknown (h : Data.Denotes s k) (hs : isKnown s = false) :
    assignment (k, v) = .error (.unknown (normalKey s)) := by
  have hnone : Parameter.ofKey? (normalKey s) = none := by
    cases hp : Parameter.ofKey? (normalKey s) with
    | none => rfl
    | some p =>
      rw [isKnown_iff.mpr ⟨p, hp⟩] at hs
      contradiction
  rw [assignment, keyText_of_denotes h]
  simp only [Except.mapError, bind, Except.bind, hnone]
  rfl

theorem mapM_keyText (h : AreFields fields entries) :
    (entries.mapM fun (k, _) => (keyText k).mapError SettingsError.illTyped) =
      .ok (fields.map fun f => normalKey f.1) := by
  induction h with
  | nil => rfl
  | @cons f e fields entries hfield _ ih =>
    obtain ⟨k, v⟩ := e
    rw [List.mapM_cons, ih]
    dsimp only
    rw [keyText_of_denotes hfield.1]
    rfl

/-- Entries whose keys are all known are the values of the parameters. -/
theorem mapM_assignment_of_known (h : AreFields fields entries)
    (hknown : ∀ f ∈ fields, isKnown f.1) : entries.mapM assignment = .ok (assigned fields) := by
  induction h with
  | nil => rfl
  | @cons f e fields entries hfield _ ih =>
    obtain ⟨hf, hfields⟩ := List.forall_mem_cons.mp hknown
    obtain ⟨p, hp⟩ := isKnown_iff.mp hf
    have hassigned : assigned (f :: fields) = (p, f.2) :: assigned fields := by
      simp [assigned, hp]
    rw [List.mapM_cons, assignment_of_known hfield.1 hp, ih hfields, hassigned, hfield.2]
    rfl

/-- Of the keys that are not known the first is reported. -/
theorem mapM_assignment_of_unknown (h : AreFields fields entries)
    (hfirst : fields.find? (fun f => !isKnown f.1) = some f) :
    entries.mapM assignment = .error (.unknown (normalKey f.1)) := by
  induction h with
  | nil => contradiction
  | @cons g e fields entries hfield _ ih =>
    rw [List.mapM_cons]
    by_cases hg : isKnown g.1
    · obtain ⟨p, hp⟩ := isKnown_iff.mp hg
      rw [List.find?_cons_of_neg (by simp [hg])] at hfirst
      rw [assignment_of_known hfield.1 hp, ih hfirst]
      rfl
    · rw [List.find?_cons_of_pos (by simp [hg])] at hfirst
      obtain rfl := Option.some.inj hfirst
      rw [assignment_of_unknown hfield.1 (Bool.eq_false_iff.mpr hg)]
      rfl

/-! ## The value of a parameter -/

/-- The value of the last flag for a parameter. -/
def lastFlag? (flags : List (Parameter × Data)) (p : Parameter) : Option Data :=
  ((flags.filter fun f => f.1 == p).map (·.2)).getLast?

/-- The value of the last field whose key stands for a parameter. -/
def lastField? (fields : List (String × Data)) (p : Parameter) : Option Data :=
  ((fields.filter fun f => normalKey f.1 == p.key).map (·.2)).getLast?

/-- The value of a parameter: that of a flag, else that of a field, else the initial one. A text of
several variables is taken as the list of its words. -/
def resolvedValue (fields : List (String × Data)) (flags : List (Parameter × Data))
    (p : Parameter) : Data :=
  splitIds p (((lastFlag? flags p).or (lastField? fields p)).getD p.initial)

theorem lastFor?_eq_lastFlag? (p : Parameter) (flags : List (Parameter × Data)) :
    lastFor? p flags = lastFlag? flags p := by
  rw [lastFor?, lastFlag?, ← List.head?_filter, List.filter_reverse, List.head?_reverse,
    List.getLast?_map]

theorem lastFlag?_append (assignments flags : List (Parameter × Data)) (p : Parameter) :
    lastFlag? (assignments ++ flags) p = (lastFlag? flags p).or (lastFlag? assignments p) := by
  rw [lastFlag?, List.filter_append, List.map_append, List.getLast?_append]
  rfl

/-- The fields for a parameter are those whose key, hyphens counting as underscores, is its key. -/
theorem lastFlag?_assigned (fields : List (String × Data)) (p : Parameter) :
    lastFlag? (assigned fields) p = lastField? fields p := by
  have hsame : ((assigned fields).filter fun f => f.1 == p).map (·.2) =
      (fields.filter fun f => normalKey f.1 == p.key).map (·.2) := by
    induction fields with
    | nil => rfl
    | cons f fields ih =>
      cases hq : Parameter.ofKey? (normalKey f.1) with
      | none =>
        have hne : normalKey f.1 ≠ p.key := by
          intro heq
          rw [heq, Parameter.ofKey?_key] at hq
          contradiction
        have hskip : assigned (f :: fields) = assigned fields := by simp [assigned, hq]
        rw [hskip, ih, List.filter_cons_of_neg (by simpa using hne)]
      | some q =>
        have htake : assigned (f :: fields) = (q, f.2) :: assigned fields := by
          simp [assigned, hq]
        have hkey : normalKey f.1 = q.key := (Parameter.ofKey?_eq_some_iff.mp hq).symm
        rw [htake, List.filter_cons, List.filter_cons, hkey]
        by_cases hqp : q = p
        · simp [hqp, ih]
        · have hne : q.key ≠ p.key := fun heq => hqp (Parameter.key_injective heq)
          simp [hqp, hne, ih]
  rw [lastFlag?, hsame, lastField?]

theorem ofAssignments_eq (fields : List (String × Data)) (flags : List (Parameter × Data)) :
    ofAssignments (assigned fields ++ flags) = ⟨resolvedValue fields flags⟩ := by
  refine congrArg Settings.mk (funext fun p => ?_)
  rw [lastFor?_eq_lastFlag?, lastFlag?_append, lastFlag?_assigned, resolvedValue]

/-! ## Settings of entries -/

/-- The required parameters that are not given by fields and flags, in order. -/
def missingFrom (fields : List (String × Data)) (flags : List (Parameter × Data)) :
    List Parameter :=
  Parameter.required.filter fun p => !(resolvedValue fields flags p).isTruthy

theorem missingFrom_eq_nil_iff :
    missingFrom fields flags = [] ↔
      ∀ p ∈ Parameter.required, (resolvedValue fields flags p).isTruthy := by
  simp [missingFrom, List.filter_eq_nil_iff]

theorem overridden_of_known (h : AreFields fields entries)
    (hknown : ∀ f ∈ fields, isKnown f.1) :
    overridden entries flags =
      if (missingFrom fields flags).isEmpty then .ok ⟨resolvedValue fields flags⟩
      else .error (.missing ((missingFrom fields flags).map Parameter.key)) := by
  rw [overridden, mapM_keyText h, mapM_assignment_of_known h hknown]
  simp only [bind, Except.bind, ofAssignments_eq]
  rfl

theorem overridden_of_unknown (h : AreFields fields entries)
    (hfirst : fields.find? (fun f => !isKnown f.1) = some f) :
    overridden entries flags = .error (.unknown (normalKey f.1)) := by
  rw [overridden, mapM_keyText h, mapM_assignment_of_unknown h hfirst]
  rfl

theorem overridden_nil (h : AreFields fields entries) :
    overridden entries [] = ofEntries entries := by
  rw [overridden, mapM_keyText h, ofEntries]
  simp only [bind, Except.bind, List.append_nil]

end Fields

/-! ## Settings of a run -/

/-- The data of a file are a map of the fields, whose keys are texts; data that count as not given
have no fields. -/
inductive HasFields (d : Data) (fields : List (String × Data)) : Prop
  /-- A map of the fields. -/
  | map {entries : List (Data × Data)} (hopened : d.opened = .map entries)
    (hfields : AreFields fields entries)
  /-- Nothing that counts as given. -/
  | absent (hfalsy : d.isTruthy = false) (hfields : fields = [])

/-- The file of settings that is named, if one is, has the fields. -/
inductive ConfigHas (w : Workspace) (config : Option String) (fields : List (String × Data)) : Prop
  /-- No file is named. -/
  | unnamed (hconfig : config.getD "" = "") (hfields : fields = [])
  /-- A file is named and can be read. -/
  | file {path text : String} {d : Data} (hconfig : config = some path) (hpath : path ≠ "")
    (hread : w.read path = .ok text) (hdata : Yaml.readStored text 0 = .ok d)
    (hfields : HasFields d fields)

section Runs

variable {w : Workspace} {a : Arguments} {path text : String} {d : Data} {f : String × Data}
  {fields : List (String × Data)} {entries : List (Data × Data)}

/-- A map that counts as not given has no entries. -/
theorem eq_nil_of_opened (h : d.opened = .map entries) (hfalsy : d.isTruthy = false) :
    entries = [] := by
  have hknot : ∀ k, d.unnamed ≠ .knot k := by
    intro k hk
    rw [← Data.isTruthy_unnamed, hk, Data.isTruthy] at hfalsy
    contradiction
  rw [Data.opened_eq_unnamed hknot] at h
  rw [Data.isTruthy_of_unnamed h] at hfalsy
  simpa using hfalsy

theorem HasFields.exists_entries (h : HasFields d fields) :
    ∃ entries, fileEntries d = .ok entries ∧ AreFields fields entries ∧
      ofContent d = ofEntries entries := by
  cases h with
  | absent hfalsy hfields =>
    refine ⟨[], ?_, hfields ▸ List.Forall₂.nil, ?_⟩
    · rw [fileEntries, hfalsy]
      rfl
    · rw [ofContent, hfalsy]
      rfl
  | @map entries hopened hfields =>
    refine ⟨entries, ?_, hfields, ?_⟩
    · cases htruthy : d.isTruthy with
      | true =>
        rw [fileEntries, htruthy, hopened]
        rfl
      | false =>
        rw [fileEntries, htruthy, eq_nil_of_opened hopened htruthy]
        rfl
    · cases htruthy : d.isTruthy with
      | true =>
        rw [ofContent, htruthy, if_pos rfl, ofData, Data.entries, hopened]
        rfl
      | false =>
        rw [ofContent, htruthy, eq_nil_of_opened hopened htruthy]
        rfl

theorem configEntries_of_unnamed {config : Option String} (h : config.getD "" = "") :
    configEntries w config = .ok [] := by
  unfold configEntries
  split
  · rfl
  · contradiction

theorem configEntries_of_read (hpath : path ≠ "") (hread : w.read path = .ok text)
    (hdata : Yaml.readStored text 0 = .ok d) : configEntries w (some path) = fileEntries d := by
  unfold configEntries
  split
  · contradiction
  · rw [Option.getD_some, hread]
    simp only [bind, Except.bind, Except.mapError, hdata]

theorem ConfigHas.exists_entries (h : ConfigHas w a.config fields) :
    ∃ entries, configEntries w a.config = .ok entries ∧ AreFields fields entries := by
  cases h with
  | unnamed hconfig hfields =>
    exact ⟨[], configEntries_of_unnamed hconfig, hfields ▸ List.Forall₂.nil⟩
  | @file path text d hconfig hpath hread hdata hfields =>
    obtain ⟨entries, hentries, hare, -⟩ := hfields.exists_entries
    refine ⟨entries, ?_, hare⟩
    rw [hconfig, configEntries_of_read hpath hread hdata, hentries]

theorem ofArguments_of_entries (h : configEntries w a.config = .ok entries) :
    ofArguments w a = (overridden entries a.parameters).mapError .settings := by
  rw [ofArguments, h]
  rfl

/-- Without flags the file that is named gives the settings that it gives by itself. -/
theorem ofArguments_eq_ofFile (hconfig : a.config = some path) (hpath : path ≠ "")
    (hread : w.read path = .ok text) (hdata : Yaml.readStored text 0 = .ok d)
    (hfields : HasFields d fields) (hflags : a.parameters = []) :
    ofArguments w a = ofFile w path := by
  obtain ⟨entries, hentries, hare, hcontent⟩ := hfields.exists_entries
  have hconfigured : configEntries w a.config = .ok entries := by
    rw [hconfig, configEntries_of_read hpath hread hdata, hentries]
  rw [ofArguments_of_entries hconfigured, hflags, overridden_nil hare, ofFile, hread]
  simp only [bind, Except.bind, Except.mapError, hdata, hcontent]

/-- Of the keys that stand for no parameter the first is reported. -/
theorem ofArguments_of_unknown (h : ConfigHas w a.config fields)
    (hfirst : fields.find? (fun f => !isKnown f.1) = some f) :
    ofArguments w a = .error (.settings (.unknown (normalKey f.1))) := by
  obtain ⟨entries, hentries, hare⟩ := h.exists_entries
  rw [ofArguments_of_entries hentries, overridden_of_unknown hare hfirst]
  rfl

theorem ofArguments_of_missing (h : ConfigHas w a.config fields)
    (hknown : ∀ f ∈ fields, isKnown f.1) (hne : missingFrom fields a.parameters ≠ []) :
    ofArguments w a = .error (.settings
      (.missing ((missingFrom fields a.parameters).map Parameter.key))) := by
  obtain ⟨entries, hentries, hare⟩ := h.exists_entries
  rw [ofArguments_of_entries hentries, overridden_of_known hare hknown,
    if_neg (by simpa using hne)]
  rfl

theorem ofArguments_of_complete (h : ConfigHas w a.config fields)
    (hknown : ∀ f ∈ fields, isKnown f.1) (hnil : missingFrom fields a.parameters = []) :
    ofArguments w a = .ok ⟨resolvedValue fields a.parameters⟩ := by
  obtain ⟨entries, hentries, hare⟩ := h.exists_entries
  rw [ofArguments_of_entries hentries, overridden_of_known hare hknown, if_pos (by simp [hnil])]
  rfl

/-- There are settings only when every key is known and nothing required is missing. -/
theorem complete_of_ofArguments {s : Settings} (h : ConfigHas w a.config fields)
    (hs : ofArguments w a = .ok s) :
    (∀ f ∈ fields, isKnown f.1) ∧ missingFrom fields a.parameters = [] := by
  cases hfirst : fields.find? (fun f => !isKnown f.1) with
  | some f =>
    rw [ofArguments_of_unknown h hfirst] at hs
    contradiction
  | none =>
    have hknown : ∀ f ∈ fields, isKnown f.1 := by
      simpa using List.find?_eq_none.mp hfirst
    by_cases hnil : missingFrom fields a.parameters = []
    · exact ⟨hknown, hnil⟩
    · rw [ofArguments_of_missing h hknown hnil] at hs
      contradiction

/-- There are settings just when every key of the file stands for a parameter and each required
parameter counts as given; each value is then that of the last flag, else that of the last field,
else the initial one. Of the keys that stand for no parameter the first is reported, and without such
a key the required parameters that are missing. Without flags the file gives the same by itself. -/
theorem ofArguments_resolves (h : ConfigHas w a.config fields) :
    ((∃ s, ofArguments w a = .ok s) ↔ (∀ f ∈ fields, isKnown f.1) ∧
      ∀ p ∈ Parameter.required, (resolvedValue fields a.parameters p).isTruthy) ∧
    (∀ s, ofArguments w a = .ok s → ∀ p, s.value p = resolvedValue fields a.parameters p) ∧
    (∀ f, fields.find? (fun f => !isKnown f.1) = some f →
      ofArguments w a = .error (.settings (.unknown (normalKey f.1)))) ∧
    ((∀ f ∈ fields, isKnown f.1) → missingFrom fields a.parameters ≠ [] →
      ofArguments w a = .error (.settings
        (.missing ((missingFrom fields a.parameters).map Parameter.key)))) ∧
    (a.parameters = [] → ∀ path, a.config = some path → path ≠ "" →
      ofArguments w a = ofFile w path) := by
  refine ⟨?succeeds, ?values, fun f => ofArguments_of_unknown h, ofArguments_of_missing h, ?alone⟩
  case succeeds =>
    rw [← missingFrom_eq_nil_iff]
    constructor
    · rintro ⟨s, hs⟩
      exact complete_of_ofArguments h hs
    · rintro ⟨hknown, hnil⟩
      exact ⟨_, ofArguments_of_complete h hknown hnil⟩
  case values =>
    intro s hs p
    obtain ⟨hknown, hnil⟩ := complete_of_ofArguments h hs
    obtain rfl := Except.ok.inj ((ofArguments_of_complete h hknown hnil).symm.trans hs)
    rfl
  case alone =>
    intro hflags path hconfig hpath
    cases h with
    | unnamed hnone _ =>
      rw [hconfig] at hnone
      exact absurd hnone hpath
    | file hconfig' _ hread hdata hfields =>
      obtain rfl := Option.some.inj (hconfig'.symm.trans hconfig)
      exact ofArguments_eq_ofFile hconfig hpath hread hdata hfields hflags

end Runs

/-! ## A file of settings for household visits -/

/-- Entries are pairs of the given texts. -/
def areTexts : List (String × String) → List (Data × Data) → Bool
  | [], [] => true
  | (s, t) :: fields, (.scalar (.text k), .scalar (.text v)) :: entries =>
    s == k && t == v && areTexts fields entries
  | _, _ => false

theorem areFields_of_areTexts {texts : List (String × String)} {entries : List (Data × Data)}
    (h : areTexts texts entries) :
    AreFields (texts.map fun f => (f.1, Data.text f.2)) entries := by
  fun_induction areTexts texts entries with
  | case1 => exact .nil
  | case2 s t texts k v entries ih =>
    simp only [Bool.and_eq_true, beq_iff_eq] at h
    obtain ⟨⟨rfl, rfl⟩, hrest⟩ := h
    exact .cons ⟨Data.denotes_text s, rfl⟩ (ih hrest)
  | case3 => contradiction

/-- The text of a file is YAML of a map with the given texts. -/
def readsAs (text : String) (texts : List (String × String)) : Bool :=
  match Yaml.readStored text 0 with
  | .ok d =>
    match d.opened with
    | .map entries => areTexts texts entries
    | _ => false
  | .error _ => false

theorem exists_hasFields {text : String} {texts : List (String × String)} (h : readsAs text texts) :
    ∃ d, Yaml.readStored text 0 = .ok d ∧
      HasFields d (texts.map fun f => (f.1, Data.text f.2)) := by
  unfold readsAs at h
  split at h
  · rename_i d hdata
    split at h
    · rename_i entries hopened
      exact ⟨d, hdata, .map hopened (areFields_of_areTexts h)⟩
    · contradiction
  · contradiction

/-- A file of settings with both spellings of one parameter. -/
def visitsFile : String :=
  "instrument: form.xlsx\nunique_ids: hh\noutput: all.do\nunique-ids: hh visit\nenumerator-id: enum\n"

/-- The keys and texts of the file. -/
def visitsTexts : List (String × String) :=
  [("instrument", "form.xlsx"), ("unique_ids", "hh"), ("output", "all.do"),
    ("unique-ids", "hh visit"), ("enumerator-id", "enum")]

/-- The fields of the file. -/
def visitsFields : List (String × Data) := visitsTexts.map fun f => (f.1, .text f.2)

/-- The workspace with the file. -/
def visitsWorkspace : Workspace where
  files := [(["visits.yaml".toList], .text visitsFile)]

/-- The arguments that name the file and set the path of the script. -/
def visitsArguments : Arguments where
  config := some "visits.yaml"
  parameters := [(.output, .text "visits.do")]

theorem ofArguments_resolves_visits :
    ConfigHas visitsWorkspace visitsArguments.config visitsFields ∧
    ∃ s, ofArguments visitsWorkspace visitsArguments = .ok s ∧
      s.value .output = .text "visits.do" ∧ s.value .uniqueIds = .texts ["hh", "visit"] ∧
      s.value .workingDir = .text "." := by
  have hread : visitsWorkspace.read "visits.yaml" = .ok visitsFile := by rfl
  have hreads : readsAs visitsFile visitsTexts := by decide +kernel
  obtain ⟨d, hdata, hfields⟩ := exists_hasFields hreads
  have hconfig : ConfigHas visitsWorkspace visitsArguments.config visitsFields :=
    .file rfl (by decide) hread hdata hfields
  have hknown : ∀ f ∈ visitsFields, isKnown f.1 := by decide +kernel
  have hgiven : ∀ p ∈ Parameter.required,
      (resolvedValue visitsFields visitsArguments.parameters p).isTruthy := by
    decide +kernel
  obtain ⟨hsucceeds, hvalues, -⟩ := ofArguments_resolves hconfig
  obtain ⟨s, hs⟩ := hsucceeds.mpr ⟨hknown, hgiven⟩
  refine ⟨hconfig, s, hs, ?_, ?_, ?_⟩
  · rw [hvalues s hs]
    rfl
  · rw [hvalues s hs]
    rfl
  · rw [hvalues s hs]
    rfl

end Settings

end SurveyChecks
