import SurveyChecks.CommandLine.Run
import SurveyChecks.Proofs.Catalog.RoundTrip
import SurveyChecks.Proofs.CommandLine.Arguments
import SurveyChecks.Proofs.Text.Lines
import SurveyChecks.Proofs.Workspace

/-!
# What a run leaves behind

A run works out the script before it opens a file, and opens the file for the catalog last. So it
leaves the files as they were, or with the script, or with the script and the catalog, and how it
ends tells which.
-/

namespace SurveyChecks

open SurveyChecks.Text
open SurveyChecks.Workspace

variable {a : Arguments} {w w' : Workspace} {s : Settings} {f : Form} {p : Place}
  {path text note output script catalog : String} {next : Workspace → Outcome} {fault : FileFault}

/-- The path of the file for the catalog, empty when there is to be none. -/
def Arguments.catalogPath (a : Arguments) : String := a.catalog.getD ""

/-- The paths of the files to write when the script goes to `output`. -/
def Arguments.written (a : Arguments) (output : String) : List String :=
  if a.catalogPath = "" then [output] else [output, a.catalogPath]

/-- A text is plain when all its characters are. -/
theorem isPlain_iff_madeOf {s : String} :
    IsPlain s ↔ Text.MadeOf (fun c => isSurrogate (codeOf c) = false ∧ c ≠ '\x00') s := by
  constructor
  · intro h c hc
    have hstorable := List.all_eq_true.mp h.storable c hc
    refine ⟨by simpa using hstorable, ?_⟩
    rintro rfl
    exact h.noNull hc
  · intro h
    refine ⟨List.all_eq_true.mpr fun c hc => ?_, fun hnull => (h _ hnull).2 rfl⟩
    simp [(h c hc).1]

theorem isPlain_catalogPath {words : List String} (hplain : ∀ word ∈ words, IsPlain word)
    (h : Arguments.ofTexts words = .ok a) : IsPlain a.catalogPath := by
  unfold Arguments.catalogPath
  cases hcatalog : a.catalog with
  | none => exact ⟨by decide, by decide⟩
  | some s =>
    have hwords := fun word hword => isPlain_iff_madeOf.mp (hplain word hword)
    exact isPlain_iff_madeOf.mpr (Arguments.madeOf_of_ofTexts hwords h s hcatalog)

theorem Settings.pathText_of_parameters {hasSurvey : Bool} {p : Parameters}
    (h : s.parameters hasSurvey = .ok p) : Settings.pathText (s.value .output) = .ok p.output := by
  unfold Settings.parameters at h
  obtain ⟨output, houtput, h⟩ := bind_eq_ok_iff.mp h
  obtain ⟨instrument, -, h⟩ := bind_eq_ok_iff.mp h
  obtain ⟨workingDir, -, h⟩ := bind_eq_ok_iff.mp h
  obtain ⟨graphicsDir, -, h⟩ := bind_eq_ok_iff.mp h
  dsimp only at h
  rw [houtput]
  split at h
  · unfold Settings.withSurvey at h
    obtain ⟨identifiers, -, h⟩ := bind_eq_ok_iff.mp h
    obtain ⟨successCondition, -, h⟩ := bind_eq_ok_iff.mp h
    obtain ⟨correctionsFile, -, h⟩ := bind_eq_ok_iff.mp h
    obtain ⟨enumeratorComments, -, h⟩ := bind_eq_ok_iff.mp h
    obtain rfl := Except.ok.inj h
    rfl
  · obtain rfl := Except.ok.inj h
    rfl

@[simp] theorem Outcome.ending_after (notes : List Note) (o : Outcome) :
    (o.after notes).ending = o.ending := rfl

@[simp] theorem Outcome.workspace_after (notes : List Note) (o : Outcome) :
    (o.after notes).workspace = o.workspace := rfl

namespace Run

/-! ## Each way to end -/

/-- From arguments and files come settings, a form, the path of the script and the script. -/
structure Resolves (a : Arguments) (w : Workspace) (s : Settings) (f : Form)
    (output script : String) : Prop where
  settings : Settings.ofArguments w a = .ok s
  form : ∃ path, Settings.pathText (s.value .instrument) = .ok path ∧ Form.ofFile w path none = .ok f
  output : Settings.pathText (s.value .output) = .ok output
  script : Script.ofSettings f s = .ok script

theorem resolves_of_parameters {q : Parameters} (hsettings : Settings.ofArguments w a = .ok s)
    (hpath : Settings.pathText (s.value .instrument) = .ok path)
    (hform : Form.ofFile w path none = .ok f)
    (hparameters : s.parameters (Script.hasSurvey f) = .ok q) :
    Resolves a w s f q.output (Script.text f q) where
  settings := hsettings
  form := ⟨path, hpath, hform⟩
  output := Settings.pathText_of_parameters hparameters
  script := by rw [Script.ofSettings, hparameters]; rfl

theorem Resolves.exists_steps (h : Resolves a w s f output script) :
    ∃ path q, Settings.pathText (s.value .instrument) = .ok path ∧
      Form.ofFile w path none = .ok f ∧ s.parameters (Script.hasSurvey f) = .ok q ∧
      output = q.output ∧ script = Script.text f q := by
  obtain ⟨path, hpath, hform⟩ := h.form
  obtain ⟨q, hparameters, hscript⟩ := map_eq_ok_iff.mp h.script
  have houtput : Settings.pathText (s.value .output) = .ok q.output :=
    Settings.pathText_of_parameters hparameters
  exact ⟨path, q, hpath, hform, hparameters, Except.ok.inj (h.output.symm.trans houtput),
    hscript.symm⟩

/-- Whatever a run writes to a file that it has opened goes into it: the texts can be stored. -/
def WritesSucceed (a : Arguments) (w : Workspace) : Prop :=
  ∀ s f output script, Resolves a w s f output script → isStorable script ∧
    (a.catalogPath ≠ "" → ∀ catalog, f.catalog.toYaml = .ok catalog → isStorable catalog)

/-- The ways in which a run may end, each with the files that it leaves. -/
inductive Leaves (a : Arguments) (w : Workspace) : Ending → Workspace → Prop where
  /-- It breaks off before a file is opened. -/
  | broken (b : Breakdown) : Leaves a w (.broken b) w
  /-- It reports why there is no script. -/
  | refused : Leaves a w (.status 1) w
  /-- It writes the script and is not asked for the catalog. -/
  | script {s : Settings} {f : Form} {p : Place} {output script : String}
      (h : Resolves a w s f output script) (hplace : w.placeToWrite output = .ok p)
      (hcatalog : a.catalogPath = "") : Leaves a w (.status 0) (w.withFile p (.text script))
  /-- It writes the script and reports why there is no catalog. -/
  | withoutCatalog {s : Settings} {f : Form} {p : Place} {output script : String}
      {fault : FileFault} (h : Resolves a w s f output script)
      (hplace : w.placeToWrite output = .ok p) (hcatalog : a.catalogPath ≠ "")
      (hfault : (w.withFile p (.text script)).placeToWrite a.catalogPath = .error fault) :
      Leaves a w (.status 1) (w.withFile p (.text script))
  /-- It writes the script and the catalog. -/
  | both {s : Settings} {f : Form} {p q : Place} {output script catalog : String}
      (h : Resolves a w s f output script) (hplace : w.placeToWrite output = .ok p)
      (hcatalog : a.catalogPath ≠ "") (htext : f.catalog.toYaml = .ok catalog)
      (hplace' : (w.withFile p (.text script)).placeToWrite a.catalogPath = .ok q) :
      Leaves a w (.status 0) ((w.withFile p (.text script)).withFile q (.text catalog))

/-! ## The steps of a run -/

theorem writing_of_placeToWrite (htext : isStorable text) (h : w.placeToWrite path = .ok p) :
    writing w path text note next =
      (next (w.withFile p (.text text))).after [⟨.info, note⟩] := by
  simp [writing, write, h, htext, Except.map]

theorem writing_of_fault (h : w.placeToWrite path = .error fault) :
    writing w path text note next =
      if fault = .nullCharacter ∨ fault = .notStorable then .brokenOff w (.file fault)
      else .reported w ("write " ++ path ++ ": " ++ fault.message path) := by
  unfold writing
  rw [write, h]
  cases fault <;> rfl

theorem catalogStep_eq (a : Arguments) (f : Form) (w : Workspace) :
    catalogStep a f w =
      if a.catalogPath = "" then ⟨.status 0, [], w⟩
      else
        match f.catalog.toYaml with
        | .ok text =>
          writing w a.catalogPath text ("Wrote " ++ a.catalogPath) fun w => ⟨.status 0, [], w⟩
        | .error fault => .brokenOff w (.value fault) := by
  unfold catalogStep Arguments.catalogPath
  split
  · rename_i hcatalog
    exact (if_pos hcatalog).symm
  · rename_i hcatalog
    exact (if_neg hcatalog).symm

variable (hplain : IsPlain a.catalogPath) (hwrites : WritesSucceed a w)
include hplain hwrites

/-- A run that has written the script ends with a status. -/
theorem leaves_catalogStep (h : Resolves a w s f output script)
    (hplace : w.placeToWrite output = .ok p) :
    Leaves a w (catalogStep a f (w.withFile p (.text script))).ending
      (catalogStep a f (w.withFile p (.text script))).workspace := by
  rw [catalogStep_eq]
  by_cases hcatalog : a.catalogPath = ""
  · rw [if_pos hcatalog]
    exact .script h hplace hcatalog
  · rw [if_neg hcatalog]
    obtain ⟨catalog, htext⟩ := Catalog.exists_toYaml f.catalog
    have hstorable : isStorable catalog := (hwrites s f output script h).2 hcatalog catalog htext
    rw [htext]
    cases hplace' : (w.withFile p (.text script)).placeToWrite a.catalogPath with
    | ok q =>
      dsimp only
      rw [writing_of_placeToWrite hstorable hplace']
      exact .both h hplace hcatalog htext hplace'
    | error fault =>
      have hfault := placeToWrite_error_of_isPlain hplain hplace'
      have hreported : ¬ (fault = .nullCharacter ∨ fault = .notStorable) := by
        rintro (rfl | rfl) <;> exact absurd hfault (by decide)
      dsimp only
      rw [writing_of_fault hplace', if_neg hreported]
      exact .withoutCatalog h hplace hcatalog hplace'

theorem leaves_scriptStep (hsettings : Settings.ofArguments w a = .ok s)
    (hpath : Settings.pathText (s.value .instrument) = .ok path)
    (hform : Form.ofFile w path none = .ok f) :
    Leaves a w (scriptStep a s f w).ending (scriptStep a s f w).workspace := by
  unfold scriptStep
  cases hparameters : s.parameters (Script.hasSurvey f) with
  | error fault => exact .broken _
  | ok p =>
    have h : Resolves a w s f p.output (Script.text f p) :=
      resolves_of_parameters hsettings hpath hform hparameters
    have hstorable : isStorable (Script.text f p) := (hwrites s f _ _ h).1
    dsimp only
    cases hplace : w.placeToWrite p.output with
    | ok q =>
      rw [writing_of_placeToWrite hstorable hplace]
      exact leaves_catalogStep hplain hwrites h hplace
    | error fault =>
      rw [writing_of_fault hplace]
      split
      · exact .broken _
      · exact .refused

theorem leaves_formStep (hsettings : Settings.ofArguments w a = .ok s)
    (hpath : Settings.pathText (s.value .instrument) = .ok path) :
    Leaves a w (formStep a s path w).ending (formStep a s path w).workspace := by
  unfold formStep
  rw [Outcome.ending_after, Outcome.workspace_after]
  cases hform : Form.ofFile w path none with
  | ok f => exact leaves_scriptStep hplain hwrites hsettings hpath hform
  | error e =>
    dsimp only
    split
    · exact .refused
    · exact .broken _

theorem leaves_withArguments :
    Leaves a w (withArguments a w).ending (withArguments a w).workspace := by
  unfold withArguments
  cases hsettings : Settings.ofArguments w a with
  | ok s =>
    dsimp only
    cases hpath : Settings.pathText (s.value .instrument) with
    | ok path => exact leaves_formStep hplain hwrites hsettings hpath
    | error fault => exact .broken _
  | error e =>
    dsimp only
    split
    · exact .refused
    · exact .broken _

omit hplain hwrites

/-! ## The files after a run -/

/-- The script and, if asked for, the catalog are written, and nothing else. One file for both of
them holds the catalog. -/
def IsDone (a : Arguments) (w w' : Workspace) : Prop :=
  ∃ s f output script catalog, Resolves a w s f output script ∧ f.catalog.toYaml = .ok catalog ∧
    (a.catalogPath = "" ∨ ¬ SameFile w' output a.catalogPath → w'.read output = .ok script) ∧
    (a.catalogPath ≠ "" → w'.read a.catalogPath = .ok catalog) ∧
    SameBut (a.written output) w w'

/-- The script is written, and nothing else: the file for the catalog cannot be opened. -/
def IsWithoutCatalog (a : Arguments) (w w' : Workspace) : Prop :=
  ∃ s f output script, Resolves a w s f output script ∧ w'.read output = .ok script ∧
    a.catalogPath ≠ "" ∧ (∃ fault, w'.placeToWrite a.catalogPath = .error fault) ∧
    SameBut [output] w w'

theorem isDone_of_script (h : Resolves a w s f output script)
    (hplace : w.placeToWrite output = .ok p) (hcatalog : a.catalogPath = "") :
    IsDone a w (w.withFile p (.text script)) := by
  obtain ⟨catalog, htext⟩ := Catalog.exists_toYaml f.catalog
  refine ⟨s, f, output, script, catalog, h, htext, fun _ => read_withFile_self hplace script,
    fun hne => absurd hcatalog hne, ?_⟩
  rw [Arguments.written, if_pos hcatalog]
  exact sameBut_withFile hplace _

theorem isDone_of_both {q : Place} (h : Resolves a w s f output script)
    (hplace : w.placeToWrite output = .ok p) (hcatalog : a.catalogPath ≠ "")
    (htext : f.catalog.toYaml = .ok catalog)
    (hplace' : (w.withFile p (.text script)).placeToWrite a.catalogPath = .ok q) :
    IsDone a w ((w.withFile p (.text script)).withFile q (.text catalog)) := by
  refine ⟨s, f, output, script, catalog, h, htext, fun hother => ?_,
    fun _ => read_withFile_self hplace' catalog, ?_⟩
  · have hne : q ≠ p := by
      rintro rfl
      exact hother.resolve_left hcatalog (sameFile_withFile_withFile hplace hplace' _)
    exact read_withFile_withFile hplace hplace' hne _
  · rw [Arguments.written, if_neg hcatalog]
    exact sameBut_withFile_withFile hplace hplace' _

theorem ending_ofCommandLine {words : List String} (hwords : Arguments.ofTexts words = .ok a) :
    (ofCommandLine words w).ending = (withArguments a w).ending := by
  rw [ofCommandLine, hwords]

theorem workspace_ofCommandLine {words : List String} (hwords : Arguments.ofTexts words = .ok a) :
    (ofCommandLine words w).workspace = (withArguments a w).workspace := by
  rw [ofCommandLine, hwords]

/-- How a run ends tells which files it leaves: with a zero all is done; with a one nothing is, or
all but the catalog; and when it breaks off nothing is. -/
theorem ofCommandLine_files {words : List String} (hwords : Arguments.ofTexts words = .ok a)
    (hplain : ∀ word ∈ words, IsPlain word) (hwrites : WritesSucceed a w) :
    ((ofCommandLine words w).ending = .status 0 ∧ IsDone a w (ofCommandLine words w).workspace) ∨
    ((ofCommandLine words w).ending = .status 1 ∧
      ((ofCommandLine words w).workspace = w ∨
        IsWithoutCatalog a w (ofCommandLine words w).workspace)) ∨
    ∃ b, (ofCommandLine words w).ending = .broken b ∧ (ofCommandLine words w).workspace = w := by
  have hleaves := leaves_withArguments (isPlain_catalogPath hplain hwords) hwrites
  rw [ending_ofCommandLine hwords, workspace_ofCommandLine hwords]
  generalize (withArguments a w).ending = e, (withArguments a w).workspace = w' at hleaves
  cases hleaves with
  | broken b => exact Or.inr (Or.inr ⟨b, rfl, rfl⟩)
  | refused => exact Or.inr (Or.inl ⟨rfl, Or.inl rfl⟩)
  | script h hplace hcatalog => exact Or.inl ⟨rfl, isDone_of_script h hplace hcatalog⟩
  | withoutCatalog h hplace hcatalog hfault =>
    have hread := read_withFile_self hplace
    exact Or.inr (Or.inl ⟨rfl, Or.inr ⟨_, _, _, _, h, hread _, hcatalog, ⟨_, hfault⟩,
      sameBut_withFile hplace _⟩⟩)
  | both h hplace hcatalog htext hplace' =>
    exact Or.inl ⟨rfl, isDone_of_both h hplace hcatalog htext hplace'⟩

/-! ## A run on a form of one question -/

theorem eq_ok_of_toOption {ε α : Type} {x : Except ε α} {y : α} (h : x.toOption = some y) :
    x = .ok y := by
  cases x with
  | error e => contradiction
  | ok z => exact congrArg Except.ok (Option.some.inj h)

/-- The form and the parameters that come of arguments and files. -/
def resolved? (a : Arguments) (w : Workspace) : Option (Form × Parameters) := do
  let s ← (Settings.ofArguments w a).toOption
  let path ← (Settings.pathText (s.value .instrument)).toOption
  let f ← (Form.ofFile w path none).toOption
  let p ← (s.parameters (Script.hasSurvey f)).toOption
  return (f, p)

theorem isStorable_intercalate {sep : String} {ss : List String} (hsep : isStorable sep)
    (h : ∀ s ∈ ss, isStorable s) : isStorable (sep.intercalate ss) := by
  refine List.all_eq_true.mpr fun c hc => ?_
  rcases mem_of_mem_intercalate hc with hc | ⟨s, hs, hc⟩
  · exact List.all_eq_true.mp hsep c hc
  · exact List.all_eq_true.mp (h s hs) c hc

theorem Resolves.exists_parameters (h : Resolves a w s f output script) :
    ∃ p, resolved? a w = some (f, p) ∧ script = Script.text f p := by
  obtain ⟨path, p, hpath, hform, hparameters, -, hscript⟩ := h.exists_steps
  refine ⟨p, ?_, hscript⟩
  simp [resolved?, h.settings, hpath, hform, hparameters, Except.toOption]

theorem exists_resolves_of_resolved? {q : Parameters} (h : resolved? a w = some (f, q)) :
    ∃ s, Resolves a w s f q.output (Script.text f q) := by
  simp only [resolved?, bind, Option.bind_eq_some_iff, pure, Option.some.injEq,
    Prod.mk.injEq] at h
  obtain ⟨s, hsettings, path, hpath, f, hform, q, hparameters, rfl, rfl⟩ := h
  exact ⟨s, resolves_of_parameters (eq_ok_of_toOption hsettings) (eq_ok_of_toOption hpath)
    (eq_ok_of_toOption hform) (eq_ok_of_toOption hparameters)⟩

/-- A run comes to its end when the files for the script and for the catalog can be opened. -/
theorem ending_of_resolves (h : Resolves a w s f output script) (hwrites : WritesSucceed a w)
    (hplace : w.placeToWrite output = .ok p)
    (hcatalog : a.catalogPath ≠ "" →
      ∃ q, (w.withFile p (.text script)).placeToWrite a.catalogPath = .ok q) :
    (withArguments a w).ending = .status 0 := by
  obtain ⟨hscript, hstorable⟩ := hwrites s f output script h
  obtain ⟨path, q, hpath, hform, hparameters, rfl, rfl⟩ := h.exists_steps
  have hrun : (withArguments a w).ending = (scriptStep a s f w).ending := by
    simp only [withArguments, h.settings, hpath, formStep, hform, Outcome.ending_after]
  rw [hrun, scriptStep, hparameters]
  dsimp only
  rw [writing_of_placeToWrite hscript hplace, Outcome.ending_after, catalogStep_eq]
  by_cases hnone : a.catalogPath = ""
  · rw [if_pos hnone]
  · obtain ⟨catalog, htext⟩ := Catalog.exists_toYaml f.catalog
    obtain ⟨q', hplace'⟩ := hcatalog hnone
    rw [if_neg hnone, htext]
    dsimp only
    rw [writing_of_placeToWrite (hstorable hnone catalog htext) hplace', Outcome.ending_after]

/-- Texts can be stored when the lines of the script and the text of the catalog can. -/
theorem writesSucceed_of_resolved? (h : (resolved? a w).all fun (f, p) =>
      (Script.lines f p).all isStorable && f.catalog.toYaml.toOption.all isStorable) :
    WritesSucceed a w := by
  intro s f output script hresolves
  obtain ⟨p, hresolved, rfl⟩ := hresolves.exists_parameters
  rw [hresolved, Option.all_some, Bool.and_eq_true, List.all_eq_true] at h
  refine ⟨isStorable_intercalate (by decide) h.1, fun _ catalog htext => ?_⟩
  have hcatalog := h.2
  rwa [htext, Except.toOption, Option.all_some] at hcatalog

/-- A workbook with a form of one question. -/
def household : Workspace where
  files := [(["home.xlsx".toList], .workbook ⟨[
    ("survey", [[.text "type", .text "name", .text "label"], [.text "text", .text "hh", .null]]),
    ("choices", [[.text "list_name", .text "name", .text "label"]])]⟩)]

/-- The words for the script and the catalog of the form. -/
def householdWords : List String :=
  ["--instrument", "home.xlsx", "--output", "home.do", "--enumerator-id", "enum",
    "--unique-ids", "hh", "--catalog-yaml", "home.yaml"]

/-- The arguments that the words stand for. -/
def householdArguments : Arguments where
  parameters := [(.instrument, .text "home.xlsx"), (.output, .text "home.do"),
    (.enumeratorId, .text "enum"), (.uniqueIds, .list [.text "hh"])]
  catalog := some "home.yaml"

/-- The script of the form and its catalog are written. -/
theorem ofCommandLine_files_household :
    Arguments.ofTexts householdWords = .ok householdArguments ∧
    (∀ word ∈ householdWords, IsPlain word) ∧ WritesSucceed householdArguments household ∧
    (ofCommandLine householdWords household).ending = .status 0 ∧
    IsDone householdArguments household (ofCommandLine householdWords household).workspace := by
  have hwords : Arguments.ofTexts householdWords = .ok householdArguments := rfl
  have hplain : ∀ word ∈ householdWords, IsPlain word := by
    have h : ∀ word ∈ householdWords, isStorable word = true ∧ '\x00' ∉ word.toList := by
      decide +kernel
    exact fun word hword => ⟨(h word hword).1, (h word hword).2⟩
  have hwrites : WritesSucceed householdArguments household :=
    writesSucceed_of_resolved? (by decide +kernel)
  have houtput : (resolved? householdArguments household).map (·.2.output) = some "home.do" := by
    decide +kernel
  obtain ⟨⟨f, q⟩, hresolved, hq⟩ := Option.map_eq_some_iff.mp houtput
  obtain ⟨s, hresolves⟩ := exists_resolves_of_resolved? hresolved
  have hplace : household.placeToWrite q.output = .ok ["home.do".toList] := by
    rw [show q.output = "home.do" from hq]
    rfl
  have hending : (ofCommandLine householdWords household).ending = .status 0 := by
    rw [ending_ofCommandLine hwords]
    exact ending_of_resolves hresolves hwrites hplace fun _ => ⟨["home.yaml".toList], rfl⟩
  refine ⟨hwords, hplain, hwrites, hending, ?_⟩
  rcases ofCommandLine_files hwords hplain hwrites with
    ⟨-, hdone⟩ | ⟨hreported, -⟩ | ⟨b, hbroken, -⟩
  · exact hdone
  · simp [hending] at hreported
  · simp [hending] at hbroken

end Run

end SurveyChecks
