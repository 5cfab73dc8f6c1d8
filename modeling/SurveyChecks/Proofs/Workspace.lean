import SurveyChecks.Proofs.OrderedMap
import SurveyChecks.Workspace

/-!
# Writing to a workspace

A path leads to a place through directories. A file that is written is found again on the same path,
and nothing else changes: directories stay directories, so all other paths lead where they did.
-/

namespace SurveyChecks.Workspace

open SurveyChecks.Text

variable {w w' : Workspace} {p q here : Place} {s : List Char} {segments : List (List Char)}
  {c d : Content} {path path' t : String}

/-! ## Where paths lead -/

/-- A segment that names something in a directory. -/
structure IsName (s : List Char) : Prop where
  ne_here : s ≠ ['.']
  ne_above : s ≠ ['.', '.']
  short : (String.ofList s).utf8ByteSize ≤ maxNameBytes

/-- Segments lead from a directory to a place, through directories only. -/
inductive LeadsTo (w : Workspace) : Place → List (List Char) → Place → Prop where
  /-- The last segment is the name at the place. -/
  | last {here : Place} {s : List Char} (hname : IsName s) : LeadsTo w here [s] (here ++ [s])
  /-- A point stays in the directory. -/
  | stay {here p : Place} {rest : List (List Char)} (h : LeadsTo w here rest p) :
      LeadsTo w here (['.'] :: rest) p
  /-- Two points lead to the directory above. -/
  | up {here p : Place} {rest : List (List Char)} (h : LeadsTo w (above here) rest p) :
      LeadsTo w here (['.', '.'] :: rest) p
  /-- The name of a directory leads into it. -/
  | down {here p : Place} {s : List Char} {rest : List (List Char)} (hname : IsName s)
      (hfile : w.files.get? (here ++ [s]) = none) (hdirectory : w.hasDirectory (here ++ [s]))
      (h : LeadsTo w (here ++ [s]) rest p) : LeadsTo w here (s :: rest) p

/-- What is at a place. -/
def locationAt (w : Workspace) (p : Place) : Location :=
  match w.files.get? p with
  | some c => .file p c
  | none => if w.hasDirectory p then .directory else .free p

theorem locateFrom_cons (hname : IsName s) (rest : List (List Char)) :
    w.locateFrom here (s :: rest) =
      match w.files.get? (here ++ [s]) with
      | some c => if rest.isEmpty then .file (here ++ [s]) c else .throughFile
      | none =>
        if w.hasDirectory (here ++ [s]) then w.locateFrom (here ++ [s]) rest
        else if rest.isEmpty then .free (here ++ [s])
        else .nowhere := by
  refine (locateFrom.eq_4 w here s rest hname.ne_here hname.ne_above).trans ?_
  exact if_neg (Nat.not_lt.mpr hname.short)

theorem LeadsTo.locateFrom_eq (h : LeadsTo w here segments p) :
    w.locateFrom here segments = w.locationAt p := by
  induction h with
  | @last here s hname =>
    rw [locateFrom_cons hname, locationAt]
    cases w.files.get? (here ++ [s]) with
    | some c => rfl
    | none => rfl
  | stay h ih => rw [locateFrom, ih]
  | up h ih => rw [locateFrom, ih]
  | down hname hfile hdirectory h ih => rw [locateFrom_cons hname, hfile, if_pos hdirectory, ih]

theorem leadsTo_of_locateFrom
    (h : w.locateFrom here segments = .file p c ∨ w.locateFrom here segments = .free p) :
    LeadsTo w here segments p := by
  fun_induction locateFrom w here segments with
  | case1 here => simp at h
  | case2 here rest ih => exact .stay (ih h)
  | case3 here rest ih => exact .up (ih h)
  | case4 => simp at h
  | case5 here s rest hhere habove next hlong content hfile hlast =>
    have hplace : next = p ∧ content = c := by simpa using h
    rw [List.isEmpty_iff.mp hlast, ← hplace.1]
    exact .last ⟨hhere, habove, Nat.not_lt.mp hlong⟩
  | case6 => simp at h
  | case7 here s rest hhere habove next hlong hfile hdirectory ih =>
    exact .down ⟨hhere, habove, Nat.not_lt.mp hlong⟩ hfile hdirectory (ih h)
  | case8 here s rest hhere habove next hlong hfile hdirectory hlast =>
    have hplace : next = p := by simpa using h
    rw [List.isEmpty_iff.mp hlast, ← hplace]
    exact .last ⟨hhere, habove, Nat.not_lt.mp hlong⟩
  | case9 => simp at h

/-- A path leads to a place. -/
def Reaches (w : Workspace) (path : String) (p : Place) : Prop :=
  LeadsTo w (startOf path) (PathName.segments path) p

/-- A path is one at which a file may be opened. -/
structure IsFilePath (path : String) : Prop where
  sound : pathFault? path = none
  file : namesDirectory path = false

/-- A file is at a place or can be put there. -/
def HasRoom (w : Workspace) (p : Place) : Prop :=
  (∃ c, w.files.get? p = some c) ∨ w.hasDirectory p = false

theorem Reaches.locate_eq (h : Reaches w path p) : w.locate path = w.locationAt p :=
  LeadsTo.locateFrom_eq h

theorem locationAt_of_file (h : w.files.get? p = some c) : w.locationAt p = .file p c := by
  rw [locationAt, h]

theorem locationAt_of_hasRoom (h : HasRoom w p) :
    (∃ c, w.files.get? p = some c ∧ w.locationAt p = .file p c) ∨ w.locationAt p = .free p := by
  cases hfile : w.files.get? p with
  | some c => exact Or.inl ⟨c, rfl, locationAt_of_file hfile⟩
  | none =>
    have hdirectory : w.hasDirectory p = false := by
      rcases h with ⟨c, hc⟩ | h
      · rw [hfile] at hc
        contradiction
      · exact h
    refine Or.inr ?_
    rw [locationAt, hfile]
    simp [hdirectory]

/-- A path at whose end a file is or may be put leads to its place. -/
theorem reaches_of_locate (h : w.locate path = .file p c ∨ w.locate path = .free p) :
    Reaches w path p ∧ HasRoom w p ∧ (w.locate path = .file p c → w.files.get? p = some c) := by
  have hreaches : Reaches w path p := leadsTo_of_locateFrom h
  rw [hreaches.locate_eq, locationAt] at h ⊢
  cases hfile : w.files.get? p with
  | some d =>
    refine ⟨hreaches, Or.inl ⟨d, hfile⟩, fun heq => ?_⟩
    have hcontent : d = c := by simpa using heq
    rw [hcontent]
  | none =>
    rw [hfile] at h
    cases hdirectory : w.hasDirectory p with
    | true => simp [hdirectory] at h
    | false => exact ⟨hreaches, Or.inr hdirectory, by simp⟩

theorem placeToWrite_eq_ok_iff :
    w.placeToWrite path = .ok p ↔ IsFilePath path ∧ Reaches w path p ∧ HasRoom w p := by
  constructor
  · intro h
    unfold placeToWrite at h
    cases hsound : pathFault? path with
    | some fault => simp [hsound] at h
    | none =>
      cases hfile : namesDirectory path with
      | true => cases hlocate : w.locate path <;> simp [hsound, hlocate, hfile] at h
      | false =>
        cases hlocate : w.locate path with
        | file p' c =>
          have hplace : p' = p := by simpa [hsound, hlocate, hfile] using h
          obtain ⟨hreaches, hroom, -⟩ := reaches_of_locate (Or.inl hlocate)
          exact ⟨⟨hsound, hfile⟩, hplace ▸ hreaches, hplace ▸ hroom⟩
        | free p' =>
          have hplace : p' = p := by simpa [hsound, hlocate, hfile] using h
          obtain ⟨hreaches, hroom, -⟩ := reaches_of_locate (c := default) (Or.inr hlocate)
          exact ⟨⟨hsound, hfile⟩, hplace ▸ hreaches, hplace ▸ hroom⟩
        | directory => simp [hsound, hlocate] at h
        | nowhere => simp [hsound, hlocate] at h
        | throughFile => simp [hsound, hlocate] at h
        | tooLong last => simp [hsound, hlocate] at h
  · rintro ⟨⟨hsound, hfile⟩, hreaches, hroom⟩
    unfold placeToWrite
    rw [hsound, hreaches.locate_eq]
    rcases locationAt_of_hasRoom hroom with ⟨c, -, hlocation⟩ | hlocation
    · simp [hlocation, hfile]
    · simp [hlocation, hfile]

theorem read_of_reaches (hpath : IsFilePath path) (hreaches : Reaches w path p)
    (hfile : w.files.get? p = some (.text t)) : w.read path = .ok t := by
  unfold read
  rw [hpath.sound, hreaches.locate_eq, locationAt_of_file hfile]
  simp [hpath.file, textOf]

/-! ## After writing -/

@[simp] theorem get?_withFile (w : Workspace) (p q : Place) (c : Content) :
    (w.withFile p c).files.get? q = if p = q then some c else w.files.get? q := by
  rw [withFile, OrderedMap.get?_insert]
  simp

theorem any_of_keys_subset {m m' : OrderedMap Place Content} (f : Place → Bool)
    (hkeys : ∀ k ∈ m.keys, k ∈ m'.keys) (h : m.any fun x => f x.1) : m'.any fun x => f x.1 := by
  obtain ⟨x, hx, hf⟩ := List.any_eq_true.mp h
  obtain ⟨y, hy, hxy⟩ := List.mem_map.mp (hkeys x.1 (List.mem_map_of_mem hx))
  exact List.any_eq_true.mpr ⟨y, hy, hxy ▸ hf⟩

theorem hasDirectory_withFile (q : Place) (c : Content) (h : w.hasDirectory p) :
    (w.withFile q c).hasDirectory p := by
  have hkeys : ∀ k ∈ w.files.keys, k ∈ (w.withFile q c).files.keys := fun k hk =>
    OrderedMap.mem_keys_update.mpr (Or.inr hk)
  simp only [hasDirectory, Bool.or_eq_true] at h ⊢
  refine h.imp id fun hfiles => ?_
  exact any_of_keys_subset (fun k => p.isPrefixOf k && k != p) hkeys hfiles

/-- A path leads where it did after a file was put where there is room. -/
theorem LeadsTo.withFile (hroom : HasRoom w q) (h : LeadsTo w here segments p) (c : Content) :
    LeadsTo (w.withFile q c) here segments p := by
  induction h with
  | last hname => exact .last hname
  | stay h ih => exact .stay ih
  | up h ih => exact .up ih
  | @down here p s rest hname hfile hdirectory h ih =>
    refine .down hname ?_ (hasDirectory_withFile q c hdirectory) ih
    -- no file is put on the way: there is a directory
    have hne : q ≠ here ++ [s] := by
      rintro rfl
      rcases hroom with ⟨d, hd⟩ | hnone
      · rw [hfile] at hd
        contradiction
      · rw [hdirectory] at hnone
        contradiction
    rw [get?_withFile, if_neg hne, hfile]

/-- What was written is read. -/
theorem read_withFile_self (h : w.placeToWrite path = .ok p) (t : String) :
    (w.withFile p (.text t)).read path = .ok t := by
  obtain ⟨hpath, hreaches, hroom⟩ := placeToWrite_eq_ok_iff.mp h
  exact read_of_reaches hpath (hreaches.withFile hroom _) (by simp)

/-- What a file holds stays when another is written. -/
theorem read_withFile_withFile (h : w.placeToWrite path = .ok p)
    (h' : (w.withFile p (.text t)).placeToWrite path' = .ok q) (hne : q ≠ p) (c : Content) :
    ((w.withFile p (.text t)).withFile q c).read path = .ok t := by
  obtain ⟨hpath, hreaches, hroom⟩ := placeToWrite_eq_ok_iff.mp h
  obtain ⟨-, -, hroom'⟩ := placeToWrite_eq_ok_iff.mp h'
  refine read_of_reaches hpath ((hreaches.withFile hroom _).withFile hroom' c) ?_
  rw [get?_withFile, if_neg hne, get?_withFile, if_pos rfl]

/-- Two paths lead to one place. -/
def SameFile (w : Workspace) (path path' : String) : Prop :=
  ∃ p, Reaches w path p ∧ Reaches w path' p

/-- Every file is as it was, except those to which one of the paths leads. -/
structure SameBut (paths : List String) (w w' : Workspace) : Prop where
  directories : w'.directories = w.directories
  files : ∀ p, (∀ path ∈ paths, ¬ Reaches w' path p) → w'.files.get? p = w.files.get? p

theorem sameBut_withFile (h : w.placeToWrite path = .ok p) (c : Content) :
    SameBut [path] w (w.withFile p c) := by
  obtain ⟨-, hreaches, hroom⟩ := placeToWrite_eq_ok_iff.mp h
  refine ⟨rfl, fun q hq => ?_⟩
  have hne : p ≠ q := by
    rintro rfl
    exact hq path (List.mem_cons_self ..) (hreaches.withFile hroom c)
  rw [get?_withFile, if_neg hne]

/-- Both paths still lead to their places after two files were written. -/
theorem reaches_withFile_withFile (h : w.placeToWrite path = .ok p) {c : Content}
    (h' : (w.withFile p c).placeToWrite path' = .ok q) (d : Content) :
    Reaches ((w.withFile p c).withFile q d) path p ∧
      Reaches ((w.withFile p c).withFile q d) path' q := by
  obtain ⟨-, hreaches, hroom⟩ := placeToWrite_eq_ok_iff.mp h
  obtain ⟨-, hreaches', hroom'⟩ := placeToWrite_eq_ok_iff.mp h'
  exact ⟨(hreaches.withFile hroom c).withFile hroom' d, hreaches'.withFile hroom' d⟩

theorem sameBut_withFile_withFile (h : w.placeToWrite path = .ok p) {c : Content}
    (h' : (w.withFile p c).placeToWrite path' = .ok q) (d : Content) :
    SameBut [path, path'] w ((w.withFile p c).withFile q d) := by
  obtain ⟨hreaches, hreaches'⟩ := reaches_withFile_withFile h h' d
  refine ⟨rfl, fun r hr => ?_⟩
  have hne : p ≠ r := by
    rintro rfl
    exact hr path (by simp) hreaches
  have hne' : q ≠ r := by
    rintro rfl
    exact hr path' (by simp) hreaches'
  rw [get?_withFile, if_neg hne', get?_withFile, if_neg hne]

theorem sameFile_withFile_withFile (h : w.placeToWrite path = .ok p) {c : Content}
    (h' : (w.withFile p c).placeToWrite path' = .ok p) (d : Content) :
    SameFile ((w.withFile p c).withFile p d) path path' :=
  ⟨p, reaches_withFile_withFile h h' d⟩

/-! ## Paths that can be written down -/

/-- A text without null characters and lone surrogates. -/
structure IsPlain (s : String) : Prop where
  storable : isStorable s
  noNull : '\x00' ∉ s.toList

/-- The faults that do not come from the characters of a path. -/
def placeFaults : List FileFault := [.missing, .notADirectory, .isDirectory, .tooLong]

theorem pathFault?_of_isPlain {fault : FileFault} (hplain : IsPlain path)
    (h : pathFault? path = some fault) : fault ∈ placeFaults := by
  have hnull : path.toList.contains '\x00' = false := by simpa using hplain.noNull
  simp only [pathFault?, hplain.storable, hnull, Bool.not_true, Bool.false_eq_true, if_false] at h
  split at h
  · obtain rfl := Option.some.inj h
    decide
  · split at h
    · obtain rfl := Option.some.inj h
      decide
    · contradiction

theorem placeToWrite_error_of_isPlain {fault : FileFault} (hplain : IsPlain path)
    (h : w.placeToWrite path = .error fault) : fault ∈ placeFaults := by
  unfold placeToWrite at h
  cases hsound : pathFault? path with
  | some fault' =>
    have hfault : fault' = fault := by simpa [hsound] using h
    exact hfault ▸ pathFault?_of_isPlain hplain hsound
  | none =>
    -- every location has a fault of its own, except where a file can be opened
    cases hlast : namesDirectory path <;> cases hlocate : w.locate path <;>
      simp only [hsound, hlocate, hlast, Bool.and_true, Bool.and_false, Bool.false_eq_true,
        if_true, if_false, Except.error.injEq, reduceCtorEq] at h <;> subst h
    all_goals first | decide | (split <;> decide)

end SurveyChecks.Workspace
