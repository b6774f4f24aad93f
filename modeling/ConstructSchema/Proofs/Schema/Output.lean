import ConstructSchema.Proofs.Files.Resolve
import ConstructSchema.Proofs.Schema.Writing
import ConstructSchema.Proofs.Text.WhiteSpace

/-!
Output paths that are accepted, and where they lead.

A text is accepted as an output path exactly if something is left of it without the white space
around it and no part of that between slashes is two dots (`checkOutput_eq_ok_iff`). If it does not
start at the root, it leads down from wherever it is taken, so both files are below (`StaysBelow`).
A write into it changes nothing that is not below (`Schemas.isBelow_of_write`).
-/

namespace ConstructSchema

open FileTree (placeOf)

/-- The name of a file that schemas are written to. -/
inductive IsSchemaFile : String → Prop
  | propertyTypes : IsSchemaFile propertyTypesFile
  | resources : IsSchemaFile resourcesFile

theorem IsSchemaFile.isFileName {file : String} (h : IsSchemaFile file) :
    FileTree.IsFileName file := by
  cases h with
  | propertyTypes => exact isFileName_propertyTypesFile
  | resources => exact isFileName_resourcesFile

theorem IsSchemaFile.leadsDown {file : String} (h : IsSchemaFile file) : Path.LeadsDown file where
  toIsName := h.isFileName.toIsName
  ne_here := h.isFileName.ne_here
  ne_above := h.isFileName.ne_above

namespace Path

variable {raw path : String}

theorem checkOutput_eq_ok_iff {answer : String} :
    checkOutput raw = .ok answer ↔
      answer = Text.trim raw ∧ Text.trim raw ≠ "" ∧ above ∉ parts (Text.trim raw) := by
  unfold checkOutput
  simp only [above_mem_segments_iff, String.isEmpty_iff]
  split_ifs with hempty habove
  · simp [hempty]
  · simp [habove]
  · simp [hempty, habove, eq_comm]

theorem checkOutput_eq_error_iff {failure : Failure} :
    checkOutput raw = .error failure ↔
      Text.trim raw = "" ∧ failure = .emptyOutputPath ∨
        Text.trim raw ≠ "" ∧ above ∈ parts (Text.trim raw) ∧ failure = .climbingOutputPath := by
  unfold checkOutput
  simp only [above_mem_segments_iff, String.isEmpty_iff]
  split_ifs with hempty habove
  · simp [hempty, eq_comm]
  · simp [hempty, habove, eq_comm]
  · simp [hempty, habove]

theorem above_not_mem_of_checkOutput (h : checkOutput raw = .ok path) :
    above ∉ segments path := by
  obtain ⟨rfl, -, habove⟩ := checkOutput_eq_ok_iff.1 h
  exact mt above_mem_segments_iff.1 habove

/-- A path that is accepted is accepted as it is. -/
theorem checkOutput_again (h : checkOutput raw = .ok path) : checkOutput path = .ok path := by
  obtain ⟨htrim, hne, habove⟩ := checkOutput_eq_ok_iff.1 h
  have hself : Text.trim path = path := (Text.trimsTo_iff.2 htrim).trim_eq_self
  exact checkOutput_eq_ok_iff.2 ⟨hself.symm, by rwa [hself, htrim], by rwa [hself, htrim]⟩

/-- A path that leads down from wherever it is taken. -/
structure StaysBelow (path : String) : Prop where
  /-- The files are below the place from which the path is taken. -/
  resolved : ∀ base file, IsSchemaFile file → IsBelow base (resolve base path ++ [file])
  /-- The same for the paths of the files, within a base that is a path. -/
  joined : ∀ start base file, IsSchemaFile file →
    IsBelow (resolve start base) (resolve start (join base (join path file)))
  /-- In a tree without links, no way along the path leads out of where it starts. -/
  followed : ∀ (t : FileTree) base place, t.follow base (segments path) = .ok place →
    place = resolve base path ∧ base <+: place

/-- Without two dots a path that does not start at the root stays below. -/
theorem staysBelow_of_not_mem (hrelative : isAbsolute path = false)
    (habove : above ∉ segments path) : StaysBelow path where
  resolved base file hfile := isBelow_resolve hrelative habove base hfile.leadsDown
  joined start base file hfile := by
    have hdown := hfile.leadsDown
    have hfileRelative : isAbsolute (join path file) = false := by
      rw [isAbsolute_join, hrelative, isAbsolute_of_isName hdown.toIsName, ite_self]
    rw [resolve_join start base hfileRelative, resolve_join_of_leadsDown hdown]
    exact isBelow_resolve hrelative habove (resolve start base) hdown
  followed t base place hfollow := by
    have hplace := FileTree.eq_resolve_of_follow hrelative hfollow
    refine ⟨hplace, ?_⟩
    rw [hplace, resolve_eq_append hrelative habove]
    exact List.prefix_append ..

/-- **An output path that is accepted stays below.** A text is accepted exactly if something is left
of it without the white space around it and no part of that between slashes is two dots; otherwise
the failure says which of the two it is. The answer is what is left, as it is, and it is accepted
again. If it does not start at the root, both files are below every base directory from which it is
resolved. -/
theorem checkOutput_stays_below (raw : String) :
    ∃ path, (∀ text, Text.TrimsTo raw text ↔ text = path) ∧
      (∀ answer, checkOutput raw = .ok answer ↔
        answer = path ∧ path ≠ "" ∧ above ∉ parts path) ∧
      (∀ failure, checkOutput raw = .error failure ↔
        path = "" ∧ failure = .emptyOutputPath ∨
          path ≠ "" ∧ above ∈ parts path ∧ failure = .climbingOutputPath) ∧
      ∀ answer, checkOutput raw = .ok answer →
        checkOutput answer = .ok answer ∧ (isAbsolute answer = false → StaysBelow answer) := by
  refine ⟨Text.trim raw, fun text => Text.trimsTo_iff, fun answer => checkOutput_eq_ok_iff,
    fun failure => checkOutput_eq_error_iff, fun answer h => ⟨checkOutput_again h, ?_⟩⟩
  exact fun hrelative => staysBelow_of_not_mem hrelative (above_not_mem_of_checkOutput h)

/-- Dots in a name do not climb. -/
theorem checkOutput_stays_below_dotted :
    checkOutput " out/./..hidden/ " = .ok "out/./..hidden/" ∧
      IsBelow ["srv"] ["srv", "out", "..hidden", "cdk-types.json"] := by
  have hok : checkOutput " out/./..hidden/ " = .ok "out/./..hidden/" := by decide
  have hplace : resolve ["srv"] "out/./..hidden/" = ["srv", "out", "..hidden"] := by decide
  obtain ⟨-, -, -, -, haccepted⟩ := checkOutput_stays_below " out/./..hidden/ "
  have hbelow := ((haccepted _ hok).2 (by decide)).resolved ["srv"] _ .propertyTypes
  rw [hplace] at hbelow
  exact ⟨hok, hbelow⟩

end Path

/-! ## Writes -/

namespace Schemas

variable {s : Schemas} {t t' : FileTree} {directory : String}

/-- A write, however it ends, changes the two files at most, and makes directories on the way to
them. -/
theorem changed_of_write (habove : Path.above ∉ Path.segments directory)
    {answer : Except Failure (List String)}
    (h : s.write FileTree.system directory t = (answer, t')) {other : List String}
    (hchanged : t'.entryAt other ≠ t.entryAt other) :
    (∃ file, IsSchemaFile file ∧ other = filePlace directory file) ∨
      other <+: directoryPlace directory ∧ t.entryAt other = none := by
  by_cases hfirst : other = filePlace directory propertyTypesFile
  · exact Or.inl ⟨_, .propertyTypes, hfirst⟩
  by_cases hsecond : other = filePlace directory resourcesFile
  · exact Or.inl ⟨_, .resources, hsecond⟩
  have hmade : ∀ made : FileTree, t.Grown made (directoryPlace directory) →
      t'.entryAt other = made.entryAt other →
        other <+: directoryPlace directory ∧ t.entryAt other = none := by
    intro made hgrown hsame
    rcases hgrown other with heq | ⟨hway, hnone, -⟩
    · exact absurd (hsame.trans heq) hchanged
    · exact ⟨hway, hnone⟩
  refine Or.inr ?_
  cases answer with
  | ok paths =>
    have hwritten := writtenInto_of_write habove h
    exact (hwritten.unchanged other hfirst hsecond).resolve_left hchanged
  | error failure =>
    obtain ⟨cause, -, hfails⟩ := fails_of_write habove h
    cases hfails with
    | directory hgrown => exact hmade _ hgrown rfl
    | propertyTypes hgrown => exact hmade _ hgrown rfl
    | resources hgrown _ _ _ hothers => exact hmade _ hgrown (hothers other hfirst)

/-- Where an output path that is accepted is taken within a directory that is there, a write
changes nothing that is not below that directory. -/
theorem isBelow_of_write {base raw path : String} (hbase : Path.above ∉ Path.segments base)
    (hpath : Path.checkOutput raw = .ok path)
    (hthere : t.entryAt (directoryPlace base) = some .directory)
    {answer : Except Failure (List String)}
    (h : s.write FileTree.system (Path.join base path) t = (answer, t')) {other : List String}
    (hchanged : t'.entryAt other ≠ t.entryAt other) :
    Path.IsBelow (directoryPlace base) other := by
  have hdown : Path.above ∉ Path.segments path := Path.above_not_mem_of_checkOutput hpath
  have hsegments := Path.segments_join_eq_append base path
  have hplace : directoryPlace (Path.join base path) =
      directoryPlace base ++ placeOf (Path.segments path) := by
    simp [directoryPlace, hsegments]
  have habove : Path.above ∉ Path.segments (Path.join base path) := by
    simp [hsegments, hbase, hdown]
  rcases changed_of_write habove h hchanged with ⟨file, hfile, rfl⟩ | ⟨hway, hnone⟩
  · rw [filePlace, hplace, List.append_assoc]
    exact ⟨_, by simp, rfl,
      Path.leadsDown_of_mem_placeOf_append hdown hfile.leadsDown⟩
  · -- A directory that was made was missing, so it is not on the way to the base.
    rw [hplace] at hway
    rcases List.prefix_or_prefix_of_prefix hway (List.prefix_append _ _) with hfront | hbehind
    · simp [FileTree.directory_of_above hthere hfront] at hnone
    · obtain ⟨names, rfl⟩ := hbehind
      refine ⟨names, ?_, rfl, fun name hname => ?_⟩
      · rintro rfl
        simp [hthere] at hnone
      · have hnames := (List.prefix_append_right_inj _).1 hway
        exact Path.leadsDown_of_mem_placeOf hdown (hnames.subset hname)

end Schemas

end ConstructSchema
