import ConstructSchema.Proofs.Files.Writing
import ConstructSchema.Proofs.Schema.Files

/-!
All that a write of schemas does to a file tree.

A write that succeeds leaves the two files, the directories on the way to them, and everything else
as it was (`writtenInto_of_write`); to write the same schemas again changes nothing (`write_again`).
A write that meets a file in place of a directory, or a directory in place of a file, leaves the
tree as it was, but for the file of property types if it is the other one that cannot be written
(`fails_of_write`): where a file clashes there was something, so its directory was there already and
no directory was made. If the names fit, nothing else can go wrong, and a write succeeds exactly
where it has room (`hasRoom_of_write`, `exists_write_of_hasRoom`).
-/

namespace ConstructSchema

open FileTree (IsFileName placeOf)

theorem isFileName_propertyTypesFile : IsFileName propertyTypesFile :=
  ⟨by decide, by decide, by decide, by decide⟩

theorem isFileName_resourcesFile : IsFileName resourcesFile :=
  ⟨by decide, by decide, by decide, by decide⟩

/-- The place of a directory. -/
def directoryPlace (directory : String) : List String :=
  placeOf (Path.segments directory)

/-- The place of a file of a directory. -/
def filePlace (directory file : String) : List String :=
  directoryPlace directory ++ [file]

theorem filePlace_ne (directory : String) :
    filePlace directory propertyTypesFile ≠ filePlace directory resourcesFile := by
  simp [filePlace, propertyTypesFile, resourcesFile]

/-- A directory that the files fit into: no path is refused for its text alone, no name on the way
is too long, and the path of the directory ends in a name. -/
structure FitsFiles (directory : String) : Prop where
  accepted : Path.refusal? directory = none
  propertyTypes : Path.refusal? (Path.join directory propertyTypesFile) = none
  resources : Path.refusal? (Path.join directory resourcesFile) = none
  short : ∀ segment ∈ Path.segments directory, Path.isOverlong segment = false
  endsInName : FileTree.EndsInName (Path.segments directory)

/-- No file is in the way of a directory that is needed, and no directory has the name of a file. -/
structure HasRoom (t : FileTree) (directory : String) : Prop where
  clear : t.Clear (directoryPlace directory)
  propertyTypes : t.entryAt (filePlace directory propertyTypesFile) ≠ some .directory
  resources : t.entryAt (filePlace directory resourcesFile) ≠ some .directory

namespace Schemas

/-- All that a write that succeeds leaves. -/
structure WrittenInto (s : Schemas) (directory : String) (t t' : FileTree) : Prop where
  standsIn : s.StandsIn t' directory
  propertyTypes : t'.entryAt (filePlace directory propertyTypesFile) =
    some (.file (PropertyTypeSchema.render s.propertyTypes))
  resources : t'.entryAt (filePlace directory resourcesFile) =
    some (.file (ResourceSchema.render s.resources))
  follow_eq : t'.follow [] (Path.segments directory) = .ok (directoryPlace directory)
  directories : ∀ other, other <+: directoryPlace directory →
    t'.entryAt other = some .directory
  /-- All else is as it was, but for directories on the way that were missing. -/
  unchanged : ∀ other, other ≠ filePlace directory propertyTypesFile →
    other ≠ filePlace directory resourcesFile →
      t'.entryAt other = t.entryAt other ∨
        (other <+: directoryPlace directory ∧ t.entryAt other = none)

/-- What a write that fails leaves. If the cause is a clash, something was in the way from the start
and no directory was made. Where resources cannot be written, property types are written already. -/
inductive Fails (s : Schemas) (directory : String) (t : FileTree) (cause : FileError) :
    Failure → FileTree → Prop
  | directory {made : FileTree} (grown : t.Grown made (directoryPlace directory))
    (unchanged : cause.IsClash → made = t)
    (blocked : cause.IsClash → ¬ t.Clear (directoryPlace directory)) :
    Fails s directory t cause (.directoryNotCreated directory cause) made
  | propertyTypes {made : FileTree} (grown : t.Grown made (directoryPlace directory))
    (unchanged : cause.IsClash → made = t)
    (blocked : cause.IsClash →
      t.entryAt (filePlace directory propertyTypesFile) = some .directory) :
    Fails s directory t cause
      (.fileNotWritten (Path.join directory propertyTypesFile) cause) made
  | resources {made written : FileTree} (grown : t.Grown made (directoryPlace directory))
    (unchanged : cause.IsClash → made = t)
    (blocked : cause.IsClash → t.entryAt (filePlace directory resourcesFile) = some .directory)
    (propertyTypes : written.entryAt (filePlace directory propertyTypesFile) =
      some (.file (PropertyTypeSchema.render s.propertyTypes)))
    (others : ∀ other, other ≠ filePlace directory propertyTypesFile →
      written.entryAt other = made.entryAt other) :
    Fails s directory t cause (.fileNotWritten (Path.join directory resourcesFile) cause) written

variable {s : Schemas} {directory : String} {t t' : FileTree}

/-! ## Writes that succeed -/

/-- A write that succeeds makes the directory and then changes one file after the other. -/
theorem exists_wrote_of_write (habove : Path.above ∉ Path.segments directory) {paths : List String}
    (h : s.write FileTree.system directory t = (.ok paths, t')) :
    ∃ made between,
      t.createDirectories directory = (.ok (), made) ∧
      t.Grown made (directoryPlace directory) ∧
      made.Wrote directory (directoryPlace directory) propertyTypesFile
        (PropertyTypeSchema.render s.propertyTypes) between ∧
      between.Wrote directory (directoryPlace directory) resourcesFile
        (ResourceSchema.render s.resources) t' ∧
      paths = [Path.join directory propertyTypesFile, Path.join directory resourcesFile] := by
  obtain ⟨made, between, hmake, hfirst, hsecond, hpaths⟩ := write_eq_ok h
  have hmade := FileTree.made_of_createDirectories habove hmake
  have hwrote := FileTree.wrote_of_writeText_join isFileName_propertyTypesFile
    (hmade.follow_eq rfl) (hmade.directory rfl) hfirst
  have hwrote' := FileTree.wrote_of_writeText_join isFileName_resourcesFile
    hwrote.follow_eq hwrote.directory_eq hsecond
  exact ⟨made, between, hmake, hmade.grown, hwrote, hwrote', hpaths⟩

/-- A write that succeeds leaves both files and the directories on the way, and all else as it
was. -/
theorem writtenInto_of_write (habove : Path.above ∉ Path.segments directory) {paths : List String}
    (h : s.write FileTree.system directory t = (.ok paths, t')) :
    s.WrittenInto directory t t' := by
  obtain ⟨made, between, -, hgrown, hfirst, hsecond, -⟩ := exists_wrote_of_write habove h
  exact {
    standsIn := standsIn_of_write h
    propertyTypes := (hsecond.others _ (filePlace_ne directory)).trans hfirst.entry_eq
    resources := hsecond.entry_eq
    follow_eq := hsecond.follow_eq
    directories := fun _ hother => FileTree.directory_of_above hsecond.directory_eq hother
    unchanged := by
      intro other hne hne'
      rw [hsecond.others other hne', hfirst.others other hne]
      exact (hgrown other).imp_right fun ⟨hother, hnone, _⟩ => ⟨hother, hnone⟩ }

/-- Schemas that were written are written again without a change. -/
theorem write_again (habove : Path.above ∉ Path.segments directory) {paths : List String}
    (h : s.write FileTree.system directory t = (.ok paths, t')) :
    s.write FileTree.system directory t' = (.ok paths, t') := by
  obtain ⟨made, between, hmake, -, hfirst, hsecond, rfl⟩ := exists_wrote_of_write habove h
  have hfollow := hsecond.follow_eq
  have hdir := hsecond.directory_eq
  have hentry := (hsecond.others _ (filePlace_ne directory)).trans hfirst.entry_eq
  rw [write_run, FileTree.createDirectories_again hmake hfollow hdir]
  have hfirst' := FileTree.writeText_join_again isFileName_propertyTypesFile hfollow hdir
    hfirst.refusal_eq hentry
  have hsecond' := FileTree.writeText_join_again isFileName_resourcesFile hfollow hdir
    hsecond.refusal_eq hsecond.entry_eq
  simp only [hfirst', hsecond']

/-- Where a write succeeds, nothing was in the way. -/
theorem hasRoom_of_write (habove : Path.above ∉ Path.segments directory) {paths : List String}
    (h : s.write FileTree.system directory t = (.ok paths, t')) : HasRoom t directory := by
  obtain ⟨made, between, -, hgrown, hfirst, hsecond, -⟩ := exists_wrote_of_write habove h
  have hdir : made.entryAt (directoryPlace directory) = some .directory := by
    rw [← hfirst.others _ (by simp), hfirst.directory_eq]
  constructor
  case clear => exact hgrown.clear_of_directory hdir
  case propertyTypes => exact fun htaken => hfirst.not_taken (hgrown.directory_of_directory htaken)
  case resources =>
    exact fun htaken => hsecond.not_taken ((hfirst.others _ (filePlace_ne directory).symm).trans
      (hgrown.directory_of_directory htaken))

/-! ## Writes that fail -/

/-- If a directory has the name of a file, the one it is in was there before. -/
theorem eq_of_taken {made : FileTree} {file : String}
    (hgrown : t.Grown made (directoryPlace directory))
    (htaken : made.entryAt (filePlace directory file) = some .directory) : made = t := by
  refine hgrown.eq_of_directory (t.parent_eq _ file ?_)
  rcases hgrown (filePlace directory file) with hsame | ⟨hway, -⟩
  · have hthere := hsame.symm.trans htaken
    simp only [filePlace] at hthere
    simp [hthere]
  · exact absurd hway.length_le (by simp [filePlace])

/-- What a write that fails leaves depends on where it fails. -/
theorem fails_of_write (habove : Path.above ∉ Path.segments directory) {failure : Failure}
    (h : s.write FileTree.system directory t = (.error failure, t')) :
    ∃ cause, (FitsFiles directory → cause.IsClash) ∧ s.Fails directory t cause failure t' := by
  rw [write_run] at h
  split at h
  next cause made hmake =>
    cases h
    have hmade := FileTree.made_of_createDirectories habove hmake
    refine ⟨cause, fun hfits => ?_, .directory hmade.grown (hmade.unchanged cause rfl) fun hclash =>
      FileTree.not_clear_of_createDirectories habove hclash hmake⟩
    exact FileTree.isClash_of_createDirectories habove hfits.accepted hfits.short hfits.endsInName
      hmake
  next made hmake =>
    have hmade := FileTree.made_of_createDirectories habove hmake
    have hfollow := hmade.follow_eq rfl
    have hdir := hmade.directory rfl
    split at h
    next cause hfirst =>
      cases h
      have htaken := fun hclash => FileTree.directory_of_writeText_join
        isFileName_propertyTypesFile hfollow hdir hclash hfirst
      have hunchanged := fun hclash => eq_of_taken hmade.grown (htaken hclash)
      refine ⟨cause, fun hfits => ?_, .propertyTypes hmade.grown hunchanged fun hclash => ?_⟩
      · exact FileTree.isClash_of_writeText_join isFileName_propertyTypesFile hfollow hdir
          hfits.propertyTypes hfirst
      · exact hunchanged hclash ▸ htaken hclash
    next between hfirst =>
      have hwrote := FileTree.wrote_of_writeText_join isFileName_propertyTypesFile hfollow hdir
        hfirst
      split at h
      next cause hsecond =>
        cases h
        have htaken : cause.IsClash →
            made.entryAt (filePlace directory resourcesFile) = some .directory := fun hclash =>
          (hwrote.others _ (filePlace_ne directory).symm).symm.trans
            (FileTree.directory_of_writeText_join isFileName_resourcesFile hwrote.follow_eq
              hwrote.directory_eq hclash hsecond)
        have hunchanged := fun hclash => eq_of_taken hmade.grown (htaken hclash)
        refine ⟨cause, fun hfits => ?_, .resources hmade.grown hunchanged (fun hclash => ?_)
          hwrote.entry_eq hwrote.others⟩
        · exact FileTree.isClash_of_writeText_join isFileName_resourcesFile hwrote.follow_eq
            hwrote.directory_eq hfits.resources hsecond
        · exact hunchanged hclash ▸ htaken hclash
      next written hsecond => cases h

/-- With room for them, files that fit are written. -/
theorem exists_write_of_hasRoom (habove : Path.above ∉ Path.segments directory)
    (hfits : FitsFiles directory) (hroom : HasRoom t directory) (s : Schemas) :
    ∃ paths t', s.write FileTree.system directory t = (.ok paths, t') := by
  obtain ⟨answer, t', h⟩ : ∃ answer t', s.write FileTree.system directory t = (answer, t') :=
    ⟨_, _, rfl⟩
  cases answer with
  | ok paths => exact ⟨paths, t', h⟩
  | error failure =>
    obtain ⟨cause, hclash, hfails⟩ := fails_of_write habove h
    cases hfails with
    | directory _ _ hblocked => exact absurd hroom.clear (hblocked (hclash hfits))
    | propertyTypes _ _ hblocked => exact absurd (hblocked (hclash hfits)) hroom.propertyTypes
    | resources _ _ hblocked => exact absurd (hblocked (hclash hfits)) hroom.resources

/-! ## Writes -/

/-- **A write of schemas is complete, or leaves things as they were.** If it succeeds, it answers
with the paths of the two files in order, these hold the rendered schemas, the directories on the
way are there, and nothing else has changed; to write the same schemas again succeeds and changes
nothing. If it fails because a file and a directory clash, nothing has changed, but for the new
property types if resources could not be written. As far as the names fit it fails for nothing else,
and it succeeds exactly where nothing is in the way. -/
theorem write_complete_or_unchanged (s : Schemas) (t : FileTree) (directory : String)
    (habove : Path.above ∉ Path.segments directory) :
    (∀ paths t', s.write FileTree.system directory t = (.ok paths, t') →
      paths = [Path.join directory propertyTypesFile, Path.join directory resourcesFile] ∧
      s.WrittenInto directory t t' ∧
      s.write FileTree.system directory t' = (.ok paths, t')) ∧
    (∀ failure t', s.write FileTree.system directory t = (.error failure, t') →
      ∃ cause, (FitsFiles directory → cause.IsClash) ∧ s.Fails directory t cause failure t') ∧
    (FitsFiles directory →
      ((∃ paths t', s.write FileTree.system directory t = (.ok paths, t')) ↔
        HasRoom t directory)) := by
  refine ⟨fun paths t' h => ?_, fun failure t' h => fails_of_write habove h, fun hfits => ?_⟩
  · obtain ⟨-, -, -, -, -, -, hpaths⟩ := exists_wrote_of_write habove h
    exact ⟨hpaths, writtenInto_of_write habove h, write_again habove h⟩
  · constructor
    · rintro ⟨paths, t', h⟩
      exact hasRoom_of_write habove h
    · exact fun hroom => exists_write_of_hasRoom habove hfits hroom s

/-- Schemas without entries. -/
def vacant : Schemas := ⟨Table.empty, Table.empty⟩

/-- A tree with a directory in place of the file of resources. -/
def blocked : FileTree :=
  FileTree.empty.put [] resourcesFile .directory FileTree.empty.root_eq nofun

theorem write_blocked : (vacant.write FileTree.system "/" blocked).1 =
    .error (.fileNotWritten "/cdk-resources.json" .isDirectory) := by
  have hrefusal : Path.refusal? "/" = none := by decide
  have hsegments : Path.segments "/" = [] := by decide
  have hmake : blocked.createDirectories "/" = (.ok (), blocked) := by
    simp [FileTree.createDirectories, FileTree.makeDirectories, hrefusal, hsegments]
  rw [write_run, hmake]
  rfl

/-- Files are written into a directory that was missing, and where a directory is in place of a file
nothing but the other file has changed. -/
theorem write_complete_or_unchanged_blocked :
    (∃ t', vacant.write FileTree.system "out" FileTree.empty =
        (.ok ["out/cdk-types.json", "out/cdk-resources.json"], t') ∧
      vacant.WrittenInto "out" FileTree.empty t') ∧
    ∃ cause : FileError, cause.IsClash ∧
      vacant.Fails "/" blocked cause (.fileNotWritten "/cdk-resources.json" .isDirectory)
        (vacant.write FileTree.system "/" blocked).2 := by
  constructor
  · obtain ⟨hok, -, hiff⟩ := write_complete_or_unchanged vacant FileTree.empty "out" (by decide)
    have hfits : FitsFiles "out" := ⟨by decide, by decide, by decide, by decide, by decide⟩
    have hroom : HasRoom FileTree.empty "out" := by
      refine ⟨fun before _ text => ?_, by decide, by decide⟩
      by_cases hroot : before = [] <;> simp [FileTree.empty, hroot]
    obtain ⟨paths, t', h⟩ := (hiff hfits).2 hroom
    obtain ⟨rfl, hwritten, -⟩ := hok paths t' h
    exact ⟨t', h, hwritten⟩
  · obtain ⟨-, herror, -⟩ := write_complete_or_unchanged vacant blocked "/" (by decide)
    obtain ⟨cause, hclash, hfails⟩ := herror _ _ (Prod.ext write_blocked rfl)
    exact ⟨cause, hclash ⟨by decide, by decide, by decide, by decide, by decide⟩, hfails⟩

end Schemas

end ConstructSchema
