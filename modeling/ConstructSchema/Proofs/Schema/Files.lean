import ConstructSchema.Proofs.Files.Tree
import ConstructSchema.Schema.Files

/-!
What the files of schemas hold after they were written.

The two files have different names, so the second write leaves the first file alone, and a write of
schemas that succeeds leaves both rendered texts behind (`standsIn_of_write`).
-/

namespace ConstructSchema

/-- Both files of a directory hold the rendered schemas, to the byte. -/
structure Schemas.StandsIn (s : Schemas) (t : FileTree) (directory : String) : Prop where
  propertyTypes : t.readText (Path.join directory propertyTypesFile) =
    .ok (PropertyTypeSchema.render s.propertyTypes)
  resources : t.readText (Path.join directory resourcesFile) =
    .ok (ResourceSchema.render s.resources)

variable {directory : String} {t t' : FileTree}

/-- The names of both files are names of different files. -/
theorem segments_files_ne :
    (Path.segments (Path.join directory propertyTypesFile)).getLast? ≠
      (Path.segments (Path.join directory resourcesFile)).getLast? := by
  rw [Path.segments_join directory (by decide), Path.segments_join directory (by decide)]
  simp [propertyTypesFile, resourcesFile]

/-- A file of a directory is written if its path can be, and its path is the answer. -/
theorem writeInto_run (directory file text : String) (t : FileTree) :
    writeInto FileTree.system directory file text t =
      match t.writeText (Path.join directory file) text with
      | .error cause => (.error (.fileNotWritten (Path.join directory file) cause), t)
      | .ok written => (.ok (Path.join directory file), written) := by
  unfold writeInto
  rw [FileTree.bind_of_eq (Prod.eta _).symm]
  simp only [FileTree.system]
  cases t.writeText (Path.join directory file) text <;> rfl

/-- Schemas are written by making the directory and writing one file after the other. -/
theorem Schemas.write_run (s : Schemas) (directory : String) (t : FileTree) :
    s.write FileTree.system directory t =
      match t.createDirectories directory with
      | (.error cause, made) => (.error (.directoryNotCreated directory cause), made)
      | (.ok (), made) =>
        match made.writeText (Path.join directory propertyTypesFile)
            (PropertyTypeSchema.render s.propertyTypes) with
        | .error cause =>
          (.error (.fileNotWritten (Path.join directory propertyTypesFile) cause), made)
        | .ok between =>
          match between.writeText (Path.join directory resourcesFile)
              (ResourceSchema.render s.resources) with
          | .error cause =>
            (.error (.fileNotWritten (Path.join directory resourcesFile) cause), between)
          | .ok written =>
            (.ok [Path.join directory propertyTypesFile, Path.join directory resourcesFile],
              written) := by
  unfold Schemas.write
  obtain ⟨answer, made, hmake⟩ : ∃ answer made, t.createDirectories directory = (answer, made) :=
    ⟨_, _, (Prod.eta _).symm⟩
  have hrun : FileTree.system.createDirectories directory t = (answer, made) := hmake
  rw [FileTree.bind_of_eq hrun, hmake]
  cases answer with
  | error cause => rfl
  | ok =>
    simp only
    rw [FileTree.bind_of_eq (Prod.eta _).symm, writeInto_run]
    cases made.writeText (Path.join directory propertyTypesFile)
        (PropertyTypeSchema.render s.propertyTypes) with
    | error cause => rfl
    | ok between =>
      simp only
      rw [FileTree.bind_of_eq (Prod.eta _).symm, writeInto_run]
      cases between.writeText (Path.join directory resourcesFile)
        (ResourceSchema.render s.resources) <;> rfl

/-- Schemas that were written have their directory and both files. -/
theorem Schemas.write_eq_ok {s : Schemas} {paths : List String}
    (h : s.write FileTree.system directory t = (.ok paths, t')) :
    ∃ made between,
      t.createDirectories directory = (.ok (), made) ∧
      made.writeText (Path.join directory propertyTypesFile)
        (PropertyTypeSchema.render s.propertyTypes) = .ok between ∧
      between.writeText (Path.join directory resourcesFile)
        (ResourceSchema.render s.resources) = .ok t' ∧
      paths = [Path.join directory propertyTypesFile, Path.join directory resourcesFile] := by
  rw [Schemas.write_run] at h
  split at h
  next => cases h
  next made hmake =>
    split at h
    next => cases h
    next between hfirst =>
      split at h
      next => cases h
      next written hsecond =>
        cases h
        exact ⟨made, between, hmake, hfirst, hsecond, rfl⟩

/-- **Schemas that were written stand in their files.** -/
theorem Schemas.standsIn_of_write {s : Schemas} {paths : List String}
    (h : s.write FileTree.system directory t = (.ok paths, t')) : s.StandsIn t' directory := by
  obtain ⟨made, between, -, hfirst, hsecond, -⟩ := Schemas.write_eq_ok h
  have hread := FileTree.readText_of_writeText hfirst
  exact ⟨FileTree.readText_of_writeText_of_ne hsecond hread segments_files_ne,
    FileTree.readText_of_writeText hsecond⟩

end ConstructSchema
