import ConstructSchema.Command.Run
import ConstructSchema.Proofs.Schema.Output
import ConstructSchema.Proofs.Spec.Handle
import ConstructSchema.Proofs.Spec.Reordered

/-!
A run of `generate` is the library's operations, one stage after the other.

`Job.Prepares` says what the stages before the writing give, and `Job.FailsAt` which stage is the
first to fail, and why; both speak of the operations of the library only. Whatever is first to fail
decides the outcome of the run (`run_of_failsAt`), a run in which nothing fails ends with both files
written (`run_of_prepares`), and there is no third case (`succeeds_or_failsAt`).

What a run prints, what it reports and which files it leaves is written out here once more
(`Job.entryLines`, `Job.closingLines`, `Stage.ReportedAs`, `Schemas.InFiles`), so that the main
statement says it without the texts of the command.
-/

namespace ConstructSchema

/-- Both files of a directory are there, at their paths and at their places in the tree, each with
its rendered schema. -/
structure Schemas.InFiles (s : Schemas) (directory : String) (t : FileTree) : Prop where
  readPropertyTypes : t.readText (Path.join directory "cdk-types.json") =
    .ok (PropertyTypeSchema.render s.propertyTypes)
  readResources : t.readText (Path.join directory "cdk-resources.json") =
    .ok (ResourceSchema.render s.resources)
  propertyTypes : t.entryAt (filePlace directory "cdk-types.json") =
    some (.file (PropertyTypeSchema.render s.propertyTypes))
  resources : t.entryAt (filePlace directory "cdk-resources.json") =
    some (.file (ResourceSchema.render s.resources))

theorem Schemas.inFiles_of_write {s : Schemas} {directory : String} {t t' : FileTree}
    {paths : List String} (habove : Path.above ∉ Path.segments directory)
    (h : s.write FileTree.system directory t = (.ok paths, t')) : s.InFiles directory t' :=
  have hwritten := writtenInto_of_write habove h
  ⟨hwritten.standsIn.propertyTypes, hwritten.standsIn.resources, hwritten.propertyTypes,
    hwritten.resources⟩

/-- Loading a database reads its file and leaves the tree alone. -/
theorem Database.load_eq (path : String) (t : FileTree) :
    Database.load FileTree.system path t =
      (match t.readText path with
        | .error cause => .error (.unreadableDatabase path cause)
        | .ok text => Database.ofFile path text, t) := by
  unfold Database.load
  rw [FileTree.bind_of_eq FileTree.system_read]
  cases t.readText path <;> rfl

namespace Command

/-- What `generate` is asked for. -/
structure Job where
  spec : String
  output : String
  bindings : Option String
  deriving DecidableEq, Repr, Inhabited

/-- The report of a stage that fails, where `message` is the text of its failure. -/
inductive Stage.ReportedAs (message : String) : Stage → String → Prop
  | output : ReportedAs message .output ("✗ " ++ message)
  | conventions : ReportedAs message .conventions
      ("✗ Failed to load binding conventions: " ++ message)
  | database : ReportedAs message .database
      ("✗ Failed to load specification database: " ++ message)
  | schemas : ReportedAs message .schemas ("✗ Failed to generate schemas: " ++ message)
  | files : ReportedAs message .files ("✗ Failed to write schemas: " ++ message)

theorem Stage.reportedAs_report (stage : Stage) (failure : Failure) :
    stage.ReportedAs failure.message (report stage failure) := by
  cases stage with
  | output => exact .output
  | conventions => exact .conventions
  | database => exact .database
  | schemas => exact .schemas
  | files => exact .files

/-- The stages, in the order in which a run goes through them. -/
def Stage.order : List Stage := [.output, .conventions, .database, .schemas, .files]

/-- The stages that are entered by a run that gets as far as a stage. -/
def Stage.upTo (stage : Stage) : List Stage := Stage.order.takeWhile (· ≠ stage) ++ [stage]

namespace Job

variable {j : Job} {t : FileTree}

/-! ## The operations of the library -/

/-- The run of a job on a tree: its outcome, and the tree it leaves. -/
def run (j : Job) (verbose : Bool) (t : FileTree) : Outcome × FileTree :=
  generate FileTree.system j.spec j.output j.bindings verbose t

/-- The conventions of a job: those in its file, and the default ones if it has no file. -/
def conventions (j : Job) (t : FileTree) : Except Failure Conventions :=
  match j.bindings with
  | some path => (Conventions.load FileTree.system path t).1
  | none => .ok {}

/-- The database of a job, as a handle answers that has not loaded one. -/
def database (j : Job) (t : FileTree) : Except Failure Database :=
  (Handle.empty.request FileTree.system j.spec t).1.1

/-- The schemas of a job. -/
def schemas (j : Job) (t : FileTree) : Except Failure Schemas := do
  (← j.database t).schemas (← j.conventions t)

/-- The stages before the last succeed, and these are the values they give. -/
structure Prepares (j : Job) (t : FileTree) (directory : String) (c : Conventions) (db : Database)
    (s : Schemas) : Prop where
  directory_eq : Path.checkOutput j.output = .ok directory
  conventions_eq : j.conventions t = .ok c
  database_eq : j.database t = .ok db
  schemas_eq : db.schemas c = .ok s

/-- What is prepared are the schemas of the job. -/
theorem Prepares.schemas_of {directory : String} {c : Conventions} {db : Database} {s : Schemas}
    (h : j.Prepares t directory c db s) : j.schemas t = .ok s := by
  simp [schemas, h.database_eq, h.conventions_eq, h.schemas_eq]

/-- A stage is the first that fails, with a failure of the library. -/
inductive FailsAt (j : Job) (t : FileTree) : Stage → Failure → Prop
  | output {e : Failure} (fails : Path.checkOutput j.output = .error e) : FailsAt j t .output e
  | conventions {directory : String} {e : Failure}
    (directory_eq : Path.checkOutput j.output = .ok directory)
    (fails : j.conventions t = .error e) : FailsAt j t .conventions e
  | database {directory : String} {c : Conventions} {e : Failure}
    (directory_eq : Path.checkOutput j.output = .ok directory)
    (conventions_eq : j.conventions t = .ok c)
    (fails : j.database t = .error e) : FailsAt j t .database e
  | schemas {directory : String} {c : Conventions} {db : Database} {e : Failure}
    (directory_eq : Path.checkOutput j.output = .ok directory)
    (conventions_eq : j.conventions t = .ok c)
    (database_eq : j.database t = .ok db)
    (fails : db.schemas c = .error e) : FailsAt j t .schemas e
  | files {directory : String} {c : Conventions} {db : Database} {s : Schemas} {e : Failure}
    (prepares : j.Prepares t directory c db s)
    (fails : (s.write FileTree.system directory t).1 = .error e) : FailsAt j t .files e

/-- All stages of a job succeed. -/
def Succeeds (j : Job) (t : FileTree) : Prop :=
  ∃ directory c db s paths, j.Prepares t directory c db s ∧
    (s.write FileTree.system directory t).1 = .ok paths

/-- The lines that are printed when a stage is entered. -/
def entryLines (j : Job) (verbose : Bool) (t : FileTree) : Stage → List String
  | .output => if verbose then ["→ Verbose mode enabled"] else []
  | .conventions =>
    match j.bindings with
    | some path => ["→ Loading binding conventions: " ++ path]
    | none => []
  | .database =>
    (if verbose then ["  Spec: " ++ j.spec, "  Output: " ++ Text.trim j.output] else []) ++
      ["→ Loading specification: " ++ j.spec]
  | .schemas => ["→ Generating schemas..."]
  | .files =>
    match j.schemas t with
    | .ok s => ["✓ Assembled " ++ toString s.propertyTypes.size ++ " property types and " ++
        toString s.resources.size ++ " resources"]
    | .error _ => []

/-- The last lines of a run that succeeds. -/
def closingLines (directory : String) : List String :=
  ["\n✓ Generation complete!", "\nGenerated files:",
    "  📄 " ++ Path.join directory "cdk-types.json",
    "  📄 " ++ Path.join directory "cdk-resources.json"]

/-- The lines of the stages that are entered by a run that gets as far as a stage. -/
def linesUpTo (j : Job) (verbose : Bool) (t : FileTree) (stage : Stage) : List String :=
  stage.upTo.flatMap (j.entryLines verbose t)

section lines

variable (j : Job) (verbose : Bool) (t : FileTree)

/-! The lines that the command prints are these. -/

theorem entryLines_output :
    j.entryLines verbose t .output = if verbose then [verboseLine] else [] := rfl

theorem entryLines_conventions :
    j.entryLines verbose t .conventions = (j.bindings.map conventionsLine).toList := by
  unfold entryLines
  cases j.bindings <;> rfl

theorem entryLines_database :
    j.entryLines verbose t .database =
      (if verbose then requestLines j.spec (Text.trim j.output) else []) ++
        [databaseLine j.spec] := rfl

theorem entryLines_schemas : j.entryLines verbose t .schemas = [assemblyLine] := rfl

theorem linesUpTo_output :
    j.linesUpTo verbose t .output = if verbose then [verboseLine] else [] := by
  simp [linesUpTo, Stage.upTo, Stage.order, entryLines_output]

theorem linesUpTo_conventions :
    j.linesUpTo verbose t .conventions =
      j.linesUpTo verbose t .output ++ (j.bindings.map conventionsLine).toList := by
  simp [linesUpTo, Stage.upTo, Stage.order, entryLines_conventions]

theorem linesUpTo_database :
    j.linesUpTo verbose t .database =
      j.linesUpTo verbose t .conventions ++
        (if verbose then requestLines j.spec (Text.trim j.output) else []) ++
          [databaseLine j.spec] := by
  simp [linesUpTo, Stage.upTo, Stage.order, entryLines_database]

theorem linesUpTo_schemas :
    j.linesUpTo verbose t .schemas = j.linesUpTo verbose t .database ++ [assemblyLine] := by
  simp [linesUpTo, Stage.upTo, Stage.order, entryLines_schemas]

variable {j t}

theorem entryLines_files {s : Schemas} (h : j.schemas t = .ok s) :
    j.entryLines verbose t .files = [assembledLine s] := by
  unfold entryLines
  rw [h]
  rfl

theorem linesUpTo_files {s : Schemas} (h : j.schemas t = .ok s) :
    j.linesUpTo verbose t .files = j.linesUpTo verbose t .schemas ++ [assembledLine s] := by
  simp [linesUpTo, Stage.upTo, Stage.order, entryLines_files verbose h]

end lines

/-! ## Single stages -/

/-- A directory that is accepted is the output path without the white space around it. -/
theorem directory_eq_trim {directory : String} (h : Path.checkOutput j.output = .ok directory) :
    directory = Text.trim j.output :=
  (Path.checkOutput_eq_ok_iff.1 h).1

/-- Loading conventions leaves the tree alone. -/
theorem conventionsStage_run (j : Job) (t : FileTree) :
    conventionsStage FileTree.system j.bindings t = (j.conventions t, t) := by
  unfold conventionsStage conventions
  cases j.bindings with
  | none => rfl
  | some path =>
    have hload : ∃ answer, Conventions.load FileTree.system path t = (answer, t) := by
      unfold Conventions.load
      rw [FileTree.bind_of_eq FileTree.system_read]
      cases t.readText path <;> exact ⟨_, rfl⟩
    obtain ⟨answer, hload⟩ := hload
    simp only [hload]

/-- Loading a database leaves the tree alone, and gives what a handle answers that has none. -/
theorem load_run (j : Job) (t : FileTree) :
    Database.load FileTree.system j.spec t = (j.database t, t) := by
  obtain ⟨answer, hload⟩ : ∃ answer, Database.load FileTree.system j.spec t = (answer, t) :=
    ⟨_, Database.load_eq j.spec t⟩
  have hdatabase : j.database t = answer := by
    unfold database Handle.request Handle.get Handle.empty
    simp only
    rw [FileTree.bind_of_eq hload]
    cases answer <;> rfl
  rw [hload, hdatabase]

/-! ## Whole runs -/

variable {directory : String} {c : Conventions} {db : Database} {s : Schemas}

/-- A run goes from one operation of the library to the next. -/
theorem run_eq (j : Job) (verbose : Bool) (t : FileTree) :
    j.run verbose t =
      match Path.checkOutput j.output with
      | .error e => (.failed (j.linesUpTo verbose t .output) .output e, t)
      | .ok directory =>
        match j.conventions t with
        | .error e => (.failed (j.linesUpTo verbose t .conventions) .conventions e, t)
        | .ok c =>
          match j.database t with
          | .error e => (.failed (j.linesUpTo verbose t .database) .database e, t)
          | .ok db =>
            match db.schemas c with
            | .error e => (.failed (j.linesUpTo verbose t .schemas) .schemas e, t)
            | .ok s => writeStage FileTree.system (j.linesUpTo verbose t .files) directory s t := by
  unfold run generate
  rw [← linesUpTo_output j verbose t]
  cases hdirectory : Path.checkOutput j.output with
  | error e => rfl
  | ok directory =>
    simp only
    rw [FileTree.bind_of_eq (conventionsStage_run j t), ← linesUpTo_conventions]
    cases hconventions : j.conventions t with
    | error e => rfl
    | ok c =>
      simp only [databaseStage]
      rw [FileTree.bind_of_eq (load_run j t), directory_eq_trim hdirectory, ← linesUpTo_database]
      cases hdatabase : j.database t with
      | error e => rfl
      | ok db =>
        simp only [← linesUpTo_schemas]
        cases hschemas : db.schemas c with
        | error e => rfl
        | ok s =>
          have hprepares : j.Prepares t directory c db s :=
            ⟨hdirectory, hconventions, hdatabase, hschemas⟩
          rw [linesUpTo_files verbose hprepares.schemas_of]

/-- The writing ends a run, with the tree as it leaves it. -/
theorem writeStage_run (lines : List String) (directory : String) (s : Schemas) (t : FileTree) :
    writeStage FileTree.system lines directory s t =
      (match (s.write FileTree.system directory t).1 with
        | .error e => .failed lines .files e
        | .ok paths => .success (lines ++ writtenLines paths),
      (s.write FileTree.system directory t).2) := by
  unfold writeStage
  rw [FileTree.bind_of_eq (Prod.eta _).symm]
  cases (s.write FileTree.system directory t).1 <;> rfl

/-- Whatever is the first to fail decides the outcome. The tree is touched by the writing only, and
the same way however much is printed. -/
theorem run_of_failsAt {stage : Stage} {e : Failure} (h : j.FailsAt t stage e) :
    ∃ after, (stage ≠ .files → after = t) ∧ ∀ verbose,
      j.run verbose t = (.failed (j.linesUpTo verbose t stage) stage e, after) := by
  cases h with
  | output hfails => exact ⟨t, fun _ => rfl, fun verbose => by simp [run_eq, hfails]⟩
  | conventions hdirectory hfails =>
    exact ⟨t, fun _ => rfl, fun verbose => by simp [run_eq, hdirectory, hfails]⟩
  | database hdirectory hconventions hfails =>
    exact ⟨t, fun _ => rfl, fun verbose => by simp [run_eq, hdirectory, hconventions, hfails]⟩
  | schemas hdirectory hconventions hdatabase hfails =>
    exact ⟨t, fun _ => rfl, fun verbose => by
      simp [run_eq, hdirectory, hconventions, hdatabase, hfails]⟩
  | @files directory _ _ s _ hprepares hfails =>
    refine ⟨(s.write FileTree.system directory t).2, fun hne => absurd rfl hne, fun verbose => ?_⟩
    simp [run_eq, hprepares.directory_eq, hprepares.conventions_eq, hprepares.database_eq,
      hprepares.schemas_eq, writeStage_run, hfails]

/-- A run in which nothing fails ends with the schemas in their files. -/
theorem run_of_prepares {paths : List String} (h : j.Prepares t directory c db s)
    (hwrite : (s.write FileTree.system directory t).1 = .ok paths) :
    ∃ after, s.InFiles directory after ∧ ∀ verbose,
      j.run verbose t =
        (.success (j.linesUpTo verbose t .files ++ closingLines directory), after) := by
  have hwritten : s.write FileTree.system directory t =
      (.ok paths, (s.write FileTree.system directory t).2) := Prod.ext hwrite rfl
  have habove := Path.above_not_mem_of_checkOutput h.directory_eq
  obtain ⟨-, -, -, -, -, hpaths⟩ := Schemas.write_eq_ok hwritten
  have hclosing : writtenLines paths = closingLines directory := by
    rw [hpaths]
    rfl
  refine ⟨_, Schemas.inFiles_of_write habove hwritten, fun verbose => ?_⟩
  simp [run_eq, h.directory_eq, h.conventions_eq, h.database_eq, h.schemas_eq, writeStage_run,
    hwrite, hclosing]

/-- Either all stages succeed, or one is the first that fails. -/
theorem succeeds_or_failsAt (j : Job) (t : FileTree) :
    j.Succeeds t ∨ ∃ stage e, j.FailsAt t stage e := by
  cases hdirectory : Path.checkOutput j.output with
  | error e => exact Or.inr ⟨.output, e, .output hdirectory⟩
  | ok directory =>
    cases hconventions : j.conventions t with
    | error e => exact Or.inr ⟨.conventions, e, .conventions hdirectory hconventions⟩
    | ok c =>
      cases hdatabase : j.database t with
      | error e => exact Or.inr ⟨.database, e, .database hdirectory hconventions hdatabase⟩
      | ok db =>
        cases hschemas : db.schemas c with
        | error e =>
          exact Or.inr ⟨.schemas, e, .schemas hdirectory hconventions hdatabase hschemas⟩
        | ok s =>
          have hprepares : j.Prepares t directory c db s :=
            ⟨hdirectory, hconventions, hdatabase, hschemas⟩
          cases hwrite : (s.write FileTree.system directory t).1 with
          | error e => exact Or.inr ⟨.files, e, .files hprepares hwrite⟩
          | ok paths => exact Or.inl ⟨directory, c, db, s, paths, hprepares, hwrite⟩

/-- What is asked to be printed decides what is printed, and nothing else. -/
theorem run_verbose (j : Job) (t : FileTree) :
    (j.run true t).1.exit = (j.run false t).1.exit ∧
      (j.run true t).1.errors = (j.run false t).1.errors ∧
      (j.run true t).2 = (j.run false t).2 := by
  rcases succeeds_or_failsAt j t with ⟨directory, c, db, s, paths, hprepares, hwrite⟩ | ⟨_, _, h⟩
  · obtain ⟨after, -, hrun⟩ := run_of_prepares hprepares hwrite
    rw [hrun, hrun]
    exact ⟨rfl, rfl, rfl⟩
  · obtain ⟨after, -, hrun⟩ := run_of_failsAt h
    rw [hrun, hrun]
    exact ⟨rfl, rfl, rfl⟩

/-- A run exits with zero exactly if nothing fails. -/
theorem exit_eq_zero_iff (j : Job) (t : FileTree) (verbose : Bool) :
    (j.run verbose t).1.exit = 0 ↔ j.Succeeds t := by
  constructor
  · intro hzero
    rcases succeeds_or_failsAt j t with hsucceeds | ⟨stage, e, h⟩
    · exact hsucceeds
    · obtain ⟨after, -, hrun⟩ := run_of_failsAt h
      rw [hrun] at hzero
      exact absurd hzero Nat.one_ne_zero
  · rintro ⟨directory, c, db, s, paths, hprepares, hwrite⟩
    obtain ⟨after, -, hrun⟩ := run_of_prepares hprepares hwrite
    rw [hrun]
    rfl

/-- **A run succeeds as a whole or reports its first failure.** It exits with zero exactly if all
stages succeed, and then both files hold the schemas of the database and the conventions of the job.
Otherwise there is a first stage that fails. The run exits with one, its report is that of the stage
with the text of the failure, it has printed the lines of the stages it entered, and unless it was
writing already the tree is as it was. What is asked to be printed changes neither the exit code,
nor the report, nor any file. -/
theorem run_succeeds_or_reports (j : Job) (t : FileTree) :
    (∀ verbose, (j.run verbose t).1.exit = 0 ↔ j.Succeeds t) ∧
    (∀ directory c db s paths, j.Prepares t directory c db s →
      (s.write FileTree.system directory t).1 = .ok paths → ∀ verbose,
        (j.run verbose t).1.errors = "" ∧
        (j.run verbose t).1.output = String.join
          ((j.linesUpTo verbose t .files ++ closingLines directory).map (· ++ "\n")) ∧
        s.InFiles directory (j.run verbose t).2) ∧
    (¬ j.Succeeds t → ∃ stage failure, j.FailsAt t stage failure) ∧
    (∀ stage failure, j.FailsAt t stage failure → ∀ verbose,
      (j.run verbose t).1.exit = 1 ∧
      stage.ReportedAs failure.message (j.run verbose t).1.errors ∧
      (j.run verbose t).1.output =
        String.join ((j.linesUpTo verbose t stage).map (· ++ "\n")) ∧
      (stage ≠ .files → (j.run verbose t).2 = t)) ∧
    (j.run true t).1.exit = (j.run false t).1.exit ∧
    (j.run true t).1.errors = (j.run false t).1.errors ∧
    (j.run true t).2 = (j.run false t).2 := by
  refine ⟨exit_eq_zero_iff j t, ?_, (succeeds_or_failsAt j t).resolve_left, ?_, run_verbose j t⟩
  · intro directory c db s paths hprepares hwrite verbose
    obtain ⟨after, hfiles, hrun⟩ := run_of_prepares hprepares hwrite
    rw [hrun]
    exact ⟨rfl, rfl, hfiles⟩
  · intro stage failure h verbose
    obtain ⟨after, hafter, hrun⟩ := run_of_failsAt h
    rw [hrun]
    exact ⟨rfl, stage.reportedAs_report failure, rfl, hafter⟩

end Job

/-! ## Two runs -/

/-- A tree with nothing but one file. -/
def lonely (text : String) : FileTree :=
  FileTree.empty.put [] "db.json" (.file text) FileTree.empty.root_eq nofun

theorem load_lonely (text : String) :
    (Database.load FileTree.system "db.json" (lonely text)).1 = Database.ofFile "db.json" text := by
  have hread : (lonely text).readText "db.json" = .ok text := rfl
  rw [Database.load_eq, hread]

/-- From the file of a document its database is loaded. -/
theorem load_lonely_pretty {d : Document} (h : d.toJson.levels ≤ Json.nestingLimit) :
    (Database.load FileTree.system "db.json" (lonely d.toJson.pretty)).1 =
      .ok { Database.ofDocument d with source := some "db.json" } := by
  rw [← d.textual_toJson.nesting_pretty] at h
  have hdecode := d.textual_toJson.decodeText_pretty h (Document.ofJson_toJson Json.arranges_id d)
  rw [load_lonely]
  exact Database.ofFile_eq_ok_iff.2 ⟨_, hdecode, rfl⟩

/-- A directory of another name has room beside the one file. -/
theorem hasRoom_lonely (text : String) : HasRoom (lonely text) "out" := by
  have hentry {place : List String} (hne : place ≠ ["db.json"]) :
      (lonely text).entryAt place = if place = [] then some .directory else none :=
    FileTree.entryAt_put_of_ne hne
  have hplace : directoryPlace "out" = ["out"] := by decide
  have hfile (file : String) : (lonely text).entryAt (filePlace "out" file) ≠ some .directory := by
    rw [filePlace, hplace, hentry (by simp)]
    simp
  refine ⟨fun before hway other => ?_, hfile _, hfile _⟩
  have hne : before ≠ ["db.json"] := by
    intro hbefore
    rw [hbefore, hplace] at hway
    exact absurd hway (by decide)
  rw [hentry hne]
  split_ifs <;> simp

/-- The database of a bucket with its service, loaded from a file. -/
def owned : Database :=
  { Database.ofDocument Database.bucketDocument with source := some "db.json" }

/-- The tree with the file that it is loaded from. -/
def ownedTree : FileTree := lonely Database.bucketDocument.toJson.pretty

/-- A resource that uses a type definition and has no service, as a document without ids. -/
def ownerlessDocument : Document :=
  { Database.bucketDocument with hasResource := [] }

/-- The database of this document, loaded from a file. -/
def ownerless : Database :=
  { Database.ofDocument ownerlessDocument with source := some "db.json" }

/-- The tree with the file that it is loaded from. -/
def ownerlessTree : FileTree := lonely ownerlessDocument.toJson.pretty

theorem load_owned : (Database.load FileTree.system "db.json" ownedTree).1 = .ok owned :=
  load_lonely_pretty (by decide)

theorem load_ownerless :
    (Database.load FileTree.system "db.json" ownerlessTree).1 = .ok ownerless :=
  load_lonely_pretty (by decide)

theorem exists_schemas_owned :
    ∃ s, owned.schemas {} = .ok s ∧
      s.propertyTypes.names = ["AWS::S3::Bucket.RuleProperty", "CfnTag"] ∧
      s.resources.names = ["AWS::S3::Bucket"] ∧
      assembledLine s = "✓ Assembled 2 property types and 1 resources" :=
  ⟨_, rfl, by decide, by decide, by decide⟩

theorem schemas_ownerless :
    ownerless.schemas {} = .error (.serviceNotFound "AWS::S3::Bucket" 0) := rfl

/-- A run from the one file into a directory that is not there, without conventions. -/
def bucketJob : Job := ⟨"db.json", " out ", none⟩

theorem checkOutput_bucketJob : Path.checkOutput bucketJob.output = .ok "out" := by decide

theorem database_bucketJob (t : FileTree) :
    bucketJob.database t = (Database.load FileTree.system "db.json" t).1 :=
  (congrArg Prod.fst (bucketJob.load_run t)).symm

/-- A bucket with its service is generated, and one without is reported. -/
theorem run_succeeds_or_reports_bucket :
    (∃ s, owned.schemas {} = .ok s ∧
      s.propertyTypes.names = ["AWS::S3::Bucket.RuleProperty", "CfnTag"] ∧
      s.resources.names = ["AWS::S3::Bucket"] ∧
      (bucketJob.run true ownedTree).1.exit = 0 ∧
      (bucketJob.run true ownedTree).1.errors = "" ∧
      (bucketJob.run true ownedTree).1.output =
        String.join (["→ Verbose mode enabled", "  Spec: db.json", "  Output: out",
          "→ Loading specification: db.json", "→ Generating schemas...",
          "✓ Assembled 2 property types and 1 resources", "\n✓ Generation complete!",
          "\nGenerated files:", "  📄 out/cdk-types.json",
          "  📄 out/cdk-resources.json"].map (· ++ "\n")) ∧
      s.InFiles "out" (bucketJob.run true ownedTree).2) ∧
    (bucketJob.run false ownerlessTree).1.exit = 1 ∧
    (bucketJob.run false ownerlessTree).1.errors =
      "✗ Failed to generate schemas: Service not found for resource type AWS::S3::Bucket: " ++
        "expected exactly one owning service, found 0" ∧
    (bucketJob.run false ownerlessTree).1.output =
      "→ Loading specification: db.json\n→ Generating schemas...\n" ∧
    (bucketJob.run false ownerlessTree).2 = ownerlessTree := by
  constructor
  · obtain ⟨s, hschemas, htypes, hresources, hassembled⟩ := exists_schemas_owned
    have hprepares : bucketJob.Prepares ownedTree "out" {} owned s :=
      ⟨checkOutput_bucketJob, rfl, (database_bucketJob _).trans load_owned, hschemas⟩
    have hfits : FitsFiles "out" := ⟨by decide, by decide, by decide, by decide, by decide⟩
    obtain ⟨paths, t', hwrite⟩ :=
      Schemas.exists_write_of_hasRoom (by decide) hfits (hasRoom_lonely _) s
    have hpaths := congrArg Prod.fst hwrite
    obtain ⟨hexit, hsucceeds, -⟩ := Job.run_succeeds_or_reports bucketJob ownedTree
    obtain ⟨herrors, houtput, hfiles⟩ := hsucceeds _ _ _ _ _ hprepares hpaths true
    rw [Job.linesUpTo_files true hprepares.schemas_of, hassembled] at houtput
    exact ⟨s, hschemas, htypes, hresources, (hexit true).2 ⟨_, _, _, _, _, hprepares, hpaths⟩,
      herrors, houtput, hfiles⟩
  · have hfails : bucketJob.FailsAt ownerlessTree .schemas
        (.serviceNotFound "AWS::S3::Bucket" 0) :=
      .schemas checkOutput_bucketJob rfl ((database_bucketJob _).trans load_ownerless)
        schemas_ownerless
    obtain ⟨-, -, -, hreports, -⟩ := Job.run_succeeds_or_reports bucketJob ownerlessTree
    obtain ⟨hexit, hreport, houtput, htree⟩ := hreports _ _ hfails false
    refine ⟨hexit, ?_, houtput, htree nofun⟩
    generalize (bucketJob.run false ownerlessTree).1.errors = report at hreport ⊢
    cases hreport
    rfl

end Command

end ConstructSchema
