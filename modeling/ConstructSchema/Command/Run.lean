import ConstructSchema.Command.Arguments
import ConstructSchema.Naming.Yaml
import ConstructSchema.Schema.Assembly
import ConstructSchema.Schema.Files
import ConstructSchema.Spec.Handle

/-!
The commands, over the operations of a file system.

`generate` goes through its stages in order: the output path is checked, conventions are loaded if
a file of them is given, the database is loaded, the schemas are assembled, and both files are
written. The first stage that fails ends the run, and its failure is reported with the stage in
front. `inspect` loads a database and prints what it holds; it changes no file.

Progress lines are collected in the order in which they are printed.
-/

namespace ConstructSchema.Command

/-- A stage of a command. -/
inductive Stage where
  | output
  | conventions
  | database
  | schemas
  | files
  deriving DecidableEq, Repr, Inhabited

/-- What a report says about the stage that failed. -/
def Stage.context : Stage → Option String
  | .output => none
  | .conventions => some "Failed to load binding conventions"
  | .database => some "Failed to load specification database"
  | .schemas => some "Failed to generate schemas"
  | .files => some "Failed to write schemas"

/-- The report of a failure. -/
def report (stage : Stage) (failure : Failure) : String :=
  match stage.context with
  | none => "✗ " ++ failure.message
  | some context => "✗ " ++ context ++ ": " ++ failure.message

/-- The end of a run: its exit code, what it printed, and its error report. -/
structure Outcome where
  exit : Nat
  output : String
  errors : String
  deriving DecidableEq, Repr, Inhabited

/-- The outcome of a run that succeeds after these lines. -/
def Outcome.success (lines : List String) : Outcome :=
  ⟨0, String.join (lines.map (· ++ "\n")), ""⟩

/-- The outcome of a run that fails in a stage after these lines. -/
def Outcome.failed (lines : List String) (stage : Stage) (failure : Failure) : Outcome :=
  ⟨1, String.join (lines.map (· ++ "\n")), report stage failure⟩

/-! ## Lines -/

/-- The line that announces verbose output. -/
def verboseLine : String := "→ Verbose mode enabled"

/-- The line before conventions are loaded. -/
def conventionsLine (path : String) : String := "→ Loading binding conventions: " ++ path

/-- The line before a database is loaded. -/
def databaseLine (path : String) : String := "→ Loading specification: " ++ path

/-- The lines that repeat what was asked for. -/
def requestLines (spec directory : String) : List String :=
  ["  Spec: " ++ spec, "  Output: " ++ directory]

/-- The line before schemas are assembled. -/
def assemblyLine : String := "→ Generating schemas..."

/-- The line behind the assembly. -/
def assembledLine (s : Schemas) : String :=
  "✓ Assembled " ++ toString s.propertyTypes.size ++ " property types and " ++
    toString s.resources.size ++ " resources"

/-- The lines behind the last stage. -/
def writtenLines (paths : List String) : List String :=
  ["\n✓ Generation complete!", "\nGenerated files:"] ++ paths.map ("  📄 " ++ ·)

/-! ## Generation -/

/-- Writes the schemas, after the lines printed so far. -/
def writeStage {m : Type → Type} [Monad m] (fs : FileSystem m) (lines : List String)
    (directory : String) (s : Schemas) : m Outcome := do
  match ← s.write fs directory with
  | .error failure => return .failed lines .files failure
  | .ok paths => return .success (lines ++ writtenLines paths)

/-- Loads the database and goes on with it, after the lines printed so far. -/
def databaseStage {m : Type → Type} [Monad m] (fs : FileSystem m) (lines : List String)
    (spec directory : String) (c : Conventions) : m Outcome := do
  let lines := lines ++ [databaseLine spec]
  match ← Database.load fs spec with
  | .error failure => return .failed lines .database failure
  | .ok db =>
    let lines := lines ++ [assemblyLine]
    match db.schemas c with
    | .error failure => return .failed lines .schemas failure
    | .ok s => writeStage fs (lines ++ [assembledLine s]) directory s

/-- The conventions of a run: those of a file, or the default ones. -/
def conventionsStage {m : Type → Type} [Monad m] (fs : FileSystem m) :
    Option String → m (Except Failure Conventions)
  | some path => Conventions.load fs path
  | none => return .ok {}

/-- Generates the schemas of a specification. -/
def generate {m : Type → Type} [Monad m] (fs : FileSystem m) (spec output : String)
    (bindings : Option String) (verbose : Bool) : m Outcome := do
  let lines := if verbose then [verboseLine] else []
  match Path.checkOutput output with
  | .error failure => return .failed lines .output failure
  | .ok directory =>
    let lines := lines ++ (bindings.map conventionsLine).toList
    match ← conventionsStage fs bindings with
    | .error failure => return .failed lines .conventions failure
    | .ok c =>
      let lines := lines ++ if verbose then requestLines spec directory else []
      databaseStage fs lines spec directory c

/-! ## Inspection -/

/-- The lines about the edges that name no entity. -/
def danglingLines (verbose : Bool) : List Relation → List String
  | [] => []
  | relations =>
    ("  ⚠ " ++ toString relations.length ++ " relations reference unknown entities") ::
      if verbose then relations.map fun r => "    " ++ r.source ++ " -> " ++ r.target else []

/-- The lines about a resource: its type with its service, or with the reason why it has none, and
how many attributes and properties it has. -/
def resourceLines (db : Database) (r : Resource) : List String :=
  let service := match db.serviceOf r with
    | .ok service => service.name
    | .error failure => failure.message
  ["  • " ++ r.typeId ++ " (" ++ service ++ ")",
    "    Attributes: " ++ toString r.attributes.size ++ "  Properties: " ++
      toString r.properties.size]

/-- The lines about a database. -/
def summaryLines (verbose : Bool) (db : Database) : List String :=
  let d := db.document
  ["\n✓ Load successful!",
    "\nSpecification:",
    "  Services: " ++ toString d.services.size,
    "  Resources: " ++ toString d.resources.size,
    "  Type definitions: " ++ toString d.typeDefinitions.size] ++
  danglingLines verbose db.dangling ++
  if verbose then "\nResources:" :: d.resources.values.flatMap (resourceLines db) else []

/-- Summarizes a specification. -/
def inspect {m : Type → Type} [Monad m] (fs : FileSystem m) (spec : String) (verbose : Bool) :
    m Outcome := do
  let lines := (if verbose then [verboseLine] else []) ++ [databaseLine spec]
  match ← Database.load fs spec with
  | .error failure => return .failed lines .database failure
  | .ok db => return .success (lines ++ summaryLines verbose db)

/-! ## Help -/

/-- The version of the program. -/
def versionText : String := "0.2.0"

/-- The options of a level with what each one is for. -/
def Level.helpLines (outputDefault : Option String) : Level → List String
  | .top =>
    ["Generate CDK binding schemas from the AWS service specification",
      "",
      "Usage: " ++ programName ++ " [OPTIONS] <COMMAND>",
      "",
      "Commands:",
      "  generate  Generate cdk-types.json and cdk-resources.json",
      "  inspect   Load a specification database and summarize its contents",
      "  help      Print this message or the help of the given subcommand(s)",
      "",
      "Options:",
      "  -v, --verbose  Enable verbose output",
      "  -h, --help     Print help",
      "  -V, --version  Print version"]
  | .generate =>
    ["Generate cdk-types.json and cdk-resources.json",
      "",
      "Usage: " ++ programName ++ " generate [OPTIONS] --spec <SPEC> --output <OUTPUT>",
      "",
      "Options:",
      "  -s, --spec <SPEC>          Path to the specification database JSON",
      "  -o, --output <OUTPUT>      Output directory [env: " ++ outputVariable ++ "=" ++
        outputDefault.getD "" ++ "]",
      "  -b, --bindings <BINDINGS>  Binding convention overrides (YAML)",
      "  -v, --verbose              Enable verbose output",
      "  -h, --help                 Print help",
      "",
      "EXAMPLES:",
      "  # Generate into ./out",
      "  " ++ programName ++ " generate --spec db.json --output ./out",
      "",
      "  # Override binding conventions",
      "  " ++ programName ++
        " generate --spec db.json --output ./out --bindings bindings.yaml"]
  | .inspect =>
    ["Load a specification database and summarize its contents",
      "",
      "Usage: " ++ programName ++ " inspect [OPTIONS] --spec <SPEC>",
      "",
      "Options:",
      "  -s, --spec <SPEC>  Path to the specification database JSON",
      "  -v, --verbose      Enable verbose output",
      "  -h, --help         Print help"]

/-- What is said about arguments that fit no command. -/
def misuseText : String :=
  "error: the arguments fit no command\n\nFor more information, try '--help'."

/-! ## Whole runs -/

/-- Runs the command that the arguments ask for. -/
def run {m : Type → Type} [Monad m] (fs : FileSystem m) (outputDefault : Option String)
    (arguments : List String) : m Outcome :=
  match Request.ofArguments outputDefault arguments with
  | .generate spec output bindings verbose => generate fs spec output bindings verbose
  | .inspect spec verbose => inspect fs spec verbose
  | .help level => return .success (level.helpLines outputDefault)
  | .version => return .success [programName ++ " " ++ versionText]
  | .misused => return ⟨2, "", misuseText⟩

end ConstructSchema.Command
