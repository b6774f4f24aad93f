/-!
The arguments of the command line.

An argument that starts with two dashes is a long option, perhaps with a value behind an equals
sign; one that starts with a single dash is a cluster of short options, of which the last may have
the rest as its value. Options are read strictly from left to right, and the first that asks for
help or for the version is answered at once; whatever went wrong before it comes first.
-/

namespace ConstructSchema.Command

/-! ## Options and commands -/

/-- An option. -/
inductive Flag where
  | verbose
  | spec
  | output
  | bindings
  | help
  | version
  deriving DecidableEq, Repr, Inhabited

namespace Flag

/-- The letter of an option behind a single dash. -/
def letter : Flag → Char
  | .verbose => 'v'
  | .spec => 's'
  | .output => 'o'
  | .bindings => 'b'
  | .help => 'h'
  | .version => 'V'

/-- The name of an option behind two dashes. -/
def name : Flag → String
  | .verbose => "verbose"
  | .spec => "spec"
  | .output => "output"
  | .bindings => "bindings"
  | .help => "help"
  | .version => "version"

/-- The option takes a value. -/
def takesValue : Flag → Bool
  | .spec | .output | .bindings => true
  | .verbose | .help | .version => false

/-- The value of the option may be empty. -/
def admitsEmpty (f : Flag) : Bool := f == .output

end Flag

/-- A place where options stand: before the command, or behind it. -/
inductive Level where
  | top
  | generate
  | inspect
  deriving DecidableEq, Repr, Inhabited

/-- The options of a level. -/
def Level.flags : Level → List Flag
  | .top => [.verbose, .help, .version]
  | .generate => [.spec, .output, .bindings, .verbose, .help]
  | .inspect => [.spec, .verbose, .help]

/-- What the arguments ask for. -/
inductive Request where
  | generate (spec output : String) (bindings : Option String) (verbose : Bool)
  | inspect (spec : String) (verbose : Bool)
  | help (level : Level)
  | version
  /-- The arguments fit no command. -/
  | misused
  deriving DecidableEq, Repr, Inhabited

/-! ## Single arguments -/

/-- The use of an option, with the value that is attached to it. -/
inductive Use where
  | flag (flag : Flag) (value : Option String)
  | unknown
  deriving DecidableEq, Repr, Inhabited

/-- What a single argument is. -/
inductive Word where
  /-- A command or the value of an option. -/
  | plain
  /-- The end of the options. -/
  | separator
  | long (name : String) (value : Option String)
  | cluster (letters : List Char)
  deriving DecidableEq, Repr, Inhabited

/-- What an argument is. A dash alone is a plain word. -/
def Word.ofArgument (argument : String) : Word :=
  match argument.toList with
  | ['-', '-'] => .separator
  | '-' :: '-' :: rest =>
    match rest.dropWhile (· != '=') with
    | [] => .long (String.ofList rest) none
    | _ :: value => .long (String.ofList (rest.takeWhile (· != '='))) (some (String.ofList value))
  | '-' :: c :: rest => .cluster (c :: rest)
  | _ => .plain

/-- The uses in a cluster of short options of a level. -/
def clusterUses (level : Level) : List Char → List Use
  | [] => []
  | c :: rest =>
    match level.flags.find? (·.letter == c) with
    | none => [.unknown]
    | some f =>
      if !f.takesValue then .flag f none :: clusterUses level rest
      else
        match rest with
        | [] => [.flag f none]
        | '=' :: value => [.flag f (some (String.ofList value))]
        | value => [.flag f (some (String.ofList value))]

/-- The use of a long option of a level. -/
def longUse (level : Level) (name : String) (value : Option String) : Use :=
  match level.flags.find? (·.name == name) with
  | none => .unknown
  | some f => if value.isSome && !f.takesValue then .unknown else .flag f value

/-! ## The options of a level -/

/-- The options given at a level. -/
structure Given where
  verbose : Bool := false
  spec : Option String := none
  output : Option String := none
  bindings : Option String := none

/-- A value for an option that has none yet. -/
def setOnce (f : Flag) (old : Option String) (value : String) : Except Request (Option String) :=
  if old.isSome || (value.isEmpty && !f.admitsEmpty) then .error .misused else .ok (some value)

/-- The options with one more that has a value. -/
def Given.withValue (given : Given) (f : Flag) (value : String) : Except Request Given :=
  match f with
  | .spec => (setOnce f given.spec value).map fun spec => { given with spec }
  | .output => (setOnce f given.output value).map fun output => { given with output }
  | .bindings => (setOnce f given.bindings value).map fun bindings => { given with bindings }
  | _ => .error .misused

/-- The options with the uses of one argument, and the option that still waits for its value. -/
def Given.withUses (level : Level) : List Use → Given → Except Request (Given × Option Flag)
  | [], given => .ok (given, none)
  | .unknown :: _, _ => .error .misused
  | .flag .help _ :: _, _ => .error (.help level)
  | .flag .version _ :: _, _ => .error .version
  | .flag .verbose _ :: rest, given =>
    if given.verbose then .error .misused
    else withUses level rest { given with verbose := true }
  | .flag f none :: _, given => .ok (given, some f)
  | .flag f (some value) :: rest, given =>
    match given.withValue f value with
    | .error request => .error request
    | .ok given => withUses level rest given

/-- The options of a level, and the arguments from the first plain word on. Nothing may follow the
end of the options. -/
def readFlags (level : Level) : List String → Given → Except Request (Given × List String)
  | [], given => .ok (given, [])
  | argument :: rest, given =>
    let withUses (uses : List Use) : Except Request (Given × List String) :=
      match given.withUses level uses with
      | .error request => .error request
      | .ok (given, none) => readFlags level rest given
      | .ok (given, some f) =>
        match rest with
        | [] => .error .misused
        | value :: rest =>
          if Word.ofArgument value = .plain then
            match given.withValue f value with
            | .error request => .error request
            | .ok given => readFlags level rest given
          else .error .misused
    match Word.ofArgument argument with
    | .plain => .ok (given, argument :: rest)
    | .separator => if rest.isEmpty then .ok (given, []) else .error .misused
    | .long name value => withUses [longUse level name value]
    | .cluster letters => withUses (clusterUses level letters)

/-! ## The whole line -/

/-- The name of the program. -/
def programName : String := "cdk-schema-generator"

/-- The environment variable that gives the output path when no option does. -/
def outputVariable : String := "INPUT_OUTPUT-PATH"

/-- What `help` is asked about. -/
def helpRequest : List String → Request
  | [] | ["help"] => .help .top
  | ["generate"] => .help .generate
  | ["inspect"] => .help .inspect
  | _ => .misused

/-- The request for schemas. -/
def generateRequest (outputDefault : Option String) (verbose : Bool) (given : Given) : Request :=
  match given.spec, given.output.or outputDefault with
  | some spec, some output => .generate spec output given.bindings (verbose || given.verbose)
  | _, _ => .misused

/-- The request for a summary. -/
def inspectRequest (verbose : Bool) (given : Given) : Request :=
  match given.spec with
  | some spec => .inspect spec (verbose || given.verbose)
  | none => .misused

/-- The request of a command that has its own level; plain words are no part of it. -/
def commandRequest (level : Level) (make : Given → Request) (arguments : List String) : Request :=
  match readFlags level arguments {} with
  | .error request => request
  | .ok (given, []) => make given
  | .ok _ => .misused

/-- What the arguments ask for, where `outputDefault` stands for an output path that is not
given. -/
def Request.ofArguments (outputDefault : Option String) (arguments : List String) : Request :=
  match readFlags .top arguments {} with
  | .error request => request
  | .ok (given, command :: rest) =>
    match command with
    | "generate" =>
      commandRequest .generate (generateRequest outputDefault given.verbose) rest
    | "inspect" => commandRequest .inspect (inspectRequest given.verbose) rest
    | "help" => helpRequest rest
    | _ => .misused
  | .ok (_, []) => .misused

end ConstructSchema.Command
