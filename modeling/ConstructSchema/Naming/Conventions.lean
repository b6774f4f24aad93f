import ConstructSchema.Naming.Language
import ConstructSchema.Text.Replace

/-!
Binding conventions: the base location of each language, and exceptions in the spelling of service
names.

Conventions from a file add to the built-in exceptions and never take one away; an exception that
is there already is not added again. Exceptions are applied one after the other, each to its first
occurrence in what the one before left.
-/

namespace ConstructSchema

/-- The base location of each language. -/
structure Bases where
  typescript : String := "aws-cdk-lib"
  csharp : String := "Amazon.CDK"
  golang : String := "github.com/aws/aws-cdk-go/awscdk/v2"
  java : String := "software.amazon.awscdk"
  python : String := "aws_cdk"
  deriving DecidableEq, Repr, Inhabited

/-- The base location of a language. -/
def Bases.of (b : Bases) : Language → String
  | .typescript => b.typescript
  | .csharp => b.csharp
  | .golang => b.golang
  | .java => b.java
  | .python => b.python

/-- A part of a service name that is spelled differently. -/
structure NameException where
  /-- The part as it occurs in the name. -/
  source : String
  /-- The spelling that takes its place. -/
  target : String
  deriving DecidableEq, Repr, Inhabited

/-- A name with the first occurrence of the part replaced. -/
def NameException.apply (e : NameException) (name : String) : String :=
  Text.replaceFirst name e.source e.target

/-- An exception respells the first occurrence of its part, and leaves a name alone that the part
does not occur in. -/
theorem NameException.apply_eq_iff {e : NameException} {name result : String} :
    e.apply name = result ↔ Text.FirstReplaced e.source e.target name result :=
  Text.replaceFirst_eq_iff

/-- The exceptions that are always there. -/
def builtinExceptions : List NameException :=
  [⟨"ApiGatewayV2", "APIGatewayV2"⟩]

/-- Binding conventions. -/
structure Conventions where
  /-- The version of the format; nothing depends on it. -/
  version : Nat := 1
  bases : Bases := {}
  /-- The package of types that belong to no service. -/
  golangCorePackage : String := "awscdk"
  /-- The exceptions in the spelling of capitalized service names. -/
  csharpExceptions : List NameException := builtinExceptions
  deriving DecidableEq, Repr

namespace Conventions

instance : Inhabited Conventions := ⟨{}⟩

/-- The list with an exception at its end, unless it holds the exception already. -/
def addException (known : List NameException) (e : NameException) : List NameException :=
  if e ∈ known then known else known ++ [e]

/-- The built-in exceptions, followed by those of a list that are new. -/
def mergeExceptions (listed : List NameException) : List NameException :=
  listed.foldl addException builtinExceptions

/-- The conventions with the built-in exceptions put first. -/
def withBuiltins (c : Conventions) : Conventions :=
  { c with csharpExceptions := mergeExceptions c.csharpExceptions }

/-- A name after a list of exceptions. -/
def respell (exceptions : List NameException) (name : String) : String :=
  exceptions.foldl (fun name e => e.apply name) name

/-- A capitalized service name after the exceptions. -/
def applyExceptions (c : Conventions) (capitalized : String) : String :=
  respell c.csharpExceptions capitalized

end Conventions

end ConstructSchema
