import ConstructSchema.Naming.Conventions
import ConstructSchema.Naming.PackageName
import ConstructSchema.Spec.Document

/-!
Bindings: where a generated class is found in each language, and what it is called there.

A class that belongs to no service stands at the base location of each language. The location of a
class of a service has a segment more, made from the name of the service by a rule of the language.
-/

namespace ConstructSchema

/-- The place of a class in a language with one kind of location. -/
structure Binding where
  location : String
  name : String
  deriving DecidableEq, Repr, Inhabited

/-- The place of a class in Go, where a module and a package are told apart. -/
structure GoBinding where
  module : String
  package : String
  name : String
  deriving DecidableEq, Repr, Inhabited

/-- The places of one class in all languages. -/
structure Bindings where
  typescript : Binding
  csharp : Binding
  golang : GoBinding
  java : Binding
  python : Binding
  deriving DecidableEq, Repr, Inhabited

namespace Conventions

/-- The part of a location that belongs to a service. -/
def segment (c : Conventions) (s : Service) : Language → String
  | .typescript => s.name
  | .csharp => Text.before s.namespaceId "::" ++ "." ++ c.applyExceptions s.capitalized
  | .golang => Text.replaceFirst s.name "-" ""
  | .java => Text.replaceFirst (Text.replaceFirst s.name "aws-" "services.") "-" "."
  | .python => Text.replaceFirst s.name "-" "_"

/-- The location of the classes of a service. -/
def location (c : Conventions) (s : Service) (l : Language) : String :=
  c.bases.of l ++ l.separator ++ c.segment s l

/-- The places of a class that belongs to no service. -/
def coreBindings (c : Conventions) (name : String) : Bindings where
  typescript := ⟨c.bases.typescript, name⟩
  csharp := ⟨c.bases.csharp, name⟩
  golang := ⟨c.bases.golang, c.golangCorePackage, name⟩
  java := ⟨c.bases.java, name⟩
  python := ⟨c.bases.python, name⟩

/-- The places of a class of a service. In Go the first dot of its name is an underscore. -/
def serviceBindings (c : Conventions) (s : Service) (name : String) : Bindings where
  typescript := ⟨c.location s .typescript, name⟩
  csharp := ⟨c.location s .csharp, name⟩
  golang := ⟨c.location s .golang, PackageName.ofCapitalized s.capitalized,
    Text.replaceFirst name "." "_"⟩
  java := ⟨c.location s .java, name⟩
  python := ⟨c.location s .python, name⟩

end Conventions

end ConstructSchema
