/-!
The languages for which classes are named.
-/

namespace ConstructSchema

/-- A target language. -/
inductive Language where
  | typescript
  | csharp
  | golang
  | java
  | python
  deriving DecidableEq, Repr, Inhabited

namespace Language

/-- All languages, in the order in which bindings list them. -/
def all : List Language :=
  [.typescript, .csharp, .golang, .java, .python]

/-- The name of a language in bindings and conventions. -/
def key : Language → String
  | .typescript => "typescript"
  | .csharp => "csharp"
  | .golang => "golang"
  | .java => "java"
  | .python => "python"

/-- What stands between the base location of a language and the part that belongs to a service. -/
def separator : Language → String
  | .typescript | .golang => "/"
  | .csharp | .java | .python => "."

/-- What a location is called in a language. -/
def locationKey : Language → String
  | .typescript | .golang | .python => "module"
  | .csharp => "namespace"
  | .java => "package"

end Language

end ConstructSchema
