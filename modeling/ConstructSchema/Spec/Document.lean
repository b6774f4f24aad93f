import ConstructSchema.Descriptor
import ConstructSchema.Table

/-!
Specification documents: the tables of services, resources and type definitions, and the edges
that say which service has a resource and which resource uses a type definition.
-/

namespace ConstructSchema

/-- A directed edge between two entities, by their ids. -/
structure Relation where
  source : String
  target : String
  deriving DecidableEq, Repr, Inhabited

/-- A service, which owns resources. -/
structure Service where
  id : String
  name : String
  shortName : String
  /-- The name with its capitals. -/
  capitalized : String
  /-- The namespace of its resource types, with its parts between double colons. -/
  namespaceId : String
  deriving DecidableEq, Repr, Inhabited

/-- A property as a specification gives it. -/
structure RawProperty where
  type : Descriptor
  required : Option Bool
  /-- The types of earlier revisions, newest first. -/
  previousTypes : List Descriptor
  documentation : Option String
  deriving Repr, Inhabited

/-- An attribute as a specification gives it. -/
structure RawAttribute where
  type : Descriptor
  /-- The types of earlier revisions, newest first. -/
  previousTypes : List Descriptor
  documentation : Option String
  deriving Repr, Inhabited

/-- A resource. -/
structure Resource where
  id : String
  name : String
  /-- The type id, such as `AWS::S3::Bucket`. -/
  typeId : String
  attributes : Table RawAttribute
  properties : Table RawProperty
  deriving Inhabited

/-- A structural type that resources use. -/
structure TypeDefinition where
  id : String
  name : String
  properties : Table RawProperty
  deriving Inhabited

/-- A specification document. -/
structure Document where
  services : Table Service
  resources : Table Resource
  typeDefinitions : Table TypeDefinition
  /-- Which service has which resource. -/
  hasResource : List Relation
  /-- Which resource uses which type definition. -/
  usesType : List Relation
  deriving Inhabited

/-- The id of an entity that may have been left out: then it is the name it has in its table. -/
def idOr (id name : String) : String :=
  if id.isEmpty then name else id

/-- The document in which every entity without an id has its name in the table as its id. -/
def Document.withIds (d : Document) : Document :=
  { d with
    services := d.services.mapWithName fun name s => { s with id := idOr s.id name }
    resources := d.resources.mapWithName fun name r => { r with id := idOr r.id name }
    typeDefinitions :=
      d.typeDefinitions.mapWithName fun name t => { t with id := idOr t.id name } }

end ConstructSchema
