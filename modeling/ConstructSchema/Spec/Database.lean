import ConstructSchema.Failure
import ConstructSchema.Spec.Index
import ConstructSchema.Spec.Json

/-!
Specification databases: a document in which every entity has an id, with the edges indexed.

Two lookups go against the direction of the edges: the service that owns a resource and the
resource that uses a type definition. Each demands exactly one edge whose source is in its table;
edges from names that are in no table are passed over. `dangling` lists the edges that name an
entity that does not exist.
-/

namespace ConstructSchema

/-- A specification database. -/
structure Database where
  document : Document
  /-- Which services have an edge to a resource. -/
  owners : Index := Index.ofRelations document.hasResource
  /-- Which resources have an edge to a type definition. -/
  users : Index := Index.ofRelations document.usesType
  /-- The file the database was loaded from, if it was. -/
  source : Option String := none
  owners_eq : owners = Index.ofRelations document.hasResource := by rfl
  users_eq : users = Index.ofRelations document.usesType := by rfl

namespace Database

/-- The database of a document; an entity without an id gets its name in its table. -/
def ofDocument (d : Document) : Database where
  document := d.withIds

/-- The database that a text holds. -/
def ofText (text : String) : Except Failure Database :=
  match Json.decodeText Document.ofJson text with
  | .error fault => .error (.malformedDatabase fault none)
  | .ok document => .ok (ofDocument document)

/-- The database that a text from a file holds. -/
def ofFile (path text : String) : Except Failure Database :=
  match Json.decodeText Document.ofJson text with
  | .error fault => .error (.malformedDatabase fault (some path))
  | .ok document => .ok { ofDocument document with source := some path }

/-- The one value that a lookup finds among names, or the number of values it finds if that is
not one. -/
def theOnly {α : Type} (lookup : String → Option α) (names : List String) : Except Nat α :=
  match names.filterMap lookup with
  | [value] => .ok value
  | values => .error values.length

/-- The service that owns a resource. -/
def serviceOf (db : Database) (r : Resource) : Except Failure Service :=
  match theOnly db.document.services.get? (db.owners.sources r.id) with
  | .ok service => .ok service
  | .error found => .error (.serviceNotFound r.typeId found)

/-- The resource that uses a type definition. -/
def parentOf (db : Database) (t : TypeDefinition) : Except Failure Resource :=
  match theOnly db.document.resources.get? (db.users.sources t.id) with
  | .ok resource => .ok resource
  | .error found => .error (.parentNotFound t.name found)

/-- The name of a type definition, by its name in the table; an empty name counts as none. -/
def definitionName? (db : Database) (id : String) : Option String :=
  match db.document.typeDefinitions.get? id with
  | some t => if t.name.isEmpty then none else some t.name
  | none => none

/-- The first resource of a type. -/
def resourceOfType? (db : Database) (typeId : String) : Option Resource :=
  db.document.resources.values.find? (·.typeId = typeId)

/-- The edges whose source or target is in no table, first those to resources and then those to
type definitions. -/
def dangling (db : Database) : List Relation :=
  let d := db.document
  (d.hasResource.filter fun r => !d.services.contains r.source || !d.resources.contains r.target) ++
    d.usesType.filter fun r =>
      !d.resources.contains r.source || !d.typeDefinitions.contains r.target

end Database

end ConstructSchema
