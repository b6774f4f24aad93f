import ConstructSchema.Files.System
import ConstructSchema.Spec.Database

/-!
Loading databases from files, and a handle that loads only once.

The handle keeps the first database that loads. From then on every path gives that database, and
no file is read any more; a path that fails before that leaves the handle as it was.
-/

namespace ConstructSchema

/-- The database in the file at a path. -/
def Database.load {m : Type → Type} [Monad m] (fs : FileSystem m) (path : String) :
    m (Except Failure Database) := do
  match ← fs.read path with
  | .error cause => return .error (.unreadableDatabase path cause)
  | .ok text => return Database.ofFile path text

/-- A place for one database. -/
structure Handle where
  database : Option Database := none

namespace Handle

/-- The handle and the answer when a database is asked for, where `load` would load one. -/
def get {m : Type → Type} [Monad m] (h : Handle) (load : m (Except Failure Database)) :
    m (Except Failure Database × Handle) :=
  match h.database with
  | some database => return (.ok database, h)
  | none => do
    match ← load with
    | .error failure => return (.error failure, h)
    | .ok database => return (.ok database, ⟨some database⟩)

/-- The handle and the answer when the database at a path is asked for. -/
def request {m : Type → Type} [Monad m] (h : Handle) (fs : FileSystem m) (path : String) :
    m (Except Failure Database × Handle) :=
  h.get (Database.load fs path)

end Handle

end ConstructSchema
