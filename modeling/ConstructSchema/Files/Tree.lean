import ConstructSchema.Files.Path
import ConstructSchema.Files.System

/-!
File trees as values.

A tree says what is at every place, where a place is the list of names that lead to it from the
root. The root is a directory, and whatever is there stands in a directory. Paths are followed
segment by segment from the root; a path with a slash at its end leads to a directory. There are
no links, so two dots lead to where the path came from. A segment that is too long is noticed when
the path gets there.
-/

namespace ConstructSchema

/-- What can be at a place. -/
inductive FileTree.Entry where
  | directory
  | file (text : String)
  deriving DecidableEq, Repr, Inhabited

/-- A tree of directories and files. -/
structure FileTree where
  /-- What is at a place. -/
  entryAt : List String → Option FileTree.Entry
  root_eq : entryAt [] = some .directory
  /-- What is there stands in a directory. -/
  parent_eq : ∀ place name, entryAt (place ++ [name]) ≠ none → entryAt place = some .directory

namespace FileTree

/-- The tree with an empty root. -/
def empty : FileTree where
  entryAt place := if place = [] then some .directory else none
  root_eq := rfl
  parent_eq := by intro place name h; simp at h

instance : Inhabited FileTree := ⟨empty⟩

/-- Whether there is a directory at a place. -/
def isDirectoryAt (t : FileTree) (place : List String) : Bool :=
  t.entryAt place == some .directory

/-- The tree with a file or directory put into a directory, unless a directory is there already. -/
def put (t : FileTree) (place : List String) (name : String) (entry : Entry)
    (inDirectory : t.entryAt place = some .directory)
    (notDirectory : t.entryAt (place ++ [name]) ≠ some .directory) : FileTree where
  entryAt other := if other = place ++ [name] then some entry else t.entryAt other
  root_eq := by simp [t.root_eq]
  parent_eq := by
    intro other n h
    by_cases hsame : other ++ [n] = place ++ [name]
    · obtain ⟨rfl, -⟩ := List.append_inj' hsame rfl
      simp [inDirectory]
    · rw [if_neg hsame] at h
      have hdir := t.parent_eq other n h
      have hne : other ≠ place ++ [name] := by
        rintro rfl
        exact notDirectory hdir
      rw [if_neg hne, hdir]

/-! ## Following a path -/

/-- The place that segments lead to from a place. -/
def follow (t : FileTree) (place : List String) : List String → Except FileError (List String)
  | [] => .ok place
  | segment :: rest =>
    if t.isDirectoryAt place then
      if segment = Path.here then t.follow place rest
      else if segment = Path.above then t.follow place.dropLast rest
      else if Path.isOverlong segment then .error .nameTooLong
      else if (t.entryAt (place ++ [segment])).isSome then t.follow (place ++ [segment]) rest
      else .error .notFound
    else .error .notDirectory

/-- The place of a path. A slash at the end asks for a directory, as a dot behind it would. -/
def locate (t : FileTree) (path : String) : Except FileError (List String) :=
  match Path.refusal? path with
  | some e => .error e
  | none =>
    if path.isEmpty then .error .notFound
    else
      t.follow [] (Path.segments path ++ if Path.endsInSlash path then [Path.here] else [])

/-- Whether something is at a path. -/
def hasPath (t : FileTree) (path : String) : Bool :=
  (t.locate path).isOk

/-- The text of the file at a path. -/
def readText (t : FileTree) (path : String) : Except FileError String :=
  match t.locate path with
  | .error e => .error e
  | .ok place =>
    match t.entryAt place with
    | some (.file text) => .ok text
    | _ => .error .isDirectory

/-! ## Making directories -/

/-- The tree with one more directory, where the segments of its path are given. -/
def makeDirectory (t : FileTree) (segments : List String) : Except FileError FileTree :=
  match segments.getLast? with
  | none => .error .exists
  | some name =>
    match t.follow [] segments.dropLast with
    | .error e => .error e
    | .ok place =>
      if inDirectory : t.entryAt place = some .directory then
        if name = Path.here || name = Path.above then .error .exists
        else if Path.isOverlong name then .error .nameTooLong
        else if taken : (t.entryAt (place ++ [name])).isSome then .error .exists
        else .ok (t.put place name .directory inDirectory (by
          intro h; simp [h] at taken))
      else .error .notDirectory

/-- Whether segments lead to a directory. -/
def leadsToDirectory (t : FileTree) (segments : List String) : Bool :=
  match t.follow [] segments with
  | .ok place => t.isDirectoryAt place
  | .error _ => false

/-- The segments of the directory above: dots that stand for the directory itself do not count,
except one that starts the path. -/
def parentSegments (segments : List String) : List String :=
  let counted := match segments with
    | [] => []
    | first :: rest => first :: rest.filter (· ≠ Path.here)
  counted.dropLast

/-- Fewer segments lead to the directory above. -/
theorem length_parentSegments_lt {segments : List String} (h : segments ≠ []) :
    (parentSegments segments).length < segments.length := by
  cases segments with
  | nil => exact absurd rfl h
  | cons first rest =>
    have hle := List.length_filter_le (fun s => decide (s ≠ Path.here)) rest
    simp only [parentSegments, List.length_dropLast, List.length_cons]
    omega

/-- Makes a directory and those on the way to it. First the directory itself is tried; if it is not
found on the way, the directory above is made and it is tried again. A refusal is none if the
directory is there. The tree may have changed even if the last attempt fails. -/
def makeDirectories (t : FileTree) (segments : List String) : Except FileError Unit × FileTree :=
  if _h : segments = [] then (.ok (), t)
  else
    match t.makeDirectory segments with
    | .ok made => (.ok (), made)
    | .error .notFound =>
      match t.makeDirectories (parentSegments segments) with
      | (.error e, changed) => (.error e, changed)
      | (.ok (), changed) =>
        match changed.makeDirectory segments with
        | .ok made => (.ok (), made)
        | .error e => (if changed.leadsToDirectory segments then .ok () else .error e, changed)
    | .error e => (if t.leadsToDirectory segments then .ok () else .error e, t)
termination_by segments.length
decreasing_by exact length_parentSegments_lt _h

/-- Makes the directory of a path and those on the way to it. -/
def createDirectories (t : FileTree) (path : String) : Except FileError Unit × FileTree :=
  match Path.refusal? path with
  | some e => (.error e, t)
  | none => t.makeDirectories (Path.segments path)

/-! ## Writing files -/

/-- The tree with a text in the file of segments; a slash behind them asks for a directory. -/
def writeAt (t : FileTree) (segments : List String) (slash : Bool) (text : String) :
    Except FileError FileTree :=
  match segments.getLast? with
  | none => .error (if slash then .isDirectory else .notFound)
  | some name =>
    match t.follow [] segments.dropLast with
    | .error e => .error e
    | .ok place =>
      if inDirectory : t.entryAt place = some .directory then
        if name = Path.here || name = Path.above then .error .isDirectory
        else if Path.isOverlong name then .error .nameTooLong
        else if taken : t.entryAt (place ++ [name]) = some .directory then .error .isDirectory
        else if slash then
          .error (if (t.entryAt (place ++ [name])).isSome then .notDirectory else .isDirectory)
        else .ok (t.put place name (.file text) inDirectory taken)
      else .error .notDirectory

/-- The tree with a text in the file of a path. -/
def writeText (t : FileTree) (path text : String) : Except FileError FileTree :=
  match Path.refusal? path with
  | some e => .error e
  | none => t.writeAt (Path.segments path) (Path.endsInSlash path) text

/-- The tree as a file system. -/
def system : FileSystem (StateM FileTree) where
  read path := fun t => (t.readText path, t)
  createDirectories path := fun t => t.createDirectories path
  write path text := fun t =>
    match t.writeText path text with
    | .ok written => (.ok (), written)
    | .error e => (.error e, t)

end FileTree

end ConstructSchema
