import ConstructSchema.Files.Error

/-!
What the library asks of a file system.

Everything that touches files is written over these three operations, so the same functions run on
the files of the machine and on a tree of files that is a value.
-/

namespace ConstructSchema

/-- The operations of a file system, in a monad `m`. -/
structure FileSystem (m : Type → Type) where
  /-- The text of a file. -/
  read : String → m (Except FileError String)
  /-- Makes a directory and the directories on the way to it. -/
  createDirectories : String → m (Except FileError Unit)
  /-- Gives a file a new text, and makes the file if it is not there. -/
  write : String → String → m (Except FileError Unit)

end ConstructSchema
