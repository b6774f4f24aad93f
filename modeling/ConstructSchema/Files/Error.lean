/-!
Why the file system refuses an operation.
-/

namespace ConstructSchema

/-- Why an operation on a file or directory failed. -/
inductive FileError where
  | notFound
  | exists
  | notDirectory
  | isDirectory
  /-- A name within a path, or the path as a whole, is too long. -/
  | nameTooLong
  /-- The path has a null character in it. -/
  | nullInName
  /-- Any other refusal, in the words of the system. -/
  | other (message : String)
  deriving DecidableEq, Repr, Inhabited

/-- The text of a file error, with the number the system gives it. -/
def FileError.message : FileError → String
  | .notFound => "No such file or directory (os error 2)"
  | .exists => "File exists (os error 17)"
  | .notDirectory => "Not a directory (os error 20)"
  | .isDirectory => "Is a directory (os error 21)"
  | .nameTooLong => "File name too long (os error 36)"
  | .nullInName => "file name contained an unexpected NUL byte"
  | .other message => message

end ConstructSchema
