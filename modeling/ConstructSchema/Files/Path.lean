import ConstructSchema.Failure
import ConstructSchema.Text.WhiteSpace

/-!
Paths as texts: segments between slashes, joining, and the check of an output path.

The slash is the only separator. A path and each of its segments are bounded in length, and no path
has a null character in it. An output path is accepted if something is left of it without the white
space around it and no segment of that is two dots.
-/

namespace ConstructSchema.Path

/-- The parts between the slashes of a text, of which there is always one more than slashes. -/
def split : List Char → List (List Char)
  | [] => [[]]
  | c :: cs =>
    if c = '/' then [] :: split cs
    else
      match split cs with
      | [] => [[c]]
      | part :: parts => (c :: part) :: parts

/-- The segments of a path: its parts that are not empty. -/
def segments (path : String) : List String :=
  ((split path.toList).filter fun part => !part.isEmpty).map String.ofList

/-- The segment that stands for the directory itself. -/
def here : String := "."

/-- The segment that stands for the directory above. -/
def above : String := ".."

/-- A path ends in a slash. -/
def endsInSlash (path : String) : Bool :=
  path.toList.getLast? == some '/'

/-- The greatest number of bytes of a segment. -/
def segmentLimit : Nat := 255

/-- The greatest number of bytes of a path. -/
def lengthLimit : Nat := 4095

/-- A segment is too long to be a name. -/
def isOverlong (segment : String) : Bool :=
  decide (segmentLimit < segment.utf8ByteSize)

/-- The refusal of a path for its text alone, whatever the files are. -/
def refusal? (path : String) : Option FileError :=
  if '\x00' ∈ path.toList then some .nullInName
  else if lengthLimit < path.utf8ByteSize then some .nameTooLong
  else none

/-- The path of a file within a directory. -/
def join (directory file : String) : String :=
  if directory.isEmpty || endsInSlash directory then directory ++ file
  else directory ++ "/" ++ file

/-- The output path that a text gives. -/
def checkOutput (raw : String) : Except Failure String :=
  let path := Text.trim raw
  if path.isEmpty then .error .emptyOutputPath
  else if above ∈ segments path then .error .climbingOutputPath
  else .ok path

end ConstructSchema.Path
