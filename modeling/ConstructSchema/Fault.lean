/-!
Faults of decoding: why a text or a value is not what was asked for.

Three faults are told apart because they name a part of the input; every other one is `malformed`.
-/

namespace ConstructSchema

/-- Why a value could not be decoded. -/
inductive Fault where
  /-- A field that has no default is not there. -/
  | missingField (name : String)
  /-- A field is there twice. -/
  | duplicateField (name : String)
  /-- A name that should select one of several forms selects none. -/
  | unknownVariant (name : String)
  /-- The text breaks off or the value has the wrong shape. -/
  | malformed
  deriving DecidableEq, Repr, Inhabited

/-- The text that stands for a fault in a report. A fault that names a part of the input is told
with the name; for any other fault a star stands for the decoder library's own message. The position
in the text, which the library adds to its messages, is left out. -/
def Fault.detail : Fault → String
  | .missingField name => "missing field `" ++ name ++ "`"
  | .duplicateField name => "duplicate field `" ++ name ++ "`"
  | .unknownVariant name => "unknown variant `" ++ name ++ "`"
  | .malformed => "*"

end ConstructSchema
