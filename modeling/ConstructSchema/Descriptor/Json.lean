import ConstructSchema.Descriptor
import ConstructSchema.Json.Basic

/-!
The JSON form of descriptors.

A descriptor is an object whose member `type` names its kind; `reference`, `element` and `types`
hold the rest. It may also be an array that starts with the kind and goes on with what the kind
holds. In the member `type` a name is due; within another descriptor the position of a kind serves
as well.

A descriptor is first looked at as a whole: all its parts have to be usable, also those that its
kind does not know, and its kind has to be given once. Only then are the fields of the kind
decoded.
-/

namespace ConstructSchema.Descriptor

/-! ## The kind -/

/-- The kind that a tag selects. -/
def Kind.ofTag (nested : Bool) : Json → Except Fault Kind
  | .string name => .ok (.ofName name)
  | .number n =>
    match n.natural? with
    | some position => if nested then .ok (.ofPosition position) else .error .malformed
    | none => .error .malformed
  | _ => .error .malformed

/-- The kind that the members of an object select, when `found` was selected before them. -/
def Kind.ofMembers (nested : Bool) (found : Option Kind) :
    List (String × Json) → Except Fault Kind
  | [] =>
    match found with
    | some kind => .ok kind
    | none => .error (.missingField "type")
  | (name, value) :: rest =>
    if name = "type" then
      match found with
      | some _ => .error (.duplicateField "type")
      | none =>
        match Kind.ofTag nested value with
        | .error fault => .error fault
        | .ok kind => Kind.ofMembers nested (some kind) rest
    else if value.usable then Kind.ofMembers nested found rest
    else .error .malformed

/-! ## Decoding -/

/-- The id that a reference holds. -/
def referenceOfJson (j : Json) : Except Fault String := do
  let r ← j.record ["$ref"]
  let id := r.field "$ref" Json.text
  Json.checkFields r [("$ref", Record.faultOf id)]
  r.required "$ref" id

/-- The descriptor of a kind that holds nothing. -/
def ofPlainKind : Kind → Descriptor
  | .string => .string
  | .boolean => .boolean
  | .number => .number
  | .integer => .integer
  | .dateTime => .dateTime
  | .json => .json
  | .tag => .tag
  | .null => .null
  | _ => .unknown

/-- The descriptor that holds an element, if there is one. -/
def ofElement (container : Container) (make : Descriptor → Descriptor) :
    Option Descriptor → Descriptor
  | some element => make element
  | none => .bare container

/-- The union of the types, if they are given. -/
def ofTypes : Option (List Descriptor) → Descriptor
  | some types => .union types
  | none => .bare .union

/-- The value of the only field that a kind knows, which may be left out. -/
def onlyField {α : Type} (members : List (String × Json)) (name : String)
    (value : Option (Except Fault (Option α))) : Except Fault (Option α) := do
  Json.checkFields (.named members) [(name, Record.faultOf value)]
  Record.optional none value

/-- Nothing may follow the last position. -/
def closed {α : Type} (extra : List Json) (value : α) : Except Fault α :=
  if extra.isEmpty then .ok value else .error .malformed

mutual

/-- The descriptor of a JSON value. -/
def ofJson (nested : Bool) : Json → Except Fault Descriptor
  | .object members =>
    match Kind.ofMembers nested none members with
    | .error fault => .error fault
    | .ok .ref => do
      let r := Record.named members
      let reference := r.field "reference" referenceOfJson
      Json.checkFields r [("reference", Record.faultOf reference)]
      let id ← r.required "reference" reference
      return .ref id
    | .ok .array =>
      (onlyField members "element" (elementAmong members)).map (ofElement .array .array)
    | .ok .map =>
      (onlyField members "element" (elementAmong members)).map (ofElement .map .map)
    | .ok .union => (onlyField members "types" (typesAmong members)).map ofTypes
    | .ok kind => .ok (ofPlainKind kind)
  | .array [] => .error (.missingField "type")
  | .array (first :: items) =>
    match Kind.ofTag nested first with
    | .error fault => .error fault
    | .ok kind =>
      if Json.usableItems items then
        match kind, items with
        | .ref, [] => .error .malformed
        | .ref, reference :: extra =>
          match referenceOfJson reference with
          | .error fault => .error fault
          | .ok id => closed extra (.ref id)
        | .array, [] => .ok (.bare .array)
        | .array, .null :: extra => closed extra (.bare .array)
        | .array, element :: extra =>
          match ofJson true element with
          | .error fault => .error fault
          | .ok element => closed extra (.array element)
        | .map, [] => .ok (.bare .map)
        | .map, .null :: extra => closed extra (.bare .map)
        | .map, element :: extra =>
          match ofJson true element with
          | .error fault => .error fault
          | .ok element => closed extra (.map element)
        | .union, [] => .ok (.bare .union)
        | .union, .null :: extra => closed extra (.bare .union)
        | .union, .array types :: extra =>
          match ofJsonList types with
          | .error fault => .error fault
          | .ok types => closed extra (.union types)
        | .union, _ :: _ => .error .malformed
        | kind, extra => closed extra (ofPlainKind kind)
      else .error .malformed
  | _ => .error .malformed

/-- The first member called `element`, decoded; null stands for no element. -/
def elementAmong : List (String × Json) → Option (Except Fault (Option Descriptor))
  | [] => none
  | (name, value) :: rest =>
    if name = "element" then
      match value with
      | .null => some (.ok none)
      | _ => some ((ofJson true value).map some)
    else elementAmong rest

/-- The first member called `types`, decoded; null stands for no types. -/
def typesAmong : List (String × Json) → Option (Except Fault (Option (List Descriptor)))
  | [] => none
  | (name, value) :: rest =>
    if name = "types" then
      match value with
      | .null => some (.ok none)
      | .array items => some ((ofJsonList items).map some)
      | _ => some (.error .malformed)
    else typesAmong rest

/-- The descriptors of a list of JSON values within a descriptor. -/
def ofJsonList : List Json → Except Fault (List Descriptor)
  | [] => .ok []
  | item :: rest => do
    let first ← ofJson true item
    let others ← ofJsonList rest
    return first :: others

end

/-! ## Encoding -/

mutual

/-- The JSON form of a descriptor. -/
def toJson : Descriptor → Json
  | .ref id =>
    .object [("type", .string Kind.ref.name), ("reference", .object [("$ref", .string id)])]
  | .array element => .object [("type", .string Kind.array.name), ("element", element.toJson)]
  | .map element => .object [("type", .string Kind.map.name), ("element", element.toJson)]
  | .union types =>
    .object [("type", .string Kind.union.name), ("types", .array (toJsonList types))]
  | .bare .union => .object [("type", .string Kind.union.name), ("types", .null)]
  | .bare container =>
    .object [("type", .string (Kind.ofContainer container).name), ("element", .null)]
  | plain => .object [("type", .string plain.kind.name)]

/-- The JSON forms of a list of descriptors. -/
def toJsonList : List Descriptor → List Json
  | [] => []
  | first :: rest => first.toJson :: toJsonList rest

end

end ConstructSchema.Descriptor
