import ConstructSchema.Table
import ConstructSchema.Record

/-!
JSON values as they are read from a text.

A value keeps its members in the order of the text and keeps repeated names, because the first
fault in that order is the one reported. Three forms record what only matters to some readers:

* `broken` stands where the text stops being JSON; nothing follows it;
* `inert` holds a value that may be skipped but not used: a text with an unpaired surrogate, a
  number that gives no finite double, an array or object nested too deeply;
* `misnamed` holds the value of a member whose name has an unpaired surrogate; that member, too,
  may only be skipped together with the object it stands in.

A value made by this library holds none of the three.
-/

namespace ConstructSchema

/-- A number literal: its value is `significand · 10 ^ exponent`, with the sign in front. -/
structure Json.Number where
  negative : Bool
  significand : Nat
  exponent : Int
  /-- The literal has neither a fraction nor an exponent. -/
  whole : Bool
  deriving DecidableEq, Repr

/-- A JSON value. -/
inductive Json where
  | null
  | bool (value : Bool)
  | number (value : Json.Number)
  | string (value : String)
  | array (items : List Json)
  | object (members : List (String × Json))
  | inert (value : Json)
  | misnamed (value : Json)
  | broken

instance : Inhabited Json := ⟨.null⟩

namespace Json

/-- The number literal of a natural number. -/
def Number.ofNat (n : Nat) : Number :=
  ⟨false, n, 0, true⟩

/-- The natural number of a literal of digits alone, if it fits into 64 bits. -/
def Number.natural? (n : Number) : Option Nat :=
  if n.whole && !n.negative && n.significand < UInt64.size then some n.significand else none

/-! ## Numbers as doubles

A number is kept as a double: as many of its leading digits as fit into 64 bits, times a power of
ten, where both factors and then their product are rounded. The digits behind them only count as
places.
-/

/-- The leading digits of a number that fit into 64 bits, and how many digits follow them. -/
def leadingDigits (n : Nat) : Nat × Nat :=
  if _h : n < UInt64.size then (n, 0)
  else
    let (leading, dropped) := leadingDigits (n / 10)
    (leading, dropped + 1)
termination_by n
decreasing_by
  have hpos : 0 < n := Nat.lt_of_lt_of_le (by decide) (Nat.not_lt.1 _h)
  exact Nat.div_lt_self hpos (by decide)

/-- The natural number of 53 leading binary digits that is nearest to `n`; of two that are equally
near, the one whose last of these digits is zero. -/
def nearestDouble (n : Nat) : Nat :=
  let unit := Nat.pow 2 (n.log2 + 1 - 53)
  let below := n / unit
  let excess := n % unit
  if 2 * excess < unit || (2 * excess = unit && below % 2 = 0) then below * unit
  else (below + 1) * unit

/-- The greatest power of ten that a number is multiplied by. -/
def greatestPower : Int := 308

/-- The least integer that is rounded beyond the greatest double: half a step above it. -/
def beyondDoubles : Nat :=
  Nat.pow 2 1024 - Nat.pow 2 970

/-- Whether a literal gives a finite double. -/
def Number.isFinite (n : Number) : Bool :=
  let (leading, dropped) := leadingDigits n.significand
  let exponent := n.exponent + dropped
  leading == 0 || decide (exponent < 0) ||
    (decide (exponent ≤ greatestPower) &&
      decide (nearestDouble leading * nearestDouble (Nat.pow 10 exponent.toNat) < beyondDoubles))

mutual

/-- Whether a value can be passed over: the text goes on behind it. -/
def skippable : Json → Bool
  | .null | .bool _ | .number _ | .string _ => true
  | .array items => skippableItems items
  | .object members => skippableMembers members
  | .inert value | .misnamed value => value.skippable
  | .broken => false

/-- Whether all items can be passed over. -/
def skippableItems : List Json → Bool
  | [] => true
  | item :: rest => item.skippable && skippableItems rest

/-- Whether all members can be passed over. -/
def skippableMembers : List (String × Json) → Bool
  | [] => true
  | (_, value) :: rest => value.skippable && skippableMembers rest

end

mutual

/-- Whether a value can be used in all its parts. -/
def usable : Json → Bool
  | .null | .bool _ | .number _ | .string _ => true
  | .array items => usableItems items
  | .object members => usableMembers members
  | .inert _ | .misnamed _ | .broken => false

/-- Whether all items can be used. -/
def usableItems : List Json → Bool
  | [] => true
  | item :: rest => item.usable && usableItems rest

/-- Whether all members can be used. -/
def usableMembers : List (String × Json) → Bool
  | [] => true
  | (_, value) :: rest => value.usable && usableMembers rest

end

mutual

/-- The value with the members of every object in ascending order of their names, where of several
members of one name the last is kept. -/
def sorted : Json → Json
  | .array items => .array (sortedItems items)
  | .object members => .object (Table.ofList (sortedValues members)).entries
  | .inert value => .inert value.sorted
  | .misnamed value => .misnamed value.sorted
  | value => value

/-- The items, each sorted. -/
def sortedItems : List Json → List Json
  | [] => []
  | item :: rest => item.sorted :: sortedItems rest

/-- The members in their own order, each with its value sorted. -/
def sortedValues : List (String × Json) → List (String × Json)
  | [] => []
  | (name, value) :: rest => (name, value.sorted) :: sortedValues rest

end

/-! ## Decoding the simple forms -/

/-- A text. -/
def text : Json → Except Fault String
  | .string value => .ok value
  | _ => .error .malformed

/-- A truth value. -/
def flag : Json → Except Fault Bool
  | .bool value => .ok value
  | _ => .error .malformed

/-- A natural number of 32 bits. -/
def word32 : Json → Except Fault Nat
  | .number value =>
    match value.natural? with
    | some n => if n < UInt32.size then .ok n else .error .malformed
    | none => .error .malformed
  | _ => .error .malformed

/-- A value for which null stands if there is none. -/
def nullable {α : Type} (decode : Json → Except Fault α) : Json → Except Fault (Option α)
  | .null => .ok none
  | value => (decode value).map some

/-- A list, from an array. -/
def listOf {α : Type} (decode : Json → Except Fault α) : Json → Except Fault (List α)
  | .array items => items.mapM decode
  | _ => .error .malformed

/-- A table, from an object; of several members of one name the last counts. -/
def tableOf {α : Type} (decode : Json → Except Fault α) : Json → Except Fault (Table α)
  | .object members =>
    (members.mapM fun m => (decode m.2).map (Prod.mk m.1 ·)).map Table.ofList
  | _ => .error .malformed

/-- The record of an object, or of an array that gives the fields in the order of `names`. -/
def record (names : List String) : Json → Except Fault (Record Json)
  | .object members => .ok (.named members)
  | .array items => .ok (.byPosition names items)
  | _ => .error .malformed

/-- Whether a member that belongs to no field can be passed over. -/
def skippableMember : Json → Bool
  | .misnamed _ => false
  | value => value.skippable

/-- The first fault of a record whose fields are `known`, each with its own fault. -/
def checkFields (r : Record Json) (known : List (String × Option Fault)) : Except Fault Unit :=
  r.check skippableMember known

/-! ## Encoding the simple forms -/

/-- The value that stands for an optional one: null if there is none. -/
def ofOption {α : Type} (encode : α → Json) : Option α → Json
  | none => .null
  | some value => encode value

/-- The object of a table, with its members in ascending order. -/
def ofTable {α : Type} (encode : α → Json) (t : Table α) : Json :=
  .object (t.entries.map fun e => (e.1, encode e.2))

/-- The number of a natural number. -/
def ofNat (n : Nat) : Json :=
  .number (.ofNat n)

end Json

end ConstructSchema
