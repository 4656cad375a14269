/-
JSON values.

Integers within 64 bits are kept apart from all other numbers, because they are exact.
The members of an object are a list: a value that was read holds them in the order of
their keys, one member to a key, while a value that is about to be written may hold them
in the order of the writer's choice.
-/
import Draftsman.Decimal.Shortest

set_option autoImplicit false

namespace Draftsman

open Draftsman.Decimal

/-- A number of a JSON text: an exact integer, or a binary value of 64 bits. Among the
numbers that are written there are also binary values of 32 bits. -/
inductive Number where
  | integer (value : Int)
  | real (value : Finite)
  | single (value : Finite)
deriving DecidableEq, Repr

/-- A JSON value. -/
inductive Json where
  | null
  | bool (value : Bool)
  | number (value : Number)
  | string (value : String)
  | array (items : List Json)
  | object (members : List (String × Json))
deriving Repr

instance : Inhabited Json := ⟨.null⟩

/-! ## Equality

Values hold lists of values, so the decision is not derived. It goes down all three kinds of data
at once. -/

namespace Json

mutual

/-- Decides whether two values are the same. -/
def decEq : (v w : Json) → Decidable (v = w)
  | .null, .null => isTrue rfl
  | .bool a, .bool b => decidable_of_iff (a = b) (by rw [bool.injEq])
  | .number a, .number b => decidable_of_iff (a = b) (by rw [number.injEq])
  | .string a, .string b => decidable_of_iff (a = b) (by rw [string.injEq])
  | .array a, .array b =>
    have := decEqItems a b
    decidable_of_iff (a = b) (by rw [array.injEq])
  | .object a, .object b =>
    have := decEqMembers a b
    decidable_of_iff (a = b) (by rw [object.injEq])
  | .null, .bool _ | .null, .number _ | .null, .string _ | .null, .array _ | .null, .object _
  | .bool _, .null | .bool _, .number _ | .bool _, .string _ | .bool _, .array _
  | .bool _, .object _ | .number _, .null | .number _, .bool _ | .number _, .string _
  | .number _, .array _ | .number _, .object _ | .string _, .null | .string _, .bool _
  | .string _, .number _ | .string _, .array _ | .string _, .object _ | .array _, .null
  | .array _, .bool _ | .array _, .number _ | .array _, .string _ | .array _, .object _
  | .object _, .null | .object _, .bool _ | .object _, .number _ | .object _, .string _
  | .object _, .array _ => isFalse nofun

/-- `decEq` on lists of items. -/
def decEqItems : (vs ws : List Json) → Decidable (vs = ws)
  | [], [] => isTrue rfl
  | v :: vs, w :: ws =>
    have := decEq v w
    have := decEqItems vs ws
    decidable_of_iff (v = w ∧ vs = ws) (by rw [List.cons.injEq])
  | [], _ :: _ | _ :: _, [] => isFalse nofun

/-- `decEq` on lists of members. -/
def decEqMembers : (vs ws : List (String × Json)) → Decidable (vs = ws)
  | [], [] => isTrue rfl
  | (k, v) :: vs, (l, w) :: ws =>
    have := decEq v w
    have := decEqMembers vs ws
    decidable_of_iff (k = l ∧ v = w ∧ vs = ws) (by rw [List.cons.injEq, Prod.mk.injEq, and_assoc])
  | [], _ :: _ | _ :: _, [] => isFalse nofun

end

instance : DecidableEq Json := decEq

end Json

/-! ## Numbers -/

/-- Numbers of JSON are written without exponent from `0.00001` on and below `10 ^ 16`,
and an integral value that is not an exact integer shows that by its point. A value
halfway between two decimals is written with an even last digit. -/
def Number.layout : Layout := ⟨fun x => -5 ≤ x && x ≤ 15, true, .toEven⟩

/-- Values of 32 bits reach fewer digits, and turn to exponents elsewhere. -/
def Number.singleLayout : Layout := ⟨fun x => -6 ≤ x && x ≤ 12, true, .toEven⟩

/-- The text of a number. -/
def Number.text : Number → String
  | integer n => toString n
  | real x => Number.layout.write .double x
  | single x => Number.singleLayout.write .single x

/-- The value of an exact integer that fits 64 bits with a sign. -/
def Number.signed? : Number → Option Int
  | integer n => if n < 0x8000000000000000 then some n else none
  | real _ | single _ => none

/-- The value of an exact integer that is not negative. -/
def Number.unsigned? : Number → Option Nat
  | integer n => if 0 ≤ n then some n.toNat else none
  | real _ | single _ => none

/-! ## Looking into values -/

namespace Json

/-- The text of a string. -/
def asString? : Json → Option String
  | string s => some s
  | _ => none

/-- The items of an array. -/
def asArray? : Json → Option (List Json)
  | array items => some items
  | _ => none

/-- Whether the value is an array. -/
def isArray : Json → Bool
  | array _ => true
  | _ => false

/-- Whether the value is an object. -/
def isObject : Json → Bool
  | object _ => true
  | _ => false

/-- The natural number that a value is. -/
def asNat? : Json → Option Nat
  | number n => n.unsigned?
  | _ => none

/-- The member of an object with the given key. -/
def get? (key : String) : Json → Option Json
  | object members => members.lookup key
  | _ => none

/-! ## Members in order -/

/-- Enters a member into members that are in the order of their keys. A member of the
same key is replaced. -/
def insertMember (key : String) (value : Json) : List (String × Json) → List (String × Json)
  | [] => [(key, value)]
  | (k, v) :: rest =>
    if key = k then (key, value) :: rest
    else if key < k then (key, value) :: (k, v) :: rest
    else (k, v) :: insertMember key value rest

/-- Members in the order of their keys; of several with one key the last remains. -/
def sortMembers (members : List (String × Json)) : List (String × Json) :=
  members.foldl (fun sorted m => insertMember m.1 m.2 sorted) []

mutual

/-- The value with the members of every object in the order of their keys. -/
def sorted : Json → Json
  | array items => array (sortedItems items)
  | object members => object (sortMembers (sortedMembers members))
  | v => v

/-- `sorted` on every item. -/
def sortedItems : List Json → List Json
  | [] => []
  | v :: rest => sorted v :: sortedItems rest

/-- `sorted` on the value of every member. -/
def sortedMembers : List (String × Json) → List (String × Json)
  | [] => []
  | (k, v) :: rest => (k, sorted v) :: sortedMembers rest

end

end Json

end Draftsman
