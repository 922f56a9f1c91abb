import Inventory.Table

/-! Values of a data format with null, booleans, numbers, texts, arrays and objects. The members of an
object stand in key order, each key once; integers are those that fit in sixty-four bits, with a sign or
without, and every other number is a floating-point one. -/
namespace Inventory

inductive Json where
  | null
  | boolean (value : Bool)
  | integer (value : Int)
  | float (value : Float)
  | text (value : String)
  | array (items : List Json)
  | object (members : List (String × Json))

namespace Json

/-- An object from its members in any order; of two with one key the later counts. -/
def ofMembers (members : List (String × Json)) : Json :=
  .object (members.foldl (fun table member => Table.insert table member.1 member.2) [])

def natural (value : Nat) : Json :=
  .integer value

def member? (value : Json) (key : String) : Option Json :=
  match value with
  | .object members => Table.find? members key
  | _ => none

mutual
def depth : Json → Nat
  | .array items => 1 + depthOfItems items
  | .object members => 1 + depthOfMembers members
  | .null | .boolean _ | .integer _ | .float _ | .text _ => 0

def depthOfItems : List Json → Nat
  | [] => 0
  | item :: rest => max (depth item) (depthOfItems rest)

def depthOfMembers : List (String × Json) → Nat
  | [] => 0
  | (_, value) :: rest => max (depth value) (depthOfMembers rest)
end

mutual
def FloatFree : Json → Prop
  | .array items => FloatFreeItems items
  | .object members => FloatFreeMembers members
  | .float _ => False
  | .null | .boolean _ | .integer _ | .text _ => True

def FloatFreeItems : List Json → Prop
  | [] => True
  | item :: rest => FloatFree item ∧ FloatFreeItems rest

def FloatFreeMembers : List (String × Json) → Prop
  | [] => True
  | (_, value) :: rest => FloatFree value ∧ FloatFreeMembers rest
end

/-- The integers of the format: those of sixty-four bits, with a sign or without. -/
def Fits (value : Int) : Prop :=
  -9223372036854775808 ≤ value ∧ value < 18446744073709551616

mutual
/-- Integers fit and the keys of every object ascend, as in all values that are read. -/
def Proper : Json → Prop
  | .array items => ProperItems items
  | .object members => ProperMembers members ∧ (members.map Prod.fst).Pairwise (· < ·)
  | .integer value => Fits value
  | .null | .boolean _ | .float _ | .text _ => True

def ProperItems : List Json → Prop
  | [] => True
  | item :: rest => Proper item ∧ ProperItems rest

def ProperMembers : List (String × Json) → Prop
  | [] => True
  | (_, value) :: rest => Proper value ∧ ProperMembers rest
end

end Json

end Inventory
