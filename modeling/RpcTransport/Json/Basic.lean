import RpcTransport.Number.Binary64

/-! JSON values. An object keeps its members as they were written, repeated keys included. In a
plain value they are sorted, and of several members with one key the last counts. -/
namespace RpcTransport

/-- Whole numbers in range stay whole; all other numbers are doubles. -/
inductive Json.Number where
  | integer (value : Int)
  | double (value : Binary64)
  deriving DecidableEq, Repr

inductive Json where
  | null
  | bool (value : Bool)
  | number (value : Json.Number)
  | string (value : String)
  | array (items : List Json)
  | object (members : List (String × Json))
  deriving Repr

namespace Json

/-- The least and the greatest whole number that is not read as a double. -/
def leastInteger : Int := -Nat.pow 2 63

def greatestInteger : Int := UInt64.size - 1

/-- Puts a member at the place of its key, instead of one with the same key. -/
def insertMember (key : String) (value : Json) :
    List (String × Json) → List (String × Json)
  | [] => [(key, value)]
  | (k, v) :: rest =>
    if key = k then (key, value) :: rest
    else if key < k then (key, value) :: (k, v) :: rest
    else (k, v) :: insertMember key value rest

/-- Members in the order of their keys. Later members replace earlier ones. -/
def byKey (members : List (String × Json)) : List (String × Json) :=
  members.foldl (fun sorted (key, value) => insertMember key value sorted) []

mutual

/-- The plain value of a written one: every object in it is put in order. -/
def sorted : Json → Json
  | .array items => .array (sortedItems items)
  | .object members => .object (byKey (sortedMembers members))
  | json => json

def sortedItems : List Json → List Json
  | [] => []
  | item :: rest => item.sorted :: sortedItems rest

def sortedMembers : List (String × Json) → List (String × Json)
  | [] => []
  | (key, value) :: rest => (key, value.sorted) :: sortedMembers rest

end

/-- Equality of numbers, by which the two zeros among the doubles are equal. -/
def Number.same : Number → Number → Bool
  | .integer a, .integer b => a == b
  | .double a, .double b => a.sameValue b
  | _, _ => false

mutual

/-- Equality of values with the same order of members. -/
def same : Json → Json → Bool
  | .null, .null => true
  | .bool a, .bool b => a == b
  | .number a, .number b => a.same b
  | .string a, .string b => a == b
  | .array a, .array b => sameItems a b
  | .object a, .object b => sameMembers a b
  | _, _ => false

def sameItems : List Json → List Json → Bool
  | [], [] => true
  | a :: as, b :: bs => a.same b && sameItems as bs
  | _, _ => false

def sameMembers : List (String × Json) → List (String × Json) → Bool
  | [], [] => true
  | (k, a) :: as, (l, b) :: bs => k == l && a.same b && sameMembers as bs
  | _, _ => false

end

end Json

end RpcTransport
