import ResourceQuery.Binary64.Basic

namespace ResourceQuery

/-- A number of a JSON text: an integer of up to 64 bits, or a number that is kept to the
precision of binary64. -/
inductive Json.Number
  | integer (n : Int)
  | double (x : Binary64)
  deriving DecidableEq, Repr

/-- A JSON value. The members of an object are in the order of their keys, each key once. -/
inductive Json
  | null
  | bool (b : Bool)
  | number (n : Json.Number)
  | string (s : String)
  | array (items : List Json)
  | object (members : List (String × Json))
  deriving Repr

namespace Json

def Number.toBinary64 : Number → Binary64
  | integer n => .ofInt n
  | double x => x

def Number.same : Number → Number → Bool
  | integer m, integer n => m == n
  | double x, double y => x.numEq y
  | _, _ => false

mutual

def same : Json → Json → Bool
  | null, null => true
  | bool a, bool b => a == b
  | number m, number n => m.same n
  | string s, string t => s == t
  | array xs, array ys => sameItems xs ys
  | object xs, object ys => sameMembers xs ys
  | _, _ => false

def sameItems : List Json → List Json → Bool
  | [], [] => true
  | x :: xs, y :: ys => same x y && sameItems xs ys
  | _, _ => false

def sameMembers : List (String × Json) → List (String × Json) → Bool
  | [], [] => true
  | (k, x) :: xs, (l, y) :: ys => k == l && same x y && sameMembers xs ys
  | _, _ => false

end

def find? (key : String) (members : List (String × Json)) : Option Json :=
  (members.find? (·.1 == key)).map (·.2)

/-- Puts a member in its place, where it replaces one with the same key. Keys are in the order of
their code points. -/
def insert (key : String) (value : Json) : List (String × Json) → List (String × Json)
  | [] => [(key, value)]
  | (k, v) :: rest =>
      if key = k then (key, value) :: rest
      else if key < k then (key, value) :: (k, v) :: rest
      else (k, v) :: insert key value rest

def ofMembers (members : List (String × Json)) : Json :=
  .object (members.foldl (fun sorted (k, v) => insert k v sorted) [])

mutual

/-- Every object of the value lists its members in the order of their keys, each key once. -/
def IsSorted : Json → Prop
  | array items => ItemsSorted items
  | object members => (members.map (·.1)).Pairwise (· < ·) ∧ MembersSorted members
  | _ => True

def ItemsSorted : List Json → Prop
  | [] => True
  | x :: xs => IsSorted x ∧ ItemsSorted xs

def MembersSorted : List (String × Json) → Prop
  | [] => True
  | (_, x) :: xs => IsSorted x ∧ MembersSorted xs

end

end Json

end ResourceQuery
