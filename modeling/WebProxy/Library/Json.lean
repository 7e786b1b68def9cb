import Mathlib.Tactic.NormNum

/-! JSON values with the accessors of `serde_json::Value`. -/

inductive JsonNumber where
  | posInt (value : Nat)
  | negInt (value : Int)
  | float
  deriving DecidableEq, Repr

inductive Json where
  | null
  | bool (value : Bool)
  | number (value : JsonNumber)
  | string (value : String)
  | array (items : List Json)
  | object (fields : List (String × Json))

namespace Json

def get (key : String) : Json → Option Json
  | .object fields => (fields.find? (fun field => field.1 = key)).map (·.2)
  | _ => none

def asStr : Json → Option String
  | .string value => some value
  | _ => none

def asArray : Json → Option (List Json)
  | .array items => some items
  | _ => none

def asI64 : Json → Option Int
  | .number (.posInt value) => if value < 2 ^ 63 then some value else none
  | .number (.negInt value) => some value
  | _ => none

def asU64 : Json → Option Nat
  | .number (.posInt value) => if value < 2 ^ 64 then some value else none
  | _ => none

def textAt (key : String) (value : Json) : Option String := (value.get key).bind asStr

end Json
