/-!
TOML values, which settings are read from. Dates are not among them.
-/
namespace AuthGateway.Toml

inductive Value where
  | string (s : String)
  | integer (n : Int)
  | real (x : Float)
  | boolean (b : Bool)
  | array (items : List Value)
  | table (fields : List (String × Value))
deriving Inhabited

namespace Value

def text? : Value → Option String
  | .string s => some s
  | _ => none

def flag? : Value → Option Bool
  | .boolean b => some b
  | _ => none

def natBelow? (bound : Nat) : Value → Option Nat
  | .integer n => if 0 ≤ n ∧ n < bound then some n.toNat else none
  | _ => none

def number? : Value → Option Float
  | .real x => some x
  | .integer n => some (Float.ofInt n)
  | _ => none

def list? {α : Type} (read : Value → Option α) : Value → Option (List α)
  | .array items => items.mapM read
  | _ => none

/-- A record: a table, or an array of the values of its fields in order, which
may end early. -/
def fields? (names : List String) : Value → Option (List (String × Value))
  | .table fields => some fields
  | .array items => if items.length ≤ names.length then some (names.zip items) else none
  | _ => none

end Value

def required? {α : Type} (fields : List (String × Value)) (name : String)
    (read : Value → Option α) : Option α :=
  (fields.lookup name).bind read

def default? {α : Type} (fields : List (String × Value)) (name : String) (default : α)
    (read : Value → Option α) : Option α :=
  match fields.lookup name with
  | none => some default
  | some v => read v

end AuthGateway.Toml
