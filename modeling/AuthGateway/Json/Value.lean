import AuthGateway.Text.Octets
import AuthGateway.Decimal.Shortest

/-!
JSON values as they are written: compact, fields in the order given, and only
those characters escaped that a string cannot hold.
-/
namespace AuthGateway.Json

inductive Value where
  | null
  | bool (b : Bool)
  | integer (n : Int)
  | real (x : Float)
  | string (s : String)
  | array (items : List Value)
  | object (fields : List (String × Value))
deriving Inhabited

/-- The digits of a real always show that it is one: there is a fraction or an
exponent, and the exponent appears below 10^-5 and from 10^16 on. -/
def realFormat : Decimal.Format :=
  ⟨fun e => -5 ≤ e && e ≤ 15, true⟩

/-- One character of a string: a short escape, a numbered one for the other
control characters, or itself. -/
def escapeChar (c : Char) : List Char :=
  if c = '"' then ['\\', '"']
  else if c = '\\' then ['\\', '\\']
  else if c = '\x08' then ['\\', 'b']
  else if c = '\x0c' then ['\\', 'f']
  else if c = '\n' then ['\\', 'n']
  else if c = '\r' then ['\\', 'r']
  else if c = '\t' then ['\\', 't']
  else if c.toNat < 0x20 then
    ['\\', 'u', '0', '0', Hex.lowerDigit (c.toNat / 16), Hex.lowerDigit (c.toNat % 16)]
  else [c]

def quote (s : String) : List Char :=
  '"' :: (s.toList.flatMap escapeChar ++ ['"'])

mutual

def Value.chars : Value → List Char
  | .null => ['n', 'u', 'l', 'l']
  | .bool true => ['t', 'r', 'u', 'e']
  | .bool false => ['f', 'a', 'l', 's', 'e']
  | .integer n => Decimal.integerChars n
  | .real x => Decimal.chars realFormat x
  | .string s => quote s
  | .array items => '[' :: (itemChars items ++ [']'])
  | .object fields => '\x7b' :: (fieldChars fields ++ ['\x7d'])

def itemChars : List Value → List Char
  | [] => []
  | [v] => v.chars
  | v :: w :: rest => v.chars ++ ',' :: itemChars (w :: rest)

def fieldChars : List (String × Value) → List Char
  | [] => []
  | [(k, v)] => quote k ++ ':' :: v.chars
  | (k, v) :: f :: rest => quote k ++ ':' :: (v.chars ++ ',' :: fieldChars (f :: rest))

end

def Value.render (v : Value) : String :=
  String.ofList v.chars

end AuthGateway.Json
