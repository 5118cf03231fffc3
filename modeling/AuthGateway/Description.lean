import AuthGateway.Policy
import AuthGateway.Revocation.Bloom
import AuthGateway.Token

/-!
Descriptions on one line, for logs: of a policy, of a filter, and of the way in
which tokens are sealed. Neither bits nor keys are shown.
-/
namespace AuthGateway.Description

def record (name : String) (fields : List (String × String)) (isComplete : Bool) : String :=
  name ++ " \x7b " ++
    String.intercalate ", " (fields.map (fun f => f.1 ++ ": " ++ f.2) ++
      if isComplete then [] else [".."]) ++ " \x7d"

def list (items : List String) : String :=
  "[" ++ String.intercalate ", " items ++ "]"

def quoted (s : String) : String :=
  String.ofList ('"' :: (s.toList.flatMap fun c => if c = '"' then ['\\', '"'] else [c]) ++ ['"'])

def byteChars (b : UInt8) : List Char :=
  if b = 0x22 then ['\\', '"']
  else if Http.HeaderValue.isVisibleByte b then [Char.ofNat b.toNat]
  else '\\' :: 'x' :: Nat.toDigits 16 b.toNat

def headerValue (v : Http.HeaderValue) : String :=
  String.ofList ('"' :: v.bytes.flatMap byteChars ++ ['"'])

def flag (b : Bool) : String :=
  if b then "true" else "false"

def strategy : Csrf.Strategy → String
  | .none => "None"
  | .doubleSubmitCookie => "DoubleSubmitCookie"
  | .sameSiteStrictCookie => "SameSiteStrictCookie"

def headerRule : Http.HeaderRule → String
  | .set n v => "Set(" ++ quoted n.text ++ ", " ++ headerValue v ++ ")"
  | .remove n => "Remove(" ++ quoted n.text ++ ")"

def policy (p : Policy) : String :=
  record "SecurityPolicy"
    [("csrf_strategy", strategy p.guard.strategy),
      ("allow_anonymous", flag p.allowAnonymous),
      ("session_duration", Decimal.natText p.duration.toNat),
      ("renew_when_less_than", Decimal.natText p.renewWhenLessThan.toNat),
      ("csrf_safe_methods", list (p.safeMethods.map Http.Method.name)),
      ("allowed_methods", list (p.allowedMethods.map Http.Method.name)),
      ("response_headers", list (p.headerRules.map headerRule))] true

def optionalPolicy : Option Policy → String
  | none => "None"
  | some p => "Some(" ++ policy p ++ ")"

def bloom (f : Revocation.Bloom) : String :=
  record "BloomFilter"
    [("num_bits", Decimal.natText f.numBits.toNat), ("num_hashes", Decimal.natText f.numHashes)] false

def sealing : String :=
  record "CookieCodec"
    [("alg", quoted Token.algorithm), ("enc", quoted Token.contentEncryption)] false

end AuthGateway.Description
