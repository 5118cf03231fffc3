import AuthGateway.Url.Parse

/-!
Where a logout may send the user. A return URL is accepted only if it is an
absolute https URL to an allowed host without credentials, and if nothing in
it, as it stands or after one or two rounds of percent-decoding, looks like an
attempt to mislead a reader of URLs.
-/
namespace AuthGateway.Redirect

inductive Rejection where
  | tooLong
  | suspiciousPattern
  | notAbsolute
  | insecureScheme
  | hostNotAllowed (host : String)
deriving DecidableEq

def Rejection.message : Rejection → String
  | .tooLong => "redirect URL is too long"
  | .suspiciousPattern => "redirect URL contains a suspicious pattern"
  | .notAbsolute => "redirect URL is not an absolute URL"
  | .insecureScheme => "redirect URL must use https"
  | .hostNotAllowed host => "redirect host '" ++ host ++ "' is not allowed"

def maxLength : Nat := 2048

def occurs (part : List Char) : List Char → Bool
  | [] => part.isEmpty
  | c :: rest => part.isPrefixOf (c :: rest) || occurs part rest

/-- Control characters, backslashes, and characters that are not seen. -/
def isSuspiciousChar (c : Char) : Bool :=
  let n := c.toNat
  n ≤ 0x1F || (0x7F ≤ n && n ≤ 0x9F) || c == '\\' || n == 0x200E || n == 0x200F ||
    (0x2060 ≤ n && n ≤ 0x2064) || (0x2000 ≤ n && n ≤ 0x200A)

/-- Escapes of NUL, line ends, tab and backslash, in lower case. -/
def suspiciousEscapes : List String :=
  ["%00", "%0a", "%0d", "%09", "%5c"]

/-- Schemes that run a script or leave the web, in lower case. -/
def dangerousSchemes : List String :=
  ["javascript:", "vbscript:", "data:", "file:", "ftp:"]

def isSuspicious (cs : List Char) : Bool :=
  let lower := cs.map Ascii.lowerChar
  occurs ['.', '.'] cs || cs.any isSuspiciousChar ||
    (suspiciousEscapes ++ dangerousSchemes).any (fun s => occurs s.toList lower) ||
    1 < cs.count '@'

/-- The text itself, decoded, and decoded twice, as far as the decodings are
text. -/
def variants (url : String) : List String :=
  match Percent.decodeText? url with
  | none => [url]
  | some once =>
    match Percent.decodeText? once with
    | none => [url, once]
    | some twice => [url, once, twice]

def validate (url : String) (allowedHosts : List String) : Except Rejection Url :=
  if maxLength < Utf8.size url then .error .tooLong
  else if (variants url).any fun v => isSuspicious v.toList then .error .suspiciousPattern
  else
    match Url.parse url with
    | .error _ => .error .notAbsolute
    | .ok parsed =>
      if parsed.scheme ≠ .https then .error .insecureScheme
      else if parsed.hasCredentials then .error .suspiciousPattern
      else
        let host := Ascii.lower (parsed.hostText?.getD "")
        if allowedHosts.any fun allowed => Ascii.sameIgnoringCase allowed host then .ok parsed
        else .error (.hostNotAllowed host)

end AuthGateway.Redirect
