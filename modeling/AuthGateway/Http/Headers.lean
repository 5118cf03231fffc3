import AuthGateway.Text.Ascii
import AuthGateway.Text.Utf8

/-!
Methods, header names, header values and header lists. Names are kept in lower
case; a list keeps the order of its entries, and a name may have several values.
-/
namespace AuthGateway.Http

/-- A request method; the case of its letters matters. -/
structure Method where
  name : String
deriving DecidableEq

namespace Method

/-- The characters of methods: letters, digits and a few marks, code point 96
among them. -/
def isNameChar (c : Char) : Bool :=
  Ascii.isAlphanumeric c || c.toNat == 96 || "!*+-.^_|~".toList.contains c

def ofText? (s : String) : Option Method :=
  if s.toList ≠ [] ∧ s.toList.all isNameChar then some ⟨s⟩ else none

def get : Method := ⟨"GET"⟩
def head : Method := ⟨"HEAD"⟩
def options : Method := ⟨"OPTIONS"⟩
def post : Method := ⟨"POST"⟩
def put : Method := ⟨"PUT"⟩
def patch : Method := ⟨"PATCH"⟩
def delete : Method := ⟨"DELETE"⟩

end Method

/-- A header name in lower case. -/
structure HeaderName where
  text : String
deriving DecidableEq

namespace HeaderName

/-- The characters of names: those of methods, a few more marks, and the double
quote. -/
def isNameChar (c : Char) : Bool :=
  Method.isNameChar c || "#$%&'\"".toList.contains c

def ofText? (s : String) : Option HeaderName :=
  let cs := s.toList
  if cs ≠ [] ∧ cs.length ≤ 65535 ∧ cs.all isNameChar then
    some ⟨Ascii.lower s⟩
  else none

/-- Whether a message can be sent that has a header of this name: none with a
double quote in it can. -/
def isSendable (name : HeaderName) : Bool :=
  !name.text.toList.contains '"'

def accept : HeaderName := ⟨"accept"⟩
def authorization : HeaderName := ⟨"authorization"⟩
def contentLength : HeaderName := ⟨"content-length"⟩
def contentType : HeaderName := ⟨"content-type"⟩
def cookie : HeaderName := ⟨"cookie"⟩
def host : HeaderName := ⟨"host"⟩
def location : HeaderName := ⟨"location"⟩
def origin : HeaderName := ⟨"origin"⟩
def referer : HeaderName := ⟨"referer"⟩
def setCookie : HeaderName := ⟨"set-cookie"⟩

end HeaderName

structure HeaderValue where
  bytes : List UInt8
deriving DecidableEq

namespace HeaderValue

/-- No control byte but the tab. -/
def isAllowedByte (b : UInt8) : Bool :=
  (0x20 ≤ b && b != 0x7F) || b == 0x09

def ofBytes? (bytes : List UInt8) : Option HeaderValue :=
  if bytes.all isAllowedByte then some ⟨bytes⟩ else none

def ofText? (s : String) : Option HeaderValue :=
  ofBytes? (Utf8.encode s)

def isVisibleByte (b : UInt8) : Bool :=
  (0x20 ≤ b && b ≤ 0x7E) || b == 0x09

/-- The text of a value of visible ASCII, spaces and tabs. -/
def text? (v : HeaderValue) : Option String :=
  if v.bytes.all isVisibleByte then
    some (String.ofList (v.bytes.map fun b => Char.ofNat b.toNat))
  else none

end HeaderValue

/-- Headers in the order in which they were added. -/
structure Headers where
  entries : List (HeaderName × HeaderValue)
deriving DecidableEq

namespace Headers

def empty : Headers := ⟨[]⟩

def values (h : Headers) (name : HeaderName) : List HeaderValue :=
  (h.entries.filter fun e => e.1 == name).map Prod.snd

def first? (h : Headers) (name : HeaderName) : Option HeaderValue :=
  (h.values name).head?

/-- The first value of a name, if that one is text. -/
def text? (h : Headers) (name : HeaderName) : Option String :=
  (h.first? name).bind HeaderValue.text?

def append (h : Headers) (name : HeaderName) (value : HeaderValue) : Headers :=
  ⟨h.entries ++ [(name, value)]⟩

def remove (h : Headers) (name : HeaderName) : Headers :=
  ⟨h.entries.filter fun e => !(e.1 == name)⟩

def set (h : Headers) (name : HeaderName) (value : HeaderValue) : Headers :=
  (h.remove name).append name value

end Headers

end AuthGateway.Http
