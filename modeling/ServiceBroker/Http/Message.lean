/-
Requests and replies, and what makes a request impossible to send: a target that is no absolute URI, or
a header value with a control character.
-/
import ServiceBroker.Text.Utf8

namespace ServiceBroker.Http

/-- The methods in use. -/
inductive Method
  | get
  | put
  | patch
  | delete
  | head
deriving DecidableEq, Repr

/-- The name of a method. -/
def Method.name : Method → String
  | .get => "GET"
  | .put => "PUT"
  | .patch => "PATCH"
  | .delete => "DELETE"
  | .head => "HEAD"

/-- A request. Header names are in lower case. -/
structure Request where
  method : Method
  target : String
  headers : List (String × String)
  body : String
deriving DecidableEq, Repr

/-- A reply. Header values are bytes; a name can occur more than once, in any case. -/
structure Reply where
  status : Nat
  headers : List (String × List UInt8)
  body : List UInt8
deriving DecidableEq, Repr

/-! ## Headers -/

/-- Whether a byte can stand in a text that is read from a header. -/
def isHeaderText (b : UInt8) : Bool :=
  (32 ≤ b && b < 127) || b = 9

/-- The first value of a header, if it is plain text. The name is given in lower case. -/
def Reply.header? (r : Reply) (name : String) : Option String :=
  match r.headers.find? (·.1.toLower == name) with
  | some (_, value) =>
    if value.all isHeaderText then some (String.ofList (value.map fun b => Char.ofNat b.toNat)) else none
  | none => none

/-- A header value can be sent if it has no control character but tabs. -/
def isHeaderValue (value : String) : Bool :=
  value.toList.all fun c => (32 ≤ c.toNat && c.toNat != 127) || c == '\t'

/-! ## Targets -/

/-- Why a request cannot be built. -/
inductive Fault
  | tooLong
  | empty
  | schemeTooLong
  | character
  | authority
  | format
  | header
deriving DecidableEq, Repr

/-- The wording of a fault. -/
def Fault.message : Fault → String
  | .tooLong => "uri too long"
  | .empty => "empty string"
  | .schemeTooLong => "scheme too long"
  | .character => "invalid uri character"
  | .authority => "invalid authority"
  | .format => "invalid format"
  | .header => "failed to parse header value"

/-- Characters of a scheme. -/
def isSchemeChar (c : Char) : Bool :=
  c.isAlphanum || c == '+' || c == '-' || c == '.'

/-- Characters of an authority that stand for nothing but themselves. -/
def isAuthorityChar (c : Char) : Bool :=
  c.isAlphanum || "!$&'()*+,-.;=_~".toList.contains c

/-- What is known of an authority while it is read. -/
structure AuthorityScan where
  colons : Nat
  opened : Bool
  closed : Bool
  percent : Bool
  afterUser : Bool

/-- Moves over one character of an authority. -/
def AuthorityScan.step (s : AuthorityScan) (c : Char) : Except Fault AuthorityScan :=
  if c = ':' then
    if 8 ≤ s.colons then .error .authority else .ok { s with colons := s.colons + 1, afterUser := false }
  else if c = '[' then
    if s.percent || s.opened then .error .authority else .ok { s with opened := true, afterUser := false }
  else if c = ']' then
    if !s.opened || s.closed then .error .authority
    else .ok { s with closed := true, colons := 0, percent := false, afterUser := false }
  else if c = '@' then .ok { s with colons := 0, percent := false, afterUser := true }
  else if c = '%' then .ok { s with percent := true, afterUser := false }
  else if isAuthorityChar c then .ok { s with afterUser := false }
  else .error .character

/-- Where an authority ends. -/
def endsAuthority (c : Char) : Bool :=
  c == '/' || c == '?' || c == '#'

/-- Checks the authority at the head of a text. A colon outside user information and brackets stands
before a port, so there is one at most; only user information holds escapes. -/
def checkAuthority (cs : List Char) : Except Fault Unit := do
  let s ← (cs.takeWhile (!endsAuthority ·)).foldlM AuthorityScan.step ⟨0, false, false, false, false⟩
  if s.opened != s.closed || 1 < s.colons || s.afterUser || s.percent then throw .authority

/-- Characters of a path in a target. -/
def isPathChar (c : Char) : Bool :=
  let n := c.toNat
  n = 0x21 || n = 0x22 || (0x24 ≤ n && n ≤ 0x3B) || n = 0x3D || (0x40 ≤ n && n ≤ 0x5F) || (0x61 ≤ n && n ≤ 0x7E)
    || 0x7F ≤ n

/-- Characters of a query in a target. -/
def isQueryChar (c : Char) : Bool :=
  let n := c.toNat
  n = 0x21 || (0x24 ≤ n && n ≤ 0x3B) || n = 0x3D || 0x3F ≤ n

/-- The path and query of a target, without a fragment. An empty path is the root. -/
def pathAndQuery (cs : List Char) : Except Fault (List Char) := do
  let cs := cs.takeWhile (· != '#')
  let path := cs.takeWhile (· != '?')
  let query := cs.dropWhile (· != '?')
  if !path.all isPathChar || !(query.drop 1).all isQueryChar then throw .character
  return (if path.isEmpty then ['/'] else path) ++ query

/-- The target that is sent for a URL's text or for a bare path. -/
def target (text : String) : Except Fault String := do
  let cs := text.toList
  if 65534 < (Utf8.encode text).length then throw .tooLong
  match cs with
  | [] => throw .empty
  | '/' :: _ => return String.ofList (← pathAndQuery cs)
  | _ =>
    let scheme := cs.takeWhile isSchemeChar
    match cs.drop scheme.length with
    | ':' :: '/' :: '/' :: rest =>
      if 64 < scheme.length then throw .schemeTooLong
      checkAuthority rest
      let authority := rest.takeWhile (!endsAuthority ·)
      if authority.isEmpty then throw .format
      let tail ← pathAndQuery (rest.dropWhile (!endsAuthority ·))
      return String.ofList (scheme ++ ':' :: '/' :: '/' :: authority ++ tail)
    | _ =>
      checkAuthority cs
      throw .format

end ServiceBroker.Http
