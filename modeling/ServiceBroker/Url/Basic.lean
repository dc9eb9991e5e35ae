/-
URLs in parts. A part holds its text as it is written, escapes included. The path of a URL that can serve
as a base is a list of segments, and identifiers are appended to it as segments of their own.
-/
import ServiceBroker.Url.Percent

namespace ServiceBroker

/-- What follows the scheme: a text of no structure, or segments that are each written behind a slash. -/
inductive Url.Path
  | whole (text : String)
  | segments (list : List String)
deriving DecidableEq, Repr

/-- Who is asked: user information, a host, and a port other than the scheme's own. -/
structure Url.Authority where
  username : String
  password : Option String
  host : String
  port : Option Nat
deriving DecidableEq, Repr

/-- A URL. -/
structure Url where
  scheme : String
  authority : Option Url.Authority
  path : Url.Path
  query : Option String
  fragment : Option String
deriving DecidableEq, Repr

namespace Url

/-- Schemes that name a host and a path in the usual way, with their ports. -/
def specialPorts : List (String × Option Nat) :=
  [("http", some 80), ("https", some 443), ("ws", some 80), ("wss", some 443), ("ftp", some 21), ("file", none)]

/-- Whether a scheme is one of those. -/
def isSpecialScheme (scheme : String) : Bool :=
  (specialPorts.lookup scheme).isSome

/-- The port that goes without saying. -/
def defaultPort? (scheme : String) : Option Nat :=
  (specialPorts.lookup scheme).join

/-- A base holds segments, so that paths can be built on it. -/
def isBase (u : Url) : Bool :=
  match u.path with
  | .whole _ => false
  | .segments _ => true

/-! ## Text -/

/-- The text of an authority. -/
def Authority.render (a : Authority) : String :=
  let user := a.username ++ (match a.password with
    | some p => ":" ++ p
    | none => "")
  (if user.isEmpty then "" else user ++ "@") ++ a.host ++ (match a.port with
    | some n => s!":{n}"
    | none => "")

/-- The text of a path. -/
def Path.render : Path → String
  | .whole text => text
  | .segments list => String.join (list.map ("/" ++ ·))

/-- The text of a URL without its fragment. A path that begins with an empty segment could pass for an
authority, so a dot goes in front of it where there is none. -/
def renderUpToFragment (u : Url) : String :=
  let front := match u.authority, u.path with
    | some a, _ => "//" ++ a.render
    | none, .segments ("" :: _ :: _) => "/."
    | none, _ => ""
  u.scheme ++ ":" ++ front ++ u.path.render ++ (match u.query with
    | some q => "?" ++ q
    | none => "")

/-- The text of a URL. -/
def render (u : Url) : String :=
  u.renderUpToFragment ++ (match u.fragment with
    | some f => "#" ++ f
    | none => "")

instance : ToString Url := ⟨render⟩

/-! ## Segments -/

/-- A letter with a colon or a bar, which some systems use for a drive. -/
def isDriveLetter (segment : String) : Bool :=
  match segment.toList with
  | [letter, mark] => letter.isAlpha && (mark == ':' || mark == '|')
  | _ => false

/-- Takes the last segment away, unless it is a drive. -/
def shorten (list : List String) : List String :=
  match list.getLast? with
  | some last => if isDriveLetter last then list else list.dropLast
  | none => list

/-- Spellings of one dot. -/
def isSingleDot (segment : String) : Bool :=
  segment == "." || segment == "%2e" || segment == "%2E"

/-- Spellings of two dots. -/
def isDoubleDot (segment : String) : Bool :=
  ["..", "%2e%2e", "%2e%2E", "%2E%2e", "%2E%2E", "%2e.", "%2E.", ".%2e", ".%2E"].contains segment

/-- Puts the last segment behind others. One dot stands for the place reached so far and two for the
one above it; both leave the path open, with an empty segment at its end. -/
def settle (file : Bool) (list : List String) (segment : String) : List String :=
  if isDoubleDot segment then shorten list ++ [""]
  else if isSingleDot segment then list ++ [""]
  else if file && list.isEmpty && isDriveLetter segment then
    [String.ofList (segment.toList.take 1 ++ [':'])]
  else list ++ [segment]

/-- A file's path does not begin with empty segments. -/
def dropLeadingEmpty : List String → List String
  | "" :: next :: rest => dropLeadingEmpty (next :: rest)
  | [] => [""]
  | list => list

/-- Tabs and line breaks, which are never part of a URL. -/
def isIgnored (c : Char) : Bool :=
  c == '\t' || c == '\n' || c == '\r'

/-- A path that ends in a slash without it. The slash of an empty path stays. -/
def popIfEmpty (list : List String) : List String :=
  if 1 < list.length && list.getLast? == some "" then list.dropLast else list

/-- Appends an identifier as a segment. The identifiers `.` and `..` add nothing; tabs and line breaks
are dropped from others, and what is left may then count as dots. -/
def push (special file : Bool) (list : List String) (identifier : String) : List String :=
  if identifier == "." || identifier == ".." then list
  else
    let kept := identifier.toList.filter (!isIgnored ·)
    let segment := String.ofList (Percent.encode (Percent.segment special) kept)
    let settled := settle file (if list == [""] then [] else list) segment
    if file then dropLeadingEmpty settled else settled

/-- A URL with identifiers appended to its path. One slash at the end of the path is taken away first.
A URL that is no base stays as it is. -/
def extend (u : Url) (identifiers : List String) : Url :=
  match u.path with
  | .whole _ => u
  | .segments list =>
    let step := push (isSpecialScheme u.scheme) (u.scheme == "file")
    { u with path := .segments (identifiers.foldl step (popIfEmpty list)) }

/-- A URL with pairs appended to its query. Without pairs the query stays as it is. -/
def withPairs (u : Url) (pairs : List (String × String)) : Url :=
  if pairs.isEmpty then u
  else { u with query := some (String.ofList (Percent.appendPairs (u.query.getD "").toList pairs)) }

end Url

end ServiceBroker
