/-
Reading a URL. Blanks and control characters at both ends are set aside, tabs and line breaks
everywhere. A scheme is required, as there is nothing that a text without one could be relative to.
-/
import ServiceBroker.Url.Address
import ServiceBroker.Url.Basic
import ServiceBroker.Url.Domain

namespace ServiceBroker.Url

/-- Why a text is no URL. -/
inductive Fault
  | emptyHost
  | invalidDomain
  | invalidPort
  | invalidIPv4
  | invalidIPv6
  | invalidHostCharacter
  | noScheme
deriving DecidableEq, Repr

/-- The wording of a fault. -/
def Fault.message : Fault → String
  | .emptyHost => "empty host"
  | .invalidDomain => "invalid international domain name"
  | .invalidPort => "invalid port number"
  | .invalidIPv4 => "invalid IPv4 address"
  | .invalidIPv6 => "invalid IPv6 address"
  | .invalidHostCharacter => "invalid domain character"
  | .noScheme => "relative URL without a base"

/-! ## Cleaning -/

/-- Control characters and the space. -/
def isOuter (c : Char) : Bool :=
  c.toNat ≤ 32

/-- The characters of a text that count. -/
def clean (text : String) : List Char :=
  (((text.toList.dropWhile isOuter).reverse.dropWhile isOuter).reverse).filter (!isIgnored ·)

/-! ## Scheme -/

/-- Characters of a scheme behind its first letter. -/
def isSchemeChar (c : Char) : Bool :=
  c.isAlphanum || c == '+' || c == '-' || c == '.'

/-- The scheme in lower case, and what follows the colon. -/
def splitScheme? (cs : List Char) : Option (String × List Char) :=
  match cs with
  | first :: _ =>
    if first.isAlpha then
      match cs.dropWhile isSchemeChar with
      | ':' :: rest => some (String.ofList ((cs.takeWhile isSchemeChar).map Unicode.lower), rest)
      | _ => none
    else none
  | [] => none

/-! ## Authority -/

/-- A slash, or in special schemes a backslash. -/
def isSlash (special : Bool) (c : Char) : Bool :=
  c == '/' || (special && c == '\\')

/-- The end of an authority. -/
def endsAuthority (special : Bool) (c : Char) : Bool :=
  isSlash special c || c == '?' || c == '#'

/-- Splits at the last `@`, if there is one. -/
def splitUser? (cs : List Char) : Option (List Char × List Char) :=
  let host := (cs.reverse.takeWhile (· != '@')).reverse
  if host.length < cs.length then some (cs.take (cs.length - host.length - 1), host) else none

/-- User information: a name, and a password behind the first colon. -/
def readUser (cs : List Char) : String × Option String :=
  let encode (cs : List Char) := String.ofList (Percent.encode Percent.userInfo cs)
  let password := (cs.dropWhile (· != ':')).drop 1
  (encode (cs.takeWhile (· != ':')), if password.isEmpty then none else some (encode password))

/-- The length of a host: up to a colon outside brackets. -/
def hostLength (inBrackets : Bool) : List Char → Nat
  | [] => 0
  | c :: rest =>
    if c = ':' && !inBrackets then 0
    else hostLength (if c = '[' then true else if c = ']' then false else inBrackets) rest + 1

/-- Characters that no host of another scheme holds. -/
def isInvalidHostChar (c : Char) : Bool :=
  c == '\x00' || c == '\t' || c == '\n' || c == '\r' || c == ' ' || c == '#' || c == '/' || c == ':' || c == '<'
    || c == '>' || c == '?' || c == '@' || c == '[' || c == '\\' || c == ']' || c == '^' || c == '|'

/-- A host in brackets. -/
def readBracketed (cs : List Char) : Except Fault String :=
  if cs.getLast? == some ']' && 1 < cs.length then
    match Address.readIPv6 (cs.drop 1).dropLast with
    | some pieces => .ok (String.ofList (Address.renderIPv6 pieces))
    | none => .error .invalidIPv6
  else .error .invalidIPv6

/-- A host of a special scheme: an address or a domain. -/
def readHost (cs : List Char) : Except Fault String :=
  if cs.head? == some '[' then readBracketed cs
  else
    match Domain.toAscii (Percent.decodeBytes (cs.flatMap String.utf8EncodeChar)) with
    | none => .error .invalidDomain
    | some [] => .error .emptyHost
    | some name =>
      if Address.looksLikeIPv4 name then
        match Address.readIPv4 name with
        | some n => .ok (String.ofList (Address.renderIPv4 n))
        | none => .error .invalidIPv4
      else .ok (String.ofList name)

/-- A host of another scheme, which is left as it is. -/
def readPlainHost (cs : List Char) : Except Fault String :=
  if cs.head? == some '[' then readBracketed cs
  else if cs.any isInvalidHostChar then .error .invalidHostCharacter
  else .ok (String.ofList (Percent.encode Percent.controls cs))

/-- A port behind its colon. No digits mean no port. A backslash ends it in every scheme. -/
def readPort (scheme : String) (cs : List Char) : Except Fault (Option Nat × List Char) :=
  let digits := cs.takeWhile Char.isDigit
  let rest := cs.dropWhile Char.isDigit
  match Numeral.readDigits 65536 0 digits with
  | .error _ => .error .invalidPort
  | .ok n =>
    match rest with
    | c :: _ =>
      if endsAuthority true c then .ok (port n digits, rest) else .error .invalidPort
    | [] => .ok (port n digits, rest)
where
  /-- A port that does not go without saying. -/
  port (n : Nat) (digits : List Char) : Option Nat :=
    if digits.isEmpty || defaultPort? scheme == some n then none else some n

/-- The authority behind `//`, and what follows it. -/
def readAuthority (scheme : String) (cs : List Char) : Except Fault (Authority × List Char) := do
  let special := isSpecialScheme scheme
  let extent := cs.takeWhile (!endsAuthority special ·)
  let user := splitUser? extent
  let (username, password) := match user with
    | some (user, _) => readUser user
    | none => ("", none)
  let cs := match user with
    | some (user, _) => cs.drop (user.length + 1)
    | none => cs
  if let some ([], []) := user then
    if !cs.isEmpty then throw .emptyHost
  let host := cs.takeWhile (!endsAuthority special ·)
  let host := host.take (hostLength false host)
  let rest := cs.drop host.length
  if special && host.isEmpty then throw .emptyHost
  let name ← if special then readHost host else readPlainHost host
  if name.isEmpty && rest.head? == some ':' then throw .emptyHost
  let (port, rest) ← match rest with
    | ':' :: behind => readPort scheme behind
    | _ => pure (none, rest)
  if name.isEmpty && (username != "" || password.isSome) then throw .emptyHost
  return (⟨username, password, name, port⟩, rest)

/-! ## Path, query and fragment -/

/-- The pieces of a path between slashes, the last one apart. -/
def splitPath (special : Bool) : List Char → List (List Char) × List Char
  | [] => ([], [])
  | c :: rest =>
    let (pieces, last) := splitPath special rest
    if isSlash special c then ([] :: pieces, last)
    else match pieces with
      | first :: more => ((c :: first) :: more, last)
      | [] => ([], c :: last)

/-- Puts a segment that a slash follows behind others. -/
def advance (file : Bool) (list : List String) (segment : String) : List String :=
  if isDoubleDot segment then shorten list
  else if isSingleDot segment then list
  else settle file list segment

/-- The segments of a path behind its first slash. -/
def readSegments (scheme : String) (cs : List Char) : List String :=
  let file := scheme == "file"
  let encode (piece : List Char) := String.ofList (Percent.encode Percent.path piece)
  let (pieces, last) := splitPath (isSpecialScheme scheme) cs
  settle file ((pieces.map encode).foldl (advance file) []) (encode last)

/-- The end of a path. -/
def endsPath (c : Char) : Bool :=
  c == '?' || c == '#'

/-- The query and the fragment that follow a path. -/
def readTail (special : Bool) (cs : List Char) : Option String × Option String :=
  let fragment (cs : List Char) := match cs with
    | '#' :: rest => some (String.ofList (Percent.encode Percent.fragment rest))
    | _ => none
  match cs with
  | '?' :: rest =>
    (some (String.ofList (Percent.encode (Percent.query special) (rest.takeWhile (· != '#')))),
      fragment (rest.dropWhile (· != '#')))
  | _ => (none, fragment cs)

/-- The URL of a scheme, an authority, and segments that were read before `rest`. -/
def assemble (scheme : String) (authority : Option Authority) (path : Path) (rest : List Char) : Url :=
  let (query, fragment) := readTail (isSpecialScheme scheme) rest
  ⟨scheme, authority, path, query, fragment⟩

/-- The path behind an authority. In a special scheme it has at least one segment. -/
def readPath (scheme : String) (cs : List Char) : List String :=
  let special := isSpecialScheme scheme
  let text := cs.takeWhile (!endsPath ·)
  match text with
  | c :: rest => if isSlash special c then readSegments scheme rest else readSegments scheme text
  | [] => if special then [""] else []

/-! ## Files -/

/-- The host of a file. A drive in its place belongs to the path, and `localhost` is no host. -/
def readFileHost (cs : List Char) : Except Fault (String × List Char) := do
  let host := cs.takeWhile (!endsAuthority true ·)
  if isDriveLetter (String.ofList host) then return ("", cs)
  let rest := cs.drop host.length
  if host.isEmpty then return ("", rest)
  let name ← readHost host
  return (if name == "localhost" then "" else name, rest)

/-- A file's URL. A drive at the start of the path leaves no host. -/
def readFile (cs : List Char) : Except Fault Url := do
  let (host, rest) ← match cs with
    | a :: b :: rest => if isSlash true a && isSlash true b then readFileHost rest else pure ("", cs)
    | _ => pure ("", cs)
  let list := readPath "file" rest
  let host := match list with
    | first :: _ => if isDriveLetter first then "" else host
    | [] => host
  return assemble "file" (some ⟨"", none, host, none⟩) (.segments (dropLeadingEmpty list))
    (rest.dropWhile (!endsPath ·))

/-! ## URLs -/

/-- Reads a URL. -/
def parse (text : String) : Except Fault Url := do
  let some (scheme, cs) := splitScheme? (clean text) | throw .noScheme
  if scheme == "file" then readFile cs
  else if isSpecialScheme scheme then
    let (authority, rest) ← readAuthority scheme (cs.dropWhile (isSlash true))
    return assemble scheme authority (.segments (readPath scheme rest)) (rest.dropWhile (!endsPath ·))
  else
    match cs with
    | '/' :: '/' :: cs =>
      let (authority, rest) ← readAuthority scheme cs
      return assemble scheme authority (.segments (readPath scheme rest)) (rest.dropWhile (!endsPath ·))
    | '/' :: _ => return assemble scheme none (.segments (readPath scheme cs)) (cs.dropWhile (!endsPath ·))
    | _ =>
      let whole := String.ofList (Percent.encode Percent.controls (cs.takeWhile (!endsPath ·)))
      return assemble scheme none (.whole whole) (cs.dropWhile (!endsPath ·))

end ServiceBroker.Url
