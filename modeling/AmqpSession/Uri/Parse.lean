/-
Reading a URI. Text around it and line breaks in it do not count. After the scheme comes an
authority with credentials, host and port, then the path, the query and a fragment that is dropped.
-/
import AmqpSession.Uri.Host
import AmqpSession.Uri.Path

namespace AmqpSession.Uri

/-- A control or the space. -/
def isBlank (c : Char) : Bool := c.toNat ≤ 0x20

/-- The characters that count. -/
def significant (s : String) : List Char :=
  let trimmed := ((s.toList.dropWhile isBlank).reverse.dropWhile isBlank).reverse
  trimmed.filter fun c => c != '\t' && c != '\n' && c != '\r'

/-- The character may stand in a scheme. -/
def isSchemeChar (c : Char) : Bool := c.isAlphanum || c == '+' || c == '-' || c == '.'

/-- The scheme and what follows its colon. -/
def splitScheme (cs : List Char) : Option (String × List Char) :=
  match cs.takeWhile isSchemeChar, cs.dropWhile isSchemeChar with
  | c :: scheme, ':' :: rest =>
    if c.isAlpha then some ((String.ofList (c :: scheme)).toLower, rest) else none
  | _, _ => none

/-- Schemes that always have a host, and take a backslash for a slash. -/
def isWebScheme (scheme : String) : Bool := ["http", "https", "ws", "wss", "ftp"].contains scheme

/-! ## Authority -/

/-- What the authority says of the user. It keeps its percent escapes. -/
structure Credentials where
  username : String
  password : Option String

/-- No user is named. -/
def Credentials.none : Credentials := ⟨"", .none⟩

/-- No user is named, and no password given. -/
def Credentials.isNone (c : Credentials) : Bool := c.username == "" && c.password.isNone

/-- The password starts after the first colon; an empty one is none. -/
def credentials (userinfo : List Char) : Credentials :=
  let password := (userinfo.dropWhile (· != ':')).tail
  ⟨String.ofList (userinfo.takeWhile (· != ':')),
    if password.isEmpty then none else some (String.ofList password)⟩

/-- A host ends at a colon outside brackets. -/
def splitHost (bracketed : Bool) : List Char → List Char × List Char
  | [] => ([], [])
  | c :: rest =>
    if c == ':' && !bracketed then ([], c :: rest)
    else
      let (host, after) := splitHost (if c == '[' then true else if c == ']' then false else bracketed) rest
      (c :: host, after)

/-- What follows a port. -/
def skipPort (cs : List Char) : Except UriFault (List Char) :=
  let after := cs.dropWhile Char.isDigit
  match Text.number? 10 (cs.takeWhile Char.isDigit) with
  | some n =>
    if n ≤ 0xffff && (after.isEmpty || "/\\?#".toList.contains (after.headD '/')) then .ok after
    else .error .invalidPort
  | none => .error .invalidPort

/-- The credentials, and what follows the authority. -/
def readAuthority (web : Bool) (cs : List Char) : Except UriFault (Credentials × List Char) := do
  let isEnd := fun c => c == '/' || c == '?' || c == '#' || (web && c == '\\')
  let authority := cs.takeWhile (!isEnd ·)
  let after := cs.dropWhile (!isEnd ·)
  let (userinfo, hostPort) := match Text.splitLast '@' authority with
    | some (userinfo, hostPort) => (some userinfo, hostPort)
    | none => (none, authority)
  if userinfo = some [] ∧ hostPort.isEmpty ∧ ¬after.isEmpty then throw .emptyHost
  let given := credentials (userinfo.getD [])
  let (host, port) := splitHost false hostPort
  if web then checkDomain host else checkOpaqueHost host
  if host.isEmpty && !port.isEmpty then throw .emptyHost
  let port ← skipPort port.tail
  if host.isEmpty && !given.isNone then throw .emptyHost
  return (given, port ++ after)

/-! ## Path and query -/

/-- The path ends here, with a query or a fragment. -/
def isPathEnd (c : Char) : Bool := c == '?' || c == '#'

/-- The query without its mark and without the fragment. An empty one is not the same as none. -/
def readQuery : List Char → Option String
  | '?' :: rest => some (String.ofList (rest.takeWhile (· != '#')))
  | _ => none

/-- The path after an authority. -/
def readPath (web : Bool) (cs : List Char) : List Char :=
  let isSlash := fun c => c == '/' || (web && c == '\\')
  match cs with
  | [] => if web then ['/'] else []
  | c :: rest => reducePath isSlash (if isSlash c then rest else c :: rest)

/-- The rest of a URI after its authority. -/
def finish (scheme : String) (given : Credentials) (path : List Char → List Char) (cs : List Char) : Uri :=
  { scheme := scheme
    username := given.username
    password := given.password
    path := String.ofList (path (cs.takeWhile (!isPathEnd ·)))
    query := readQuery (cs.dropWhile (!isPathEnd ·)) }

/-- A `file` URI names at most a host. -/
def readFile (cs : List Char) : Except UriFault Uri := do
  let isSlash := fun c => c == '/' || c == '\\'
  match cs with
  | a :: b :: rest =>
    if isSlash a && isSlash b then
      let isEnd := fun c => isSlash c || isPathEnd c
      let host := rest.takeWhile (!isEnd ·)
      if !host.isEmpty && !isDriveLetter host then checkDomain host
      return finish "file" .none (readPath true) (rest.dropWhile (!isEnd ·))
    else return finish "file" .none (readPath true) cs
  | cs => return finish "file" .none (readPath true) cs

/-- Reads a URI by the rules of its scheme: `file`, one of the web, or any other. -/
def parse (s : String) : Except UriFault Uri := do
  match splitScheme (significant s) with
  | none => throw .noScheme
  | some (scheme, rest) =>
    if scheme == "file" then readFile rest
    else if isWebScheme scheme then
      let (given, rest) ← readAuthority true (rest.dropWhile fun c => c == '/' || c == '\\')
      return finish scheme given (readPath true) rest
    else match rest with
      | '/' :: '/' :: rest =>
        let (given, rest) ← readAuthority false rest
        return finish scheme given (readPath false) rest
      | '/' :: rest => return finish scheme .none (fun cs => readPath false ('/' :: cs)) rest
      | rest => return finish scheme .none id rest

end AmqpSession.Uri
