import RowGuard.DataSource.Host
import RowGuard.Text.Case
/-!
Where a database listens. An address is written as a URL: a scheme, after two slashes a host,
perhaps with a login before it and a TCP number behind it, a path that names the database, and a
query with settings. Without the slashes everything behind the scheme is path. The schemes of the
web and of files have rules of their own, which leave less to be written and more to be checked.
-/
namespace RowGuard

structure Login where
  username : String := ""
  password : Option String := none
  deriving DecidableEq, Repr

/-- The host is absent where the URL leaves it out. Login, path and query are kept as they are
written, escapes included. -/
structure Address where
  host : Option Host := none
  tcpPort : Option Nat := none
  login : Login := {}
  path : String := ""
  query : String := ""
  deriving DecidableEq, Repr

inductive AddressError where
  | noScheme
  | badPort
  | host (reason : HostError)
  deriving DecidableEq, Repr

def AddressError.message : AddressError → String
  | .noScheme => "relative URL without a base"
  | .badPort => "invalid port number"
  | .host reason => reason.message

namespace Address

/-! ## Schemes -/

inductive Scheme where
  | file
  | web (usual : Nat)
  | other
  deriving DecidableEq, Repr

/-- The scheme of a name. The TCP number that is usual on the web need not be written. -/
def Scheme.ofName (name : String) : Scheme :=
  match Text.lower name with
  | "file" => .file
  | "http" => .web 80
  | "https" => .web 443
  | "ws" => .web 80
  | "wss" => .web 443
  | "ftp" => .web 21
  | _ => .other

def Scheme.isLenient (scheme : Scheme) : Bool := scheme != .other

def Scheme.isSlash (scheme : Scheme) (c : Char) : Bool :=
  c == '/' || (scheme.isLenient && c == '\\')

/-- Control characters and spaces do not count at either end of a URL. -/
def isPadding (c : Char) : Bool := c.toNat ≤ 0x20

/-- Tabs and line ends count nowhere in a URL. -/
def isLineBreak (c : Char) : Bool := c == '\t' || c == '\n' || c == '\r'

def strip (cs : List Char) : List Char :=
  let inner := ((cs.dropWhile isPadding).reverse.dropWhile isPadding).reverse
  inner.filter fun c => !isLineBreak c

def isSchemeChar (c : Char) : Bool :=
  c.isAlphanum || c == '+' || c == '-' || c == '.'

def splitScheme? (cs : List Char) : Option (Scheme × List Char) :=
  let name := cs.takeWhile isSchemeChar
  match name.head?.filter Char.isAlpha, cs.dropWhile isSchemeChar with
  | some _, ':' :: rest => some (.ofName (String.ofList name), rest)
  | _, _ => none

/-! ## Paths and queries -/

def endsPath (c : Char) : Bool := c == '?' || c == '#'

def segments (scheme : Scheme) : List Char → List (List Char)
  | [] => [[]]
  | c :: rest =>
    if scheme.isSlash c then [] :: segments scheme rest
    else match segments scheme rest with
      | [] => [[c]]
      | piece :: pieces => (c :: piece) :: pieces

def bareDots (segment : List Char) : String :=
  match Text.lower (String.ofList segment) with
  | "%2e" => "."
  | "%2e%2e" => ".."
  | "%2e." => ".."
  | ".%2e" => ".."
  | s => s

def isDisk : List Char → Bool
  | [letter, mark] => letter.isAlpha && (mark == ':' || mark == '|')
  | _ => false

def parent : List (List Char) → List (List Char)
  | [] => []
  | last :: rest => if isDisk last then last :: rest else rest

/-- A segment below others. A file's path that begins with a disk marks it with a colon. -/
def child (scheme : Scheme) (segment : List Char) (above : List (List Char)) : List (List Char) :=
  if scheme = .file ∧ above.isEmpty ∧ isDisk segment then (segment.take 1 ++ [':']) :: above
  else segment :: above

/-- Segments without the ones that are dots: one dot stays where it is, two go up. A path that ends
in dots ends in a slash. `above` holds the segments so far, the last one first. -/
def resolve (scheme : Scheme) (above : List (List Char)) :
    List (List Char) → List (List Char)
  | [] => above.reverse
  | segment :: rest =>
    let next :=
      match bareDots segment with
      | "." => above
      | ".." => parent above
      | _ => child scheme segment above
    let isDots := bareDots segment == "." || bareDots segment == ".."
    resolve scheme (if isDots && rest.isEmpty then [] :: next else next) rest

def pathSegments (scheme : Scheme) (cs : List Char) : List (List Char) :=
  let inner := match cs with
    | c :: rest => if scheme.isSlash c then rest else cs
    | [] => []
  resolve scheme [] (segments scheme inner)

def pathText (segments : List (List Char)) : String :=
  String.join (segments.map fun segment => "/" ++ String.ofList segment)

def splitQuery (cs : List Char) : List Char × String :=
  let query := match cs.dropWhile fun c => !endsPath c with
    | '?' :: rest => rest.takeWhile (· != '#')
    | _ => []
  (cs.takeWhile fun c => !endsPath c, String.ofList query)

def settings (address : Address) : List (String × String) :=
  ((Text.split '&' address.query).filter (!·.isEmpty)).map fun setting =>
    let cs := setting.toList
    let decode (cs : List Char) := Text.Percent.decodeQuery (String.ofList cs)
    (decode (cs.takeWhile (· != '=')), decode ((cs.dropWhile (· != '=')).drop 1))

/-! ## Hosts and logins -/

/-- The TCP number at the front of what follows the colon, and the rest. Without digits it is the
usual one. Only a backslash may follow the digits. -/
def readTcpPort (scheme : Scheme) (cs : List Char) :
    Except AddressError (Option Nat × List Char) :=
  let digits := cs.takeWhile Char.isDigit
  let rest := cs.dropWhile Char.isDigit
  let number := Integer.ofDigits 10 (digits.filterMap Integer.digit?)
  if 65535 < number then .error .badPort
  else if rest.isEmpty || rest.head? = some '\\' then
    .ok (if digits.isEmpty || scheme = .web number then none else some number, rest)
  else .error .badPort

def splitLogin? (authority : List Char) : Option (List Char × List Char) :=
  if authority.contains '@' then
    let site := Text.afterLast '@' authority
    some (authority.take (authority.length - site.length - 1), site)
  else none

/-- The login of what stands before the at sign. An empty password is none. -/
def loginOf (cs : List Char) : Login :=
  let password := (cs.dropWhile (· != ':')).drop 1
  { username := String.ofList (cs.takeWhile (· != ':'))
    password := if password.isEmpty then none else some (String.ofList password) }

/-- The host in front of the first colon that stands in no brackets. -/
def takeHost (inside : Bool) : List Char → List Char
  | [] => []
  | c :: rest =>
    if c == ':' && !inside then []
    else c :: takeHost (if c == '[' then true else if c == ']' then false else inside) rest

def readHost (scheme : Scheme) (cs : List Char) : Except AddressError (Option Host) :=
  if scheme = .other then
    if cs.isEmpty then .ok none else ((Host.ofOpaque cs).map some).mapError .host
  else ((Host.ofDomain cs).map some).mapError .host

def readSite (scheme : Scheme) (cs : List Char) : Except AddressError Address := do
  let ends (c : Char) := scheme.isSlash c || endsPath c
  let authority := cs.takeWhile (!ends ·)
  let behind := cs.dropWhile (!ends ·)
  let (before, site) := (splitLogin? authority).getD ([], authority)
  if (splitLogin? authority).isSome && before.isEmpty && site.isEmpty && !behind.isEmpty then
    throw (.host .empty)
  let name := takeHost false site
  let host ← readHost scheme name
  let (tcpPort, left) ← match site.drop name.length with
    | [] => pure (none, [])
    | _ :: rest => if host.isNone then throw (.host .empty) else readTcpPort scheme rest
  let login := loginOf before
  if host.isNone && login != {} then throw (.host .empty)
  let (path, query) := splitQuery (left ++ behind)
  return { host, tcpPort, login, path := pathText (pathSegments scheme path), query }

/-- The address of a file on a host. A disk is one of the machine itself, so the host in front of
it does not count. -/
def fileOn (host : Option Host) (cs : List Char) : Address :=
  let (path, query) := splitQuery cs
  let segments := pathSegments .file path
  { host := host.filter fun _ => !segments.head?.any isDisk, path := pathText segments, query }

/-- What follows two slashes is a file's host or a disk. The slash behind a host that is the machine
itself begins a segment of its own. -/
def readFile (cs : List Char) : Except AddressError Address := do
  let isSlash := Scheme.isSlash .file
  match cs with
  | a :: b :: rest =>
    if isSlash a && isSlash b then
      let name := rest.takeWhile fun c => !isSlash c && !endsPath c
      let behind := rest.drop name.length
      if isDisk name then return fileOn none rest
      else if name.isEmpty then return fileOn none ('/' :: behind)
      else
        let host ← readHost .file name
        if host = some (.name "localhost") then return fileOn none ('/' :: behind)
        else return fileOn host behind
    else return fileOn none cs
  | cs => return fileOn none cs

def read (url : String) : Except AddressError Address :=
  match splitScheme? (strip url.toList) with
  | none => .error .noScheme
  | some (.file, rest) => readFile rest
  | some (.web usual, rest) => readSite (.web usual) (rest.dropWhile (Scheme.web usual).isSlash)
  | some (.other, '/' :: '/' :: rest) => readSite .other rest
  | some (.other, rest) =>
    let (path, query) := splitQuery rest
    let path :=
      if path.head? = some '/' then pathText (pathSegments .other path) else String.ofList path
    .ok { path, query }

end Address

end RowGuard
