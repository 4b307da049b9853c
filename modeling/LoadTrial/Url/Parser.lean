/-
Absolute URLs, read by the rules that browsers follow: blanks and control characters at the ends do not count,
nor do tabs and line breaks anywhere; backslashes are slashes in the special schemes; hosts are brought into
their ASCII or numeric form and paths into normal form.
-/
import LoadTrial.Url.Domain
import LoadTrial.Url.Path
import LoadTrial.Text.Blank

namespace LoadTrial

namespace Url

/-- why a text is not an absolute URL -/
inductive Fault where
  | emptyHost
  | invalidName
  | invalidPort
  | invalidIpv4
  | invalidIpv6
  | invalidCharacter
  | relative
  deriving DecidableEq, Repr

def Fault.message : Fault → String
  | .emptyHost => "empty host"
  | .invalidName => "invalid international domain name"
  | .invalidPort => "invalid port number"
  | .invalidIpv4 => "invalid IPv4 address"
  | .invalidIpv6 => "invalid IPv6 address"
  | .invalidCharacter => "invalid domain character"
  | .relative => "relative URL without a base"

inductive Host where
  | domain (name : String)
  | ipv4 (address : UInt32)
  | ipv6 (pieces : List Nat)
  deriving DecidableEq, Repr

end Url

structure Url where
  scheme : String
  host : Option Url.Host
  /-- absent if it is the one that goes with the scheme -/
  port : Option UInt16
  path : String
  query : Option String
  fragment : Option String
  deriving DecidableEq, Repr

namespace Url

/-! ## Cleaning and splitting -/

/-- control characters and spaces, which do not count at the ends of a URL -/
def isEdge (c : Char) : Bool :=
  c.toNat ≤ 0x20

/-- tabs and line breaks, which do not count at all -/
def isIgnored (c : Char) : Bool :=
  c == '\t' || c == '\n' || c == '\r'

/-- the characters of a URL that count -/
def significant (cs : List Char) : List Char :=
  (Text.dropTail isEdge (cs.dropWhile isEdge)).filter (!isIgnored ·)

def isSchemeChar (c : Char) : Bool :=
  c.isAlphanum || c == '+' || c == '-' || c == '.'

/-- the scheme in lower case, and what stands behind its colon -/
def splitScheme (cs : List Char) : Option (List Char × List Char) :=
  match cs with
  | [] => none
  | c :: _ =>
    if !c.isAlpha then none
    else match cs.dropWhile isSchemeChar with
      | ':' :: rest => some ((cs.takeWhile isSchemeChar).map Char.toLower, rest)
      | _ => none

/-- the three ways in which a URL goes on behind its scheme -/
inductive Syntax where
  | special
  | file
  | other
  deriving DecidableEq, Repr

def syntaxOf (scheme : String) : Syntax :=
  if scheme == "file" then .file
  else if ["http", "https", "ws", "wss", "ftp"].contains scheme then .special
  else .other

def defaultPort (scheme : String) : Option Nat :=
  if scheme == "http" || scheme == "ws" then some 80
  else if scheme == "https" || scheme == "wss" then some 443
  else if scheme == "ftp" then some 21
  else none

/-- a slash, or a backslash where that is one too -/
def isSlash (backslash : Bool) (c : Char) : Bool :=
  c == '/' || (backslash && c == '\\')

/-- the end of a path -/
def endsPath (c : Char) : Bool :=
  c == '?' || c == '#'

/-- the end of the part with user, host and port -/
def endsAuthority (backslash : Bool) (c : Char) : Bool :=
  isSlash backslash c || endsPath c

/-! ## Hosts -/

/-- the characters in front of a colon that stands outside brackets -/
def hostPart (inBrackets : Bool) : List Char → List Char × List Char
  | [] => ([], [])
  | c :: rest =>
    if c == ':' && !inBrackets then ([], c :: rest)
    else
      let (front, back) := hostPart (c == '[' || (inBrackets && c != ']')) rest
      (c :: front, back)

/-- an address in brackets -/
def bracketed (cs : List Char) : Except Fault Host :=
  if 2 ≤ cs.length && cs.getLast? == some ']' then
    match Ipv6.parse? cs.tail.dropLast with
    | some pieces => .ok (.ipv6 pieces)
    | none => .error .invalidIpv6
  else .error .invalidIpv6

/-- the host of a URL with a special scheme -/
def parseHost (cs : List Char) : Except Fault Host :=
  if cs.head? == some '[' then bracketed cs
  else match Text.ofUtf8? (percentDecode cs) with
    | none => .error .invalidName
    | some name => match Domain.toAscii? name.toList with
      | none => .error .invalidName
      | some [] => .error .emptyHost
      | some ascii =>
        if Ipv4.endsInNumber ascii then
          match Ipv4.parse? ascii with
          | some address => .ok (.ipv4 address)
          | none => .error .invalidIpv4
        else .ok (.domain (String.ofList ascii))

/-- characters that may not stand in a host that is not looked into -/
def isForbiddenInOpaque (c : Char) : Bool :=
  c == '\x00' || isIgnored c || " #/:<>?@[\\]^|".toList.contains c

/-- the host of a URL with another scheme -/
def parseOpaqueHost (cs : List Char) : Except Fault Host :=
  if cs.head? == some '[' then bracketed cs
  else if cs.any isForbiddenInOpaque then .error .invalidCharacter
  else .ok (.domain (String.ofList (percentEncode controlSet cs)))

/-- the characters in front of and behind the last at sign -/
def splitUser (cs : List Char) : Option (List Char × List Char) :=
  match cs.reverse.dropWhile (· != '@') with
  | [] => none
  | _ :: user => some (user.reverse, (cs.reverse.takeWhile (· != '@')).reverse)

/-! ## Ports -/

/-- the digits of a port; it fits in 16 bits, and only a part that follows may end it -/
def parsePort (scheme : String) (cs : List Char) : Except Fault (Option UInt16 × List Char) :=
  let ds := cs.takeWhile Char.isDigit
  let rest := cs.dropWhile Char.isDigit
  let n := Number.ofDigits ds
  if 65535 < n then .error .invalidPort
  else if rest.head?.any (!endsAuthority true ·) then .error .invalidPort
  else .ok (if ds.isEmpty || defaultPort scheme == some n then none else some (UInt16.ofNat n), rest)

/-! ## Path, query and fragment -/

/-- what stands behind a path: the query, behind a question mark, and the fragment, behind a number sign -/
def parseTail (special : Bool) (cs : List Char) : Option String × Option String :=
  let set := if special then specialQuerySet else querySet
  let fragmentOf := fun (rest : List Char) => match rest with
    | '#' :: f => some (String.ofList (percentEncode fragmentSet f))
    | _ => none
  match cs with
  | '?' :: rest =>
    (some (String.ofList (percentEncode set (rest.takeWhile (· != '#')))), fragmentOf (rest.dropWhile (· != '#')))
  | rest => (none, fragmentOf rest)

/-- the segments of a path, which ends at a question mark or number sign -/
def segments (backslash : Bool) (cs : List Char) : List (List Char) :=
  splitOn '/' ((cs.takeWhile (!endsPath ·)).map fun c => if backslash && c == '\\' then '/' else c)

/-- the path behind an authority, in normal form; only a special URL has one in any case -/
def parsePath (special : Bool) (cs : List Char) : List Char :=
  match cs with
  | [] => if special then ['/'] else []
  | c :: rest =>
    if endsPath c then (if special then ['/'] else [])
    else if isSlash special c then Path.normalize (segments special rest)
    else Path.normalize (segments special cs)

/-- a URL from its scheme, host and port, and the characters from its path on -/
def withPath (scheme : String) (host : Option Host) (port : Option UInt16) (special : Bool) (cs : List Char) : Url :=
  let (query, fragment) := parseTail special (cs.dropWhile (!endsPath ·))
  { scheme, host, port, path := String.ofList (parsePath special cs), query, fragment }

/-! ## Whole URLs -/

/-- user, host, port and all that follows, for a scheme that is not `file` -/
def parseAuthority (scheme : String) (special : Bool) (cs : List Char) : Except Fault Url :=
  let authority := cs.takeWhile (!endsAuthority special ·)
  let rest := cs.dropWhile (!endsAuthority special ·)
  let (user, place, emptyUser) := match splitUser authority with
    | some (user, place) => (user, place, user.isEmpty)
    | none => ([], authority, false)
  let hasUser := user != [] && user != [':']
  if emptyUser && place.isEmpty && !rest.isEmpty then .error .emptyHost
  else
    let (name, behind) := hostPart false place
    if special && name.isEmpty then .error .emptyHost
    else match (if special then parseHost name else parseOpaqueHost name) with
      | .error f => .error f
      | .ok host =>
        if name.isEmpty && (hasUser || !behind.isEmpty) then .error .emptyHost
        else
          let host := if name.isEmpty then none else some host
          match behind with
          | ':' :: port => match parsePort scheme (port ++ rest) with
            | .error f => .error f
            | .ok (port, rest) => .ok (withPath scheme host port special rest)
          | _ => .ok (withPath scheme host none special rest)

/-- a URL of the scheme `file`, whose host stands behind two slashes and may be absent -/
def parseFile (cs : List Char) : Except Fault Url :=
  match cs with
  | a :: b :: rest =>
    if isSlash true a && isSlash true b then
      let name := rest.takeWhile (!endsAuthority true ·)
      if Path.isDrive name then .ok (withPath "file" none none true rest)
      else
        let behind := rest.dropWhile (!endsAuthority true ·)
        if name.isEmpty then .ok (withPath "file" none none true behind)
        else match parseHost name with
          | .error f => .error f
          | .ok (.domain "localhost") => .ok (withPath "file" none none true behind)
          | .ok host => .ok (withPath "file" (some host) none true behind)
    else .ok (withPath "file" none none true cs)
  | _ => .ok (withPath "file" none none true cs)

/-- a URL without slashes behind its scheme: the path is taken as it is -/
def parseOpaque (scheme : String) (cs : List Char) : Url :=
  let (query, fragment) := parseTail false (cs.dropWhile (!endsPath ·))
  { scheme, host := none, port := none
    path := String.ofList (percentEncode controlSet (cs.takeWhile (!endsPath ·))), query, fragment }

/-- reads an absolute URL -/
def parse (s : String) : Except Fault Url :=
  match splitScheme (significant s.toList) with
  | none => .error .relative
  | some (scheme, rest) =>
    let scheme := String.ofList scheme
    match syntaxOf scheme with
    | .special => parseAuthority scheme true (rest.dropWhile (isSlash true))
    | .file => parseFile rest
    | .other =>
      match rest with
      | '/' :: '/' :: behind => parseAuthority scheme false behind
      | '/' :: _ => .ok (withPath scheme none none false rest)
      | _ => .ok (parseOpaque scheme rest)

/-- the host is this machine or in a private network -/
def isLocal (u : Url) : Bool :=
  match u.host with
  | some (.ipv4 a) => Ipv4.isLoopback a || Ipv4.isPrivate a
  | some (.ipv6 pieces) => Ipv6.isLoopback pieces
  | some (.domain name) => name == "localhost"
  | none => false

end Url

end LoadTrial
