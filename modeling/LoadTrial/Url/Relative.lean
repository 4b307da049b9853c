/-
References, which are read against the URL of the document where they stand. The base is a URL with a special
scheme other than `file`, such as `http`.
-/
import LoadTrial.Url.Parser

namespace LoadTrial.Url

/-- a path up to its last slash, with the slash -/
def directoryOf (path : List Char) : List Char :=
  (path.reverse.dropWhile (· != '/')).reverse

/-- a reference without a scheme -/
def resolveRelative (base : Url) (cs : List Char) : Except Fault Url :=
  let path := base.path.toList
  match cs with
  | [] => .ok { base with fragment := none }
  | '#' :: _ => .ok { base with fragment := (parseTail true cs).2 }
  | '?' :: _ => .ok { base with query := (parseTail true cs).1, fragment := (parseTail true cs).2 }
  | c :: d :: rest =>
    if isSlash true c && isSlash true d then parseAuthority base.scheme true (rest.dropWhile (isSlash true))
    else if isSlash true c then .ok (withPath base.scheme base.host base.port true cs)
    else .ok (withPath base.scheme base.host base.port true (directoryOf path ++ cs))
  | [c] =>
    if isSlash true c then .ok (withPath base.scheme base.host base.port true cs)
    else .ok (withPath base.scheme base.host base.port true (directoryOf path ++ cs))

/-- the URL that a reference means -/
def resolve (base : Url) (s : String) : Except Fault Url :=
  let cs := significant s.toList
  match splitScheme cs with
  | none => resolveRelative base cs
  | some (scheme, rest) =>
    if String.ofList scheme == base.scheme && (rest.takeWhile (isSlash true)).length < 2 then
      resolveRelative base rest
    else parse s

/-- what a client asks the host of a URL for: the path and the query -/
def target (u : Url) : String :=
  u.path ++ (match u.query with | some q => "?" ++ q | none => "")

end LoadTrial.Url
