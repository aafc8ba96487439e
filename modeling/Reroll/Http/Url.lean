import Reroll.Decimal.Read
import Reroll.Http.Host
import Reroll.Text.Quoted

/-!
# Addresses on the web

An address is split into scheme, user, host, port, path, query and fragment. Its parts are brought
into one form: scheme and host in small letters, no port that the scheme implies, no dots among the
names of the path, and characters that a part cannot hold as bytes behind percent signs.
-/

namespace Reroll

/-- The parts of an address. Absent parts are empty, save queries and fragments, which may be
present and empty. A host with colons is an address of groups. -/
structure Url where
  scheme : String := ""
  user : String := ""
  host : String := ""
  port : Option Int := none
  path : String := ""
  query : Option String := none
  fragment : Option String := none
  deriving DecidableEq

/-- Why a text is no address. -/
inductive UrlError where
  | tooLong
  | control (c : Char) (offset : Nat)
  | longFragment
  | controlInFragment (c : Char) (offset : Nat)
  | port (shown : String)
  | host (e : HostError) (shown : String)
  | detachedPath
  | slashesFirst
  | colonFirst
  deriving DecidableEq

namespace UrlError

/-- The wording of the reason. -/
def message : UrlError → String
  | .tooLong => "URL too long"
  | .control c offset =>
    "Invalid non-printable ASCII character in URL, " ++ Text.quoted (String.ofList [c]) ++
      " at position " ++ toString offset ++ "."
  | .longFragment => "URL component 'fragment' too long"
  | .controlInFragment c offset =>
    "Invalid non-printable ASCII character in URL fragment component, " ++
      Text.quoted (String.ofList [c]) ++ " at position " ++ toString offset ++ "."
  | .port shown => "Invalid port: " ++ shown
  | .host .numbers shown => "Invalid IPv4 address: " ++ shown
  | .host .brackets shown => "Invalid IPv6 address: " ++ shown
  | .host .name shown => "Invalid IDNA hostname: " ++ shown
  | .detachedPath => "For absolute URLs, path must be empty or begin with '/'"
  | .slashesFirst => "Relative URLs cannot have a path starting with '//'"
  | .colonFirst => "Relative URLs cannot have a path starting with ':'"

end UrlError

namespace Url

/-- The parts of an address as they are written. -/
structure Parts where
  scheme : List Char := []
  authority : List Char := []
  path : List Char := []
  query : Option (List Char) := none
  fragment : Option (List Char) := none

/-- The text before the first of some characters, and the rest from that character on. -/
def cutAt (stops : List Char) (cs : List Char) : List Char × List Char :=
  (cs.takeWhile fun c => !stops.contains c, cs.dropWhile fun c => !stops.contains c)

/-- A scheme at the start: a letter, then letters, digits and a few marks, up to a colon. It may be
empty. -/
def takeScheme (cs : List Char) : List Char × List Char :=
  let mark (c : Char) : Bool := c == '+' || c == '.' || c == '-'
  let front := cs.takeWhile fun c => Percent.isAsciiAlnum c || mark c
  match front, cs.drop front.length with
  | [], ':' :: more => ([], more)
  | c :: _, ':' :: more => if c.isAlpha then (front, more) else ([], cs)
  | _, _ => ([], cs)

/-- Splits an address. -/
def Parts.ofChars (cs : List Char) : Parts :=
  let (scheme, rest) := takeScheme cs
  let (authority, rest) :=
    match rest with
    | '/' :: '/' :: more => cutAt ['/', '?', '#'] more
    | _ => ([], rest)
  let (path, rest) := cutAt ['?', '#'] rest
  let (query, rest) :=
    match rest with
    | '?' :: more =>
      let (q, rest) := cutAt ['#'] more
      (some q, rest)
    | _ => (none, rest)
  let fragment :=
    match rest with
    | '#' :: more => some more
    | _ => none
  { scheme, authority, path, query, fragment }

/-- The text before the last of a character, if it occurs, and what follows. -/
def cutAtLast (c : Char) (cs : List Char) : List Char × List Char :=
  let back := (cs.reverse.takeWhile (· != c)).reverse
  if back.length = cs.length then ([], cs) else (cs.take (cs.length - back.length - 1), back)

/-- The user, host and port of an authority. The user ends at the last at sign, a host in brackets
at the last of them, and any other host at the first colon. -/
def splitAuthority (cs : List Char) : List Char × List Char × List Char :=
  let (user, cs) := cutAtLast '@' cs
  let bracketed := cs.head? == some '[' && cs.contains ']'
  let size :=
    if bracketed then cs.length - (cs.reverse.takeWhile (· != ']')).length
    else (cs.takeWhile (· != ':')).length
  let rest := cs.drop size
  (user, cs.take size, if rest.head? == some ':' then rest.drop 1 else rest)

/-- Characters that a fragment may hold. -/
def inFragment (c : Char) : Bool := Percent.isVisible c && !" \"<>\x60".toList.contains c

/-- Characters that a query may hold. -/
def inQuery (c : Char) : Bool := Percent.isVisible c && !" \"#<>".toList.contains c

/-- Characters that a path may hold. -/
def inPath (c : Char) : Bool := inQuery c && !"?\x60\x7b\x7d".toList.contains c

/-- Characters that a user may hold. -/
def inUser (c : Char) : Bool := inPath c && !"/;=@[\\]^|".toList.contains c

/-- The port that a scheme implies. -/
def impliedPort? (scheme : String) : Option Int :=
  if scheme = "ftp" then some 21
  else if scheme = "http" || scheme = "ws" then some 80
  else if scheme = "https" || scheme = "wss" then some 443
  else none

/-- The port that a text stands for, unless the scheme implies it. -/
def readPort (scheme : String) (cs : List Char) : Except UrlError (Option Int) :=
  if cs.isEmpty then .ok none
  else
    match Decimal.readWhole cs with
    | .whole n => .ok (if impliedPort? scheme = some n then none else some n)
    | _ => .error (.port (Text.quoted (String.ofList cs)))

/-- Takes a name of a path, given those before it, the latest one first. Single dots vanish, double
dots take the name before them away. -/
def takeName (done : List (List Char)) (name : List Char) : List (List Char) :=
  if name = ['.'] then done
  else if name = ['.', '.'] then (if done = [[]] then done else done.drop 1)
  else name :: done

/-- A path without dots among its names. -/
def plainPath (path : List Char) : List Char :=
  let names := Text.splitOn ['/'] path
  (((names.foldl takeName []).reverse).intersperse ['/']).flatten

/-- What is wrong with a path between other parts, if anything. -/
def pathProblem? (hasScheme hasAuthority : Bool) (path : List Char) : Option UrlError :=
  if hasAuthority then
    if path.isEmpty || path.head? == some '/' then none else some .detachedPath
  else if hasScheme then none
  else if path.take 2 == ['/', '/'] then some .slashesFirst
  else if path.head? == some ':' then some .colonFirst
  else none

/-- The longest text of an address. -/
def lengthLimit : Nat := 65536

/-- Brings parts into their form. A host may be given that replaces the one of the authority. -/
def ofParts (p : Parts) (replacement : Option (List Char) := none) : Except UrlError Url := do
  let scheme := String.ofList p.scheme
  let (user, ownHost, port) := splitAuthority p.authority
  let host := replacement.getD ownHost
  let plainHost ← (Host.read host).mapError fun e => .host e (Text.quoted (String.ofList host))
  let port ← readPort scheme port
  let hasScheme := !p.scheme.isEmpty
  let hasAuthority := !user.isEmpty || !plainHost.isEmpty || port.isSome
  match pathProblem? hasScheme hasAuthority p.path with
  | some e => throw e
  | none => pure ()
  let path := if hasScheme || hasAuthority then plainPath p.path else p.path
  return {
    scheme := String.ofList (p.scheme.map Decimal.asciiLower)
    user := String.ofList (Percent.quoted inUser user)
    host := String.ofList plainHost
    port
    path := String.ofList (Percent.quoted inPath path)
    query := p.query.map fun q => String.ofList (Percent.quoted inQuery q)
    fragment := p.fragment.map fun f => String.ofList (Percent.quoted inFragment f) }

/-- The first control character of ASCII, with its offset. -/
def control? (cs : List Char) : Option (Char × Nat) :=
  cs.zipIdx.find? fun c => c.1.toNat < 0x20 || c.1.toNat = 0x7F

/-- Reads an address. -/
def ofText (s : String) : Except UrlError Url :=
  if lengthLimit < s.length then .error .tooLong
  else
    match control? s.toList with
    | some (c, offset) => .error (.control c offset)
    | none => ofParts (.ofChars s.toList)

/-- The user, host and port of an address. -/
def authority (u : Url) : String :=
  (if u.user.isEmpty then "" else u.user ++ "@") ++
    (if u.host.toList.contains ':' then "[" ++ u.host ++ "]" else u.host) ++
    (u.port.map fun n => ":" ++ toString n).getD ""

/-- The text of an address. -/
def text (u : Url) : String :=
  (if u.scheme.isEmpty then "" else u.scheme ++ ":") ++
    (if u.authority.isEmpty then "" else "//" ++ u.authority) ++ u.path ++
    (u.query.map ("?" ++ ·)).getD "" ++ (u.fragment.map ("#" ++ ·)).getD ""

/-- The address tells where to go: it has a scheme and a host. -/
def isAbsolute (u : Url) : Bool := !u.scheme.isEmpty && !u.host.isEmpty

/-- The parts of an address, to be changed and brought into form again. -/
def parts (u : Url) : Parts where
  scheme := u.scheme.toList
  authority := u.authority.toList
  path := u.path.toList
  query := u.query.map String.toList
  fragment := u.fragment.map String.toList

/-- The path and query alone, as a path from the root. -/
def pathOnly (u : Url) : Url where
  path := String.ofList ('/' :: u.path.toList.dropWhile (· == '/'))
  query := u.query

end Url

end Reroll
