import Reroll.Http.Url

/-!
# Redirects

A redirect names a place that may be relative to the address it answers. A place without host keeps
the host, one without fragment keeps the fragment.
-/

namespace Reroll.Url

/-- The schemes whose addresses have places relative to them. -/
def joiningSchemes : List String :=
  ["", "ftp", "http", "gopher", "nntp", "imap", "wais", "file", "https", "shttp", "mms", "prospero",
    "rtsp", "rtsps", "rtspu", "sftp", "svn", "svn+ssh", "ws", "wss"]

/-- The schemes whose paths end with parameters behind a semicolon. -/
def parameterSchemes : List String :=
  ["", "ftp", "hdl", "prospero", "http", "https", "shttp", "rtsp", "rtsps", "rtspu", "sip", "sips",
    "mms", "sftp", "tel"]

/-- A path and the parameters in its last name. -/
def splitParameters (scheme : List Char) (path : List Char) : List Char × List Char :=
  if parameterSchemes.contains (String.ofList scheme) then
    let last := (path.reverse.takeWhile (· != '/')).reverse
    let name := last.takeWhile (· != ';')
    (path.take (path.length - last.length + name.length), last.drop (name.length + 1))
  else (path, [])

/-- Takes a name of a joined path, given those before it, the latest one first. -/
def takeJoined (done : List (List Char)) (name : List Char) : List (List Char) :=
  if name = ['.', '.'] then done.drop 1 else if name = ['.'] then done else name :: done

/-- Leaves out empty names, save at both ends. -/
def withoutEmptyInside (names : List (List Char)) : List (List Char) :=
  names.take 1 ++ ((names.drop 1).dropLast.filter fun n => !n.isEmpty) ++
    (names.drop 1).getLast?.toList

/-- A path relative to another one; the last name of that one is replaced. -/
def joinedPath (base path : List Char) : List Char :=
  let names := Text.splitOn ['/'] path
  let names :=
    if path.head? == some '/' then names
    else
      let above := Text.splitOn ['/'] base
      let above := if above.getLast? == some [] then above else above.dropLast
      withoutEmptyInside (above ++ names)
  let last := names.getLast?.getD []
  let done := names.foldl takeJoined []
  let done := if last = ['.'] || last = ['.', '.'] then [] :: done else done
  let joined := (done.reverse.intersperse ['/']).flatten
  if joined.isEmpty then ['/'] else joined

/-- A part behind a mark, unless it is empty. -/
def behind (mark : Char) (part : Option (List Char)) : List Char :=
  match part with
  | none => []
  | some [] => []
  | some cs => mark :: cs

/-- The text of parts; empty ones are left out. -/
def joinedText (scheme authority path parameters : List Char)
    (query fragment : Option (List Char)) : List Char :=
  let path := path ++ behind ';' (some parameters)
  let path := if path.isEmpty || path.head? == some '/' then path else '/' :: path
  scheme ++ ':' :: '/' :: '/' :: authority ++ path ++ behind '?' query ++ behind '#' fragment

/-- The text of the place that a text names relative to an address. -/
def joined (base place : List Char) : List Char :=
  let b := Parts.ofChars base
  let p := Parts.ofChars place
  let scheme := if p.scheme.isEmpty then b.scheme else p.scheme.map Decimal.asciiLower
  if place.isEmpty then base
  else if scheme != b.scheme || !joiningSchemes.contains (String.ofList scheme) then place
  else
    let (path, parameters) := splitParameters scheme p.path
    let (basePath, baseParameters) := splitParameters scheme b.path
    if !p.authority.isEmpty then joinedText scheme p.authority path parameters p.query p.fragment
    else if path.isEmpty && parameters.isEmpty then
      let query := if (p.query.getD []).isEmpty then b.query else p.query
      joinedText scheme b.authority basePath baseParameters query p.fragment
    else joinedText scheme b.authority (joinedPath basePath path) parameters p.query p.fragment

/-- Why a redirect leads nowhere: the place itself is no address, what it stands for is none, or its
host cannot be read. -/
inductive RedirectError where
  | place (e : UrlError)
  | address (e : UrlError)
  | host (name : String)

/-- A place with scheme but without host has the host of the address it answers. -/
def hosted (base place : Url) : Except UrlError Url :=
  if !place.scheme.isEmpty && place.host.isEmpty then
    let host := base.host.toList
    ofParts place.parts (some (if host.contains ':' then '[' :: host ++ [']'] else host))
  else .ok place

/-- A place without fragment has the one of the address it answers. -/
def withFragment (base place : Url) : Except UrlError Url :=
  let kept := Percent.unquoted (base.fragment.getD "").toList
  if kept.isEmpty || !(place.fragment.getD "").isEmpty then .ok place
  else
    if lengthLimit < kept.length then .error .longFragment
    else
      match control? kept with
      | some (c, offset) => .error (.controlInFragment c offset)
      | none => ofParts { place.parts with fragment := some kept }

/-- What a place stands for, answering an address. The host of a place is read before it is joined
with the address, and the bounds of its brackets are told by joining. -/
def resolved (base place : Url) : Except RedirectError Url := do
  if !place.scheme.isEmpty && !Host.isReadable place.host.toList then throw (.host place.host)
  let place ← (hosted base place).mapError .address
  let place ←
    if place.isAbsolute then pure place
    else if Host.isBounded place.host.toList then
      (ofText (String.ofList (joined base.text.toList place.text.toList))).mapError .address
    else throw (.host place.host)
  (withFragment base place).mapError .address

/-- Where a redirect to a place leads. -/
def redirected (base : Url) (location : String) : Except RedirectError Url :=
  match ofText location with
  | .error e => .error (.place e)
  | .ok place => resolved base place

end Reroll.Url
