import Reroll.Http.Label
import Reroll.Http.Percent
import Reroll.Text.Lower

/-!
# Hosts

A host is an address of numbers, an address in brackets, or a name. Names are written in small
letters; labels of a name with characters beyond ASCII are written in ASCII.
-/

namespace Reroll

/-- Why a text is no host. -/
inductive HostError where
  | numbers
  | brackets
  | name
  deriving DecidableEq

namespace Host

/-- A figure of ASCII. -/
def isFigure (c : Char) : Bool := '0' ≤ c && c ≤ '9'

/-- Four groups of figures with points between them. -/
def looksNumeric (cs : List Char) : Bool :=
  let parts := Text.splitOn ['.'] cs
  parts.length = 4 && parts.all fun p => !p.isEmpty && p.all isFigure

/-- A number of an address of four: at most 255, without zeros in front. -/
def isOctet (cs : List Char) : Bool :=
  !cs.isEmpty && cs.all isFigure && cs.length ≤ 3 && (cs.head? != some '0' || cs.length = 1) &&
    Text.digitsValue cs ≤ 255

/-- Four numbers with points between them. -/
def isNumeric (cs : List Char) : Bool :=
  let parts := Text.splitOn ['.'] cs
  parts.length = 4 && parts.all isOctet

/-- One to four hexadecimal digits. -/
def isGroup (cs : List Char) : Bool :=
  !cs.isEmpty && cs.length ≤ 4 && cs.all fun c => (Json.hexValue? c).isSome

/-- Groups on one side of a double colon; an empty side is written as an empty group. -/
def isSide (groups : List (List Char)) : Bool := groups = [[]] || groups.all isGroup

/-- The number of groups of a side. -/
def sideSize (groups : List (List Char)) : Nat := if groups = [[]] then 0 else groups.length

/-- Eight groups, or fewer around a double colon. -/
def areGroups (groups : List (List Char)) : Bool :=
  let inner := (groups.drop 1).dropLast
  match (inner.zipIdx 1).filter fun g => g.1.isEmpty with
  | [] => groups.length = 8 && groups.all isGroup
  | [(_, middle)] =>
    let front := groups.take middle
    let back := groups.drop (middle + 1)
    isSide front && isSide back && sideSize front + sideSize back < 8
  | _ => false

/-- The text without the name of a zone behind it, if that is in order. -/
def withoutZone? (cs : List Char) : Option (List Char) :=
  match Text.splitOn ['%'] cs with
  | [address] => some address
  | [address, zone] => if zone.isEmpty then none else some address
  | _ => none

/-- An address as it stands in brackets; its last two groups may be an address of four numbers. -/
def isBracketed (cs : List Char) : Bool :=
  match withoutZone? cs with
  | none => false
  | some address =>
    let groups := Text.splitOn [':'] address
    let last := groups.getLast?.getD []
    if groups.length < 3 then false
    else if last.contains '.' then
      isNumeric last && areGroups (groups.dropLast ++ [['0'], ['0']])
    else areGroups groups

/-- Marks that a name may hold. -/
def isNameMark (c : Char) : Bool := "!$&'()*+,;=\"\x60\x7b\x7d%|\\".toList.contains c

/-- The end of an address in brackets can be told: when the name of its zone holds a bracket, that
bracket ends an address, and a colon follows it as it would before a port. -/
def isBounded (host : List Char) : Bool :=
  !host.contains ']' ||
    (isBracketed (host.takeWhile (· != ']')) &&
      ((host.dropWhile (· != ']')).drop 1).head? == some ':')

/-- The labels of a name can be read, if the first one is international. -/
def isReadable (host : List Char) : Bool :=
  !Label.mark.isPrefixOf host || Label.isReadable host

/-- The host that a text stands for; an address in brackets loses them. -/
def read (cs : List Char) : Except HostError (List Char) :=
  if cs.isEmpty then .ok []
  else if looksNumeric cs then if isNumeric cs then .ok cs else .error .numbers
  else if cs.head? == some '[' && cs.getLast? == some ']' then
    let inner := (cs.drop 1).dropLast
    if isBracketed inner then .ok inner else .error .brackets
  else
    let small := Text.lower cs
    if cs.all fun c => c.toNat < 0x80 then .ok (Percent.quoted isNameMark small)
    else
      match Label.nameToAscii? small with
      | some plain => .ok plain
      | none => .error .name

end Host

end Reroll
