import Reroll.Document.Members
import Reroll.Document.Shown
import Reroll.Yaml.Node
import Reroll.Yaml.Number

/-!
# Contents of nodes

A node has a value of its own or consists of other nodes. Contents are found from the outermost node
inwards, level by level, and a fault ends the search; so the fault nearest to the root is reported,
of equally near ones the first. Merged mappings come first, so that own fields override them; the
last of equal keys wins.
-/

namespace Reroll.Yaml

/-- Why a text has no value. -/
inductive Fault where
  | malformed
  | notText
  | characterRange
  | characterSize
  | flag (name : String)
  | number (e : NumberError)
  | stamp (e : StampError)
  | noStamp
  | stampKind
  | endless

namespace Fault

/-- The wording of a fault; malformed texts have none. -/
def message : Fault → String
  | .malformed => ""
  | .notText => ""
  | .characterRange => "chr() arg not in range(0x110000)"
  | .characterSize => "Python int too large to convert to C int"
  | .flag name => Text.quoted name
  | .number .empty => "string index out of range"
  | .number (.conversion e) => e.message
  | .stamp e => e.message
  | .noStamp => "'NoneType' object has no attribute 'groupdict'"
  | .stampKind => "expected string or bytes-like object, got 'list'"
  | .endless => "maximum recursion depth exceeded"

/-- The fault that stops the reading of characters. -/
def ofStop : Stop → Fault
  | .malformed => .malformed
  | .unfinished => .malformed
  | .characterRange => .characterRange
  | .characterSize => .characterSize
  | .notText => .notText

end Fault

/-! ### Values of scalars -/

/-- A truth value by its name. -/
def readFlag (text : String) : Except Fault Bool :=
  let name := String.ofList (Text.lower text.toList)
  if ["yes", "true", "on"].contains name then .ok true
  else if ["no", "false", "off"].contains name then .ok false
  else .error (.flag name)

/-- The value of a letter of base sixty-four. -/
def letterValue? (c : Char) : Option Nat :=
  if 'A' ≤ c && c ≤ 'Z' then some (c.toNat - 0x41)
  else if 'a' ≤ c && c ≤ 'z' then some (c.toNat - 0x47)
  else if '0' ≤ c && c ≤ '9' then some (c.toNat + 4)
  else if c = '+' then some 62
  else if c = '/' then some 63
  else none

/-- Decodes base sixty-four. `count` letters of the current group of four have the value `group`;
padding that completes a group ends the text, and other characters are skipped. -/
def decode64 (done : List UInt8) (count group pads : Nat) : List Char → Option (List UInt8)
  | [] => if count = 0 then some done.reverse else none
  | c :: cs =>
    if c = '=' then
      if 2 ≤ count && 4 ≤ count + pads + 1 then some done.reverse
      else decode64 done count group (if 2 ≤ count then pads + 1 else pads) cs
    else
      match letterValue? c with
      | none => decode64 done count group pads cs
      | some v =>
        match count with
        | 0 => decode64 done 1 v 0 cs
        | 1 => decode64 ((group * 4 + v / 16).toUInt8 :: done) 2 (v % 16) 0 cs
        | 2 => decode64 ((group * 16 + v / 4).toUInt8 :: done) 3 (v % 4) 0 cs
        | _ => decode64 ((group * 64 + v).toUInt8 :: done) 0 0 0 cs

/-- Bytes written in base sixty-four. -/
def readBytes (text : String) : Except Fault (List UInt8) :=
  if text.toList.all fun c => c.toNat < 0x80 then
    (decode64 [] 0 0 0 text.toList).elim (.error .malformed) .ok
  else .error .malformed

/-- The text of a scalar. A mapping may stand for one by its default value, which has a key of its
own; `fuel` bounds the mappings in a row. -/
def scalarText (nodes : Array Node) (n : Node) : Nat → Except Fault String
  | 0 => .error .endless
  | fuel + 1 =>
    match n.body with
    | .scalar text => .ok text
    | .sequence _ => .error .malformed
    | .mapping fields =>
      match fields.find? fun f => nodes[f.1]?.any fun k => k.tag == .value with
      | none => .error .malformed
      | some f =>
        match nodes[f.2]? with
        | some v => scalarText nodes v fuel
        | none => .error .malformed

/-- The value of a node with one of the tags for single values. -/
def leafValue (nodes : Array Node) (n : Node) : Except Fault Value := do
  let text := scalarText nodes n (nodes.size + 1)
  match n.tag with
  | .null => text.map fun _ => .null
  | .bool => return .bool (← readFlag (← text))
  | .int => return .int (← (readInt (← text)).mapError .number)
  | .float => return .num (.float (← (readDecimal (← text)).mapError .number))
  | .binary => return .bytes (← readBytes (← text))
  | .str => return .text (← text)
  | .timestamp =>
    match n.body, Stamp.ofText? (← text).toList with
    | .scalar _, some s => s.value.mapError .stamp
    | .scalar _, none => throw .noStamp
    | _, _ => throw .stampKind
  | _ => throw .malformed

/-! ### Merged mappings -/

/-- The fields of the mapping with a number; other nodes have none. -/
def fieldsOf (nodes : Array Node) (i : Nat) : List (Nat × Nat) :=
  match nodes[i]? with
  | some ⟨_, .mapping fields⟩ => fields
  | _ => []

/-- The node with a number has the given tag. -/
def hasTag (nodes : Array Node) (t : Tag) (i : Nat) : Bool := nodes[i]?.any fun n => n.tag == t

/-- Changes the fields of a mapping. -/
def setFields (nodes : Array Node) (i : Nat) (fields : List (Nat × Nat)) : Array Node :=
  nodes.modify i fun n => { n with body := .mapping fields }

/-- The mark of a default value is a text where a key is expected. -/
def markAsText (nodes : Array Node) (i : Nat) : Array Node :=
  nodes.modify i fun n => if n.tag == .value then { n with tag := .str } else n

/-- The mappings to be merged that a node stands for: itself, or its items from last to first. -/
def mergeSources? (nodes : Array Node) (i : Nat) : Option (List Nat) :=
  let isMapping (i : Nat) : Bool :=
    match nodes[i]? with
    | some ⟨_, .mapping _⟩ => true
    | _ => false
  match nodes[i]? with
  | some ⟨_, .mapping _⟩ => some [i]
  | some ⟨_, .sequence items⟩ => if items.all isMapping then some items else none
  | _ => none

/-- Replaces the marks for merged mappings among the fields of a mapping by the fields of those
mappings, which go in front. Every step removes a mark, so their number suffices as `fuel`. -/
def merge (i : Nat) (front : List (Nat × Nat)) (nodes : Array Node) : Nat → Except Fault (Array Node)
  | 0 => .error .malformed
  | fuel + 1 =>
    let fields := fieldsOf nodes i
    let before := fields.takeWhile fun f => !hasTag nodes .merge f.1
    match fields.drop before.length with
    | [] =>
      let nodes := fields.foldl (fun nodes f => markAsText nodes f.1) nodes
      .ok (setFields nodes i (front ++ fields))
    | mark :: behind =>
      let nodes := setFields nodes i (before ++ behind)
      match mergeSources? nodes mark.2 with
      | none => .error .malformed
      | some sources =>
        let step (done : Array Node × List (Nat × Nat)) (source : Nat) :
            Except Fault (Array Node × List (Nat × Nat)) :=
          (merge source [] done.1 fuel).map fun nodes => (nodes, fieldsOf nodes source ++ done.2)
        match sources.foldlM step (nodes, []) with
        | .error e => .error e
        | .ok (nodes, merged) => merge i (front ++ merged) nodes fuel

/-! ### The search -/

/-- What a node stands for: a value, or a collection of what other nodes stand for. -/
inductive Content where
  | leaf (v : Value)
  | list (items : List Nat)
  | pairs (items : List (Nat × Nat))
  | map (fields : List (Value × Nat))
  | set (keys : List Value)

/-- The nodes, the contents found, and the collections to be looked into, in order. -/
structure Search where
  nodes : Array Node
  contents : Array (Option Content)
  found : Array Nat := #[]

namespace Search

/-- The tag is one of collections. -/
def isCollection (t : Tag) : Bool := [Tag.seq, .omap, .pairs, .map, .set].contains t

/-- Sets the content of a node. -/
def put (s : Search) (i : Nat) (c : Content) : Search :=
  { s with contents := s.contents.setIfInBounds i (some c) }

/-- The content of a node that was reached. -/
def content (s : Search) (i : Nat) : Content :=
  ((s.contents[i]?).bind id).getD (.leaf .null)

/-- Comes to a node: single values are read at once, collections later. -/
def reach (s : Search) (i : Nat) : Except Fault Search :=
  match s.nodes[i]?, s.contents[i]? with
  | some n, some none =>
    if isCollection n.tag then .ok { s.put i (.list []) with found := s.found.push i }
    else (leafValue s.nodes n).map fun v => s.put i (.leaf v)
  | _, _ => .ok s

/-- Comes to the two nodes of a pair. -/
def reachPair (s : Search) (p : Nat × Nat) : Except Fault Search := do
  let s ← s.reach p.1
  s.reach p.2

/-- Comes to the two nodes of a field. Collections are no keys. -/
def reachField (done : Search × List (Value × Nat)) (f : Nat × Nat) :
    Except Fault (Search × List (Value × Nat)) := do
  let s ← done.1.reach f.1
  match s.content f.1 with
  | .leaf k =>
    let s ← s.reach f.2
    return (s, (k, f.2) :: done.2)
  | _ => throw .malformed

/-- The only field of a mapping. -/
def onlyField (nodes : Array Node) (i : Nat) : Except Fault (Nat × Nat) :=
  match fieldsOf nodes i with
  | [f] => .ok f
  | _ => .error .malformed

/-- The number of all fields. -/
def size (nodes : Array Node) : Nat :=
  nodes.foldl (fun n node => match node.body with | .mapping fields => n + fields.length | _ => n) 0

/-- The fields of a mapping after merging, without repeated keys. -/
def fields (s : Search) (i : Nat) : Except Fault (Search × List (Value × Nat)) := do
  let nodes ← merge i [] s.nodes (size s.nodes + 1)
  let (s, fields) ← (fieldsOf nodes i).foldlM reachField ({ s with nodes }, [])
  return (s, Value.collect fields.reverse)

/-- Looks into a collection. -/
def lookInto (s : Search) (i : Nat) : Except Fault Search :=
  match s.nodes[i]? with
  | none => .error .malformed
  | some n =>
    match n.tag, n.body with
    | .seq, .sequence items => do
      let s ← items.foldlM reach s
      return s.put i (.list items)
    | .map, .mapping _ => do
      let (s, fields) ← s.fields i
      return s.put i (.map fields)
    | .set, .mapping _ => do
      let (s, fields) ← s.fields i
      return s.put i (.set (Members.inOrder (fields.map Prod.fst)))
    | t, .sequence items => do
      if t != .omap && t != .pairs then throw .malformed
      let step (done : Search × List (Nat × Nat)) (item : Nat) := do
        let f ← onlyField done.1.nodes item
        return (← done.1.reachPair f, f :: done.2)
      let (s, pairs) ← items.foldlM step (s, [])
      return s.put i (.pairs pairs.reverse)
    | _, _ => throw .malformed

/-- Looks into the collections found, from the given one on. Every node is found once at most. -/
def run (s : Search) (next : Nat) : Nat → Except Fault Search
  | 0 => .ok s
  | fuel + 1 =>
    match s.found[next]? with
    | none => .ok s
    | some i =>
      match s.lookInto i with
      | .error e => .error e
      | .ok s => run s (next + 1) fuel

end Search

/-- The contents of the nodes of a document. -/
def Document.contents (d : Document) : Except Fault (Array (Option Content)) := do
  let s : Search := { nodes := d.nodes, contents := Array.replicate d.nodes.size none }
  let s ← s.reach d.root
  let s ← s.run 0 (d.nodes.size + 1)
  return s.contents

end Reroll.Yaml
