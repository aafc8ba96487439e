import Reroll.Text.Space
import Reroll.Yaml.Content

/-!
# Reading YAML

The value of a document is drawn from the contents of its nodes, starting at the outermost one; a
collection that is met again inside itself is tied into a knot. A text is looked at in blocks, so a
part that is no text does not matter when an earlier block cannot be read.
-/

namespace Reroll.Yaml

/-! ### Values of collections -/

/-- The value of a node, the numbers of outer nodes that stand for themselves in it, and whether it
holds a knot. -/
structure Drawn where
  value : Value
  outer : List Nat
  knotted : Bool

/-- Values without knots, which are drawn only once. -/
abbrev Gallery := Array (Option Value)

/-- The value of a collection that was drawn, as a knot if it holds itself. -/
def Drawn.ofParts (i : Nat) (value : Value) (parts : List Drawn) : Drawn :=
  let outer := (parts.flatMap Drawn.outer).eraseDups
  let knotted := parts.any Drawn.knotted
  if outer.contains i then ⟨.knot i value, outer.filter (· != i), true⟩ else ⟨value, outer, knotted⟩

/-- Draws the value of a node inside the given nodes. -/
def draw (contents : Array (Option Content)) (inside : List Nat) : Nat → Nat → StateM Gallery Drawn
  | 0, _ => return ⟨.null, [], false⟩
  | fuel + 1, i => do
    if inside.contains i then return ⟨.again i, [i], true⟩
    match (← get)[i]? with
    | some (some v) => return ⟨v, [], false⟩
    | _ =>
      let part := draw contents (i :: inside) fuel
      let drawn ←
        match (contents[i]?).bind id with
        | none => pure ⟨.null, [], false⟩
        | some (.leaf v) => pure ⟨v, [], false⟩
        | some (.set keys) => pure ⟨.set keys, [], false⟩
        | some (.list items) => do
          let parts ← items.mapM part
          pure (.ofParts i (.list (parts.map Drawn.value)) parts)
        | some (.map fields) => do
          let parts ← fields.mapM fun f => part f.2
          pure (.ofParts i (.map ((fields.map Prod.fst).zip (parts.map Drawn.value))) parts)
        | some (.pairs items) => do
          let firsts ← items.mapM fun p => part p.1
          let seconds ← items.mapM fun p => part p.2
          let pairs := (firsts.zip seconds).map fun p => .pair p.1.value p.2.value
          pure (.ofParts i (.list pairs) (firsts ++ seconds))
      if !drawn.knotted then modify fun g => g.setIfInBounds i (some drawn.value)
      return drawn

/-- The value of a document. -/
def Document.value (d : Document) : Except Fault Value :=
  d.contents.map fun contents =>
    ((draw contents [] (d.nodes.size + 1) d.root).run (Array.replicate d.nodes.size none)).1.value

/-! ### Blocks of a text -/

/-- Characters that a text may hold. -/
def isAllowed (c : Char) : Bool :=
  let n := c.toNat
  c == '\t' || c == '\n' || c == '\r' || (0x20 ≤ n && n ≤ 0x7E) || n == 0x85 ||
    (0xA0 ≤ n && n ≤ 0xFFFD) || 0x10000 ≤ n

/-- The size of the blocks in which bytes become characters. -/
def byteBlock : Nat := 8192

/-- The size of the blocks in which characters are checked; the first one is twice as long. -/
def charBlock : Nat := 4096

/-- The start of a character whose end may follow. -/
def isCharStart (bytes : ByteArray) : Bool :=
  match bytes.toList with
  | [] => true
  | lead :: more =>
    let wanted := if 0xC2 ≤ lead && lead < 0xE0 then 1 else if 0xE0 ≤ lead && lead < 0xF0 then 2
      else if 0xF0 ≤ lead && lead < 0xF5 then 3 else 0
    more.length < wanted && more.all fun b => 0x80 ≤ b && b < 0xC0

/-- The text of bytes that may end inside a character. -/
def textOfBlocks? (bytes : ByteArray) : Option String :=
  (List.range 4).findSome? fun n =>
    let split := bytes.size - n
    if isCharStart (bytes.extract split bytes.size) then
      String.fromUTF8? (bytes.extract 0 split)
    else none

/-- The longest text of the given number of blocks at most. -/
def longestText (bytes : ByteArray) : Nat → String
  | 0 => ""
  | blocks + 1 => (textOfBlocks? (bytes.extract 0 (byteBlock * (blocks + 1)))).getD (longestText bytes blocks)

/-- The characters of whole blocks: none before the first block is complete. -/
def wholeBlocks (cs : List Char) : List Char :=
  if cs.length < 2 * charBlock then [] else cs.take (cs.length / charBlock * charBlock)

/-- The characters of the blocks before the first one with a character that is not allowed. -/
def allowedBlocks (cs : List Char) : List Char := wholeBlocks (cs.takeWhile isAllowed)

/-- Reads the bytes of a text. -/
def read (bytes : ByteArray) : Except Fault Value := do
  let (text, cut) :=
    match String.fromUTF8? bytes with
    | some s => (Text.unifyNewlines s.toList, none)
    | none =>
      let readable := longestText bytes (bytes.size / byteBlock + 1)
      (wholeBlocks (Text.unifyNewlines readable.toList), some Stop.notText)
  let (text, cut) :=
    if text.all isAllowed then (text, cut) else (allowedBlocks text, some Stop.malformed)
  (← (Document.ofText text cut).mapError .ofStop).value

end Reroll.Yaml
