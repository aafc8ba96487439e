import Reroll.Yaml.Tag
import Reroll.Yaml.Token

/-!
# Nodes of a YAML document

The tokens of a text form scalars, sequences and mappings. Nodes are numbered in the order in
which they start, and a collection names its parts by their numbers: a reference gives the number
of the anchored node, so a node may be part of several collections and even of itself. A text
holds one document at most.
-/

namespace Reroll.Yaml

/-- A text, or the numbers of the parts of a collection. -/
inductive Body where
  | scalar (text : String)
  | sequence (items : List Nat)
  | mapping (fields : List (Nat × Nat))

/-- A node with its tag. -/
structure Node where
  tag : Tag
  body : Body

/-- The nodes of a document by their numbers, and the number of the outermost one. -/
structure Document where
  nodes : Array Node
  root : Nat

namespace Node

/-- A scalar that is not written. -/
def absent : Node := ⟨.null, .scalar ""⟩

/-! ### Properties of nodes -/

/-- Why tokens form no tree; they may also end too early. -/
inductive Unformed where
  | cutShort
  | malformed

/-- The tokens to come, the nodes so far and the numbers of those with anchors. -/
structure State where
  tokens : List Token
  nodes : Array Node := #[]
  anchors : List (String × Nat) := []

/-- A part of the tree and what comes after it. -/
abbrev Step (α : Type) := Except Unformed (α × State)

/-- Drops the next token. -/
def State.drop (s : State) : State := { s with tokens := s.tokens.drop 1 }

/-- Adds a node and gives its number. -/
def State.add (s : State) (n : Node) : Nat × State :=
  (s.nodes.size, { s with nodes := s.nodes.push n })

/-- Completes the node with a number. -/
def State.complete (s : State) (i : Nat) (n : Node) : State :=
  { s with nodes := s.nodes.setIfInBounds i n }

/-- What handles stand for. -/
abbrev Handles := List (String × String)

/-- The handles that need no directive. -/
def usualHandles : Handles := [("!", "!"), ("!!", Tag.usualStart)]

/-- The full name of a written tag. -/
def tagName (handles : Handles) (handle : Option String) (suffix : String) :
    Except Unformed String :=
  match handle with
  | none => .ok suffix
  | some h =>
    match handles.find? fun p => p.1 == h with
    | some p => .ok (p.2 ++ suffix)
    | none => .error .malformed

/-- The anchor and the tag in front of a node, in either order. -/
structure Properties where
  anchor : Option String := none
  tag : Option String := none

/-- Reads the properties of a node. -/
def properties (handles : Handles) (s : State) : Step Properties :=
  match s.tokens with
  | .anchor a :: .tag h t :: rest =>
    (tagName handles h t).map fun n => (⟨some a, some n⟩, { s with tokens := rest })
  | .tag h t :: .anchor a :: rest =>
    (tagName handles h t).map fun n => (⟨some a, some n⟩, { s with tokens := rest })
  | .anchor a :: rest => .ok (⟨some a, none⟩, { s with tokens := rest })
  | .tag h t :: rest =>
    (tagName handles h t).map fun n => (⟨none, some n⟩, { s with tokens := rest })
  | _ => .ok ({}, s)

/-- The written tag of a node, unless it is the mark for no tag in particular. -/
def Properties.particular? (p : Properties) : Option Tag :=
  p.tag.bind fun n => if n = "!" then none else some (.ofName n)

/-- The tag of a scalar. The mark for no tag in particular makes a quoted scalar plain. -/
def Properties.ofScalar (p : Properties) (text : String) (plain : Bool) : Tag :=
  p.particular?.getD (if plain || p.tag.isSome then .ofPlain text else .str)

/-- Gives a node the name by which references know it; names are not used twice. -/
def State.anchor (s : State) (name : Option String) (i : Nat) : Except Unformed State :=
  match name with
  | none => .ok s
  | some a =>
    if s.anchors.any fun p => p.1 == a then .error .malformed
    else .ok { s with anchors := (a, i) :: s.anchors }

/-! ### Trees -/

/-- Kinds of tokens that end a part of a collection without a node. -/
structure Stops where
  item : Bool := false
  key : Bool := false
  value : Bool := false
  blockEnd : Bool := false
  separator : Bool := false
  flowSequenceEnd : Bool := false
  flowMappingEnd : Bool := false

/-- The token is of one of the kinds. -/
def Stops.holds (k : Stops) : Token → Bool
  | .item => k.item
  | .key => k.key
  | .value => k.value
  | .blockEnd => k.blockEnd
  | .separator => k.separator
  | .flowSequenceEnd => k.flowSequenceEnd
  | .flowMappingEnd => k.flowMappingEnd
  | _ => false

/-- Where a node stands: block collections, and sequences without an indentation of their own,
are not possible everywhere. -/
structure Place where
  block : Bool
  unindented : Bool := false

mutual

/-- The number of a node with its properties, or of the node that a reference stands for. -/
def read (handles : Handles) (p : Place) (s : State) : Nat → Step Nat
  | 0 => .error .malformed
  | fuel + 1 =>
    match s.tokens with
    | [] => .error .cutShort
    | .reference a :: _ =>
      match s.anchors.find? fun q => q.1 == a with
      | some q => .ok (q.2, s.drop)
      | none => .error .malformed
    | _ =>
      match properties handles s with
      | .error e => .error e
      | .ok (props, s) =>
        let (i, s) := s.add absent
        match s.tokens, s.anchor props.anchor i with
        | [], _ => .error .cutShort
        | _, .error e => .error e
        | _, .ok s =>
          match readBody handles p props s fuel with
          | .error e => .error e
          | .ok (n, s) => .ok (i, s.complete i n)

/-- A node after its properties. -/
def readBody (handles : Handles) (p : Place) (props : Properties) (s : State) : Nat → Step Node
  | 0 => .error .malformed
  | fuel + 1 =>
    let sequence (r : Step (List Nat)) : Step Node :=
      r.map fun r => (⟨props.particular?.getD .seq, .sequence r.1⟩, r.2)
    let mapping (r : Step (List (Nat × Nat))) : Step Node :=
      r.map fun r => (⟨props.particular?.getD .map, .mapping r.1⟩, r.2)
    match s.tokens with
    | [] => .error .cutShort
    | .scalar text plain :: _ => .ok (⟨props.ofScalar text plain, .scalar text⟩, s.drop)
    | .flowSequence :: _ => sequence (readFlowItems handles true [] s.drop fuel)
    | .flowMapping :: _ => mapping (readFlowFields handles true [] s.drop fuel)
    | t :: _ =>
      match t, p.block, p.unindented with
      | .item, _, true => sequence (readUnindented handles [] s fuel)
      | .blockSequence, true, _ => sequence (readItems handles [] s.drop fuel)
      | .blockMapping, true, _ => mapping (readFields handles [] s.drop fuel)
      | _, _, _ =>
        if props.anchor.isSome || props.tag.isSome then .ok (⟨props.ofScalar "" true, .scalar ""⟩, s)
        else .error .malformed

/-- A node, or nothing before one of the given tokens. -/
def readUnless (handles : Handles) (stops : Stops) (p : Place) (s : State) : Nat → Step Nat
  | 0 => .error .malformed
  | fuel + 1 =>
    match s.tokens with
    | [] => .error .cutShort
    | t :: _ => if stops.holds t then .ok (s.add absent) else read handles p s fuel

/-- The items of a block sequence. -/
def readItems (handles : Handles) (done : List Nat) (s : State) : Nat → Step (List Nat)
  | 0 => .error .malformed
  | fuel + 1 =>
    match s.tokens with
    | [] => .error .cutShort
    | .item :: _ =>
      match readUnless handles { item := true, blockEnd := true } ⟨true, false⟩ s.drop fuel with
      | .error e => .error e
      | .ok (n, s) => readItems handles (n :: done) s fuel
    | .blockEnd :: _ => .ok (done.reverse, s.drop)
    | _ => .error .malformed

/-- The items of a sequence that is indented like the mapping it stands in. -/
def readUnindented (handles : Handles) (done : List Nat) (s : State) : Nat → Step (List Nat)
  | 0 => .error .malformed
  | fuel + 1 =>
    match s.tokens with
    | [] => .error .cutShort
    | .item :: _ =>
      let stops : Stops := { item := true, key := true, value := true, blockEnd := true }
      match readUnless handles stops ⟨true, false⟩ s.drop fuel with
      | .error e => .error e
      | .ok (n, s) => readUnindented handles (n :: done) s fuel
    | _ => .ok (done.reverse, s)

/-- The value of a field, if its mark comes next. -/
def readValue (handles : Handles) (stops : Stops) (p : Place) (s : State) : Nat → Step Nat
  | 0 => .error .malformed
  | fuel + 1 =>
    match s.tokens with
    | [] => .error .cutShort
    | .value :: _ => readUnless handles stops p s.drop fuel
    | _ => .ok (s.add absent)

/-- The fields of a block mapping. -/
def readFields (handles : Handles) (done : List (Nat × Nat)) (s : State) :
    Nat → Step (List (Nat × Nat))
  | 0 => .error .malformed
  | fuel + 1 =>
    let stops : Stops := { key := true, value := true, blockEnd := true }
    match s.tokens with
    | [] => .error .cutShort
    | .key :: _ =>
      match readUnless handles stops ⟨true, true⟩ s.drop fuel with
      | .error e => .error e
      | .ok (k, s) =>
        match readValue handles stops ⟨true, true⟩ s fuel with
        | .error e => .error e
        | .ok (v, s) => readFields handles ((k, v) :: done) s fuel
    | .blockEnd :: _ => .ok (done.reverse, s.drop)
    | _ => .error .malformed

/-- The items of a sequence in brackets. A key among them starts a mapping of one field. -/
def readFlowItems (handles : Handles) (first : Bool) (done : List Nat) (s : State) :
    Nat → Step (List Nat)
  | 0 => .error .malformed
  | fuel + 1 =>
    let stops : Stops := { separator := true, flowSequenceEnd := true }
    match s.tokens with
    | [] => .error .cutShort
    | .flowSequenceEnd :: _ => .ok (done.reverse, s.drop)
    | t :: _ =>
      if !first && !({ separator := true : Stops }).holds t then .error .malformed
      else
        let s := if first then s else s.drop
        match s.tokens with
        | [] => .error .cutShort
        | .flowSequenceEnd :: _ => .ok (done.reverse, s.drop)
        | .key :: _ =>
          match readUnless handles { stops with value := true } ⟨false, false⟩ s.drop fuel with
          | .error e => .error e
          | .ok (k, s) =>
            match readValue handles stops ⟨false, false⟩ s fuel with
            | .error e => .error e
            | .ok (v, s) =>
              let (i, s) := s.add ⟨.map, .mapping [(k, v)]⟩
              readFlowItems handles false (i :: done) s fuel
        | _ =>
          match read handles ⟨false, false⟩ s fuel with
          | .error e => .error e
          | .ok (n, s) => readFlowItems handles false (n :: done) s fuel

/-- The fields of a mapping in braces. A node without the mark of a key has no value. -/
def readFlowFields (handles : Handles) (first : Bool) (done : List (Nat × Nat)) (s : State) :
    Nat → Step (List (Nat × Nat))
  | 0 => .error .malformed
  | fuel + 1 =>
    let stops : Stops := { separator := true, flowMappingEnd := true }
    match s.tokens with
    | [] => .error .cutShort
    | .flowMappingEnd :: _ => .ok (done.reverse, s.drop)
    | t :: _ =>
      if !first && !({ separator := true : Stops }).holds t then .error .malformed
      else
        let s := if first then s else s.drop
        match s.tokens with
        | [] => .error .cutShort
        | .flowMappingEnd :: _ => .ok (done.reverse, s.drop)
        | .key :: _ =>
          match readUnless handles { stops with value := true } ⟨false, false⟩ s.drop fuel with
          | .error e => .error e
          | .ok (k, s) =>
            match readValue handles stops ⟨false, false⟩ s fuel with
            | .error e => .error e
            | .ok (v, s) => readFlowFields handles false ((k, v) :: done) s fuel
        | _ =>
          match read handles ⟨false, false⟩ s fuel with
          | .error e => .error e
          | .ok (n, s) =>
            let (i, s) := s.add absent
            readFlowFields handles false ((n, i) :: done) s fuel

end

/-! ### Documents -/

/-- The handles that directives declare, each one once, and at most one version, which is the
first. -/
def readDirectives (versioned : Bool) (handles : Handles) :
    List Token → Except Unformed (Handles × List Token)
  | .directive d :: rest =>
    match d with
    | .version major =>
      if versioned || major ≠ 1 then .error .malformed else readDirectives true handles rest
    | .handle h expansion =>
      if handles.any fun p => p.1 == h then .error .malformed
      else readDirectives versioned ((h, expansion) :: handles) rest
    | .other => readDirectives versioned handles rest
  | tokens => .ok (handles, tokens)

/-- The node of a document after its mark; there may be none. -/
def readContent (handles : Handles) (fuel : Nat) : List Token → Step Nat
  | [] => .error .cutShort
  | t :: rest =>
    let s : State := { tokens := t :: rest }
    match t with
    | .directive _ => .ok (s.add absent)
    | .documentStart => .ok (s.add absent)
    | .documentEnd => .ok (s.add absent)
    | .streamEnd => .ok (s.add absent)
    | _ => read handles ⟨true, false⟩ s fuel

/-- The tokens behind the marks that end a document. -/
def dropEnds : List Token → List Token
  | .documentEnd :: rest => dropEnds rest
  | tokens => tokens

/-- The first document. -/
def readFirst (fuel : Nat) (tokens : List Token) : Step Nat :=
  let explicit : Step Nat :=
    match readDirectives false [] tokens with
    | .error e => .error e
    | .ok (handles, .documentStart :: rest) => readContent (handles ++ usualHandles) fuel rest
    | .ok (_, []) => .error .cutShort
    | .ok _ => .error .malformed
  match tokens with
  | [] => .error .cutShort
  | .directive _ :: _ => explicit
  | .documentStart :: _ => explicit
  | _ => read usualHandles ⟨true, false⟩ { tokens } fuel

end Node

namespace Document

/-- A document without content. -/
def absent : Document := ⟨#[Node.absent], 0⟩

/-- The only document of a text; a text without one has null. -/
def ofTokens (tokens : List Token) : Except Node.Unformed Document :=
  match tokens with
  | [.streamEnd] => .ok absent
  | _ =>
    match Node.readFirst (4 * tokens.length + 16) tokens with
    | .error e => .error e
    | .ok (root, s) =>
      match Node.dropEnds s.tokens with
      | [] => .error .cutShort
      | [.streamEnd] => .ok ⟨s.nodes, root⟩
      | tokens =>
        match Node.readDirectives false [] tokens with
        | .ok (_, []) => .error .cutShort
        | _ => .error .malformed

/-- The document of a text that ends, or is cut short for a reason. -/
def ofText (text : List Char) (cut : Option Stop := none) : Except Stop Document :=
  let found := scan text cut
  match ofTokens found.tokens with
  | .ok d => .ok d
  | .error .malformed => .error .malformed
  | .error .cutShort => .error (found.stop.getD .malformed)

end Document

end Reroll.Yaml
