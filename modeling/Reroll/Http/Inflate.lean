/-!
# Unpacking deflated data

Deflated data are blocks of bytes as they are, or of symbols: a symbol is a byte or sends back to
bytes unpacked before. The codes of the symbols are known or stand at the start of their block. Bits
are taken from the lowest of each byte on. Data may end in the middle; what was unpacked by then
counts.
-/

namespace Reroll.Inflate

/-- Why unpacking ends early. -/
inductive Stop where
  | cutShort
  | malformed
  deriving DecidableEq, Repr

/-- How far unpacking has come: the bits taken and the bytes unpacked. -/
structure Progress where
  bit : Nat := 0
  unpacked : ByteArray := .empty

/-- A step of unpacking some data. -/
abbrev Step := ReaderT ByteArray (ExceptT Stop (StateM Progress))

/-- Takes a bit. -/
def bit : Step Nat := do
  let data ← read
  let taken := (← get).bit
  if h : taken / 8 < data.size then
    modify fun p => { p with bit := taken + 1 }
    return data[taken / 8].toNat / Nat.pow 2 (taken % 8) % 2
  else throw .cutShort

/-- Takes a number of so many bits, the lowest one first. -/
def bits : Nat → Step Nat
  | 0 => return 0
  | n + 1 => do
    let low ← bit
    return low + 2 * (← bits n)

/-- Passes over the bits up to the next byte. -/
def align : Step Unit := modify fun p => { p with bit := (p.bit + 7) / 8 * 8 }

/-- Takes a byte. -/
def byte : Step Nat := bits 8

/-- Takes bytes. -/
def bytes : Nat → Step (List Nat)
  | 0 => return []
  | n + 1 => return (← byte) :: (← bytes n)

/-- Takes a number of so many bytes, the lowest one first. -/
def number (size : Nat) : Step Nat :=
  return (← bytes size).foldr (fun b n => b + 256 * n) 0

/-- Unpacks a byte. -/
def put (b : UInt8) : Step Unit := modify fun p => { p with unpacked := p.unpacked.push b }

/-- Ends unless a condition holds. -/
def demand (condition : Bool) : Step Unit := if condition then pure () else throw .malformed

/-! ### Codes -/

/-- A code: how many symbols have a word of each length, and the symbols in the order of their
words. -/
structure Code where
  counts : List Nat
  symbols : Array Nat

/-- The longest word of a code. -/
def longest : Nat := 15

/-- The code in which each symbol has a word of the given length; those without one have none. -/
def Code.ofLengths (lengths : List Nat) : Code where
  counts := (List.range longest).map fun n => (lengths.filter (· == n + 1)).length
  symbols := ((List.range longest).flatMap fun n =>
    (lengths.zipIdx.filter fun l => l.1 == n + 1).map Prod.snd).toArray

/-- The words that are left of each length after those of a code, which are too few if the result
is nothing. -/
def Code.room? (left : Nat) : List Nat → Option Nat
  | [] => some left
  | count :: rest => if 2 * left < count then none else Code.room? (2 * left - count) rest

/-- The lengths make a code: no word is missing, save that a code may have a single word of one
bit, or none at all. -/
def Code.isSound (c : Code) (sparse : Bool) : Bool :=
  c.symbols.isEmpty ||
    match Code.room? 1 c.counts with
    | none => false
    | some left => left = 0 || (sparse && c.symbols.size = 1 && c.counts.head? == some 1)

/-- Takes a symbol. `code` is the word so far, `first` the first word of its length and `index` the
place of its symbol. A word that all symbols are behind of is none. -/
def symbolFrom (symbols : Array Nat) (code first index : Nat) : List Nat → Step Nat
  | [] => throw .malformed
  | count :: rest => do
    let code := code + (← bit)
    if code < first + count then
      match symbols[index + (code - first)]? with
      | some s => return s
      | none => throw .malformed
    else
      demand (index + count < symbols.size)
      symbolFrom symbols (2 * code) (2 * (first + count)) (index + count) rest

/-- Takes a symbol. -/
def symbol (c : Code) : Step Nat := symbolFrom c.symbols 0 0 0 c.counts

/-! ### Blocks -/

/-- The least length that each symbol for a length stands for, and the further bits it has. -/
def lengthTable : Array (Nat × Nat) :=
  #[(3, 0), (4, 0), (5, 0), (6, 0), (7, 0), (8, 0), (9, 0), (10, 0), (11, 1), (13, 1), (15, 1),
    (17, 1), (19, 2), (23, 2), (27, 2), (31, 2), (35, 3), (43, 3), (51, 3), (59, 3), (67, 4),
    (83, 4), (99, 4), (115, 4), (131, 5), (163, 5), (195, 5), (227, 5), (258, 0)]

/-- The least distance that each symbol for a distance stands for, and the further bits it has. -/
def distanceTable : Array (Nat × Nat) :=
  #[(1, 0), (2, 0), (3, 0), (4, 0), (5, 1), (7, 1), (9, 2), (13, 2), (17, 3), (25, 3), (33, 4),
    (49, 4), (65, 5), (97, 5), (129, 6), (193, 6), (257, 7), (385, 7), (513, 8), (769, 8),
    (1025, 9), (1537, 9), (2049, 10), (3073, 10), (4097, 11), (6145, 11), (8193, 12), (12289, 12),
    (16385, 13), (24577, 13)]

/-- Takes the rest of a length or distance. -/
def measure (table : Array (Nat × Nat)) (s : Nat) : Step Nat := do
  match table[s]? with
  | some (least, more) => return least + (← bits more)
  | none => throw .malformed

/-- Unpacks bytes again from a distance back. -/
def repeated (distance : Nat) : Nat → Step Unit
  | 0 => return
  | n + 1 => do
    let p ← get
    if distance ≤ p.unpacked.size then put (p.unpacked.get! (p.unpacked.size - distance))
    else throw .malformed
    repeated distance n

/-- Unpacks the symbols of a block up to its end. Each one takes a bit at least, so as many as there
are bits suffice. -/
def symbols (lengths distances : Code) : Nat → Step Unit
  | 0 => throw .cutShort
  | fuel + 1 => do
    let s ← symbol lengths
    if s < 256 then
      put s.toUInt8
      symbols lengths distances fuel
    else if s = 256 then return
    else
      let length ← measure lengthTable (s - 257)
      let distance ← measure distanceTable (← symbol distances)
      repeated distance length
      symbols lengths distances fuel

/-- Unpacks a block of bytes as they are. -/
def plain : Step Unit := do
  align
  let size ← number 2
  let check ← number 2
  demand (size + check = 0xFFFF)
  for _ in List.range size do
    put (← byte).toUInt8

/-- The code for bytes and lengths that is known. -/
def knownLengths : Code :=
  .ofLengths (List.replicate 144 8 ++ List.replicate 112 9 ++ List.replicate 24 7 ++
    List.replicate 8 8)

/-- The code for distances that is known. Its last two symbols stand for none. -/
def knownDistances : Code := .ofLengths (List.replicate 32 5)

/-- The order in which the lengths of the code for lengths are given. -/
def lengthOrder : List Nat := [16, 17, 18, 0, 8, 7, 9, 6, 10, 5, 11, 4, 12, 3, 13, 2, 14, 1, 15]

/-- Takes so many lengths of words, of which the latest comes first. A length may be repeated. A code
without symbols gives a zero for each bit. -/
def wordLengths (c : Code) (total : Nat) (done : List Nat) : Nat → Step (List Nat)
  | 0 => return done
  | fuel + 1 => do
    if total ≤ done.length then return done
    let s ← if c.symbols.isEmpty then (fun _ => 0) <$> bit else symbol c
    let more ←
      if s < 16 then pure [s]
      else if s = 16 then
        let size := 3 + (← bits 2)
        match done with
        | [] => throw .malformed
        | last :: _ => pure (List.replicate size last)
      else if s = 17 then pure (List.replicate (3 + (← bits 3)) 0)
      else pure (List.replicate (11 + (← bits 7)) 0)
    demand (done.length + more.length ≤ total)
    wordLengths c total (more ++ done) fuel

/-- Takes the codes at the start of a block. -/
def codes : Step (Code × Code) := do
  let literals := 257 + (← bits 5)
  let distances := 1 + (← bits 5)
  let given := 4 + (← bits 4)
  demand (literals ≤ 286 && distances ≤ 30)
  let found ← (lengthOrder.take given).mapM fun s => return (s, ← bits 3)
  let c := Code.ofLengths ((List.range 19).map fun s => (found.lookup s).getD 0)
  demand (c.isSound false)
  let all := (← wordLengths c (literals + distances) [] (literals + distances)).reverse
  let first := Code.ofLengths (all.take literals)
  let second := Code.ofLengths (all.drop literals)
  demand (all[256]?.any (· != 0) && first.isSound true && second.isSound true)
  return (first, second)

/-- Unpacks a block; gives whether it is the last one. -/
def block : Step Bool := do
  let last ← bit
  let kind ← bits 2
  let fuel := 8 * (← read).size + 1
  if kind = 0 then plain
  else if kind = 1 then symbols knownLengths knownDistances fuel
  else if kind = 2 then
    let (lengths, distances) ← codes
    symbols lengths distances fuel
  else throw .malformed
  return last = 1

/-- Unpacks blocks up to the last one. Each takes three bits at least. -/
def blocks : Nat → Step Unit
  | 0 => throw .cutShort
  | fuel + 1 => do
    if ← block then return
    blocks fuel

/-- Unpacks deflated data. -/
def deflated : Step Unit := do
  blocks (8 * (← read).size + 1)

/-- What a step unpacks from data: nothing if they are malformed. -/
def run? (s : Step Unit) (data : ByteArray) : Option ByteArray :=
  match s data {} with
  | (.error .malformed, _) => none
  | (_, p) => some p.unpacked

end Reroll.Inflate
