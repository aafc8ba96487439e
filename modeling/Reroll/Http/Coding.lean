import Reroll.Http.Inflate
import Reroll.Text.Lower
import Reroll.Text.Search
import Reroll.Text.Space

/-!
# Content codings

The body of a response may be packed in ways that a header names, the last one outermost. Two ways
of deflating are understood: one with a checksum of 32 bits by polynomial division, the other with
sums of bytes or with no wrapping at all. Codings of other names are left alone.
-/

namespace Reroll.Http.Coding

open Inflate (Step)

/-- A remainder after division by one more bit. -/
def dividedOnce (n : Nat) : Nat := if n % 2 = 1 then n / 2 ^^^ 0xEDB88320 else n / 2

/-- The remainders of all bytes. -/
def remainders : Array Nat :=
  ((List.range 256).map fun b => (List.range 8).foldl (fun n _ => dividedOnce n) b).toArray

/-- A checksum by polynomial division. -/
def remainderSum (data : ByteArray) : Nat :=
  let last := data.foldl
    (fun n b => remainders.getD ((n ^^^ b.toNat) % 256) 0 ^^^ n / 256) 0xFFFFFFFF
  last ^^^ 0xFFFFFFFF

/-- A checksum of the sum of the bytes and the sum of those sums. -/
def runningSum (data : ByteArray) : Nat :=
  let (a, b) := data.foldl
    (fun (s : Nat × Nat) b =>
      let a := (s.1 + b.toNat) % 65521
      (a, (s.2 + a) % 65521))
    (1, 0)
  b * 65536 + a

/-- Passes over bytes up to a zero. -/
def skipText : Nat → Step Unit
  | 0 => throw .cutShort
  | fuel + 1 => do
    if (← Inflate.byte) = 0 then return
    skipText fuel

/-- The bit of a number at a place. -/
def bitOf (n place : Nat) : Bool := n / Nat.pow 2 place % 2 = 1

/-- Takes the header in front of deflated data with a checksum by division. -/
def zippedHeader : Step Unit := do
  let fuel := (← read).size + 1
  Inflate.demand ((← Inflate.bytes 2) = [0x1F, 0x8B])
  Inflate.demand ((← Inflate.byte) = 8)
  let flags ← Inflate.byte
  Inflate.demand (flags < 32)
  discard (Inflate.bytes 6)
  if bitOf flags 2 then discard (Inflate.bytes (← Inflate.number 2))
  if bitOf flags 3 then skipText fuel
  if bitOf flags 4 then skipText fuel
  if bitOf flags 1 then
    let size := (← get).bit / 8
    let check ← Inflate.number 2
    Inflate.demand (check = remainderSum ((← read).extract 0 size) % 65536)

/-- Unpacks data with a checksum by division. -/
def zipped : Step Unit := do
  zippedHeader
  Inflate.deflated
  Inflate.align
  let sum ← Inflate.number 4
  Inflate.demand (sum = remainderSum (← get).unpacked)
  let size ← Inflate.number 4
  Inflate.demand (size = (← get).unpacked.size % Nat.pow 2 32)

/-- Unpacks data with a checksum of sums. -/
def summed : Step Unit := do
  let method ← Inflate.byte
  let flags ← Inflate.byte
  Inflate.demand ((method * 256 + flags) % 31 = 0 && method % 16 = 8 && method / 16 ≤ 7)
  if bitOf flags 5 then
    discard (Inflate.bytes 4)
    Inflate.demand false
  Inflate.deflated
  Inflate.align
  let sum ← Inflate.bytes 4
  Inflate.demand (sum.foldl (fun n b => 256 * n + b) 0 = runningSum (← get).unpacked)

/-- Unpacks a body in the way of a coding; nothing comes of a malformed one. An empty body needs no
unpacking. -/
def unpack? (coding : String) (body : ByteArray) : Option ByteArray :=
  if body.isEmpty then some body
  else if coding = "gzip" then Inflate.run? zipped body
  else if coding = "deflate" then
    (Inflate.run? summed body).orElse fun _ => Inflate.run? Inflate.deflated body
  else some body

/-- The names of codings in headers, in their order. -/
def namesIn (values : List String) : List String :=
  (values.flatMap fun v => Text.splitOn [','] v.toList).map fun name =>
    String.ofList (Text.lower (Text.strip name))

/-- Unpacks a body from all its codings. -/
def unpackAll? (codings : List String) (body : ByteArray) : Option ByteArray :=
  codings.reverse.foldlM (fun body coding => unpack? coding body) body

end Reroll.Http.Coding
