/-
  TreeSift.Encoding.Parts — UTF-8 that is decoded part by part.

  A file that is read as a stream of text is decoded in parts. A character that is cut off
  at the end of a part waits for the next one, and so does a carriage return, before which
  it is not known whether a line feed follows. Where a part is not UTF-8, the position of
  the fault counts from where the part begins, and the text before the part has been given
  out.

    §1 Parts    `PartReader`, `PartReader.step`
    §2 Reading  `Encoding.decodeByParts`
-/
import TreeSift.Encoding
import TreeSift.Text.Line

namespace TreeSift

namespace Encoding

/-! ## §1 Parts -/

/-- The number of characters that are asked for at a time. -/
def portion : Nat := 4096

/-- The least number of bytes that are read at a time. -/
def leastPart : Nat := 8192

/-- How far a reader of parts has come. -/
structure PartReader where
  /-- The number of bytes read. -/
  count : Nat
  /-- The number of bytes decoded. -/
  decoded : Nat
  /-- The number of characters given out. -/
  given : Nat
  /-- The number of bytes in the last part, and of characters given out for it. -/
  last : Nat × Nat
  /-- Whether a carriage return waits. -/
  waits : Bool

/-- A fault in a part, with the text before the part that has been given out. -/
structure PartFault where
  fault : DecodingFault
  before : List Char
  deriving DecidableEq, Repr

namespace PartReader

/-- The reader before the first part. -/
def start : PartReader := ⟨0, 0, 0, (0, 0), false⟩

/-- The number of bytes in the next part, by the number of characters that are still asked
for and the number of bytes that characters took last. -/
def size (r : PartReader) : Nat :=
  max leastPart ((portion - r.given % portion) * r.last.1 / r.last.2)

/-- The fault that is reported of a part, and the number of bytes before it that are
characters; in a part that is not the last one a character that is cut off is no fault. -/
def faultIn (part : ByteArray) (isLast : Bool) : Except DecodingFault Nat :=
  match utf8FaultFrom part part.size 0 with
  | none => .ok part.size
  | some f =>
    let isCutOff := f.reason == "unexpected end of data"
      || (f.byte == 0xED && f.first + 2 == part.size && isTail (byteAt part (f.first + 1)))
    if isCutOff && !isLast then .ok f.first else .error f

/-- The characters that are given out for others after a carriage return that may have
waited, and whether one waits again. -/
def giveOut (waits : Bool) (cs : List Char) (isLast : Bool) : List Char × Bool :=
  let cs := if waits && (isLast || !cs.isEmpty) then '\r' :: cs else cs
  if cs.getLast? = some '\r' && !isLast then (Text.plainBreaksFrom [] cs.dropLast, true)
  else (Text.plainBreaksFrom [] cs, waits && cs.isEmpty && !isLast)

/-- Decodes the next part. -/
def step (b : ByteArray) (r : PartReader) : Except DecodingFault PartReader := do
  let stop := min (r.count + r.size) b.size
  let isLast := r.count == b.size
  let part := b.extract r.decoded stop
  let length ← faultIn part isLast
  let text := ((String.fromUTF8? (part.extract 0 length)).getD "").toList
  let (out, waits) := giveOut r.waits text isLast
  return ⟨stop, r.decoded + length, r.given + out.length, (stop - r.count, out.length), waits⟩

/-- Decodes parts as far as the first fault. -/
def run (b : ByteArray) : Nat → PartReader → Option (DecodingFault × PartReader)
  | 0, _ => none
  | steps + 1, r =>
    match r.step b with
    | .error f => some (f, r)
    | .ok next => if r.count == b.size then none else run b steps next

/-- The text that a reader has given out. -/
def textBefore (b : ByteArray) (r : PartReader) : List Char :=
  (Text.plainBreaksFrom [] ((String.fromUTF8? (b.extract 0 r.decoded)).getD "").toList).take r.given

end PartReader

/-! ## §2 Reading -/

/-- The first fault of bytes that are decoded in parts. -/
def partFault (b : ByteArray) : PartFault :=
  match PartReader.start.run b (b.size + 2) with
  | some (f, r) => ⟨f, r.textBefore b⟩
  | none => ⟨utf8Fault b, []⟩

/-- The text that bytes hold in UTF-8, when they are decoded in parts. -/
def decodeByParts (b : ByteArray) : Except PartFault String :=
  match String.fromUTF8? b with
  | some s => .ok s
  | none => .error (partFault b)

end Encoding

end TreeSift
