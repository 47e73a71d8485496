/-
  TreeSift.Document.Pieces — a text that is read piece by piece.

  A text that comes out of a stream is looked at as far as it has come. What is wrong with
  the beginning of a text is found before what is wrong with the next piece: a character
  that may not stand in a text, or bytes that are no text at all.

    §1 Pieces  `wholePieces`
    §2 Faults  `tokensBefore`, `faultBefore`, `faultOfPart`
    §3 Texts   `readByPieces`
-/
import TreeSift.Document.Basic

namespace TreeSift.Document

/-! ## §1 Pieces -/

/-- The number of characters in a piece. -/
def pieceSize : Nat := 4096

/-- How many of some characters are in whole pieces; the first two pieces come together. -/
def wholePieces (n : Nat) : Nat :=
  let whole := n / pieceSize * pieceSize
  if whole < 2 * pieceSize then 0 else whole

/-! ## §2 Faults -/

/-- The tokens of the beginning of a text, as far as it has come in whole pieces. -/
def tokensBefore (part : List Char) : List Token :=
  tokensOfPart (part.take (wholePieces part.length))

/-- What is wrong with the beginning of a text, as far as it can be told. -/
def faultBefore (part : List Char) : Option Fault :=
  match Node.ofTokens (tokensBefore part) with
  | .ok _ => none
  | .error .ended => none
  | .error f => some f

/-- What is wrong with the beginning of a text in which there may be characters that may
not stand there. -/
def faultOfPart (part : List Char) : Option Fault :=
  let known := part.takeWhile isAllowed
  (faultBefore known).or (if known.length < wholePieces part.length then some .malformed else none)

/-! ## §3 Texts -/

/-- The value that a text out of a stream holds. -/
def readByPieces (text : String) : Except Fault Value :=
  if text.toList.all isAllowed then read text
  else .error ((faultBefore (text.toList.takeWhile isAllowed)).getD .malformed)

end TreeSift.Document
