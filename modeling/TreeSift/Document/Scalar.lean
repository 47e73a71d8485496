/-
  TreeSift.Document.Scalar — the value of a text that is said to be something.

  What a text has to be is said by its tag. Not every text that looks like a number or
  a date has a value, and a tag may stand before any text.

    §1 Truth values  `truthOf`
    §2 Numbers       `integerOf`, `realOf`
    §3 Others        `momentOf`, `bytesOf`
    §4 Scalars       `scalarOf`
-/
import TreeSift.Decimal.Based
import TreeSift.Decimal.Real
import TreeSift.Document.Plain
import TreeSift.Document.Token
import TreeSift.Document.Value
import TreeSift.Text.Base64
import TreeSift.Text.Lower

namespace TreeSift.Document

/-! ## §1 Truth values -/

/-- The truth value of a word, in which case does not count. -/
def truthOf (s : String) : Except ScalarFault Bool :=
  let word := Text.lower s
  match truthWords.find? fun w => w.1 = word with
  | some (_, b) => .ok b
  | none => .error (.noTruth word)

/-! ## §2 Numbers -/

/-- A text without underscores. -/
def withoutUnderscores (s : List Char) : List Char := s.filter (· ≠ '_')

/-- What follows the sign of a number, and whether it is a minus; there has to be a
character. -/
def afterSign (s : List Char) : Except ScalarFault (Bool × List Char) :=
  if s.isEmpty then .error .nothing else .ok (Decimal.readSign s)

/-- The whole number of a base that a text writes. -/
def basedOf (base : Nat) (s : List Char) : Except ScalarFault Int :=
  (Decimal.readBased base s).mapError .noValue

/-- The whole number that a text writes whose sign has been read. -/
def magnitudeOf (s : List Char) : Except ScalarFault Int :=
  match s with
  | [] => .error .nothing
  | ['0'] => .ok 0
  | '0' :: 'b' :: rest => basedOf 2 rest
  | '0' :: 'x' :: rest => basedOf 16 rest
  | '0' :: _ => basedOf 8 s
  | _ =>
    if s.contains ':' then do
      let digits ← (Text.pieces ':' s).mapM (basedOf 10)
      return digits.foldl (fun n d => 60 * n + d) 0
    else basedOf 10 s

/-- The whole number that a text writes. -/
def integerOf (s : String) : Except ScalarFault Int := do
  let (negative, rest) ← afterSign (withoutUnderscores s.toList)
  let n ← magnitudeOf rest
  return if negative then -n else n

/-- The number that a text writes. -/
def decimalOf (s : List Char) : Except ScalarFault Binary64 :=
  let text := String.ofList s
  match Decimal.readReal text with
  | some x => .ok x
  | none => .error (.noValue ("could not convert string to float: " ++ Text.quoted text))

/-- A number in base sixty; the weights of its digits have to be numbers, too. -/
def sexagesimal (digits : List Binary64) : Except ScalarFault Binary64 :=
  let weights := (List.range digits.length).map fun i => Binary64.ofInt (Nat.pow 60 i)
  if weights.any fun w => w == .infinite false then
    .error (.tooLarge "int too large to convert to float")
  else
    let terms := (digits.reverse.zip weights).map fun d => d.1.mul d.2
    .ok (terms.foldl Binary64.add (.zero false))

/-- The number with a fraction that a text writes in lower case whose sign has been read. -/
def amountOf (s : List Char) : Except ScalarFault Binary64 :=
  if s = ".inf".toList then .ok (.infinite false)
  else if s = ".nan".toList then .ok .nan
  else if s.contains ':' then do sexagesimal (← (Text.pieces ':' s).mapM decimalOf)
  else decimalOf s

/-- The number with a fraction that a text writes. -/
def realOf (s : String) : Except ScalarFault Binary64 := do
  let lowered := Text.lower (String.ofList (withoutUnderscores s.toList))
  let (negative, rest) ← afterSign lowered.toList
  let x ← amountOf rest
  return if negative then x.neg else x

/-! ## §3 Others -/

/-- The date that a text writes. -/
def momentOf (s : String) : Except ScalarFault Moment :=
  match Moment.parts? (withoutBreak s.toList) with
  | none => .error .noDate
  | some m =>
    match m.fault? with
    | some message => .error (.noValue message)
    | none => .ok m

/-- The bytes that a text writes. -/
def bytesOf (s : String) : Except Fault (List UInt8) :=
  if s.toList.all fun c => c.toNat < 0x80 then
    match Text.decode64 s.toList with
    | some bs => .ok bs
    | none => .error .malformed
  else .error .malformed

/-! ## §4 Scalars -/

/-- The scalar of a text with a tag. -/
def scalarOf (tag : Tag) (text : String) : Except Fault Scalar :=
  match tag with
  | .null => .ok .null
  | .flag => ((truthOf text).map .flag).mapError .badScalar
  | .int => ((integerOf text).map .int).mapError .badScalar
  | .real => ((realOf text).map .real).mapError .badScalar
  | .bytes => (bytesOf text).map .bytes
  | .moment => ((momentOf text).map .moment).mapError .badScalar
  | .text => .ok (.text text)
  | _ => .error .malformed

end TreeSift.Document
