/-
  TreeSift.Document.Plain — what a plain scalar looks like.

  A plain scalar has the form of a truth value, of a number, of a date or of nothing,
  and else it is a text; two forms have a meaning in mappings only. Whole numbers may
  be written in four bases, and whole numbers and others in base sixty with colons;
  underscores within numbers do not count. One line break at the end does not belong
  to the form.

    §1 Tags     `Tag`, `Tag.named`
    §2 Words    `isTruth`, `isNothing`
    §3 Numbers  `isInteger`, `isReal`
    §4 Forms    `Tag.ofPlain`
-/
import TreeSift.Decimal.Integer
import TreeSift.Document.Moment
import TreeSift.Text.Based
import TreeSift.Text.Pieces

namespace TreeSift.Document

/-! ## §1 Tags -/

/-- What a part of a text is said to be, or looks like. -/
inductive Tag where
  | null
  | flag
  | int
  | real
  | bytes
  | moment
  | text
  | list
  | mapping
  | set
  /-- A list of pairs. -/
  | pairs
  /-- The key under which other mappings are taken in. -/
  | merge
  /-- The key for a value of its own. -/
  | default
  /-- Nothing that can be made. -/
  | other
  deriving DecidableEq, Repr

namespace Tag

/-- How the texts of tags start. -/
def start : String := "tag:yaml.org,2002:"

/-- The tags by their texts, without their start. -/
def names : List (String × Tag) := [
  ("null", null), ("bool", flag), ("int", int), ("float", real), ("binary", bytes),
  ("timestamp", moment), ("str", text), ("seq", list), ("map", mapping), ("set", set),
  ("omap", pairs), ("pairs", pairs), ("merge", merge), ("value", default)]

/-- The tag with a text. -/
def named (s : String) : Tag := ((names.find? fun n => start ++ n.1 = s).map Prod.snd).getD other

end Tag

/-! ## §2 Words -/

/-- A word as it may be written: in lower case, with a capital, or in upper case. -/
def inThreeCases (word : String) : List String := [word, word.capitalize, word.toUpper]

/-- The words for true and for false. -/
def truthWords : List (String × Bool) := [
  ("yes", true), ("true", true), ("on", true), ("no", false), ("false", false), ("off", false)]

/-- Whether a text is a word for a truth value. -/
def isTruth (s : String) : Bool := truthWords.any fun w => (inThreeCases w.1).contains s

/-- Whether a text stands for nothing. -/
def isNothing (s : String) : Bool := s = "" || s = "~" || (inThreeCases "null").contains s

/-! ## §3 Numbers -/

/-- Whether a text consists of characters with a property and underscores. -/
def isMadeOf (test : Char → Bool) (s : List Char) : Bool := s.all fun c => c == '_' || test c

/-- Whether a text is a digit with digits and underscores after it. -/
def isDigits (s : List Char) : Bool :=
  match s with
  | [] => false
  | c :: rest => c.isDigit && isMadeOf Char.isDigit rest

/-- Whether a text is a digit of base sixty. -/
def isSixtieth (s : List Char) : Bool :=
  match s with
  | [c] => c.isDigit
  | [c, d] => '0' ≤ c && c ≤ '5' && d.isDigit
  | _ => false

/-- Whether a text without sign has the form of a whole number. -/
def isMagnitude (s : List Char) : Bool :=
  match s with
  | '0' :: 'b' :: rest => !rest.isEmpty && isMadeOf (Text.isDigitIn 2) rest
  | '0' :: 'x' :: rest => !rest.isEmpty && isMadeOf (Text.isDigitIn 16) rest
  | '0' :: rest => isMadeOf (Text.isDigitIn 8) rest
  | _ =>
    match Text.pieces ':' s with
    | first :: rest => isDigits first && rest.all isSixtieth
    | [] => false

/-- Whether a text has the form of a whole number. -/
def isInteger (s : List Char) : Bool := isMagnitude (Decimal.readSign s).2

/-- Whether a text is an exponent with its sign, or nothing. -/
def isExponent (s : List Char) : Bool :=
  match s with
  | [] => true
  | e :: sign :: c :: rest =>
    (e == 'e' || e == 'E') && (sign == '-' || sign == '+') && (c :: rest).all Char.isDigit
  | _ => false

/-- Whether a text has the form of a number with a point. -/
def isReal (s : List Char) : Bool :=
  let rest := (Decimal.readSign s).2
  let isSigned := rest.length < s.length
  let (before, after) := (rest.takeWhile (· ≠ '.'), rest.dropWhile (· ≠ '.'))
  match after with
  | '.' :: fraction =>
    let digits := fraction.takeWhile fun c => c == '_' || c.isDigit
    let exponent := fraction.drop digits.length
    if before.isEmpty then
      ["inf", "Inf", "INF"].contains (String.ofList fraction)
        || (!isSigned && (["nan", "NaN", "NAN"].contains (String.ofList fraction)
          || (isDigits digits && isExponent exponent)))
    else if isDigits before then isExponent exponent
    else
      match Text.pieces ':' before with
      | first :: rest => isDigits first && rest.all isSixtieth && exponent.isEmpty
      | [] => false
  | _ => false

/-! ## §4 Forms -/

/-- Whether a text has the form of a date; without a time, all its digits are there. -/
def isMoment (s : List Char) : Bool :=
  match Moment.parts? s with
  | none => false
  | some m => m.clock.isSome || s.length = 10

/-- A text without the line break at its end, unless it is nothing else. -/
def withoutBreak (s : List Char) : List Char :=
  if s.getLast? = some '\n' && s ≠ ['\n'] then s.dropLast else s

/-- What a plain scalar looks like. -/
def Tag.ofPlain (text : String) : Tag :=
  let s := withoutBreak text.toList
  let word := String.ofList s
  if isTruth word then flag
  else if isReal s then real
  else if isInteger s then int
  else if word = "<<" then merge
  else if isNothing word then null
  else if isMoment s then moment
  else if word = "=" then default
  else if ["!", "&", "*"].contains word then other
  else .text

end TreeSift.Document
