/-
  TreeSift.Document.Value — what a structured text holds.

  A value is a scalar, a list, a mapping, a set or a pair. Keys of mappings and
  members of sets are scalars, and a key is written once only: writing under it
  again replaces the value. Numbers are the same key when they are equal,
  whichever way they are written, and so are moments in time; a truth value is
  the same key as one or nothing.

    §1 Scalars   `Scalar`, `Scalar.sameKey`
    §2 Values    `Value`, `Value.isTruthy`
    §3 Mappings  `Mapping.get?`, `Mapping.set`
    §4 Display   `Value.shown`
-/
import TreeSift.Decimal.Shortest
import TreeSift.Document.Moment
import TreeSift.Text.Quoted

namespace TreeSift

/-! ## §1 Scalars -/

/-- A value without parts. -/
inductive Scalar where
  | null
  | flag (b : Bool)
  | int (n : Int)
  | real (x : Binary64)
  | text (s : String)
  | bytes (bs : List UInt8)
  /-- A date, perhaps with a time. -/
  | moment (m : Document.Moment)
  deriving DecidableEq, Repr

namespace Scalar

/-- The whole number that a scalar equals. -/
def toInt? : Scalar → Option Int
  | flag b => some (if b then 1 else 0)
  | int n => some n
  | real x => x.toInt?
  | _ => none

/-- What a scalar is as a key: a whole number, an instant, or itself. -/
def keyForm (s : Scalar) : Int ⊕ Int ⊕ Scalar :=
  match s with
  | moment m => (m.instant?).elim (.inr (.inr s)) fun i => .inr (.inl i)
  | _ => (s.toInt?).elim (.inr (.inr s)) .inl

/-- Whether two scalars are the same key. -/
def sameKey (a b : Scalar) : Bool := a.keyForm = b.keyForm

/-- Whether a scalar counts as something. -/
def isTruthy : Scalar → Bool
  | null => false
  | flag b => b
  | int n => n != 0
  | real x => !x.isZero
  | text s => s != ""
  | bytes bs => !bs.isEmpty
  | moment _ => true

/-- A byte as it stands inside quotes of a given kind. -/
def shownByte (quote : Char) (b : UInt8) : List Char :=
  let c := Char.ofNat b.toNat
  if c.toNat < 0x7F then Text.quotedChar quote c else '\\' :: 'x' :: Text.hexDigits 2 c.toNat

/-- A scalar as it is displayed. -/
def shown : Scalar → String
  | null => "None"
  | flag true => "True"
  | flag false => "False"
  | int n => toString n
  | real x => x.shown
  | text s => Text.quoted s
  | bytes bs =>
    let quote := Text.quoteFor (bs.map fun b => Char.ofNat b.toNat)
    String.ofList ('b' :: quote :: bs.flatMap (shownByte quote) ++ [quote])
  | moment m => m.shown

end Scalar

/-! ## §2 Values -/

/-- What a structured text holds. -/
inductive Value where
  | scalar (s : Scalar)
  | list (items : List Value)
  | mapping (entries : List (Scalar × Value))
  | set (members : List Scalar)
  | pair (first second : Value)
  deriving Repr

/-- Values under keys, in the order of their first writing. -/
abbrev Mapping := List (Scalar × Value)

namespace Value

/-- The absent value. -/
def null : Value := scalar .null

instance : Inhabited Value := ⟨null⟩

/-- A text. -/
def text (s : String) : Value := scalar (.text s)

/-- A truth value. -/
def flag (b : Bool) : Value := scalar (.flag b)

/-- Whether a value is the absent one. -/
def isNull : Value → Bool
  | scalar .null => true
  | _ => false

/-- The text that a value is. -/
def toText? : Value → Option String
  | scalar (.text s) => some s
  | _ => none

/-- The entries of a value that is a mapping. -/
def entries : Value → List (Scalar × Value)
  | mapping entries => entries
  | _ => []

/-- Whether a value counts as something. -/
def isTruthy : Value → Bool
  | scalar s => s.isTruthy
  | list items => !items.isEmpty
  | mapping entries => !entries.isEmpty
  | set members => !members.isEmpty
  | pair _ _ => true

/-- The name of the kind of a value. -/
def kindName : Value → String
  | scalar .null => "NoneType"
  | scalar (.flag _) => "bool"
  | scalar (.int _) => "int"
  | scalar (.real _) => "float"
  | scalar (.text _) => "str"
  | scalar (.bytes _) => "bytes"
  | scalar (.moment m) => if m.clock.isSome then "datetime.datetime" else "datetime.date"
  | list _ => "list"
  | mapping _ => "dict"
  | set _ => "set"
  | pair _ _ => "tuple"

end Value

/-! ## §3 Mappings -/

namespace Mapping

/-- The value under a key. -/
def get? (k : Scalar) : Mapping → Option Value
  | [] => none
  | (j, v) :: rest => if j.sameKey k then some v else get? k rest

/-- Writes a value under a key. -/
def set (k : Scalar) (v : Value) : Mapping → Mapping
  | [] => [(k, v)]
  | (j, w) :: rest => if j.sameKey k then (j, v) :: rest else (j, w) :: set k v rest

/-- The mapping that writings, one after the other, lead to. -/
def ofWritings (writings : List (Scalar × Value)) : Mapping :=
  writings.foldl (fun m w => set w.1 w.2 m) []

end Mapping

/-! ## §4 Display -/

namespace Value

mutual

/-- A value as it is displayed. -/
def shown : Value → String
  | scalar s => s.shown
  | list items => "[" ++ ", ".intercalate (shownItems items) ++ "]"
  | mapping entries => "\x7b" ++ ", ".intercalate (shownEntries entries) ++ "\x7d"
  | set [] => "set()"
  | set members => "\x7b" ++ ", ".intercalate (members.map Scalar.shown) ++ "\x7d"
  | pair first second => "(" ++ first.shown ++ ", " ++ second.shown ++ ")"

/-- Values as they are displayed. -/
def shownItems : List Value → List String
  | [] => []
  | v :: rest => v.shown :: shownItems rest

/-- Entries of a mapping as they are displayed. -/
def shownEntries : List (Scalar × Value) → List String
  | [] => []
  | (k, v) :: rest => (k.shown ++ ": " ++ v.shown) :: shownEntries rest

end

end Value

end TreeSift
