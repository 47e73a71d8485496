/-
  TreeSift.Text.Base64 — bytes written with sixty-four characters.

  Four characters write three bytes, six bits each. Characters that are no digits do not
  count; equals signs fill a group of four that ends early and end the text with it.

    §1 Digits   `sixtyFourth?`
    §2 Reading  `decode64`
-/

namespace TreeSift.Text

/-! ## §1 Digits -/

/-- The digits of base sixty-four. -/
def sixtyFourths : List Char :=
  "ABCDEFGHIJKLMNOPQRSTUVWXYZabcdefghijklmnopqrstuvwxyz0123456789+/".toList

/-- The value of a digit of base sixty-four. -/
def sixtyFourth? (c : Char) : Option Nat := sixtyFourths.findIdx? (· == c)

/-! ## §2 Reading -/

/-- The bytes that the rest of a text writes: `place` digits of a group of four have been
read, `bits` are those that have not gone into a byte, and `signs` equals signs follow. -/
def decode64From (place bits signs : Nat) : List Char → Option (List UInt8)
  | [] => if place = 0 then some [] else none
  | c :: rest =>
    if c = '=' then
      if place < 2 then decode64From place bits signs rest
      else if 3 ≤ place + signs then some []
      else decode64From place bits (signs + 1) rest
    else
      match sixtyFourth? c with
      | none => decode64From place bits signs rest
      | some d =>
        match place with
        | 0 => decode64From 1 d 0 rest
        | 1 => (decode64From 2 (d % 16) 0 rest).map ((4 * bits + d / 16).toUInt8 :: ·)
        | 2 => (decode64From 3 (d % 4) 0 rest).map ((16 * bits + d / 4).toUInt8 :: ·)
        | _ => (decode64From 0 0 0 rest).map ((64 * bits + d).toUInt8 :: ·)

/-- The bytes that a text writes. -/
def decode64 (s : List Char) : Option (List UInt8) := decode64From 0 0 0 s

end TreeSift.Text
