/-!
# Hexadecimal numbers

Lengths are written in upper-case hexadecimal after `0x`, with as few digits as the number needs;
addresses with exactly sixteen.
-/

namespace HugePool.Text

/-- The upper-case hexadecimal digits of a number, most significant first; `0` has one digit. -/
def hexDigits (n : Nat) : List Char :=
  (Nat.toDigits 16 n).map Char.toUpper

/-- A number as `0x` and its hexadecimal digits. -/
def hex (n : Nat) : String :=
  String.ofList ('0' :: 'x' :: hexDigits n)

/-- A number as `0x` and at least `width` hexadecimal digits, filled with zeros on the left. -/
def hexPadded (width n : Nat) : String :=
  let digits := hexDigits n
  String.ofList ('0' :: 'x' :: (List.replicate (width - digits.length) '0' ++ digits))

example : hex 0 = "0x0" := by cbv

example : hex 0x106440 = "0x106440" := by cbv

example : hexPadded 16 0x7F00_0020_1000 = "0x00007F0000201000" := by cbv

end HugePool.Text
