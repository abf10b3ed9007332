import CollabEditor.Foundation.FloatFormat
import CollabEditor.Foundation.Horner
import CollabEditor.Frontend.MarkdownYjsSession

/-! # Strings and numbers of JavaScript

Strings by their code units, the finite numbers that are not negative as rational numbers, and
the built-in functions the markdown extensions use.
-/

namespace CollabEditor.Frontend

open Foundation

/-- The code unit of a character of the basic plane. -/
def unit (c : Char) : Fin (2 ^ 16) := ⟨c.toNat % 2 ^ 16, Nat.mod_lt _ (by decide)⟩

/-- A literal without supplementary characters. -/
def units (literal : String) : Text := literal.toList.map unit

/-- White space and line terminators. -/
def isWhiteSpace (u : Fin (2 ^ 16)) : Bool :=
  (9 ≤ u.val && u.val ≤ 13) || u.val = 0x20 || u.val = 0xA0 || u.val = 0x1680 ||
    (0x2000 ≤ u.val && u.val ≤ 0x200A) || u.val = 0x2028 || u.val = 0x2029 || u.val = 0x202F ||
    u.val = 0x205F || u.val = 0x3000 || u.val = 0xFEFF

/-- `String.prototype.trim`. -/
def trim (text : Text) : Text :=
  ((text.dropWhile isWhiteSpace).reverse.dropWhile isWhiteSpace).reverse

/-- `replaceAll` with a pattern of one code unit and a replacement without `$`. -/
def replaceAll (pattern : Char) (replacement : String) (text : Text) : Text :=
  text.flatMap fun u => if u = unit pattern then units replacement else [u]

def isDigit (u : Fin (2 ^ 16)) : Bool := (unit '0').val ≤ u.val && u.val ≤ (unit '9').val

/-! ## Numbers -/

/-- The value of decimal digits with a fraction. -/
def decimalValue (whole fraction : Text) : ℚ :=
  horner 10 ((whole ++ fraction).map fun u => ((u.val - (unit '0').val : ℕ) : ℚ)) /
    10 ^ fraction.length

/-- `Number` of decimal digits; `none` for `Infinity`. -/
def toNumber (value : ℚ) : Option ℚ := FloatFormat.binary64.round value

/-- The decimal with `count` digits and `exponent` digits before the point that stands for a
number, if there is one. -/
def decimalDigits (value : ℚ) (count : ℕ) (exponent : ℤ) : Option ℕ :=
  let scaled := value / 10 ^ (exponent - count)
  let candidates : List ℤ := [roundHalfEven scaled, ⌊scaled⌋, ⌊scaled⌋ + 1]
  (candidates.find? fun digits : ℤ =>
    10 ^ (count - 1) ≤ digits && digits < 10 ^ count &&
      toNumber ((digits : ℚ) * 10 ^ (exponent - count)) = some value).map Int.toNat

/-- The shortest decimal that stands for a number: its length, its exponent and its digits. -/
def shortestDecimal (value : ℚ) : Option (ℕ × ℤ × ℕ) :=
  (List.range' 1 17).findSome? fun count =>
    [Int.log 10 value + 1, Int.log 10 value + 2].findSome? fun exponent =>
      (decimalDigits value count exponent).map fun digits => (count, exponent, digits)

/-- `Number::toString` of a positive finite number. -/
def numberToString (value : ℚ) : Text :=
  match shortestDecimal value with
  | none => []
  | some (count, exponent, digits) =>
      let text := units (toString digits)
      if count ≤ exponent ∧ exponent ≤ 21 then
        text ++ List.replicate (exponent - count).toNat (unit '0')
      else if 0 < exponent ∧ exponent ≤ 21 then
        text.take exponent.toNat ++ units "." ++ text.drop exponent.toNat
      else if -6 < exponent ∧ exponent ≤ 0 then
        units "0." ++ List.replicate (-exponent).toNat (unit '0') ++ text
      else
        text.take 1 ++ (if count = 1 then [] else units "." ++ text.drop 1) ++
          (if 0 < exponent then units "e+" else units "e-") ++
            units (toString (exponent - 1).natAbs)

/-- The string of a product with 100. -/
def percentString (scale : ℚ) : Text :=
  match toNumber (scale * 100) with
  | none => units "Infinity"
  | some percent => numberToString percent

end CollabEditor.Frontend
