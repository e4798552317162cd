/-!
# Decimal 64-bit integers

Reading a signed 64-bit integer from text:

1. An optional `+` or `-`, then ASCII digits only; a sign alone is an invalid digit, and the
   empty text is refused on its own.
2. Digits are taken from left to right. At each character, a non-digit is reported first;
   otherwise the value read so far, times ten plus or minus the digit, must stay within
   `-2^63 … 2^63 - 1`, and leaving that range is an overflow in the direction of the sign.

So the first fault met from the left decides the error: `12x99999999999999999999` has an
invalid digit, `99999999999999999999x` is too large.
-/

namespace QueryCompiler

/-- The least signed 64-bit integer. -/
def int64Min : Int := -9223372036854775808

/-- The greatest signed 64-bit integer. -/
def int64Max : Int := 9223372036854775807

/-- Why a text is not a signed 64-bit integer. -/
inductive IntError where
  | empty
  | invalidDigit
  | posOverflow
  | negOverflow
  deriving DecidableEq, Repr

/-- The wording of each reason. -/
def IntError.message : IntError → String
  | .empty => "cannot parse integer from empty string"
  | .invalidDigit => "invalid digit found in string"
  | .posOverflow => "number too large to fit in target type"
  | .negOverflow => "number too small to fit in target type"

/-- The value of an ASCII digit. -/
def digitValue (c : Char) : Nat := c.toNat - '0'.toNat

/-- Take the digits `cs` onto `acc`, away from zero in the direction `neg` gives. -/
def accumulateDigits (neg : Bool) (acc : Int) : List Char → Except IntError Int
  | [] => .ok acc
  | c :: cs =>
    if c.isDigit then
      let next := if neg then acc * 10 - digitValue c else acc * 10 + digitValue c
      if next < int64Min then .error .negOverflow
      else if int64Max < next then .error .posOverflow
      else accumulateDigits neg next cs
    else .error .invalidDigit

/-- Read a signed 64-bit integer. -/
def readInt64 (s : String) : Except IntError Int :=
  match s.toList with
  | [] => .error .empty
  | ['+'] => .error .invalidDigit
  | ['-'] => .error .invalidDigit
  | '+' :: cs => accumulateDigits false 0 cs
  | '-' :: cs => accumulateDigits true 0 cs
  | cs => accumulateDigits false 0 cs

/-- Clamp an integer into the signed 64-bit range, as saturating arithmetic does. -/
def saturate (n : Int) : Int := max int64Min (min int64Max n)

end QueryCompiler
