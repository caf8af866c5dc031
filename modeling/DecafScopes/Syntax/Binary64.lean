/-!
# Double-precision numbers

A double literal is kept as its sixty-four bits in the IEEE 754 binary
interchange format, so that every bit pattern survives, those of the various
NaNs included.  Comparison is the one that IEEE 754 prescribes for numbers.
-/

set_option autoImplicit false

namespace DecafScopes

/-- A double-precision number, given by its bit pattern. -/
structure Binary64 where
  bits : UInt64
deriving DecidableEq

namespace Binary64

/-- The bit pattern without its first bit, which is the sign. -/
def magnitude (number : Binary64) : UInt64 :=
  number.bits % 0x8000000000000000

/-- Not a number: the exponent is all ones and the significand is not zero. -/
def isNaN (number : Binary64) : Bool :=
  decide (0x7ff0000000000000 < number.magnitude)

/-- One of the two zeros. -/
def isZero (number : Binary64) : Bool :=
  number.magnitude == 0

/-- Numeric equality: a NaN equals nothing, itself included, the two zeros are
equal, and apart from these a number has one bit pattern. -/
def equals (first second : Binary64) : Bool :=
  !first.isNaN && !second.isNaN &&
    (first.bits == second.bits || (first.isZero && second.isZero))

end Binary64

end DecafScopes
