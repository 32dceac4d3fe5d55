/-!
# Ratios of Naturals

The exact numbers that lie between a decimal text and a binary word: quotients of naturals with
powers of two and ten, their rounding, and the power below them.
-/

namespace MailFilter.Numeric

/-- A quotient of naturals. -/
structure Ratio where
  num : Nat
  den : Nat
deriving DecidableEq, Repr

namespace Ratio

/-- A natural times a power. -/
def scaled (base n : Nat) (exponent : Int) : Ratio :=
  if 0 ≤ exponent then ⟨n * Nat.pow base exponent.toNat, 1⟩ else ⟨n, Nat.pow base (-exponent).toNat⟩

/-- Whether `a` is at most `b`. -/
def le (a b : Ratio) : Bool := a.num * b.den ≤ b.num * a.den

/-- The quotient of two ratios. -/
def quotient (a b : Ratio) : Ratio := ⟨a.num * b.den, a.den * b.num⟩

/-- The sum of two ratios. -/
def plus (a b : Ratio) : Ratio := ⟨a.num * b.den + b.num * a.den, a.den * b.den⟩

/-- The whole part. -/
def floor (a : Ratio) : Nat := a.num / a.den

/-- The distance between two ratios. -/
def distance (a b : Ratio) : Ratio :=
  let x := a.num * b.den
  let y := b.num * a.den
  ⟨max x y - min x y, a.den * b.den⟩

/-- The nearest natural, the even one of two. -/
def roundEven (a : Ratio) : Nat :=
  let q := a.num / a.den
  let r := a.num % a.den
  if 2 * r < a.den then q
  else if a.den < 2 * r then q + 1
  else if q % 2 = 0 then q
  else q + 1

/-- The nearest natural, the greater one of two. -/
def roundUp (a : Ratio) : Nat := (2 * a.num + a.den) / (2 * a.den)

/-- The power of a base at or below a ratio, given a power that is at most one too high or one too
low. -/
def powerBelow (base : Nat) (a : Ratio) (guess : Int) : Int :=
  if (scaled base 1 (guess + 1)).le a then guess + 1
  else if (scaled base 1 guess).le a then guess
  else guess - 1

end Ratio

end MailFilter.Numeric
