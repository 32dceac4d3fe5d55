import MailFilter.Unicode.CaseData

/-!
# Simple Case Folding

Two code points are equal up to case when they fold to the same one. The orbit of a code point
holds everything that is equal to it up to case.
-/

namespace MailFilter.Unicode

/-- The simple case folding of a code point. -/
def fold (n : Nat) : Nat := (foldingRuns.findSome? (·.image? n)).getD n

/-- The code points that are equal to `n` up to case. -/
def orbit (n : Nat) : List Nat :=
  let m := fold n
  m :: foldingRuns.filterMap (·.source? m)

/-- The code points that are equal to `n` up to the case of ASCII letters. -/
def asciiOrbit (n : Nat) : List Nat :=
  if 65 ≤ n && n ≤ 90 then [n, n + 32]
  else if 97 ≤ n && n ≤ 122 then [n, n - 32]
  else [n]

end MailFilter.Unicode
