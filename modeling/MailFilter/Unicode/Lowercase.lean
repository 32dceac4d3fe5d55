import MailFilter.Unicode.CaseData

/-!
# Lowercase Texts

The full lowercase mapping of Unicode. It works on a whole text, because a capital sigma at the end
of a word is written differently from one inside it. All other characters are mapped one by one.
-/

namespace MailFilter.Unicode

/-! ### Case properties -/

/-- Whether one of the runs holds the code point. -/
def inRuns (runs : List (Nat × Nat)) (n : Nat) : Bool :=
  runs.any fun r => r.1 ≤ n && n ≤ r.2

/-- The property `Cased`. -/
def isCased (c : Char) : Bool := inRuns casedRuns c.toNat

/-- The property `Case_Ignorable`: marks and punctuation that do not interrupt a word. -/
def isCaseIgnorable (c : Char) : Bool := inRuns caseIgnorableRuns c.toNat

/-- Whether a cased character follows once the ignorable ones are skipped. -/
def reachesCased (s : List Char) : Bool :=
  match s.dropWhile isCaseIgnorable with
  | c :: _ => isCased c
  | [] => false

/-! ### The mapping -/

/-- The lowercase form of a character outside any context. -/
def lowerChar (c : Char) : List Char :=
  if c.toNat < 128 then [c.toLower]
  else if c = 'İ' then ['i', '\u0307']
  else
    match lowercaseRuns.findSome? fun r => r.image? c.toNat with
    | some n => [Char.ofNat n]
    | none => [c]

/-- The lowercase form of a capital sigma between the text before it, read backwards, and the text
after it: the final form exactly at the end of a word. -/
def lowerSigma (before after : List Char) : Char :=
  if reachesCased before && !reachesCased after then 'ς' else 'σ'

/-- Lowers the rest of a text whose beginning, read backwards, is `before`. -/
def lowercaseFrom (before : List Char) : List Char → List Char
  | [] => []
  | c :: after =>
    (if c = 'Σ' then [lowerSigma before after] else lowerChar c) ++
      lowercaseFrom (c :: before) after

/-- The lowercase form of a text. -/
def lowercase (s : List Char) : List Char := lowercaseFrom [] s

end MailFilter.Unicode
