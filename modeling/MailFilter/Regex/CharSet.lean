import MailFilter.Text.Utf8
import MailFilter.Unicode.Folding
import MailFilter.Unicode.RunTable

/-!
# Sets of Characters

The classes of a pattern as expressions. A class is evaluated at one code point at a time; nothing
is ever listed, so complements and differences cost nothing.
-/

namespace MailFilter.Regex

/-- A set of code points. -/
inductive CharSet where
  | none
  | range (first last : Nat)
  | runs (table : List Unicode.Run)
  | union (a b : CharSet)
  | inter (a b : CharSet)
  | diff (a b : CharSet)
  | xor (a b : CharSet)
  | complement (a : CharSet)
  /-- Everything that is equal to a member up to case, by the rules of Unicode or of ASCII. -/
  | folded (unicode : Bool) (a : CharSet)

namespace CharSet

/-- Whether the set holds a code point. -/
def contains : CharSet → Nat → Bool
  | none, _ => false
  | range a b, n => a ≤ n && n ≤ b
  | runs table, n => Unicode.runsContain table n
  | union a b, n => a.contains n || b.contains n
  | inter a b, n => a.contains n && b.contains n
  | diff a b, n => a.contains n && !b.contains n
  | xor a b, n => a.contains n != b.contains n
  | complement a, n => !a.contains n
  | folded unicode a, n =>
    (if unicode then Unicode.orbit n else Unicode.asciiOrbit n).any a.contains

/-- The set of one character. -/
def single (c : Char) : CharSet := .range c.toNat c.toNat

/-- The union of several sets. -/
def unions : List CharSet → CharSet
  | [] => .none
  | [a] => a
  | a :: rest => .union a (unions rest)

/-- All characters. -/
def everything : CharSet := .complement .none

/-- Whether the set lies within ASCII, as far as bytes go. -/
def isAscii (a : CharSet) : Bool := (List.range 128).all fun n => !a.contains (n + 128)

/-- An estimate of the number of states that recognise a member by its bytes. -/
def weight : CharSet → Nat
  | none => 1
  | range a b => if b < 128 then 1 else if a = b then 3 else 5
  | runs table => table.length + 1
  | union a b => a.weight + b.weight
  | inter a b => a.weight + b.weight
  | diff a b => a.weight + b.weight
  | xor a b => a.weight + b.weight
  | complement a => a.weight + 4
  | folded _ a => a.weight

end CharSet

end MailFilter.Regex
