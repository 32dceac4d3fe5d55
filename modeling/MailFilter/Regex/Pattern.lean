import MailFilter.Regex.NamedSet

/-!
# Patterns

A pattern describes parts of a text. Whether it matches somewhere is decided with sets of places: a
pattern takes a set of places where it may begin to the set of places where it may then end. A set
of places is a list of marks, one for each place before, between and behind the characters, so
every step is a pass over the text.

## Main results

* `advance_none`: a pattern that begins nowhere ends nowhere.
-/

namespace MailFilter.Regex

/-- A condition on a place in a text. -/
inductive Look where
  | textStart
  | textEnd
  | lineStart
  | lineEnd
  /-- Lines that end with a carriage return, a line feed, or both together. -/
  | crlfStart
  | crlfEnd
  | wordBoundary (unicode : Bool)
  | noWordBoundary (unicode : Bool)
  | wordStart (unicode : Bool)
  | wordEnd (unicode : Bool)
  | wordStartHalf (unicode : Bool)
  | wordEndHalf (unicode : Bool)
deriving DecidableEq, Repr

/-- The characters before and behind a place. -/
structure Place where
  before : Option Char
  behind : Option Char

/-- Whether a character belongs to a word. -/
def isWordChar (unicode : Bool) (c : Option Char) : Bool :=
  match c with
  | none => false
  | some c =>
    if c.toNat < 128 then c.isAlphanum || c == '_'
    else unicode && CharSet.word.contains c.toNat

/-- Whether the condition holds at a place. -/
def Look.holds (p : Place) : Look → Bool
  | textStart => p.before.isNone
  | textEnd => p.behind.isNone
  | lineStart => p.before.isNone || p.before == some '\n'
  | lineEnd => p.behind.isNone || p.behind == some '\n'
  | crlfStart =>
    p.before.isNone || p.before == some '\n' ||
      (p.before == some '\r' && p.behind != some '\n')
  | crlfEnd =>
    p.behind.isNone || p.behind == some '\r' ||
      (p.behind == some '\n' && p.before != some '\r')
  | wordBoundary u => isWordChar u p.before != isWordChar u p.behind
  | noWordBoundary u => isWordChar u p.before == isWordChar u p.behind
  | wordStart u => !isWordChar u p.before && isWordChar u p.behind
  | wordEnd u => isWordChar u p.before && !isWordChar u p.behind
  | wordStartHalf u => !isWordChar u p.before
  | wordEndHalf u => !isWordChar u p.behind

/-- A pattern. -/
inductive Pattern where
  | empty
  | set (s : CharSet)
  | look (l : Look)
  | seq (a b : Pattern)
  | alt (a b : Pattern)
  /-- At least `least` times, and at most `most` times if there is a limit. -/
  | repeated (a : Pattern) (least : Nat) (most : Option Nat)

/-! ### Matching -/

/-- A set of places, as a mark for each place in order. -/
abbrev Marks := List Bool

/-- The places of a text in order. -/
def places (before : Option Char) : List Char → List Place
  | [] => [⟨before, none⟩]
  | c :: s => ⟨before, some c⟩ :: places (some c) s

/-- The places marked in one of two sets. -/
def Marks.union (a b : Marks) : Marks := List.zipWith (· || ·) a b

/-- Steps at most `n` times, until nothing changes any more. -/
def stepTimes (step : Marks → Marks) : Nat → Marks → Marks
  | 0, m => m
  | n + 1, m =>
    let m' := step m
    if m' = m then m else stepTimes step n m'

namespace Pattern

/-- The places where the pattern may end when it begins at one of the marked places. -/
def advance (text : List Char) : Pattern → Marks → Marks
  | empty, m => m
  | set s, m => false :: List.zipWith (fun marked c => marked && s.contains c.toNat) m text
  | look l, m => List.zipWith (fun marked p => marked && l.holds p) m (places none text)
  | seq a b, m => b.advance text (a.advance text m)
  | alt a b, m => (a.advance text m).union (b.advance text m)
  | repeated a least most, m =>
    let required := stepTimes (a.advance text) least m
    let further := (most.map (· - least)).getD (text.length + 1)
    stepTimes (fun m => Marks.union m (a.advance text m)) further required

/-- Whether the pattern matches somewhere in a text. -/
def matchesIn (p : Pattern) (text : List Char) : Bool :=
  (p.advance text (List.replicate (text.length + 1) true)).any id

/-- Stepping from nowhere leads nowhere. -/
theorem stepTimes_none {step : Marks → Marks} {none : Marks} (h : step none = none) (n : Nat) :
    stepTimes step n none = none := by
  cases n with
  | zero => rfl
  | succ n => simp [stepTimes, h]

/-- A pattern that begins nowhere ends nowhere. -/
theorem advance_none (p : Pattern) (text : List Char) :
    p.advance text (List.replicate (text.length + 1) false) =
      List.replicate (text.length + 1) false := by
  have hplaces : ∀ (before : Option Char) (s : List Char),
      (places before s).length = s.length + 1 := by
    intro before s
    induction s generalizing before with
    | nil => rfl
    | cons c s ih => simp [places, ih]
  have hzip : ∀ {α : Type} (f : α → Bool) (l : List α) (n : Nat), l.length ≤ n →
      List.zipWith (fun marked a => marked && f a) (List.replicate n false) l =
        List.replicate l.length false := by
    intro α f l
    induction l with
    | nil => simp
    | cons a l ih =>
      intro n hn
      cases n with
      | zero => simp at hn
      | succ n => simpa [List.replicate_succ] using ih n (by simpa using hn)
  have hunion : ∀ n, Marks.union (List.replicate n false) (List.replicate n false) =
      List.replicate n false := by
    intro n
    simp [Marks.union]
  induction p with
  | empty => rfl
  | set s =>
    rw [advance, hzip (fun c : Char => s.contains c.toNat) text _ (Nat.le_succ _),
      List.replicate_succ]
  | look l => rw [advance, hzip (fun p => l.holds p) _ _ (by simp [hplaces]), hplaces]
  | seq a b iha ihb => rw [advance, iha, ihb]
  | alt a b iha ihb => rw [advance, iha, ihb, hunion]
  | repeated a least most ih =>
    simp only [advance]
    rw [stepTimes_none ih, stepTimes_none (by rw [ih, hunion])]

/-! ### Size -/

/-- An estimate of the number of states of an automaton for the pattern. -/
def weight : Pattern → Nat
  | empty => 1
  | set s => s.weight
  | look _ => 1
  | seq a b => a.weight + b.weight
  | alt a b => a.weight + b.weight + 1
  | repeated a least most =>
    a.weight * least + (a.weight + 1) * (most.map (· - least)).getD 1

end Pattern

end MailFilter.Regex
