import MailFilter.Text.Ascii

/-!
# Decimal Numbers

Numbers are written in decimal, without leading zeros, and read with an optional sign. Reading
refuses what does not fit the word it reads for.

## Main results

* `readNatural?_decimal`: reading gives back every number that was written.
* `readInt64?_writeInt`: the same for signed words, at both ends of the range.
-/

namespace MailFilter.Text

/-! ### Writing -/

/-- The character of one decimal digit. -/
def digitChar (d : Nat) : Char := Char.ofNat (48 + d)

/-- The decimal digits of `n`, most significant first, without leading zeros. -/
def decimal (n : Nat) : List Char :=
  if n < 10 then [digitChar n] else decimal (n / 10) ++ [digitChar (n % 10)]

/-- A signed number: a minus sign and the digits of its size. -/
def writeInt (n : Int) : List Char :=
  if n < 0 then '-' :: decimal n.natAbs else decimal n.natAbs

/-- A number as a string. -/
def natural (n : Nat) : String := String.ofList (decimal n)

/-- A signed number as a string. -/
def integer (n : Int) : String := String.ofList (writeInt n)

/-- `n` in decimal, with zeros in front up to `width` digits. -/
def paddedDecimal (width n : Nat) : List Char :=
  let ds := decimal n
  List.replicate (width - ds.length) '0' ++ ds

/-! ### Reading -/

/-- The number behind a digit. -/
def digitValue (c : Char) : Nat := c.toNat - 48

/-- Reads digits from the left, continuing from the number read so far. -/
def readDigits? : Nat → List Char → Option Nat
  | n, [] => some n
  | n, c :: rest => if isDigit c then readDigits? (10 * n + digitValue c) rest else none

/-- Reads a number that is digits only, at least one of them. -/
def readNatural? : List Char → Option Nat
  | [] => none
  | s => readDigits? 0 s

/-- Reads a number with an optional sign. -/
def readInteger? : List Char → Option Int
  | '-' :: s => (readNatural? s).map fun n : Nat => -(n : Int)
  | '+' :: s => (readNatural? s).map fun n : Nat => (n : Int)
  | s => (readNatural? s).map fun n : Nat => (n : Int)

/-- Reads a signed word of sixty-four bits. -/
def readInt64? (s : List Char) : Option Int64 :=
  match readInteger? s with
  | some n =>
    if Int64.minValue.toInt ≤ n ∧ n ≤ Int64.maxValue.toInt then some (Int64.ofInt n) else none
  | none => none

/-- Reads an unsigned word of sixty-four bits; a plus sign is allowed, a minus sign is not. -/
def readUInt64? (s : List Char) : Option UInt64 :=
  let digits := match s with
    | '+' :: rest => rest
    | _ => s
  match readNatural? digits with
  | some n => if n < UInt64.size then some (UInt64.ofNat n) else none
  | none => none

/-! ### Reading what was written -/

/-- The character of a digit is a digit. -/
theorem isDigit_digitChar {d : Nat} (h : d < 10) : isDigit (digitChar d) = true := by
  have : ∀ d : Fin 10, isDigit (digitChar d) = true := by decide
  exact this ⟨d, h⟩

/-- The character of a digit stands for it. -/
theorem digitValue_digitChar {d : Nat} (h : d < 10) : digitValue (digitChar d) = d := by
  have : ∀ d : Fin 10, digitValue (digitChar d) = d := by decide
  exact this ⟨d, h⟩

/-- Every character of a written number is a digit. -/
theorem isDigit_of_mem_decimal {n : Nat} {c : Char} (h : c ∈ decimal n) : isDigit c = true := by
  induction n using decimal.induct with
  | case1 n hn =>
    rw [decimal, if_pos hn, List.mem_singleton] at h
    rw [h]
    exact isDigit_digitChar hn
  | case2 n hn ih =>
    rw [decimal, if_neg hn, List.mem_append, List.mem_singleton] at h
    rcases h with h | h
    · exact ih h
    · rw [h]
      exact isDigit_digitChar (Nat.mod_lt _ (by omega))

/-- A written number has at least one digit. -/
theorem decimal_ne_nil (n : Nat) : decimal n ≠ [] := by
  rw [decimal]
  split <;> simp

/-- Reading digits goes on where it stopped. -/
theorem readDigits?_append {n m : Nat} {a b : List Char} (h : readDigits? n a = some m) :
    readDigits? n (a ++ b) = readDigits? m b := by
  induction a generalizing n with
  | nil =>
    simp only [readDigits?, Option.some.injEq] at h
    rw [List.nil_append, h]
  | cons c a ih =>
    simp only [readDigits?] at h
    split at h
    · next hc =>
      rw [List.cons_append, readDigits?, if_pos hc]
      exact ih h
    · simp at h

/-- Reading the digits of a number gives the number. -/
theorem readDigits?_decimal (n : Nat) : readDigits? 0 (decimal n) = some n := by
  induction n using decimal.induct with
  | case1 n hn =>
    rw [decimal, if_pos hn, readDigits?, if_pos (isDigit_digitChar hn), digitValue_digitChar hn]
    simp [readDigits?]
  | case2 n hn ih =>
    have hd : n % 10 < 10 := Nat.mod_lt _ (by omega)
    rw [decimal, if_neg hn, readDigits?_append ih, readDigits?, if_pos (isDigit_digitChar hd),
      digitValue_digitChar hd, readDigits?]
    congr 1
    omega

/-- Reading gives back every number that was written. -/
theorem readNatural?_decimal (n : Nat) : readNatural? (decimal n) = some n := by
  have h := decimal_ne_nil n
  unfold readNatural?
  split
  · next hd => exact absurd hd h
  · exact readDigits?_decimal n

/-- A written number does not start with a sign. -/
theorem readInteger?_decimal (n : Nat) : readInteger? (decimal n) = some (n : Int) := by
  unfold readInteger?
  split
  · next s hs =>
    have := isDigit_of_mem_decimal (n := n) (c := '-') (by simp [hs])
    exact absurd this (by decide)
  · next s hs =>
    have := isDigit_of_mem_decimal (n := n) (c := '+') (by simp [hs])
    exact absurd this (by decide)
  · rw [readNatural?_decimal]
    rfl

/-- Reading gives back every signed number that was written. -/
theorem readInteger?_writeInt (n : Int) : readInteger? (writeInt n) = some n := by
  unfold writeInt
  split
  · next h =>
    rw [readInteger?, readNatural?_decimal, Option.map_some]
    congr 1
    omega
  · next h =>
    rw [readInteger?_decimal, Option.some.injEq]
    omega

/-- Reading gives back every signed word that was written. -/
theorem readInt64?_writeInt (n : Int64) : readInt64? (writeInt n.toInt) = some n := by
  rw [readInt64?, readInteger?_writeInt]
  simp only [if_pos (And.intro n.minValue_le_toInt n.toInt_le), Int64.ofInt_toInt]

end MailFilter.Text
