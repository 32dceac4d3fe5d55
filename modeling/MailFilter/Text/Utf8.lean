/-!
# Lengths in Bytes

Places in a text are counted in the bytes of its UTF-8 form, so that an editor can mark them.

## Main results

* `byteLength_append`: the length of two texts one after the other.
* `byteLength_eq_zero_iff`: only the empty text has no bytes.
* `append_inj_of_byteLength`: a place in bytes cuts a text in one way.
-/

namespace MailFilter.Text

/-- The number of bytes of a text. -/
def byteLength : List Char → Nat
  | [] => 0
  | c :: s => c.utf8Size + byteLength s

/-- The length of two texts one after the other. -/
@[simp]
theorem byteLength_append (a b : List Char) :
    byteLength (a ++ b) = byteLength a + byteLength b := by
  induction a with
  | nil => simp [byteLength]
  | cons c a ih => simp [byteLength, ih, Nat.add_assoc]

/-- Only the empty text has no bytes. -/
theorem byteLength_eq_zero_iff {s : List Char} : byteLength s = 0 ↔ s = [] := by
  cases s with
  | nil => simp [byteLength]
  | cons c s =>
    have := c.utf8Size_pos
    simp only [byteLength, reduceCtorEq, iff_false]
    omega

/-- A text that is not empty has a byte. -/
theorem byteLength_pos {s : List Char} (h : s ≠ []) : 0 < byteLength s :=
  Nat.pos_of_ne_zero fun h0 => h (byteLength_eq_zero_iff.1 h0)

/-- A place in bytes is between the same characters of a text however the text is cut there. -/
theorem append_inj_of_byteLength {a a' b b' : List Char} (h : a ++ b = a' ++ b')
    (hlength : byteLength a = byteLength a') : a = a' ∧ b = b' := by
  induction a generalizing a' with
  | nil =>
    obtain rfl : a' = [] := byteLength_eq_zero_iff.1 hlength.symm
    exact ⟨rfl, h⟩
  | cons c a ih =>
    cases a' with
    | nil => exact absurd (byteLength_eq_zero_iff.1 hlength) (List.cons_ne_nil c a)
    | cons d a' =>
      obtain ⟨rfl, hrest⟩ := List.cons_eq_cons.1 h
      obtain ⟨rfl, rfl⟩ := ih hrest (Nat.add_left_cancel hlength)
      exact ⟨rfl, rfl⟩

end MailFilter.Text
