/-!
# Blank Characters and Trimming

`Char.isBlank` is the Unicode property `White_Space`. Tokens of the rule language are separated by
it, and every text that a person types (rule names, settings, cells of a table) is trimmed by it.

## Main results

* `leadingBlanks_append_trimStart`: the blanks cut off and the rest make up the text.
* `head_trimStart_not_blank`: what remains does not start with a blank.
-/

namespace MailFilter.Text

/-- The Unicode property `White_Space`: twenty-five characters in ten runs. -/
def isBlank (c : Char) : Bool :=
  let n := c.toNat
  (9 ≤ n && n ≤ 13) || n == 0x20 || n == 0x85 || n == 0xA0 || n == 0x1680 ||
    (0x2000 ≤ n && n ≤ 0x200A) || n == 0x2028 || n == 0x2029 || n == 0x202F || n == 0x205F ||
    n == 0x3000

/-! ### Trimming -/

/-- Drops the blanks at the front. -/
def trimStart (s : List Char) : List Char := s.dropWhile isBlank

/-- Drops the blanks at the end. -/
def trimEnd (s : List Char) : List Char := (s.reverse.dropWhile isBlank).reverse

/-- Drops the blanks at both ends. -/
def trim (s : List Char) : List Char := trimEnd (trimStart s)

/-- The blanks at the front, the part that `trimStart` drops. -/
def leadingBlanks (s : List Char) : List Char := s.takeWhile isBlank

/-- The blanks at the front and the rest make up the whole text. -/
theorem leadingBlanks_append_trimStart (s : List Char) :
    leadingBlanks s ++ trimStart s = s := by
  simp [leadingBlanks, trimStart, List.takeWhile_append_dropWhile]

/-- A trimmed text starts with no blank. -/
theorem head_trimStart_not_blank {s rest : List Char} {c : Char} (h : trimStart s = c :: rest) :
    isBlank c = false := by
  induction s with
  | nil => simp [trimStart] at h
  | cons d s ih =>
    by_cases hd : isBlank d = true
    · exact ih (by simpa [trimStart, List.dropWhile_cons, hd] using h)
    · simp only [trimStart, List.dropWhile_cons, hd] at h
      simp only [Bool.false_eq_true, if_false, List.cons.injEq] at h
      rw [← h.1]
      simpa using hd

/-- Trimming never makes a text longer. -/
theorem length_trimStart_le (s : List Char) : (trimStart s).length ≤ s.length :=
  (List.dropWhile_sublist isBlank).length_le

/-- A text that starts with no blank keeps its front. -/
theorem trimStart_eq_self {s : List Char} (h : ∀ c ∈ s.head?, isBlank c = false) :
    trimStart s = s := by
  cases s with
  | nil => rfl
  | cons c s => simp [trimStart, h c rfl]

/-- A text that ends with no blank keeps its end. -/
theorem trimEnd_eq_self {s : List Char} (h : ∀ c ∈ s.getLast?, isBlank c = false) :
    trimEnd s = s := by
  have hreverse : s.reverse.dropWhile isBlank = s.reverse := trimStart_eq_self (by simpa using h)
  rw [trimEnd, hreverse, List.reverse_reverse]

/-- A text without blanks at its ends is kept. -/
theorem trim_eq_self {s : List Char} (hfirst : ∀ c ∈ s.head?, isBlank c = false)
    (hlast : ∀ c ∈ s.getLast?, isBlank c = false) : trim s = s := by
  rw [trim, trimStart_eq_self hfirst, trimEnd_eq_self hlast]

/-- A trimmed text ends with no blank. -/
theorem last_trim_not_blank {s : List Char} {c : Char} (h : c ∈ (trim s).getLast?) :
    isBlank c = false := by
  rw [trim, trimEnd, List.getLast?_reverse] at h
  obtain ⟨rest, hrest⟩ := List.head?_eq_some_iff.1 (Option.mem_def.1 h)
  exact head_trimStart_not_blank hrest

/-- What remains of a text after trimming stands in it. -/
theorem trim_subset (s : List Char) : trim s ⊆ s := by
  intro c hc
  rw [trim, trimEnd, List.mem_reverse] at hc
  have hstart := (List.dropWhile_sublist isBlank).subset hc
  exact (List.dropWhile_sublist isBlank).subset (List.mem_reverse.1 hstart)

/-- Only blanks are dropped. -/
theorem mem_trim_of_mem {s : List Char} {c : Char} (h : c ∈ s) (hc : isBlank c = false) :
    c ∈ trim s := by
  have hkeep : ∀ {t : List Char}, c ∈ t → c ∈ t.dropWhile isBlank := by
    intro t ht
    rw [← List.takeWhile_append_dropWhile (p := isBlank) (l := t), List.mem_append] at ht
    refine ht.resolve_left fun hb => ?_
    rw [List.all_eq_true.1 List.all_takeWhile c hb] at hc
    cases hc
  rw [trim, trimEnd, List.mem_reverse]
  exact hkeep (List.mem_reverse.2 (hkeep h))

/-- The text without the blanks at both ends. -/
def trimmed (s : String) : String := String.ofList (trim s.toList)

end MailFilter.Text
