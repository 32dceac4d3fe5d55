import MailFilter.Rule.Token

/-!
# Quoting

How a text is written between quotes and a pattern between slashes. In a quoted text every quote
and every backslash gets a backslash in front of it. In a pattern backslashes belong to the pattern
and are left alone with the characters after them; only a slash outside such a pair gets one.

So every text can be written between quotes, and a pattern between slashes only if no backslash of
it takes a slash or the closing delimiter with it (`isDelimitable`).

## Main results

* `close_escapeQuoted`, `close_escapePattern`: what is written is read back, whatever follows it.
* `isDelimitable_of_close`: a pattern that was read can be written.
* `ofText_quote`, `ofText_delimit`: the token that a written text or pattern is.
-/

namespace MailFilter.Quoting

open Token (Enclosed close)

/-- The text between the quotes. -/
def escapeQuoted : List Char → List Char
  | [] => []
  | c :: s => if c = '"' ∨ c = '\\' then '\\' :: c :: escapeQuoted s else c :: escapeQuoted s

/-- The text between the slashes. -/
def escapePattern : List Char → List Char
  | [] => []
  | '\\' :: c :: s => '\\' :: c :: escapePattern s
  | '/' :: s => '\\' :: '/' :: escapePattern s
  | c :: s => c :: escapePattern s

/-- A text between quotes. -/
def quote (s : List Char) : List Char := '"' :: escapeQuoted s ++ ['"']

/-- A pattern between slashes. -/
def delimit (s : List Char) : List Char := '/' :: escapePattern s ++ ['/']

/-- Whether a pattern can be written between slashes. When every backslash is taken together with
the character after it, no such character is a slash, and no backslash stands alone at the end. -/
def isDelimitable : List Char → Bool
  | [] => true
  | ['\\'] => false
  | '\\' :: c :: s => c != '/' && isDelimitable s
  | _ :: s => isDelimitable s

/-! ### Reading back -/

/-- A quoted text is read back, whatever follows it. -/
theorem close_escapeQuoted (s rest : List Char) :
    close .quoted (escapeQuoted s ++ '"' :: rest) = some ⟨s, escapeQuoted s ++ ['"'], rest⟩ := by
  induction s with
  | nil => simp [escapeQuoted, close, Delimited.mark]
  | cons c s ih =>
    by_cases hc : c = '"' ∨ c = '\\'
    · simp [escapeQuoted, hc, close, Delimited.escapes, ih, Enclosed.cons]
    · have hq : c ≠ '"' := fun h => hc (.inl h)
      have hb : c ≠ '\\' := fun h => hc (.inr h)
      simp [escapeQuoted, close, Delimited.mark, ih, Enclosed.cons, hq, hb]

/-- A pattern that can be written is read back, whatever follows it. -/
theorem close_escapePattern {s : List Char} (h : isDelimitable s = true) (rest : List Char) :
    close .pattern (escapePattern s ++ '/' :: rest) = some ⟨s, escapePattern s ++ ['/'], rest⟩ := by
  fun_induction escapePattern s with
  | case1 => simp [close, Delimited.mark]
  | case2 c s ih =>
    simp only [isDelimitable, Bool.and_eq_true, bne_iff_ne] at h
    simp [close, Delimited.escapes, ih h.2, h.1, Enclosed.cons]
  | case3 s ih =>
    have hs : isDelimitable s = true := by simpa [isDelimitable] using h
    simp [close, Delimited.escapes, ih hs, Enclosed.cons]
  | case4 c s hpair hslash ih =>
    have hb : c ≠ '\\' := by
      rintro rfl
      cases s with
      | nil => simp [isDelimitable] at h
      | cons d s => exact hpair d s rfl rfl
    have hs : isDelimitable s = true := by simpa [isDelimitable, hb] using h
    have hc : c ≠ '/' := hslash
    simp [close, Delimited.mark, ih hs, Enclosed.cons, hb, hc]

/-- A pattern that was read can be written. -/
theorem isDelimitable_of_close {s : List Char} {e : Enclosed}
    (h : close .pattern s = some e) : isDelimitable e.content = true := by
  fun_induction close Delimited.pattern s generalizing e with
  | case1 => cases h
  | case2 d s ih =>
    obtain ⟨e, he, rfl⟩ := Option.map_eq_some_iff.1 h
    by_cases hd : d = '/'
    · subst hd
      simpa [Enclosed.cons, Delimited.escapes, isDelimitable] using ih he
    · simpa [Enclosed.cons, Delimited.escapes, isDelimitable, hd] using ih he
  | case3 s =>
    cases h
    rfl
  | case4 c s hpair hm ih =>
    obtain ⟨e, he, rfl⟩ := Option.map_eq_some_iff.1 h
    -- a backslash in front of nothing leaves the pattern open
    have hb : c ≠ '\\' := by
      rintro rfl
      cases s with
      | nil => cases he
      | cons d s => exact hpair d s rfl rfl
    simpa [Enclosed.cons, isDelimitable, hb] using ih he

/-! ### Tokens -/

/-- A text between quotes is read as that text, whatever follows it. -/
theorem ofText_quote (s rest : List Char) :
    Scan.ofText (quote s ++ rest) =
      .lexeme (.quoted (String.ofList s)) (quote s) rest := by
  simp [quote, Scan.ofText, close_escapeQuoted]

/-- A pattern between slashes is read as that pattern, whatever follows it. -/
theorem ofText_delimit {s : List Char} (h : isDelimitable s = true) (rest : List Char) :
    Scan.ofText (delimit s ++ rest) =
      .lexeme (.pattern (String.ofList s)) (delimit s) rest := by
  simp [delimit, Scan.ofText, close_escapePattern h]

end MailFilter.Quoting
