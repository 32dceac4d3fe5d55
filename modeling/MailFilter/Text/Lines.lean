/-!
# Lines

A line ends with a line feed, or with a carriage return and a line feed; the last line need not end
with either.

## Main results

* `notMem_of_mem_lines`: there are no line feeds in a line.
-/

namespace MailFilter.Text

/-- The lines of a text. -/
def lines : List Char → List (List Char)
  | [] => []
  | '\n' :: s => [] :: lines s
  | '\r' :: '\n' :: s => [] :: lines s
  | c :: s =>
    match lines s with
    | [] => [[c]]
    | l :: rest => (c :: l) :: rest

/-- A text without line feeds is one line, unless it is empty. -/
theorem lines_of_notMem {l : List Char} (hn : '\n' ∉ l) (hne : l ≠ []) : lines l = [l] := by
  induction l with
  | nil => exact absurd rfl hne
  | cons c l ih =>
    obtain ⟨hc, hl⟩ := not_or.1 (mt List.mem_cons.2 hn)
    rw [lines]
    · by_cases h : l = []
      · rw [h]
        rfl
      · rw [ih hl h]
    · exact Ne.symm hc
    · rintro t rfl rfl
      exact hl List.mem_cons_self

/-- There are no line feeds in a line. -/
theorem notMem_of_mem_lines {s l : List Char} (h : l ∈ lines s) : '\n' ∉ l := by
  fun_induction lines s generalizing l with
  | case1 => cases h
  | case2 s ih | case3 s ih =>
    rcases List.mem_cons.1 h with rfl | h
    · exact List.not_mem_nil
    · exact ih h
  | case4 c s hn _ hs =>
    rw [List.mem_singleton] at h
    rw [h, List.mem_singleton]
    exact Ne.symm hn
  | case5 c s hn _ l' rest hs ih =>
    rw [hs] at ih
    rcases List.mem_cons.1 h with rfl | h
    · rw [List.mem_cons, not_or]
      exact ⟨Ne.symm hn, ih List.mem_cons_self⟩
    · exact ih (List.mem_cons_of_mem _ h)

end MailFilter.Text
