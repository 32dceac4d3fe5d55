import MailFilter.Text.Ascii

/-!
# Extra Headers

The headers of a message that have no field of their own, ordered by their names. A name occurs
once: inserting under a name that is there replaces its value.

## Main results

* `pairwise_insertEntry`: the order of the names is kept.
* `lookup?_insert`: what is found after an insertion.
-/

namespace MailFilter

/-- Headers in the order of their names, each name once. -/
structure Headers where
  entries : List (String × String)
  sorted : entries.Pairwise fun a b => a.1 < b.1

namespace Headers

/-- Headers with the same entries are the same. -/
@[ext]
theorem ext {a b : Headers} (h : a.entries = b.entries) : a = b := by
  cases a
  cases b
  cases h
  rfl

instance : DecidableEq Headers := fun a b =>
  if h : a.entries = b.entries then .isTrue (ext h) else .isFalse fun e => h (e ▸ rfl)

/-- No headers. -/
def empty : Headers := ⟨[], .nil⟩

/-- Of two different names one comes first. -/
theorem lt_of_not_lt {a b : String} (h : ¬a < b) (hne : a ≠ b) : b < a := by
  refine Decidable.byContradiction fun hn => hne ?_
  exact String.le_antisymm (String.not_lt.1 hn) (String.not_lt.1 h)

/-- Puts an entry at its place, over an entry of the same name. -/
def insertEntry (name value : String) : List (String × String) → List (String × String)
  | [] => [(name, value)]
  | (n, v) :: rest =>
    if name < n then (name, value) :: (n, v) :: rest
    else if name = n then (name, value) :: rest
    else (n, v) :: insertEntry name value rest

/-- Every entry afterwards is the new one or was there before. -/
theorem mem_insertEntry {name value : String} {l : List (String × String)} {e : String × String}
    (h : e ∈ insertEntry name value l) : e = (name, value) ∨ e ∈ l := by
  induction l with
  | nil => simpa [insertEntry] using h
  | cons x rest ih =>
    rw [insertEntry] at h
    split at h
    · simpa using h
    · split at h
      · rcases List.mem_cons.1 h with h | h
        · exact .inl h
        · exact .inr (List.mem_cons_of_mem _ h)
      · rcases List.mem_cons.1 h with h | h
        · exact .inr (h ▸ List.mem_cons_self)
        · exact (ih h).imp_right (List.mem_cons_of_mem _)

/-- The order of the names is kept. -/
theorem pairwise_insertEntry (name value : String) {l : List (String × String)}
    (h : l.Pairwise fun a b => a.1 < b.1) :
    (insertEntry name value l).Pairwise fun a b => a.1 < b.1 := by
  induction l with
  | nil => simp [insertEntry]
  | cons x rest ih =>
    obtain ⟨hx, hrest⟩ := List.pairwise_cons.1 h
    rw [insertEntry]
    split
    · next hlt =>
      refine List.pairwise_cons.2 ⟨fun e he => ?_, h⟩
      rcases List.mem_cons.1 he with rfl | he
      · exact hlt
      · exact String.lt_trans hlt (hx e he)
    · next hlt =>
      split
      · next heq => exact List.pairwise_cons.2 ⟨fun e he => heq ▸ hx e he, hrest⟩
      · next hne =>
        refine List.pairwise_cons.2 ⟨fun e he => ?_, ih hrest⟩
        rcases mem_insertEntry he with rfl | he
        · exact lt_of_not_lt hlt hne
        · exact hx e he

/-- Puts an entry at its place, over an entry of the same name. -/
def insert (name value : String) (h : Headers) : Headers :=
  ⟨insertEntry name value h.entries, pairwise_insertEntry name value h.sorted⟩

/-- The value under exactly this name. -/
def lookup? (name : String) (h : Headers) : Option String := h.entries.lookup name

/-- What is found after an insertion. -/
theorem lookup?_insert (name value other : String) (h : Headers) :
    (h.insert name value).lookup? other = if other = name then some value else h.lookup? other := by
  obtain ⟨l, hl⟩ := h
  simp only [lookup?, insert]
  clear hl
  induction l with
  | nil =>
    by_cases ho : other = name
    · simp [insertEntry, ho]
    · simp [insertEntry, List.lookup_cons, ho, beq_false_of_ne ho]
  | cons x rest ih =>
    obtain ⟨n, v⟩ := x
    simp only [insertEntry]
    split
    · by_cases ho : other = name
      · simp [ho]
      · simp [List.lookup_cons, ho, beq_false_of_ne ho]
    · split
      · next heq =>
        subst heq
        by_cases ho : other = name
        · simp [ho]
        · simp [List.lookup_cons, ho, beq_false_of_ne ho]
      · next hne =>
        by_cases ho : other = n
        · subst ho
          simp [Ne.symm hne]
        · simp [List.lookup_cons, beq_false_of_ne ho, ih]

end Headers

end MailFilter
