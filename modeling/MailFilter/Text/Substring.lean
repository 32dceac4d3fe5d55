/-!
# Parts of a Text

Literal conditions ask whether one text occurs inside another. `occursIn` decides it, and the rest
of the library speaks of it through core's relation `<:+:`.

## Main results

* `occursIn_iff`: the decision agrees with `<:+:`.
-/

namespace MailFilter.Text

/-- Whether `needle` occurs in `hay`. -/
def occursIn (needle : List Char) : List Char → Bool
  | [] => needle.isEmpty
  | c :: hay => needle.isPrefixOf (c :: hay) || occursIn needle hay

/-- The decision agrees with the relation of core. -/
theorem occursIn_iff {needle hay : List Char} :
    occursIn needle hay = true ↔ needle <:+: hay := by
  induction hay with
  | nil => simp [occursIn, List.infix_nil]
  | cons c hay ih =>
    rw [occursIn, Bool.or_eq_true, ih, List.isPrefixOf_iff_prefix, List.infix_cons_iff]

/-- The empty text occurs everywhere. -/
theorem occursIn_nil (hay : List Char) : occursIn [] hay = true :=
  occursIn_iff.2 (List.nil_infix)

/-- Splits a text at the first occurrence of a character, which belongs to neither part. -/
def splitFirst? (sep : Char) : List Char → Option (List Char × List Char)
  | [] => none
  | c :: s =>
    if c = sep then some ([], s)
    else (splitFirst? sep s).map fun (before, after) => (c :: before, after)

/-- The two parts and the separator make up the text, and the first part is free of it. -/
theorem eq_of_splitFirst? {sep : Char} {s before after : List Char}
    (h : splitFirst? sep s = some (before, after)) :
    s = before ++ sep :: after ∧ sep ∉ before := by
  induction s generalizing before with
  | nil => simp [splitFirst?] at h
  | cons c s ih =>
    rw [splitFirst?] at h
    split at h
    · next hc =>
      simp only [Option.some.injEq, Prod.mk.injEq] at h
      obtain ⟨rfl, rfl⟩ := h
      simp [hc]
    · next hc =>
      obtain ⟨⟨b, a⟩, hs, he⟩ := Option.map_eq_some_iff.1 h
      simp only [Prod.mk.injEq] at he
      obtain ⟨rfl, rfl⟩ := he
      obtain ⟨rfl, hb⟩ := ih hs
      exact ⟨rfl, by simp [hb, Ne.symm hc]⟩

/-- A text is split at the first separator. -/
theorem splitFirst?_append {sep : Char} {before : List Char} (h : sep ∉ before)
    (after : List Char) : splitFirst? sep (before ++ sep :: after) = some (before, after) := by
  induction before with
  | nil => simp [splitFirst?]
  | cons c before ih =>
    obtain ⟨hc, hb⟩ := not_or.1 (mt List.mem_cons.2 h)
    rw [List.cons_append, splitFirst?, if_neg (Ne.symm hc), ih hb]
    rfl

end MailFilter.Text
