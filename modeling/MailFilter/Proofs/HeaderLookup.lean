import Mathlib.Data.List.Nodup
import MailFilter.Message.JsonFormat

/-!
# Looking Up a Header

A header is looked up in the fields first and then among the extra headers, and the header block
lists the fields that are set and then the extra headers. The two agree: what is found under a name
is the value of the first entry of the block with that name, whatever other entries have the same
name in other letters.

There is one exception. A name that has a field of its own is looked up nowhere else, and an extra
header of such a name has an entry in the block also when the field is not set. Then the block shows
a header that the look-up does not find (`Message.Hides`). Messages read from JSON can have such a
header (`Message.header?_misses_block`).

## Main results

* `Message.find?_headerEntries`: where the first entry of a name stands in the block.
* `Message.header?_of_not_hides`, `Message.header?_of_hides`: what is looked up, in both cases.
* `Message.header?_agrees_with_block`: the look-up and the block agree unless a field hides the
  name.
-/

namespace MailFilter

/-- What is found in a list is the one element that passes, if there is only one. -/
theorem find?_eq_some_iff_of_unique {α : Type} {l : List α} {p : α → Bool}
    (hunique : ∀ a ∈ l, ∀ b ∈ l, p a = true → p b = true → a = b) {a : α} :
    l.find? p = some a ↔ a ∈ l ∧ p a = true := by
  constructor
  · intro hfind
    exact ⟨List.mem_of_find?_eq_some hfind, List.find?_some hfind⟩
  · rintro ⟨hmem, hpass⟩
    obtain ⟨b, hfind⟩ := Option.isSome_iff_exists.1 (List.find?_isSome.2 ⟨a, hmem, hpass⟩)
    rw [hfind, hunique a hmem b (List.mem_of_find?_eq_some hfind) hpass (List.find?_some hfind)]

/-! ### Extra headers by their names -/

namespace Headers

variable {h : Headers}

/-- An entry stands under its name. -/
theorem mem_entries_iff {e : String × String} : e ∈ h.entries ↔ h.lookup? e.1 = some e.2 := by
  rw [lookup?, List.lookup_eq_some_iff]
  constructor
  · intro he
    obtain ⟨front, back, hentries⟩ := List.append_of_mem he
    refine ⟨front, back, hentries, fun p hp => ?_⟩
    have hsorted := h.sorted
    rw [hentries] at hsorted
    have hlt : p.1 < e.1 := (List.pairwise_append.1 hsorted).2.2 p hp e List.mem_cons_self
    simpa using (String.ne_of_lt hlt).symm
  · rintro ⟨front, back, hentries, -⟩
    rw [hentries]
    simp

/-- Extra headers of the same name are the same. -/
theorem eq_of_mem {e e' : String × String} (he : e ∈ h.entries) (he' : e' ∈ h.entries)
    (hname : e.1 = e'.1) : e = e' := by
  rw [mem_entries_iff] at he he'
  rw [hname, he', Option.some.injEq] at he
  exact Prod.ext hname he.symm

end Headers

namespace Message

open Text (asciiLower equalsIgnoringCase equalsIgnoringCase_iff)

variable {m : Message} {name : String}

/-! ### Names -/

/-- Whether something that stands under a name has this one, up to case. -/
def isNamed {α : Type} (name : String) (entry : String × α) : Bool :=
  equalsIgnoringCase entry.1 name

/-- The names of the headers that have fields of their own differ in more than case. -/
theorem eq_of_mem_knownHeaders {h h' : String × Option String} (hmem : h ∈ m.knownHeaders)
    (hmem' : h' ∈ m.knownHeaders) (hname : isNamed name h = true)
    (hname' : isNamed name h' = true) : h = h' := by
  have hdistinct : (m.knownHeaders.map fun h => asciiLower h.1.toList).Nodup := by
    simp only [knownHeaders, List.map_cons, List.map_nil]
    decide
  refine List.inj_on_of_nodup_map hdistinct hmem hmem' ?_
  exact (equalsIgnoringCase_iff.1 hname).trans (equalsIgnoringCase_iff.1 hname').symm

/-- The header that is found among the fields is the one with that name. -/
theorem find?_knownHeaders_iff {h : String × Option String} :
    m.knownHeaders.find? (isNamed name) = some h ↔ h ∈ m.knownHeaders ∧ isNamed name h = true :=
  find?_eq_some_iff_of_unique fun _ hmem _ hmem' => eq_of_mem_knownHeaders hmem hmem'

/-! ### The first entry of a name -/

/-- The entries of the fields that are set. -/
def knownEntries (m : Message) : List (String × String) :=
  m.knownHeaders.filterMap fun (name, value?) => value?.map (name, ·)

theorem headerEntries_eq (m : Message) :
    m.headerEntries = m.knownEntries ++ m.headers.entries := rfl

theorem mem_knownEntries {e : String × String} :
    e ∈ m.knownEntries ↔ (e.1, some e.2) ∈ m.knownHeaders := by
  rw [knownEntries, List.mem_filterMap]
  constructor
  · rintro ⟨⟨n, value?⟩, hmem, hentry⟩
    obtain ⟨v, rfl, rfl⟩ := Option.map_eq_some_iff.1 hentry
    exact hmem
  · intro hmem
    exact ⟨_, hmem, rfl⟩

/-- The entry that is found among the fields is the one with that name. -/
theorem find?_knownEntries_iff {e : String × String} :
    m.knownEntries.find? (isNamed name) = some e ↔
      (e.1, some e.2) ∈ m.knownHeaders ∧ isNamed name e = true := by
  rw [← mem_knownEntries]
  refine find?_eq_some_iff_of_unique fun a ha b hb hna hnb => ?_
  have heq := eq_of_mem_knownHeaders (mem_knownEntries.1 ha) (mem_knownEntries.1 hb) hna hnb
  exact Prod.ext (Prod.mk.inj heq).1 (Option.some.inj (Prod.mk.inj heq).2)

/-- A header is looked up in the fields, and where there is no field of that name among the extra
headers. -/
theorem header?_eq (m : Message) (name : String) :
    m.header? name =
      match m.knownHeaders.find? (isNamed name) with
      | some h => h.2
      | none => (m.headers.entries.find? (isNamed name)).map (·.2) := by
  have hnamed {α : Type} : (fun e : String × α => equalsIgnoringCase e.1 name) = isNamed name := rfl
  rw [header?, hnamed, hnamed]
  cases m.knownHeaders.find? (isNamed name) <;> rfl

/-- The first entry of a name in the block is that of the field, if it is set, and else that of the
first extra header of the name. -/
theorem find?_headerEntries (m : Message) (name : String) :
    m.headerEntries.find? (isNamed name) =
      match m.knownHeaders.find? (isNamed name) with
      | some (n, some value) => some (n, value)
      | _ => m.headers.entries.find? (isNamed name) := by
  rw [headerEntries_eq, List.find?_append]
  split
  · next n value hfind =>
    have hentry : m.knownEntries.find? (isNamed name) = some (n, value) :=
      find?_knownEntries_iff.2 (find?_knownHeaders_iff.1 hfind)
    rw [hentry]
    rfl
  · next hunset =>
    have hnone : m.knownEntries.find? (isNamed name) = none := by
      refine Option.eq_none_iff_forall_ne_some.2 fun e he => ?_
      exact hunset e.1 e.2 (find?_knownHeaders_iff.2 (find?_knownEntries_iff.1 he))
    rw [hnone]
    rfl

/-! ### Hidden headers -/

/-- Whether a field hides an extra header: it has the name of the header, and is not set. -/
structure Hides (m : Message) (name : String) : Prop where
  unset : ∃ h ∈ m.knownHeaders, equalsIgnoringCase h.1 name = true ∧ h.2 = none
  extra : ∃ e ∈ m.headers.entries, equalsIgnoringCase e.1 name = true

/-- A header that is hidden is not found. -/
theorem header?_of_hides (h : m.Hides name) : m.header? name = none := by
  obtain ⟨known, hmem, hname, hunset⟩ := h.unset
  rw [header?_eq, find?_knownHeaders_iff.2 ⟨hmem, hname⟩]
  exact hunset

/-- A header that is not hidden is the first one of its name in the block. -/
theorem header?_of_not_hides (h : ¬m.Hides name) :
    m.header? name = (m.headerEntries.find? (isNamed name)).map (·.2) := by
  rw [header?_eq, find?_headerEntries]
  cases hfind : m.knownHeaders.find? (isNamed name) with
  | none => rfl
  | some known =>
    obtain ⟨n, value?⟩ := known
    cases value? with
    | some value => rfl
    | none =>
      have hextra : m.headers.entries.find? (isNamed name) = none := by
        refine List.find?_eq_none.2 fun e he hname => h ⟨?_, e, he, hname⟩
        obtain ⟨hmem, hknown⟩ := find?_knownHeaders_iff.1 hfind
        exact ⟨_, hmem, hknown, rfl⟩
      simp only [hextra, Option.map_none]

/-- What stands first under a name in the header block: an entry with this name and its line, with
no entry of the name above. -/
def StandsFirst (m : Message) (name : String) (entry : String × String) : Prop :=
  equalsIgnoringCase entry.1 name = true ∧
    ∃ above below, m.headerEntries = above ++ entry :: below ∧
      m.headerBlock = String.join (above.map headerLine) ++ headerLine entry ++
        String.join (below.map headerLine) ∧
      ∀ e ∈ above, equalsIgnoringCase e.1 name = false

theorem standsFirst_of_find? {entry : String × String}
    (h : m.headerEntries.find? (isNamed name) = some entry) : m.StandsFirst name entry := by
  obtain ⟨hname, above, below, hentries, habove⟩ := List.find?_eq_some_iff_append.1 h
  refine ⟨hname, above, below, hentries, ?_, fun e he => ?_⟩
  · rw [headerBlock, hentries]
    simp [String.append_assoc]
  · simpa [isNamed] using habove e he

/-- The look-up and the header block agree unless a field hides the name: a header is found if it
has an entry in the block, and the value of the first such entry is what conditions on the header
see. -/
theorem header?_agrees_with_block (m : Message) (name : String) :
    ((m.header? name).isSome = true ↔
      ¬m.Hides name ∧ ∃ e ∈ m.headerEntries, equalsIgnoringCase e.1 name = true) ∧
    ∀ value, m.header? name = some value →
      m.texts (.header name) = [value] ∧ ∃ n, m.StandsFirst name (n, value) := by
  have htexts : ∀ value, m.header? name = some value → m.texts (.header name) = [value] :=
    fun value hvalue => by rw [texts, hvalue, Option.getD_some]
  by_cases h : m.Hides name
  · simp [header?_of_hides h, h]
  · refine ⟨?_, fun value hvalue => ⟨htexts value hvalue, ?_⟩⟩
    · rw [header?_of_not_hides h, Option.isSome_map, List.find?_isSome]
      exact (and_iff_right h).symm
    · rw [header?_of_not_hides h] at hvalue
      obtain ⟨⟨n, v⟩, hfind, rfl⟩ := Option.map_eq_some_iff.1 hvalue
      exact ⟨n, standsFirst_of_find? hfind⟩

/-- A message with a subject among the extra headers: it is in the block and cannot be looked up. -/
theorem header?_misses_block :
    ∃ m, listOfJson "[\x7b\"headers\": \x7b\"Subject\": \"hi\"\x7d\x7d]" = .ok [m] ∧
      m.headerBlock = "Subject: hi\n" ∧ m.StandsFirst "Subject" ("Subject", "hi") ∧
      m.header? "Subject" = none := by
  refine ⟨{ headers := ⟨[("Subject", "hi")], List.pairwise_singleton _ _⟩ }, ?_, ?_, ?_, ?_⟩
  · decide +kernel
  · decide +kernel
  · exact standsFirst_of_find? (by decide +kernel)
  · decide +kernel

end Message

end MailFilter
