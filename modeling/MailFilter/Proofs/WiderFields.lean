import MailFilter.Proofs.LetterCase

/-!
# Texts Inside Wider Ones

The value of a header stands on its line in the header block, and the whole of a message is made up
of the block and the body (`Field.LiesIn`). So what a literal condition finds in one of these texts
it finds in the wider one as well.

With regard to case that is plain. Without regard to case each text is lowered for itself, and the
form of a capital sigma depends on the letters around it. In the wider text these could be letters
behind the ends of the narrower one. But a value stands between a blank and a line feed, and so do
the block and the body where they meet, and neither lets the search for a letter pass
(`Unicode.StandsApart`). So the narrower text is lowered alike in both places, whatever the operand
is; that is more than can be said of an operand that occurs anywhere in a text.

## Main results

* `Unicode.StandsApart.lowercase_infix`: a text that stands apart is lowered as it is alone.
* `Message.exists_standsApart`: the texts of a message stand apart in the wider ones.
* `Condition.verdict_widens`: what a literal condition finds it finds in the wider texts as well.
-/

namespace MailFilter

/-! ### Texts that stand apart -/

namespace Unicode

/-- Whether a text stands in a longer one with no letter to be reached from its ends. -/
def StandsApart (s t : List Char) : Prop :=
  ∃ front back, t = front ++ s ++ back ∧ reachesCased front.reverse = false ∧
    reachesCased back = false

/-- A character that is no letter ends the search for one, unless it is skipped. -/
theorem reachesCased_of_not_isCased {c : Char} (hskip : isCaseIgnorable c = false)
    (hcased : isCased c = false) (s : List Char) : reachesCased (c :: s) = false := by
  simp [reachesCased, hskip, hcased]

theorem reachesCased_blank (s : List Char) : reachesCased (' ' :: s) = false :=
  reachesCased_of_not_isCased (by decide +kernel) (by decide +kernel) s

theorem reachesCased_newline (s : List Char) : reachesCased ('\n' :: s) = false :=
  reachesCased_of_not_isCased (by decide +kernel) (by decide +kernel) s

/-- Texts that reach no letter do not help to reach one. -/
theorem reachesCased_append_of {t : List Char} (ht : reachesCased t = false) (s : List Char) :
    reachesCased (s ++ t) = reachesCased s := by
  rw [reachesCased_append, ht]
  split
  · next hall => exact (reachesCased_of_all hall).symm
  · rfl

/-- A text that stands apart is lowered as it is alone. -/
theorem StandsApart.lowercase_infix {s t : List Char} (h : StandsApart s t) :
    lowercase s <:+: lowercase t := by
  obtain ⟨front, back, rfl, hfront, hback⟩ := h
  refine lowercase_infix_of_within ?_
  have hform : formWithin front.reverse back = lowerSigma := by
    funext before after
    rw [formWithin, lowerSigma, lowerSigma, reachesCased_append_of hfront,
      reachesCased_append_of hback]
  rw [hform, lowercase_eq]

end Unicode

open Unicode (StandsApart)

namespace Comparison

/-- An operand that occurs in a text occurs in every longer one in which that stands apart. -/
theorem occurs_of_standsApart {how : Comparison} {operand s t : String}
    (h : StandsApart s.toList t.toList) (hs : how.occurs operand s = true) :
    how.occurs operand t = true := by
  rw [occurs] at hs ⊢
  split at hs
  · next hcase =>
    obtain ⟨front, back, ht, -, -⟩ := h
    rw [if_pos hcase, Text.occursIn_iff]
    exact (Text.occursIn_iff.1 hs).trans ⟨front, back, ht.symm⟩
  · next hcase =>
    rw [if_neg hcase, Text.occursIn_iff]
    exact (Text.occursIn_iff.1 hs).trans h.lowercase_infix

/-- An operand that occurs in the empty text occurs in every text. -/
theorem occurs_of_empty {how : Comparison} {operand : String} (h : how.occurs operand "" = true)
    (t : String) : how.occurs operand t = true := by
  rw [occurs] at h ⊢
  split at h
  · next hcase =>
    rw [if_pos hcase, List.infix_nil.1 (Text.occursIn_iff.1 h)]
    exact Text.occursIn_nil _
  · next hcase =>
    rw [if_neg hcase, List.infix_nil.1 (Text.occursIn_iff.1 h)]
    exact Text.occursIn_nil _

end Comparison

/-! ### The texts of a message -/

/-- Whether a field is one header or two of them. -/
def Field.isHeader : Field → Bool
  | headerBlock => false
  | body => false
  | whole => false
  | _ => true

/-- Which fields are parts of which: headers of the block, and the block and the body of the whole
message. -/
inductive Field.LiesIn : Field → Field → Prop
  | header {f : Field} : f.isHeader = true → LiesIn f headerBlock
  | headerBlock : LiesIn headerBlock whole
  | body : LiesIn body whole

namespace Message

variable {m : Message}

/-- A header that is there has an entry in the block. -/
theorem mem_headerEntries_of_header? {name value : String} (h : m.header? name = some value) :
    ∃ n, (n, value) ∈ m.headerEntries := by
  rw [header?] at h
  split at h
  · next n value? hfind =>
    subst h
    exact ⟨n, List.mem_append_left _
      (List.mem_filterMap.2 ⟨(n, some value), List.mem_of_find?_eq_some hfind, rfl⟩)⟩
  · obtain ⟨⟨n, v⟩, hfind, rfl⟩ := Option.map_eq_some_iff.1 h
    exact ⟨n, List.mem_append_right _ (List.mem_of_find?_eq_some hfind)⟩

/-- The text of a header with a field of its own is empty or has an entry in the block. -/
theorem mem_headerEntries_of_known {value? : Option String}
    (h : value? ∈ m.knownHeaders.map (·.2)) :
    value?.getD "" = "" ∨ ∃ n, (n, value?.getD "") ∈ m.headerEntries := by
  obtain ⟨⟨n, v⟩, hmem, rfl⟩ := List.mem_map.1 h
  cases v with
  | none => exact .inl rfl
  | some value =>
    exact .inr ⟨n, List.mem_append_left _ (List.mem_filterMap.2 ⟨_, hmem, rfl⟩)⟩

/-- The text of a header is empty or has an entry in the block. -/
theorem mem_headerEntries_of_isHeader {f : Field} (hf : f.isHeader = true) {s : String}
    (hs : s ∈ m.texts f) : s = "" ∨ ∃ n, (n, s) ∈ m.headerEntries := by
  cases f with
  | header name =>
    obtain rfl := List.mem_singleton.1 hs
    cases h : m.header? name with
    | none => exact .inl rfl
    | some value => exact .inr (mem_headerEntries_of_header? h)
  | recipientOrCc =>
    rcases List.mem_pair.1 hs with rfl | rfl
    · exact mem_headerEntries_of_known (by simp [knownHeaders])
    · exact mem_headerEntries_of_known (by simp [knownHeaders])
  | headerBlock | body | whole => cases hf
  | _ =>
    obtain rfl := List.mem_singleton.1 hs
    exact mem_headerEntries_of_known (by simp [knownHeaders])

/-- The value of an entry stands apart in the block, between the blank behind its name and the end
of its line. -/
theorem standsApart_headerBlock {name value : String} (h : (name, value) ∈ m.headerEntries) :
    StandsApart value.toList m.headerBlock.toList := by
  obtain ⟨above, below, hentries⟩ := List.append_of_mem h
  refine ⟨(String.join (above.map headerLine)).toList ++ name.toList ++ ":".toList ++ [' '],
    '\n' :: (String.join (below.map headerLine)).toList, ?_, ?_, Unicode.reachesCased_newline _⟩
  · simp [headerBlock, hentries, String.toList_join, headerLine]
  · rw [List.reverse_append]
    exact Unicode.reachesCased_blank _

/-- The header block stands apart in the whole message, in front of a line feed. -/
theorem standsApart_whole_headerBlock (m : Message) :
    StandsApart m.headerBlock.toList m.whole.toList :=
  ⟨[], '\n' :: (m.body.getD "").toList, by simp [whole], rfl, Unicode.reachesCased_newline _⟩

/-- The body stands apart in the whole message, behind a line feed. -/
theorem standsApart_whole_body (m : Message) :
    StandsApart (m.body.getD "").toList m.whole.toList :=
  ⟨m.headerBlock.toList ++ ['\n'], [], by simp [whole], by
    rw [List.reverse_append]
    exact Unicode.reachesCased_newline _, rfl⟩

/-- Every text of a field stands apart in one of a wider field, unless it is empty. -/
theorem exists_standsApart {f g : Field} (h : f.LiesIn g) {s : String} (hs : s ∈ m.texts f) :
    ∃ t ∈ m.texts g, s = "" ∨ StandsApart s.toList t.toList := by
  cases h with
  | header hf =>
    refine ⟨m.headerBlock, List.mem_singleton_self _, ?_⟩
    exact (mem_headerEntries_of_isHeader hf hs).imp_right fun ⟨_, hentry⟩ =>
      standsApart_headerBlock hentry
  | headerBlock =>
    obtain rfl := List.mem_singleton.1 hs
    exact ⟨m.whole, List.mem_singleton_self _, .inr m.standsApart_whole_headerBlock⟩
  | body =>
    obtain rfl := List.mem_singleton.1 hs
    exact ⟨m.whole, List.mem_singleton_self _, .inr m.standsApart_whole_body⟩

end Message

/-! ### Literal conditions -/

namespace Condition

/-- What a literal condition finds in a field, with or without regard to case, it finds in the wider
fields as well. -/
theorem verdict_widens (ctx : Context) (m : Message) {how : Comparison}
    (hhow : how.isPattern = false) (operand : String) {f g : Field} (h : f.LiesIn g)
    (hfound : verdict ctx m ⟨false, .text f how operand⟩ = .ok true) :
    verdict ctx m ⟨false, .text g how operand⟩ = .ok true := by
  rw [verdict_literal ctx m _ hhow, Except.ok.injEq, List.any_eq_true] at hfound ⊢
  obtain ⟨s, hs, hoccurs⟩ := hfound
  obtain ⟨t, ht, rfl | hapart⟩ := Message.exists_standsApart h hs
  · exact ⟨t, ht, Comparison.occurs_of_empty hoccurs t⟩
  · exact ⟨t, ht, Comparison.occurs_of_standsApart hapart hoccurs⟩

/-- A word in capitals with a sigma at its end, in a header that has no field of its own. -/
theorem verdict_widens_sigma :
    let ctx : Context := ⟨⟨0, 0, 0⟩, fun _ _ => .exited 0, none⟩
    let m : Message :=
      { headers := ⟨[("X-Tag", "ΟΔΟΣ")], List.pairwise_singleton _ _⟩, body := some "α" }
    (Comparison.plain.isPattern = false ∧ (Field.header "x-tag").LiesIn .headerBlock ∧
      Field.headerBlock.LiesIn .whole) ∧
    verdict ctx m ⟨false, .text (.header "x-tag") .plain "οδος"⟩ = .ok true ∧
      verdict ctx m ⟨false, .text .headerBlock .plain "οδος"⟩ = .ok true ∧
      verdict ctx m ⟨false, .text .whole .plain "οδος"⟩ = .ok true := by
  intro ctx m
  have hheader : verdict ctx m ⟨false, .text (.header "x-tag") .plain "οδος"⟩ = .ok true := by
    decide +kernel
  have hblock := verdict_widens ctx m rfl "οδος" (.header rfl) hheader
  have hwhole := verdict_widens ctx m rfl "οδος" .headerBlock hblock
  exact ⟨⟨rfl, .header rfl, .headerBlock⟩, hheader, hblock, hwhole⟩

end Condition

end MailFilter
