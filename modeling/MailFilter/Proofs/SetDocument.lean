import MailFilter.Proofs.CanonicalText
import MailFilter.RuleSet.RuleSet

/-!
# Documents of Rule Sets

A rule set is written with the description of each rule as comments above the line of the rule, and
read back line by line. A rule comes back if it stands on a line of its own (`ListedRule.FitsLine`),
whatever its description is. The description comes back as comments keep it: they are trimmed, so
that the blanks at the ends of its lines are lost; and the last line is lost if it is empty, because
the lines that are written as comments do not tell a description that ends with a line feed from the
same one without it.

So what a document can hold is a rule that fits a line, with a description that is made of lines
without blanks at their ends (`ListedRule.IsListable`). Every rule that was read from a document is
listable, whatever the document looks like.

## Main results

* `RuleSet.ofDocument_document_of_fitsLine`: what rules on lines of their own are read back as.
* `RuleSet.isListable_of_ofDocument`: every rule that was read is listable.
* `RuleSet.ofDocument_document`: what listable rules are read back as.
* `RuleSet.ofDocument_document_iff`: exactly which sets are read back.
* `RuleSet.ofDocument_document_of_ofDocument`: what a set that was read is read back as.
-/

namespace MailFilter

open Text (isBlank trim trimEnd trimStart lines leadingBlanks)

/-- A description without the line feed at its end. -/
def withoutLastNewline (description : String) : String :=
  if description.toList.getLast? = some '\n' then String.ofList description.toList.dropLast
  else description

/-- A description without the blanks at the ends of its lines. -/
def withoutLineEnds (description : String) : String :=
  String.ofList (['\n'].intercalate ((description.toList.splitOn '\n').map trimEnd))

namespace ListedRule

/-- The rule with a description that does not end with a line feed. -/
def settled (r : ListedRule) : ListedRule :=
  { r with description := withoutLastNewline r.description }

/-- The rule with a description without blanks at the ends of its lines. -/
def tidied (r : ListedRule) : ListedRule := { r with description := withoutLineEnds r.description }

/-- A rule that is settled and tidied has another description, and is the same otherwise. -/
theorem tidied_settled (r : ListedRule) :
    r.settled.tidied =
      { r with description := withoutLineEnds (withoutLastNewline r.description) } := by
  simp only [settled, tidied]

/-- Whether a rule stands on a line of its own. -/
structure FitsLine (r : ListedRule) : Prop where
  name : ∀ name ∈ r.name, checkName name = .ok ()
  writable : Rule.parse r.rule.text = .ok r.rule
  line : '\n' ∉ r.rule.text.toList

/-- Whether a document can hold a rule. -/
structure IsListable (r : ListedRule) : Prop extends FitsLine r where
  description : ∀ piece ∈ r.description.toList.splitOn '\n',
    ∀ c ∈ piece.getLast?, isBlank c = false

/-- The description does not stand on the line of the rule. -/
theorem FitsLine.redescribed {r : ListedRule} (h : r.FitsLine) (description : String) :
    FitsLine { r with description := description } := ⟨h.name, h.writable, h.line⟩

end ListedRule

/-! ### Blanks at the ends of lines -/

namespace Text

/-- What remains of two texts, one behind the other, without the blanks at the end. -/
theorem trimEnd_append (s u : List Char) :
    trimEnd (s ++ u) = if trimEnd u = [] then trimEnd s else s ++ trimEnd u := by
  simp only [trimEnd, List.reverse_append, List.dropWhile_append, List.isEmpty_iff,
    List.reverse_eq_nil_iff]
  split
  · rfl
  · rw [List.reverse_append, List.reverse_reverse]

/-- Blanks at the end of a text do not count. -/
theorem trimEnd_append_blanks (s : List Char) {blanks : List Char}
    (h : ∀ c ∈ blanks, isBlank c = true) : trimEnd (s ++ blanks) = trimEnd s := by
  have hnil : blanks.reverse.dropWhile isBlank = [] :=
    List.dropWhile_eq_nil_iff.2 fun c hc => h c (List.mem_reverse.1 hc)
  rw [trimEnd_append, if_pos]
  rw [trimEnd, hnil, List.reverse_nil]

/-- What is cut off at the end of a text are blanks. -/
theorem exists_trimEnd_append (s : List Char) :
    ∃ blanks, s = trimEnd s ++ blanks ∧ ∀ c ∈ blanks, isBlank c = true := by
  refine ⟨(leadingBlanks s.reverse).reverse, ?_, fun c hc => ?_⟩
  · rw [trimEnd, ← List.reverse_append]
    exact (List.reverse_eq_iff.1 (leadingBlanks_append_trimStart s.reverse).symm)
  · exact List.mem_takeWhile_imp (List.mem_reverse.1 hc)

/-- What remains of a text without the blanks at its end stands in it. -/
theorem trimEnd_subset (s : List Char) : trimEnd s ⊆ s := by
  intro c hc
  rw [trimEnd, List.mem_reverse] at hc
  exact List.mem_reverse.1 ((List.dropWhile_sublist isBlank).subset hc)

/-- Exactly the texts that end with no blank keep their end. -/
theorem trimEnd_eq_self_iff {s : List Char} :
    trimEnd s = s ↔ ∀ c ∈ s.getLast?, isBlank c = false := by
  refine ⟨fun h c hc => ?_, trimEnd_eq_self⟩
  rw [← h, trimEnd, List.getLast?_reverse] at hc
  obtain ⟨rest, hrest⟩ := List.head?_eq_some_iff.1 (Option.mem_def.1 hc)
  exact head_trimStart_not_blank hrest

/-- A blank at the end of a text does not count. -/
theorem trim_concat {s : List Char} {c : Char} (hc : isBlank c = true) :
    trim (s ++ [c]) = trim s := by
  rw [trim, trim, trimStart, List.dropWhile_append]
  split
  · next hs =>
    rw [List.isEmpty_iff] at hs
    rw [trimStart, hs]
    simp [hc]
  · exact trimEnd_append_blanks _ (by simpa using hc)

/-- A text in front of a line feed is the first line, but for a carriage return at its end. -/
theorem exists_lines_append_newline {l : List Char} (hn : '\n' ∉ l) (s : List Char) :
    ∃ m, lines (l ++ '\n' :: s) = m :: lines s ∧ (l = m ∨ l = m ++ ['\r']) := by
  induction l with
  | nil => exact ⟨[], by simp [lines], .inl rfl⟩
  | cons c l ih =>
    obtain ⟨hc, hl⟩ := not_or.1 (mt List.mem_cons.2 hn)
    obtain ⟨m, hm, hends⟩ := ih hl
    by_cases hreturn : c = '\r' ∧ l = []
    · obtain ⟨rfl, rfl⟩ := hreturn
      exact ⟨[], by simp [lines], .inr rfl⟩
    · refine ⟨c :: m, ?_, by simpa using hends⟩
      rw [List.cons_append, lines, hm]
      · exact Ne.symm hc
      · -- a line feed behind a carriage return would be in the line, or right behind it
        rintro t rfl ht
        cases l with
        | nil => exact hreturn ⟨rfl, rfl⟩
        | cons d l =>
          rw [List.cons_append, List.cons.injEq] at ht
          exact hl (ht.1 ▸ List.mem_cons_self)

end Text

/-! ### Descriptions and their lines -/

section
variable {ps : List (List Char)}

/-- A line of a description: there is no line feed in it and no blank at its end. -/
def IsCommentLine (p : List Char) : Prop := '\n' ∉ p ∧ ∀ c ∈ p.getLast?, isBlank c = false

/-- The lines of a text that is put together from lines, without the blanks at their ends; an empty
last line is lost. -/
theorem map_trimEnd_lines_intercalate (hps : ∀ p ∈ ps, '\n' ∉ p) :
    (lines (['\n'].intercalate ps)).map trimEnd =
      (if ps.getLast? = some [] then ps.dropLast else ps).map trimEnd := by
  induction ps with
  | nil => rfl
  | cons p ps ih =>
    obtain ⟨hn, hrest⟩ := List.forall_mem_cons.1 hps
    cases ps with
    | nil =>
      by_cases hp : p = []
      · simp [hp, lines]
      · simp [hp, Text.lines_of_notMem hn hp]
    | cons q ps =>
      obtain ⟨m, hm, hends⟩ := Text.exists_lines_append_newline hn (['\n'].intercalate (q :: ps))
      have htrim : trimEnd m = trimEnd p := by
        rcases hends with rfl | rfl
        · rfl
        · exact (Text.trimEnd_append_blanks _ (by simp [isBlank])).symm
      rw [List.intercalate_cons_cons, List.append_assoc, List.singleton_append, hm, List.map_cons,
        ih hrest, htrim, List.getLast?_cons_cons, List.dropLast_cons_cons]
      split <;> rfl

/-- There are no line feeds in the pieces between line feeds. -/
theorem notMem_of_mem_splitOn {s p : List Char} (h : p ∈ s.splitOn '\n') : '\n' ∉ p := by
  induction s generalizing p with
  | nil => simp_all
  | cons c s ih =>
    rw [List.splitOn_cons_eq_if_modifyHead] at h
    split at h
    · rcases List.mem_cons.1 h with rfl | h
      · exact List.not_mem_nil
      · exact ih h
    · next hc =>
      obtain ⟨q, qs, hq⟩ := List.exists_cons_of_ne_nil (List.splitOn_ne_nil '\n' s)
      rw [hq] at h ih
      rcases List.mem_cons.1 h with rfl | h
      · have hne : '\n' ≠ c := fun hne => hc (beq_iff_eq.2 hne.symm)
        exact List.not_mem_cons_of_ne_of_not_mem hne (ih List.mem_cons_self)
      · exact ih (List.mem_cons_of_mem q h)

/-- The last piece is empty exactly if the text is empty or ends with a line feed. -/
theorem getLast?_splitOn_eq_nil_iff {s : List Char} :
    (s.splitOn '\n').getLast? = some [] ↔ s = [] ∨ s.getLast? = some '\n' := by
  constructor
  · intro h
    induction s with
    | nil => exact .inl rfl
    | cons c s ih =>
      obtain ⟨q, qs, hq⟩ := List.exists_cons_of_ne_nil (List.splitOn_ne_nil '\n' s)
      rw [List.splitOn_cons_eq_if_modifyHead, hq] at h
      rw [hq] at ih
      refine .inr ?_
      split at h
      · next hc =>
        rw [List.getLast?_cons_cons] at h
        rcases ih h with rfl | hs
        · simpa using hc
        · rw [List.getLast?_cons, hs, Option.getD_some]
      · -- the piece that starts with `c` is not the last one
        cases qs with
        | nil => simp at h
        | cons q' qs =>
          rw [List.modifyHead_cons, List.getLast?_cons_cons] at h
          rcases ih (by rwa [List.getLast?_cons_cons]) with rfl | hs
          · simp at hq
          · rw [List.getLast?_cons, hs, Option.getD_some]
  · rintro (rfl | h)
    · rfl
    · obtain ⟨e, rfl⟩ := List.getLast?_eq_some_iff.1 h
      rw [List.splitOn_append_cons_self, List.splitOn_nil, List.getLast?_concat]

end

/-- What the comments of a description say is the description, without the line feed at its end and
the blanks at the ends of its lines. -/
theorem intercalate_lines_description (d : String) :
    String.ofList (['\n'].intercalate ((lines d.toList).map trimEnd)) =
      withoutLineEnds (withoutLastNewline d) := by
  have hlines := map_trimEnd_lines_intercalate fun p (hp : p ∈ d.toList.splitOn '\n') =>
    notMem_of_mem_splitOn hp
  rw [List.intercalate_splitOn] at hlines
  rw [hlines, withoutLineEnds, withoutLastNewline]
  by_cases hlast : d.toList.getLast? = some '\n'
  · obtain ⟨e, he⟩ := List.getLast?_eq_some_iff.1 hlast
    rw [if_pos (getLast?_splitOn_eq_nil_iff.2 (.inr hlast)), if_pos hlast, he,
      List.splitOn_append_cons_self, List.splitOn_nil, List.dropLast_concat, List.dropLast_concat,
      String.toList_ofList]
  · rw [if_neg hlast]
    by_cases hd : d.toList = []
    · obtain rfl : d = "" := String.toList_eq_nil_iff.1 hd
      rfl
    · rw [if_neg (mt getLast?_splitOn_eq_nil_iff.1 (not_or.2 ⟨hd, hlast⟩))]

/-- A description keeps its text exactly if there are no blanks at the ends of its lines. -/
theorem withoutLineEnds_eq_iff {d : String} :
    withoutLineEnds d = d ↔
      ∀ p ∈ d.toList.splitOn '\n', ∀ c ∈ p.getLast?, isBlank c = false := by
  constructor
  · intro h
    have htrimmed : ∀ p ∈ (d.toList.splitOn '\n').map trimEnd, '\n' ∉ p :=
      List.forall_mem_map.2 fun p hp hn => notMem_of_mem_splitOn hp (Text.trimEnd_subset p hn)
    have hne : (d.toList.splitOn '\n').map trimEnd ≠ [] := by simp
    have hmap := congrArg (fun d : String => d.toList.splitOn '\n') h
    rw [withoutLineEnds, String.toList_ofList, List.splitOn_intercalate '\n' htrimmed hne] at hmap
    have hkept := List.map_inj_left.1 (hmap.trans (List.map_id' _).symm)
    exact fun p hp => Text.trimEnd_eq_self_iff.1 (hkept p hp)
  · intro h
    rw [withoutLineEnds, List.map_congr_left fun p hp => Text.trimEnd_eq_self (h p hp),
      List.map_id', List.intercalate_splitOn, String.ofList_toList]

/-- What is left of a description without the line feed at its end are lines of it. -/
theorem splitOn_withoutLastNewline_subset (d : String) :
    (withoutLastNewline d).toList.splitOn '\n' ⊆ d.toList.splitOn '\n' := by
  rw [withoutLastNewline]
  split
  · next hlast =>
    obtain ⟨e, he⟩ := List.getLast?_eq_some_iff.1 hlast
    rw [String.toList_ofList, he, List.dropLast_concat, List.splitOn_append_cons_self]
    exact List.subset_append_left _ _
  · exact List.Subset.refl _

/-- A description keeps its text exactly if it does not end with a line feed. -/
theorem withoutLastNewline_eq_iff {d : String} :
    withoutLastNewline d = d ↔ d.toList.getLast? ≠ some '\n' := by
  rw [withoutLastNewline]
  split
  · next h =>
    obtain ⟨e, he⟩ := List.getLast?_eq_some_iff.1 h
    refine ⟨fun hd => ?_, fun hd => absurd h hd⟩
    have hlength := congrArg (·.toList.length) hd
    simp [he] at hlength
  · next h => exact ⟨fun _ => h, fun _ => rfl⟩

/-! ### Writing and reading lines -/

namespace RuleSet

/-- What a line is does not depend on the carriage return at its end. -/
theorem readLines_append_newline {l : List Char} (hn : '\n' ∉ l) (line : Nat)
    (comments : List (List Char)) (s : List Char) :
    readLines line comments (lines (l ++ '\n' :: s)) =
      readLines line comments (l :: lines s) := by
  obtain ⟨m, hm, hends⟩ := Text.exists_lines_append_newline hn s
  have hkind : LineKind.ofLine m = LineKind.ofLine l := by
    rcases hends with rfl | rfl
    · rfl
    · rw [LineKind.ofLine, LineKind.ofLine, Text.trim_concat (by decide)]
  rw [hm, readLines, readLines, hkind]

/-- A line of a description is read back from its comment, without the blanks at its end. -/
theorem ofLine_comment (p : List Char) :
    LineKind.ofLine ('#' :: ' ' :: p) = .comment (trimEnd p) := by
  have htrim : trim ('#' :: ' ' :: p) =
      if trimEnd p = [] then ['#'] else '#' :: ' ' :: trimEnd p := by
    have hstart : trimStart ('#' :: ' ' :: p) = ['#', ' '] ++ p :=
      Text.trimStart_eq_self (by simp; decide)
    rw [trim, hstart, Text.trimEnd_append]
    rfl
  rw [LineKind.ofLine, htrim]
  by_cases hp : trimEnd p = []
  · rw [if_pos hp, hp]
    rfl
  · rw [if_neg hp]
    rfl

/-- The comments of a description are read back in front of every document. -/
theorem readLines_comments {ps : List (List Char)} (h : ∀ p ∈ ps, '\n' ∉ p) (line : Nat)
    (comments : List (List Char)) (s : List Char) :
    readLines line comments (lines (ps.flatMap (fun p => '#' :: ' ' :: p ++ ['\n']) ++ s)) =
      readLines (line + ps.length) (comments ++ ps.map trimEnd) (lines s) := by
  induction ps generalizing line comments with
  | nil => simp
  | cons p ps ih =>
    obtain ⟨hp, hps⟩ := List.forall_mem_cons.1 h
    have hn : '\n' ∉ '#' :: ' ' :: p := by simp [hp]
    rw [List.flatMap_cons, List.append_assoc, List.append_assoc, List.singleton_append,
      readLines_append_newline hn, readLines, ofLine_comment]
    simp only [ih hps, List.length_cons, List.map_cons, List.append_assoc, List.singleton_append]
    congr 1
    omega

/-- A line without blanks around it that does not start as comments do is that of a rule. -/
theorem ofLine_rule {w : List Char} (hne : w ≠ [])
    (hhead : ∀ c ∈ w.head?, isBlank c = false ∧ c ≠ '#')
    (hlast : ∀ c ∈ w.getLast?, isBlank c = false) : trim w = w ∧ LineKind.ofLine w = .rule w := by
  have htrim : trim w = w := Text.trim_eq_self (fun c hc => (hhead c hc).1) hlast
  refine ⟨htrim, ?_⟩
  obtain ⟨c, u, rfl⟩ := List.exists_cons_of_ne_nil hne
  rw [LineKind.ofLine, htrim]
  exact if_neg (hhead c rfl).2

end RuleSet

namespace ListedRule

open RuleSet (LineKind ofLine_rule)

/-- A name is made of characters of names. -/
theorem plain_of_checkName {name : String} (h : checkName name = .ok ()) :
    name.toList ≠ [] ∧ ∀ c ∈ name.toList, isNameChar c = true := by
  obtain ⟨hne, -, hall⟩ := checkName_ok_iff.1 h
  exact ⟨mt String.toList_eq_nil_iff.1 hne, List.all_eq_true.1 hall⟩

/-- No line of a rule without a name starts with a name. -/
theorem splitName?_of_isRuleLine {w : List Char} (h : IsRuleLine w) : splitName? w = none := by
  rw [splitName?]
  split
  · next before after hsplit =>
    obtain ⟨rfl, hbefore⟩ := Text.eq_of_splitFirst? hsplit
    -- the first colon stands behind a quote or a slash, which no name holds
    have hmark : ∃ c ∈ before, c = '"' ∨ c = '/' := by
      by_contra hnone
      refine h.colon ?_
      have hall : ∀ c ∈ before, (c != '"' && c != '/') = true := by
        intro c hc
        have := not_exists.1 hnone c
        simp_all
      rw [frontOf, List.takeWhile_append_of_pos hall]
      exact List.mem_append_right _ List.mem_cons_self
    obtain ⟨c, hc, hmark⟩ := hmark
    have hblank : isBlank c = false := by
      rcases hmark with rfl | rfl <;> decide
    refine if_neg fun hvalid => ?_
    have hplain := (plain_of_checkName (isValidName_iff.1 hvalid)).2 c
      (by simpa using Text.mem_trim_of_mem hc hblank)
    rcases hmark with rfl | rfl <;> exact absurd hplain (by decide)
  · rfl

/-- A name in front of a line is split off. -/
theorem splitName?_name {name : String} (h : checkName name = .ok ()) (w : List Char) :
    splitName? (name.toList ++ ':' :: w) = some (name, w) := by
  obtain ⟨-, hplain⟩ := plain_of_checkName h
  have hcolon : ':' ∉ name.toList := fun hc => absurd (hplain _ hc) (by decide)
  have hblank : ∀ c ∈ name.toList, isBlank c = false := fun c hc =>
    (plain_of_isNameChar (hplain c hc)).1
  have htrim : trim name.toList = name.toList :=
    Text.trim_eq_self (fun c hc => hblank c (List.mem_of_mem_head? hc))
      fun c hc => hblank c (List.mem_of_mem_getLast? hc)
  rw [splitName?, Text.splitFirst?_append hcolon]
  simp only [htrim, String.ofList_toList, isValidName_iff.2 h, if_true]

/-- The line of a rule stands for itself. -/
theorem ofLine_write_rule {r : ListedRule} (h : r.FitsLine) :
    trim r.write = r.write ∧ LineKind.ofLine r.write = .rule r.write := by
  have hw := r.rule.isRuleLine_write
  rw [write]
  split
  · next name hname =>
    obtain ⟨hne, hplain⟩ := plain_of_checkName (h.name name hname)
    have hline := IsRuleLine.plain hne hplain
    have hlong : name.toList ++ ": ".toList ++ r.rule.write ≠ [] := by simp [hne]
    refine ofLine_rule hlong ?_ ?_
    · rw [List.append_assoc, List.head?_append_of_ne_nil _ hne]
      exact hline.head
    · rw [List.getLast?_append_of_ne_nil _ hw.ne_nil]
      exact hw.last
  · exact ofLine_rule hw.ne_nil hw.head hw.last

/-- There are no line feeds in the line of a rule. -/
theorem notMem_write {r : ListedRule} (h : r.FitsLine) : '\n' ∉ r.write := by
  have hline := h.line
  rw [Rule.text, String.toList_ofList] at hline
  rw [write]
  split
  · next name hname =>
    have hn : '\n' ∉ name.toList := fun hn =>
      absurd ((plain_of_checkName (h.name name hname)).2 _ hn) (by decide)
    simp [hn, hline]
  · exact hline

/-- A rule is read back from its line. -/
theorem ofLine_write {r : ListedRule} (h : r.FitsLine) :
    ListedRule.ofLine r.write = .ok { r with description := "" } := by
  have hread : Rule.ofTokens (.ofText 0 r.rule.write) = .ok r.rule := by
    have hr := h.writable
    rwa [Rule.parse, Rule.text, String.toList_ofList] at hr
  have hblank : Rule.ofTokens (.ofText 0 (' ' :: r.rule.write)) = .ok r.rule := by
    obtain ⟨ls, hs, hden⟩ := Rule.ofTokens_ok_iff.1 hread
    exact Rule.ofTokens_ok_iff.2 ⟨ls, (spelled?_blank (by decide) _).trans hs, hden⟩
  simp only [ListedRule.ofLine, (ofLine_write_rule h).1]
  obtain ⟨name, description, rule⟩ := r
  cases name with
  | some name =>
    have hsplit : splitName? (write ⟨some name, description, rule⟩) =
        some (name, ' ' :: rule.write) := by
      simpa [write] using splitName?_name (h.name name rfl) (' ' :: rule.write)
    rw [hsplit]
    simp only [hblank]
    rfl
  | none =>
    have hsplit : splitName? (write ⟨none, description, rule⟩) = none :=
      splitName?_of_isRuleLine rule.isRuleLine_write
    rw [hsplit]
    simp only [write, hread]
    rfl

end ListedRule

namespace RuleSet

/-- A rule is read back in front of every document. -/
theorem readLines_writeEntry {r : ListedRule} (h : r.FitsLine) (line : Nat) (s : List Char) :
    readLines line [] (lines (writeEntry r ++ s)) =
      (readLines (line + (lines r.description.toList).length + 1) [] (lines s)).map
        (r.settled.tidied :: ·) := by
  have hline := (ListedRule.ofLine_write_rule h).2
  rw [writeEntry, List.append_assoc, List.append_assoc, List.singleton_append,
    readLines_comments fun _ => Text.notMem_of_mem_lines,
    readLines_append_newline (ListedRule.notMem_write h), readLines, hline]
  simp only [ListedRule.ofLine_write h, List.nil_append, intercalate_lines_description]
  rfl

/-- What the rules of a set are read back as, if each stands on a line of its own. -/
theorem readLines_document {rules : RuleSet} (h : ∀ r ∈ rules, r.FitsLine) (line : Nat) :
    readLines line [] (lines (rules.flatMap writeEntry)) =
      .ok (rules.map fun r => r.settled.tidied) := by
  induction rules generalizing line with
  | nil => rfl
  | cons r rules ih =>
    obtain ⟨hr, hrules⟩ := List.forall_mem_cons.1 h
    rw [List.flatMap_cons, readLines_writeEntry hr, ih hrules]
    rfl

/-- A set of rules that stand on lines of their own is read back without the line feeds at the ends
of descriptions and the blanks at the ends of their lines. -/
theorem ofDocument_document_of_fitsLine {rules : RuleSet} (h : ∀ r ∈ rules, r.FitsLine) :
    ofDocument (document rules) = .ok (rules.map fun r => r.settled.tidied) := by
  rw [ofDocument, document, String.toList_ofList, readLines_document h]

/-- A set of listable rules is read back without the line feeds at the ends of descriptions. -/
theorem ofDocument_document {rules : RuleSet} (h : ∀ r ∈ rules, r.IsListable) :
    ofDocument (document rules) = .ok (rules.map ListedRule.settled) := by
  rw [ofDocument_document_of_fitsLine fun r hr => (h r hr).toFitsLine, Except.ok.injEq]
  refine List.map_congr_left fun r hr => ?_
  rw [ListedRule.tidied, withoutLineEnds_eq_iff.2]
  exact fun p hp => (h r hr).description p (splitOn_withoutLastNewline_subset r.description hp)

end RuleSet

/-! ### Rules that were read -/

namespace ListedRule

/-- The name that is split off a line is valid, and the rest stands in the line. -/
theorem of_splitName? {line rest : List Char} {name : String}
    (h : splitName? line = some (name, rest)) : checkName name = .ok () ∧ rest ⊆ line := by
  rw [splitName?] at h
  split at h
  · next before after hsplit =>
    obtain ⟨rfl, -⟩ := Text.eq_of_splitFirst? hsplit
    obtain ⟨hvalid, hsome⟩ := Option.ite_none_right_eq_some.1 h
    cases hsome
    exact ⟨isValidName_iff.1 hvalid, fun c hc => by simp [hc]⟩
  · cases h

/-- A rule that was read from a line has a valid name, can be written, and is written without line
feeds if there are none in the line. -/
theorem of_ofLine {line : List Char} {r : ListedRule} (h : ListedRule.ofLine line = .ok r)
    (hn : '\n' ∉ line) :
    (∀ name ∈ r.name, checkName name = .ok ()) ∧ Rule.parse r.rule.text = .ok r.rule ∧
      '\n' ∉ r.rule.text.toList := by
  have hrule : ∀ {s : List Char} {rule : Rule}, s ⊆ line →
      Rule.ofTokens (.ofText 0 s) = .ok rule →
      Rule.parse rule.text = .ok rule ∧ '\n' ∉ rule.text.toList := by
    intro s rule hs hread
    have hparse : Rule.parse (String.ofList s) = .ok rule := by
      rwa [Rule.parse, String.toList_ofList]
    refine ⟨(Rule.parse_text_ok_iff rule).2 (Rule.isWritable_of_parse hparse), fun hmem => ?_⟩
    rw [Rule.text, String.toList_ofList] at hmem
    exact hn (hs (Rule.mem_of_mem_write hread hmem (by decide)))
  rw [ListedRule.ofLine] at h
  split at h
  · next name rest hsplit =>
    obtain ⟨rule, hread, rfl⟩ := map_ok_iff.1 h
    obtain ⟨hname, hrest⟩ := of_splitName? hsplit
    refine ⟨?_, hrule (List.Subset.trans hrest (Text.trim_subset line)) hread⟩
    rintro _ ⟨⟩
    exact hname
  · obtain ⟨rule, hread, rfl⟩ := map_ok_iff.1 h
    exact ⟨by simp, hrule (Text.trim_subset line) hread⟩

end ListedRule

namespace RuleSet

/-- A comment says a line of a description. -/
theorem isCommentLine_of_ofLine {l p : List Char} (hl : '\n' ∉ l)
    (h : LineKind.ofLine l = .comment p) : IsCommentLine p := by
  rw [LineKind.ofLine] at h
  split at h
  · cases h
  · next c s htrim =>
    split at h
    · cases h
      have hsuffix : commentText s <:+ c :: s := by
        unfold commentText
        split
        · exact (List.suffix_cons _ _).trans (List.suffix_cons _ _)
        · exact List.suffix_cons _ _
      rw [← htrim] at hsuffix
      refine ⟨fun hmem => hl (Text.trim_subset l (hsuffix.subset hmem)), fun d hd => ?_⟩
      obtain ⟨t, ht⟩ := hsuffix
      refine Text.last_trim_not_blank (s := l) ?_
      rw [← ht, List.getLast?_append, Option.mem_def.1 hd]
      rfl
    · cases h

/-- The line of a rule is that line without the blanks around it. -/
theorem eq_trim_of_ofLine {l w : List Char} (h : LineKind.ofLine l = .rule w) : w = trim l := by
  rw [LineKind.ofLine] at h
  split at h
  · cases h
  · next htrim =>
    split at h
    · cases h
    · cases h
      exact htrim.symm

/-- The pieces of a description are the comments that it was put together from. -/
theorem forall_mem_splitOn_intercalate {ps : List (List Char)} (h : ∀ p ∈ ps, IsCommentLine p) :
    ∀ p ∈ (['\n'].intercalate ps).splitOn '\n', ∀ c ∈ p.getLast?, isBlank c = false := by
  by_cases hps : ps = []
  · subst hps
    simp
  · rw [List.splitOn_intercalate '\n' (fun p hp => (h p hp).1) hps]
    exact fun p hp => (h p hp).2

/-- Every rule that was read from lines is listable. -/
theorem isListable_of_readLines {line : Nat} {comments ls : List (List Char)} {rules : RuleSet}
    (hls : ∀ l ∈ ls, '\n' ∉ l) (hcomments : ∀ p ∈ comments, IsCommentLine p)
    (h : readLines line comments ls = .ok rules) : ∀ r ∈ rules, r.IsListable := by
  induction ls generalizing line comments rules with
  | nil =>
    cases h
    simp
  | cons l ls ih =>
    obtain ⟨hl, hrest⟩ := List.forall_mem_cons.1 hls
    rw [readLines] at h
    split at h
    · exact ih hrest (by simp) h
    · next p hp =>
      refine ih hrest ?_ h
      exact List.forall_mem_append.2 ⟨hcomments, by simpa using isCommentLine_of_ofLine hl hp⟩
    · next w hw =>
      split at h
      · cases h
      · next r hr =>
        obtain ⟨rest, hread, rfl⟩ := map_ok_iff.1 h
        refine List.forall_mem_cons.2 ⟨?_, ih hrest (by simp) hread⟩
        rw [eq_trim_of_ofLine hw] at hr
        obtain ⟨hname, hwritable, hline⟩ :=
          ListedRule.of_ofLine hr fun hmem => hl (Text.trim_subset l hmem)
        refine ⟨⟨hname, hwritable, hline⟩, ?_⟩
        rw [String.toList_ofList]
        exact forall_mem_splitOn_intercalate hcomments

/-- Every rule that was read from a document is listable. -/
theorem isListable_of_ofDocument {text : String} {rules : RuleSet}
    (h : ofDocument text = .ok rules) : ∀ r ∈ rules, r.IsListable :=
  isListable_of_readLines (fun _ hl => Text.notMem_of_mem_lines hl) (by simp) h

/-! ### Which sets come back -/

/-- A set of listable rules comes back exactly if no description ends with a line feed. -/
theorem ofDocument_document_eq_iff {rules : RuleSet} (h : ∀ r ∈ rules, r.IsListable) :
    ofDocument (document rules) = .ok rules ↔
      ∀ r ∈ rules, r.description.toList.getLast? ≠ some '\n' := by
  have hsettled : ∀ r : ListedRule, r.settled = r ↔ r.description.toList.getLast? ≠ some '\n' := by
    intro r
    rw [← withoutLastNewline_eq_iff, ListedRule.settled]
    constructor
    · intro hr
      exact congrArg ListedRule.description hr
    · intro hr
      rw [hr]
  rw [ofDocument_document h, Except.ok.injEq]
  calc rules.map ListedRule.settled = rules
      ↔ rules.map ListedRule.settled = rules.map id := by rw [List.map_id]
    _ ↔ ∀ r ∈ rules, r.settled = r := List.map_inj_left
    _ ↔ ∀ r ∈ rules, r.description.toList.getLast? ≠ some '\n' :=
        forall₂_congr fun r _ => hsettled r

/-- Exactly the sets of listable rules whose descriptions do not end with a line feed are read back
from their documents. -/
theorem ofDocument_document_iff (rules : RuleSet) :
    ofDocument (document rules) = .ok rules ↔
      ∀ r ∈ rules, (∀ name ∈ r.name, checkName name = .ok ()) ∧
        Rule.parse r.rule.text = .ok r.rule ∧ '\n' ∉ r.rule.text.toList ∧
        (∀ piece ∈ r.description.toList.splitOn '\n', ∀ c ∈ piece.getLast?, isBlank c = false) ∧
        (r.description = "" ∨ (r.description.toList.splitOn '\n').getLast? ≠ some []) := by
  have hlast : ∀ d : String, (d = "" ∨ (d.toList.splitOn '\n').getLast? ≠ some []) ↔
      d.toList.getLast? ≠ some '\n' := by
    intro d
    rw [ne_eq, getLast?_splitOn_eq_nil_iff, String.toList_eq_nil_iff]
    by_cases hd : d = ""
    · subst hd
      simp
    · simp [hd]
  simp only [hlast]
  constructor
  · intro h r hr
    have hlistable := isListable_of_ofDocument h
    obtain ⟨⟨hname, hwritable, hline⟩, hpieces⟩ := hlistable r hr
    exact ⟨hname, hwritable, hline, hpieces, (ofDocument_document_eq_iff hlistable).1 h r hr⟩
  · intro h
    have hlistable : ∀ r ∈ rules, r.IsListable := fun r hr =>
      ⟨⟨(h r hr).1, (h r hr).2.1, (h r hr).2.2.1⟩, (h r hr).2.2.2.1⟩
    exact (ofDocument_document_eq_iff hlistable).2 fun r hr => (h r hr).2.2.2.2

/-- A set that was read from a document is read back from its own document with one line feed less
at the end of each description that ends with one; so it comes back exactly if there is no such
description. -/
theorem ofDocument_document_of_ofDocument {text : String} {rules : RuleSet}
    (h : ofDocument text = .ok rules) :
    ofDocument (document rules) = .ok (rules.map ListedRule.settled) ∧
      (ofDocument (document rules) = .ok rules ↔
        ∀ r ∈ rules, r.description.toList.getLast? ≠ some '\n') :=
  ⟨ofDocument_document (isListable_of_ofDocument h),
    ofDocument_document_eq_iff (isListable_of_ofDocument h)⟩

/-- A comment that belongs to no rule, a description of two lines, the second one indented, and a
name with a blank behind it. -/
theorem ofDocument_document_of_ofDocument_indented :
    ofDocument "#a\n\n# first\n#  second\nx : s b&!N\n" =
        .ok [⟨some "x", "first\n second",
          ⟨[⟨false, .text .subject .plain "b"⟩, ⟨true, .status .new⟩], .all, by simp⟩⟩] ∧
      ofDocument (document [⟨some "x", "first\n second",
          ⟨[⟨false, .text .subject .plain "b"⟩, ⟨true, .status .new⟩], .all, by simp⟩⟩]) =
        .ok [⟨some "x", "first\n second",
          ⟨[⟨false, .text .subject .plain "b"⟩, ⟨true, .status .new⟩], .all, by simp⟩⟩] := by
  have h : ofDocument "#a\n\n# first\n#  second\nx : s b&!N\n" =
      .ok [⟨some "x", "first\n second",
        ⟨[⟨false, .text .subject .plain "b"⟩, ⟨true, .status .new⟩], .all, by simp⟩⟩] := by
    decide +kernel
  exact ⟨h, (ofDocument_document_of_ofDocument h).2.2 (by decide)⟩

/-- An empty comment right above a rule is the last line of its description, and is lost. -/
theorem emptyComment_lost :
    ofDocument "# a\n#\nU\n" =
        .ok [⟨none, "a\n", ⟨[⟨false, .status .unread⟩], .all, by simp⟩⟩] ∧
      ofDocument (document [⟨none, "a\n", ⟨[⟨false, .status .unread⟩], .all, by simp⟩⟩]) =
        .ok [⟨none, "a", ⟨[⟨false, .status .unread⟩], .all, by simp⟩⟩] ∧
      ofDocument (document [⟨none, "a\n", ⟨[⟨false, .status .unread⟩], .all, by simp⟩⟩]) ≠
        .ok [⟨none, "a\n", ⟨[⟨false, .status .unread⟩], .all, by simp⟩⟩] := by
  decide +kernel

end RuleSet

end MailFilter
