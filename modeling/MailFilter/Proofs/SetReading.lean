import MailFilter.Proofs.SetDocument

/-!
# Reading Rule Sets

Two things that a document leaves to the reader: where one set of rules ends and the next one
begins, and whether a line starts with a name.

A blank line ends what is above it. So of two documents with a blank line between them each is read
as it is alone, and in the second one only the numbers of the lines are greater. Lines are cut at
line feeds here; a carriage return in front of one, and whether the last line ends with one, make no
difference to what is read (`RuleSet.readLines_lines`).

A line is named if what stands before its first colon is a valid name. That may also be a code: the
line of a rule whose first word is a code, and whose next one starts with a colon, is taken as a
named one (`ListedRule.LeadsToColon`). Every other rule is read as itself, wherever it has colons.

## Main results

* `RuleSet.readLines_blankLine`: what is above a blank line is read apart from what is below it.
* `RuleSet.ofDocument_append`: what two documents with a blank line between them are read as.
* `ListedRule.leadsToColon_of_splitName?`: the only rules that are taken as named ones.
* `ListedRule.ofLine_of_parse`: what the line of a rule is read as.
-/

namespace MailFilter

open Text (isBlank trim trimEnd trimStart lines leadingBlanks)

/-! ### Documents behind one another -/

/-- There is one piece more than there are line feeds. -/
theorem length_splitOn_newline (s : List Char) :
    (s.splitOn '\n').length = s.count '\n' + 1 := by
  induction s with
  | nil => rfl
  | cons c s ih =>
    rw [List.splitOn_cons_eq_if_modifyHead, List.count_cons]
    split
    · rw [List.length_cons, ih]
    · rw [List.length_modifyHead, ih, Nat.add_zero]

namespace RuleSet

/-- The same fault with so many more lines above it. -/
def LineFault.below (n : Nat) (e : LineFault) : LineFault := { e with line := e.line + n }

/-- Lines are read alike wherever they stand, but for the numbers of the lines with faults. -/
theorem readLines_add (line n : Nat) (comments ls : List (List Char)) :
    readLines (line + n) comments ls = (readLines line comments ls).mapError (.below n) := by
  induction ls generalizing line comments with
  | nil => rfl
  | cons l ls ih =>
    rw [readLines, readLines]
    cases LineKind.ofLine l with
    | blank => exact Nat.add_right_comm line n 1 ▸ ih (line + 1) []
    | comment text => exact Nat.add_right_comm line n 1 ▸ ih (line + 1) (comments ++ [text])
    | rule text =>
      dsimp only
      cases ListedRule.ofLine text with
      | error e => rfl
      | ok r =>
        simp only [Nat.add_right_comm line n 1, ih]
        cases readLines (line + 1) [] ls <;> rfl

/-- What is above a blank line is read apart from what is below it. -/
theorem readLines_blankLine {l : List Char} (hl : trim l = []) (line : Nat)
    (comments ls rest : List (List Char)) :
    readLines line comments (ls ++ l :: rest) =
      (readLines line comments ls).bind fun rules =>
        (readLines (line + ls.length + 1) [] rest).map (rules ++ ·) := by
  induction ls generalizing line comments with
  | nil =>
    rw [List.nil_append, readLines_blank hl, readLines]
    cases readLines (line + 1) [] rest <;> rfl
  | cons l' ls ih =>
    have hline : line + 1 + ls.length + 1 = line + (ls.length + 1) + 1 := by omega
    rw [List.cons_append, readLines, readLines, List.length_cons]
    cases LineKind.ofLine l' with
    | blank => exact hline ▸ ih (line + 1) []
    | comment text => exact hline ▸ ih (line + 1) (comments ++ [text])
    | rule text =>
      dsimp only
      cases ListedRule.ofLine text with
      | error e => rfl
      | ok r =>
        simp only [ih, hline]
        cases readLines (line + 1) [] ls with
        | error e => rfl
        | ok rules => cases readLines (line + (ls.length + 1) + 1) [] rest <;> rfl

/-- What is read from lines is what is read from the pieces between line feeds. -/
theorem readLines_lines (line : Nat) (comments : List (List Char)) (s : List Char) :
    readLines line comments (lines s) = readLines line comments (s.splitOn '\n') := by
  suffices h : ∀ ps : List (List Char), ps ≠ [] → (∀ p ∈ ps, '\n' ∉ p) → ∀ line comments,
      readLines line comments (lines (['\n'].intercalate ps)) = readLines line comments ps by
    have hpieces := h (s.splitOn '\n') (List.splitOn_ne_nil '\n' s)
      (fun _ hp => notMem_of_mem_splitOn hp) line comments
    rwa [List.intercalate_splitOn] at hpieces
  intro ps hne hps
  induction ps with
  | nil => exact absurd rfl hne
  | cons p ps ih =>
    intro line comments
    obtain ⟨hp, hrest⟩ := List.forall_mem_cons.1 hps
    cases ps with
    | nil =>
      rw [List.intercalate_singleton]
      by_cases hempty : p = []
      · rw [hempty, readLines_blank rfl]
        rfl
      · rw [Text.lines_of_notMem hp hempty]
    | cons q ps =>
      rw [List.intercalate_cons_cons, List.append_assoc, List.singleton_append,
        readLines_append_newline hp, readLines, readLines]
      simp only [ih (List.cons_ne_nil q ps) hrest]

/-- Of two documents with a blank line between them, the second one is read only if the first one
can be. Then the rules are those of both, or the fault is that of the second one, further down by
the lines of the first one and the blank line. -/
theorem ofDocument_append (a b : String) :
    ofDocument (a ++ "\n\n" ++ b) =
      match ofDocument a, ofDocument b with
      | .error e, _ => .error e
      | .ok rules, .ok more => .ok (rules ++ more)
      | .ok _, .error e => .error ⟨e.line + a.toList.count '\n' + 2, e.fault⟩ := by
  have hsplit : (a ++ "\n\n" ++ b).toList.splitOn '\n' =
      a.toList.splitOn '\n' ++ [] :: b.toList.splitOn '\n' := by
    rw [String.toList_append, String.toList_append, List.append_assoc]
    exact (List.splitOn_append_cons_self _ ('\n' :: b.toList)).trans
      (congrArg _ (List.splitOn_append_cons_self [] b.toList))
  have hline : 1 + (a.toList.count '\n' + 1) + 1 = 1 + (a.toList.count '\n' + 2) := by omega
  simp only [ofDocument, readLines_lines, hsplit, readLines_blankLine (l := []) rfl,
    length_splitOn_newline, hline, readLines_add]
  cases readLines 1 [] (a.toList.splitOn '\n') with
  | error e => rfl
  | ok rules => cases readLines 1 [] (b.toList.splitOn '\n') <;> rfl

/-- A comment above the blank line describes no rule below it. -/
example : ofDocument ("N\r\n# a" ++ "\n\n" ++ "U") =
    .ok [⟨none, "", ⟨[⟨false, .status .new⟩], .all, by simp⟩⟩,
      ⟨none, "", ⟨[⟨false, .status .unread⟩], .all, by simp⟩⟩] := by
  decide +kernel

end RuleSet

/-! ### Lines with colons -/

/-- The code of a criterion is a valid name. -/
theorem Criterion.checkName_code (k : Criterion) : checkName k.code = .ok () := by
  rcases k with s | m | f | _
  · cases s <;> decide
  · rcases m with _ | _ | o | o
    · decide
    · decide
    · cases o <;> decide
    · cases o <;> decide
  · cases f
    case header name => exact (by decide : checkName "H" = .ok ())
    all_goals decide
  · decide

/-- A rule starts with a marker or with a keyword. -/
theorem Rule.Denotes.head {v : Vocabulary} {x : Spelled} {ls : List Spelled} {r : Rule}
    (h : Rule.Denotes v (x :: ls) r) :
    x.token.isMarker = true ∨ ∃ word meaning, x.token = .word word ∧ v word = some meaning := by
  generalize hls : x :: ls = ts at h
  cases h with
  | intro hc _ =>
    cases hc with
    | @intro ms _ _ _ word n base _ _ markers keyword meaning _ _ =>
      cases ms with
      | nil =>
        obtain rfl := (List.cons.inj hls).1
        exact .inr ⟨word, (n, base), keyword, meaning⟩
      | cons m ms =>
        obtain rfl := (List.cons.inj hls).1
        exact .inl (markers x List.mem_cons_self)

/-- A rule that starts as names do starts with a code. -/
theorem Rule.Denotes.exists_code {s u : List Char} {c : Char} {ls : List Spelled} {r : Rule}
    (h : Rule.Denotes .codes ls r) (hs : spelled? s = some ls) (hstart : trimStart s = c :: u)
    (hc : isNameChar c = true) :
    ∃ k : Criterion, k.code.toList = (c :: u).takeWhile Token.isWordChar := by
  obtain ⟨-, hword, hmark⟩ := plain_of_isNameChar hc
  simp only [List.mem_cons, not_or] at hmark
  have hscan : Scan.ofText (trimStart s) =
      .lexeme (Token.ofWord ((c :: u).takeWhile Token.isWordChar))
        ((c :: u).takeWhile Token.isWordChar) ((c :: u).dropWhile Token.isWordChar) := by
    rw [hstart]
    simp [Scan.ofText, hmark, hword]
  rw [spelled?_of_lexeme hscan] at hs
  obtain ⟨ts, -, rfl⟩ := Option.map_eq_some_iff.1 hs
  rcases ofWord_cases ((c :: u).takeWhile Token.isWordChar) with ⟨n, hn⟩ | hn
  · -- a number is neither a marker nor a keyword
    rcases h.head with hmarker | ⟨word, meaning, hkeyword, -⟩
    · simp [hn, Token.isMarker] at hmarker
    · simp [hn] at hkeyword
  · rcases h.head with hmarker | ⟨word, meaning, hkeyword, hmeaning⟩
    · simp [hn, Token.isMarker] at hmarker
    · obtain ⟨k, hk, -⟩ := Option.map_eq_some_iff.1 hmeaning
      rw [hn, Token.word.injEq] at hkeyword
      exact ⟨k, by rw [Criterion.code_of_ofCode? hk, ← hkeyword, String.toList_ofList]⟩

namespace ListedRule

/-- Whether a text leads from the code of a criterion to a colon: the next word of the rule, which
is its first operand or the name of a header, starts with that colon. -/
def LeadsToColon (s : List Char) (k : Criterion) (rest : List Char) : Prop :=
  ∃ blanks gap, s = blanks ++ k.code.toList ++ gap ++ ':' :: rest ∧
    (∀ c ∈ blanks, isBlank c = true) ∧ (∀ c ∈ gap, isBlank c = true) ∧ gap ≠ []

/-- A name in front of the first colon of a rule is a code, and does not stand right in front of
the colon. -/
theorem leadsToColon_of_splitName? {s after : List Char} {name : String} {ls : List Spelled}
    {r : Rule} (hs : spelled? s = some ls) (hden : Rule.Denotes .codes ls r)
    (h : splitName? (trim s) = some (name, after)) : ∃ k rest, LeadsToColon s k rest := by
  rw [splitName?] at h
  split at h
  · next before after' hsplit =>
    obtain ⟨htrim, -⟩ := Text.eq_of_splitFirst? hsplit
    obtain ⟨hvalid, -⟩ := Option.ite_none_right_eq_some.1 h
    obtain ⟨hne, hplain⟩ := plain_of_checkName (isValidName_iff.1 hvalid)
    rw [String.toList_ofList] at hne hplain
    obtain ⟨tail, htail⟩ := trimEnd_prefix (trimStart s)
    have hline : trimStart s = before ++ ':' :: (after' ++ tail) := by
      rw [← htail, ← trim, htrim, List.append_assoc, List.cons_append]
    -- the line is trimmed, so there are only blanks behind the name
    have hfront : trimStart before = before :=
      Text.trimStart_eq_self fun d hd => by
        obtain ⟨u, rfl⟩ := List.head?_eq_some_iff.1 (Option.mem_def.1 hd)
        exact Text.head_trimStart_not_blank hline
    obtain ⟨gap, hbefore, hgap⟩ := Text.exists_trimEnd_append before
    rw [trim, hfront] at hne hplain
    obtain ⟨c, w, hw⟩ := List.exists_cons_of_ne_nil hne
    rw [hw] at hbefore hplain
    have hstart : trimStart s = c :: (w ++ gap ++ ':' :: (after' ++ tail)) := by
      rw [hline, hbefore]
      rfl
    obtain ⟨k, hk⟩ := hden.exists_code hs hstart (hplain c List.mem_cons_self)
    have hwords : ∀ d ∈ c :: w, Token.isWordChar d = true := fun d hd =>
      (plain_of_isNameChar (hplain d hd)).2.1
    rw [List.append_assoc, ← List.cons_append, List.takeWhile_append_of_pos hwords] at hk
    cases gap with
    | nil =>
      -- a colon behind a word is part of it, and of no code
      have hcolon : ':' ∈ k.code.toList := by
        rw [hk, List.nil_append, List.takeWhile_cons_of_pos (by decide)]
        exact List.mem_append_right _ List.mem_cons_self
      exact absurd (k.plain_code.2.1 _ hcolon) (by decide)
    | cons b gap =>
      have hb : ¬ Token.isWordChar b = true := by
        simp [Token.isWordChar, hgap b List.mem_cons_self]
      have hend : (b :: gap ++ ':' :: (after' ++ tail)).takeWhile Token.isWordChar = [] :=
        List.takeWhile_cons_of_neg hb
      rw [hend, List.append_nil] at hk
      refine ⟨k, after' ++ tail, leadingBlanks s, b :: gap, ?_, fun _ => List.mem_takeWhile_imp,
        hgap, List.cons_ne_nil b gap⟩
      rw [hk, List.append_assoc, List.append_assoc, ← List.append_assoc (c :: w), ← hbefore,
        ← hline, Text.leadingBlanks_append_trimStart]
  · cases h

/-- A code that leads to a colon is taken as a name. -/
theorem LeadsToColon.splitName? {s rest : List Char} {k : Criterion} (h : LeadsToColon s k rest) :
    ListedRule.splitName? (trim s) = some (k.code, trimEnd rest) := by
  obtain ⟨blanks, gap, rfl, hblanks, hgap, -⟩ := h
  obtain ⟨hne, hplain, -⟩ := k.plain_code
  obtain ⟨c, w, hw⟩ := List.exists_cons_of_ne_nil hne
  have hnot : ∀ d ∈ k.code.toList, isBlank d = false := fun d hd =>
    (plain_of_isNameChar (hplain d hd)).1
  have hc : isBlank c = false := hnot c (by simp [hw])
  have htrim : trim (blanks ++ k.code.toList ++ gap ++ ':' :: rest) =
      k.code.toList ++ gap ++ ':' :: trimEnd rest := by
    have hstart : trimStart (blanks ++ k.code.toList ++ gap ++ ':' :: rest) =
        k.code.toList ++ gap ++ [':'] ++ rest := by
      have hfront := (leadingBlanks_append_cons hblanks hc (w ++ gap ++ ':' :: rest)).2
      simpa [hw] using hfront
    rw [trim, hstart, trimEnd_append (by decide)]
    simp
  have hcolon : ':' ∉ k.code.toList ++ gap := by
    rw [List.mem_append, not_or]
    exact ⟨fun hmem => absurd (hplain _ hmem) (by decide),
      fun hmem => absurd (hgap _ hmem) (by decide)⟩
  have hname : trim (k.code.toList ++ gap) = k.code.toList := by
    have hstart : trimStart (k.code.toList ++ gap) = k.code.toList ++ gap := by
      rw [hw, List.cons_append]
      exact Text.trimStart_eq_self (by simpa using hc)
    rw [trim, hstart, Text.trimEnd_append_blanks _ hgap]
    exact Text.trimEnd_eq_self fun d hd => hnot d (List.mem_of_mem_getLast? hd)
  rw [ListedRule.splitName?, htrim, Text.splitFirst?_append hcolon]
  simp only [hname, String.ofList_toList, isValidName_iff.2 k.checkName_code, if_true]

/-- The line of a rule is read as that rule without a name, unless it leads from a code to a colon:
then it is taken as the line of what is behind the colon, with the code as its name. -/
theorem ofLine_of_parse {text : String} {r : Rule} (h : Rule.parse text = .ok r) :
    ((∀ k rest, ¬ LeadsToColon text.toList k rest) →
      ListedRule.ofLine text.toList = .ok ⟨none, "", r⟩) ∧
    ∀ k rest, LeadsToColon text.toList k rest →
      ListedRule.ofLine text.toList =
        (Rule.ofTokens (.ofText 0 (trimEnd rest))).map fun r => ⟨some k.code, "", r⟩ := by
  constructor
  · intro hcolon
    obtain ⟨ls, hs, hden⟩ := Rule.ofTokens_ok_iff.1 h
    have hsplit : splitName? (trim text.toList) = none := by
      cases hname : splitName? (trim text.toList) with
      | none => rfl
      | some split =>
        obtain ⟨k, rest, hlead⟩ := leadsToColon_of_splitName? hs hden hname
        exact absurd hlead (hcolon k rest)
    have hread : Rule.ofTokens (.ofText 0 (trim text.toList)) = .ok r :=
      Rule.ofTokens_ok_iff.2 ⟨ls, spelled?_trim hs, hden⟩
    simp only [ListedRule.ofLine, hsplit, hread]
    rfl
  · intro k rest hlead
    simp only [ListedRule.ofLine, hlead.splitName?]

/-- Colons in a quoted text and inside a word. -/
theorem ofLine_of_parse_quoted :
    let list : Condition := ⟨false, .text .headerBlock .plain "List-Id: x"⟩
    let subject : Condition := ⟨false, .text .subject .plain "a:b"⟩
    Rule.parse " h \"List-Id: x\" & s a:b" = .ok ⟨[list, subject], .all, by simp⟩ ∧
      (∀ k rest, ¬ LeadsToColon " h \"List-Id: x\" & s a:b".toList k rest) ∧
      ListedRule.ofLine " h \"List-Id: x\" & s a:b".toList =
        .ok ⟨none, "", ⟨[list, subject], .all, by simp⟩⟩ := by
  intro list subject
  have h : Rule.parse " h \"List-Id: x\" & s a:b" = .ok ⟨[list, subject], .all, by simp⟩ := by
    decide +kernel
  have hcolon : ∀ k rest, ¬ LeadsToColon " h \"List-Id: x\" & s a:b".toList k rest := by
    intro k rest hlead
    have hnone : splitName? (trim " h \"List-Id: x\" & s a:b".toList) = none := by decide +kernel
    rw [hlead.splitName?] at hnone
    cases hnone
  exact ⟨h, hcolon, (ofLine_of_parse h).1 hcolon⟩

/-- An operand that starts with a colon is taken as a rule with the code as its name. -/
theorem ofLine_operand_colon :
    Rule.parse "s :U" = .ok ⟨[⟨false, .text .subject .plain ":U"⟩], .all, by simp⟩ ∧
      ListedRule.ofLine "s :U".toList =
        .ok ⟨some "s", "", ⟨[⟨false, .status .unread⟩], .all, by simp⟩⟩ ∧
      ListedRule.ofLine "s :U".toList ≠
        .ok ⟨none, "", ⟨[⟨false, .text .subject .plain ":U"⟩], .all, by simp⟩⟩ := by
  decide +kernel

end ListedRule

end MailFilter
