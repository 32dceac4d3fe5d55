import MailFilter.Proofs.TomlText
import MailFilter.Toml.Document

/-!
# Documents of Rows in TOML

A table of texts, integers and truth values is written at the top of a document, and a list of such
tables with a header for every one; both are read back as they were. A line is one piece for the
reader, so that a document is read line by line; the lines then build up the tables.

## Main results

* `isReadable_text`, `isReadable_word`: values are read back.
* `takes_entries`, `takes_rows`: the lines of a document.
* `read?_writeRow`, `read?_writeRows`: every table and every list of tables is read back.
-/

namespace MailFilter.Text

/-! ### Digits -/

/-- A written number has no zero in front unless it is zero. -/
theorem head_decimal {n : Nat} (h : 0 < n) : (decimal n).head? ≠ some '0' := by
  induction n using decimal.induct with
  | case1 n hn =>
    have hall : ∀ d : Fin 10, 0 < d.val → digitChar d ≠ '0' := by decide
    rw [decimal, if_pos hn]
    simpa using hall ⟨n, hn⟩ h
  | case2 n hn ih =>
    have hmore := ih (by omega)
    rw [decimal, if_neg hn, List.head?_append]
    cases hd : decimal (n / 10) with
    | nil => exact absurd hd (decimal_ne_nil _)
    | cons c s => simpa [hd] using hmore

end MailFilter.Text

namespace MailFilter.Toml

open Text (Reader decimal isDigit)
open Text.Reader (Takes)

/-! ### Values -/

/-- Digits without spaces between them. -/
theorem spacedDigits?_eq {s : List Char} (hs : ∀ c ∈ s, isDigit c = true) (hne : s ≠ []) :
    spacedDigits? isDigit s = some s := by
  induction s with
  | nil => exact absurd rfl hne
  | cons c s ih =>
    obtain ⟨hc, hs⟩ := List.forall_mem_cons.1 hs
    cases s with
    | nil => rw [spacedDigits?, if_pos hc]
    | cons d s =>
      have hd : d ≠ '_' := by
        rintro rfl
        exact absurd (hs '_' List.mem_cons_self) (by decide)
      rw [spacedDigits?, if_pos hc, if_neg hd, ih hs (List.cons_ne_nil d s)]
      rfl

/-- The digits of a written number. -/
theorem wholeDigits?_decimal (n : Nat) : wholeDigits? (decimal n) = some (decimal n) := by
  have hspaced := spacedDigits?_eq (fun c hc => Text.isDigit_of_mem_decimal hc)
    (Text.decimal_ne_nil n)
  rw [wholeDigits?]
  rw [hspaced]
  split
  · next c d digits heq =>
    have hdec : decimal n = c :: d :: digits := Option.some.inj heq
    have hc : c ≠ '0' := by
      rintro rfl
      by_cases hn : 0 < n
      · exact Text.head_decimal hn (by rw [hdec]; rfl)
      · obtain rfl : n = 0 := by omega
        rw [decimal, if_pos (by decide)] at hdec
        cases hdec
    rw [if_neg hc, hdec]
  · rfl

/-- The value of the digits of a written number. -/
theorem digitsValue_decimal (n : Nat) : digitsValue (decimal n) = n := by
  rw [digitsValue, Text.readNatural?_decimal]
  rfl

/-- A written number is made of digits and perhaps a sign. -/
theorem writeInt_cases (n : Int) :
    n < 0 ∧ Text.writeInt n = '-' :: decimal n.natAbs ∨
      0 ≤ n ∧ Text.writeInt n = decimal n.natAbs := by
  rw [Text.writeInt]
  split
  · next hn => exact .inl ⟨hn, rfl⟩
  · next hn => exact .inr ⟨by omega, rfl⟩

/-- The digits and the sign of a written number. -/
theorem splitSign_writeInt (n : Int) :
    splitSign (Text.writeInt n) = (decide (n < 0), decimal n.natAbs) := by
  rcases writeInt_cases n with ⟨hn, hw⟩ | ⟨hn, hw⟩
  · rw [hw, decide_eq_true hn]
    rfl
  · rw [hw, decide_eq_false (by omega)]
    unfold splitSign
    split
    · next s hs => exact absurd (Text.isDigit_of_mem_decimal (hs ▸ List.mem_cons_self)) (by decide)
    · next s hs => exact absurd (Text.isDigit_of_mem_decimal (hs ▸ List.mem_cons_self)) (by decide)
    · rfl

/-- A letter does not stand in a written number. -/
theorem not_mem_writeInt {c : Char} (hc : isDigit c = false) (hsign : c ≠ '-') (n : Int) :
    c ∉ Text.writeInt n := by
  intro hmem
  have hdigits : c ∉ decimal n.natAbs := fun hmem => by
    rw [Text.isDigit_of_mem_decimal hmem] at hc
    cases hc
  rcases writeInt_cases n with ⟨-, hw⟩ | ⟨-, hw⟩
  · rw [hw, List.mem_cons] at hmem
    exact hmem.elim hsign hdigits
  · rw [hw] at hmem
    exact hdigits hmem

/-- A signed word is read back. -/
theorem ofInteger?_writeInt (n : Int64) :
    ofInteger? (Text.writeInt n.toInt) = some (.integer n) := by
  have hvalue : (if decide (n.toInt < 0) = true then -(digitsValue (decimal n.toInt.natAbs) : Int)
      else digitsValue (decimal n.toInt.natAbs)) = n.toInt := by
    rw [digitsValue_decimal]
    by_cases hn : n.toInt < 0
    · rw [if_pos (decide_eq_true hn)]
      omega
    · rw [if_neg (by simpa using hn)]
      omega
  have hne : ∀ {c : Char} {s : List Char}, isDigit c = false → c ≠ '-' →
      Text.writeInt n.toInt ≠ '0' :: c :: s := fun hc hsign heq =>
    not_mem_writeInt hc hsign n.toInt (heq ▸ by simp)
  unfold ofInteger?
  split
  · next heq => exact absurd heq (hne (by decide) (by decide))
  · next heq => exact absurd heq (hne (by decide) (by decide))
  · next heq => exact absurd heq (hne (by decide) (by decide))
  · rw [splitSign_writeInt]
    simp only [wholeDigits?_decimal, Option.bind_some, hvalue, integer?]
    rw [if_pos ⟨n.minValue_le_toInt, n.toInt_le⟩, Int64.ofInt_toInt]

/-- A value that is read back at the end of a line. -/
structure IsReadable (v : Scalar) : Prop where
  takes : ∀ rest, Takes value v.write ('\n' :: rest) (.scalar v)
  head : v.write.head? ≠ some ' ' ∧ v.write.head? ≠ some '\t'

/-- A value is looked for in front of a list or a table. -/
theorem takes_value {c : Char} {s rest : List Char} {v : Value} (hc : c ≠ '[' ∧ c ≠ '\x7b')
    (h : Takes (valueWithin 0) (c :: s) rest v) : Takes value (c :: s) rest v := by
  rw [value, depthLimit]
  rw [valueWithin]
  refine (Reader.takes_peek? _).bind_left ?_
  simp only [List.cons_append, List.head?_cons]
  split
  · next heq => exact absurd (Option.some.inj heq) hc.1
  · next heq => exact absurd (Option.some.inj heq) hc.2
  · exact h

/-- A string starts with a quote. -/
theorem head_writeString (s : List Char) :
    ∃ c w, writeString s = c :: w ∧ (c = '"' ∨ c = '\'') := by
  unfold writeString
  simp only
  cases Form.ofContents (Contents.ofText s) with
  | basic => exact ⟨_, _, rfl, .inl rfl⟩
  | literal => exact ⟨_, _, rfl, .inr rfl⟩
  | longBasic => exact ⟨_, _, rfl, .inl rfl⟩
  | longLiteral => exact ⟨_, _, rfl, .inr rfl⟩

/-- A text is written as a string and read back. -/
theorem isReadable_text (t : String) : IsReadable (.text t) := by
  have hhead : (writeString t.toList).head? ≠ some ' ' ∧
      (writeString t.toList).head? ≠ some '\t' := by
    obtain ⟨c, w, hw, hc⟩ := head_writeString t.toList
    rw [hw]
    rcases hc with rfl | rfl <;> simp
  refine ⟨fun rest => ?_, hhead⟩
  have hstring : Takes string (writeString t.toList) ('\n' :: rest) t := by
    have hrest : ('\n' :: rest).head? ≠ some '"' ∧ ('\n' :: rest).head? ≠ some '\'' := by simp
    have h := takes_string t.toList hrest
    rwa [String.ofList_toList] at h
  show Takes value (writeString t.toList) ('\n' :: rest) (.scalar (.text t))
  obtain ⟨c, w, hw, hc⟩ := head_writeString t.toList
  rw [hw] at hstring ⊢
  have hvalue : Takes (string >>= fun t => pure (.scalar (.text t))) (c :: w) ('\n' :: rest)
      (Value.scalar (.text t)) := hstring.bind_right (Reader.takes_pure _ _)
  refine takes_value (by rcases hc with rfl | rfl <;> decide) ?_
  rw [valueWithin]
  refine (Reader.takes_peek? _).bind_left ?_
  rcases hc with rfl | rfl
  · exact hvalue
  · exact hvalue

/-- The word of a written number. -/
theorem ofWord?_writeInt (n : Int64) :
    Scalar.ofWord? (Text.writeInt n.toInt) = some (.integer n) := by
  have hne : ∀ {c : Char} {s : List Char}, isDigit c = false → c ≠ '-' → c ∈ s →
      Text.writeInt n.toInt ≠ s := fun hc hsign hmem heq =>
    not_mem_writeInt hc hsign n.toInt (heq ▸ hmem)
  have htrue : Text.writeInt n.toInt ≠ "true".toList :=
    hne (c := 'e') (by decide) (by decide) (by decide)
  have hfalse : Text.writeInt n.toInt ≠ "false".toList :=
    hne (c := 'e') (by decide) (by decide) (by decide)
  rw [Scalar.ofWord?, if_neg htrue, if_neg hfalse, ofInteger?_writeInt]

/-- A written number is one word. -/
theorem isWordChar_of_mem_writeInt {n : Int} {c : Char} (h : c ∈ Text.writeInt n) :
    isWordChar c = true := by
  by_cases hc : isDigit c = true
  · have hletter : Text.isAlphanumeric c = true := by simp [Text.isAlphanumeric, hc]
    simp [isWordChar, hletter]
  · by_cases hsign : c = '-'
    · simp [isWordChar, hsign]
    · exact absurd h (not_mem_writeInt (by simpa using hc) hsign n)

/-- A written number is not empty, and starts like no other value. -/
theorem head_writeInt (n : Int) :
    ∃ c w, Text.writeInt n = c :: w ∧ c ∉ ['[', '\x7b', '"', '\'', ' ', '\t'] := by
  cases hw : Text.writeInt n with
  | nil =>
    rcases writeInt_cases n with ⟨-, h⟩ | ⟨-, h⟩
    · rw [hw] at h
      cases h
    · exact absurd (h.symm.trans hw) (Text.decimal_ne_nil _)
  | cons c w =>
    have hc := isWordChar_of_mem_writeInt (n := n) (hw ▸ List.mem_cons_self)
    refine ⟨c, w, rfl, ?_⟩
    intro hmem
    simp only [List.mem_cons, List.not_mem_nil, or_false] at hmem
    rcases hmem with rfl | rfl | rfl | rfl | rfl | rfl <;> revert hc <;> decide

/-- A value that is written as one word, which stands for it, is read back. -/
theorem isReadable_word {v : Scalar} {c : Char} {w : List Char} (hw : v.write = c :: w)
    (hc : c ∉ ['[', '\x7b', '"', '\'', ' ', '\t']) (hword : ∀ d ∈ c :: w, isWordChar d = true)
    (hvalue : Scalar.ofWord? (c :: w) = some v) : IsReadable v := by
  simp only [List.mem_cons, List.not_mem_nil, or_false, not_or] at hc
  obtain ⟨hlist, htable, hbasic, hliteral, hspace, htab⟩ := hc
  refine ⟨fun rest => ?_, by simp [hw, hspace, htab]⟩
  have hscalar : Takes readScalar (c :: w) ('\n' :: rest) v := by
    have htake : Takes (Reader.takeWhile isWordChar) (c :: w) ('\n' :: rest) (c :: w) :=
      Reader.takes_takeWhile hword fun d hd => by
        cases hd
        decide
    refine htake.bind_right ((Reader.takes_rest _).bind_left ?_)
    split
    · next heq => cases heq
    · refine (Reader.takes_pure _ _).bind_left ?_
      simp only [List.append_nil, hvalue]
      exact Reader.takes_pure _ _
  rw [hw]
  refine takes_value ⟨hlist, htable⟩ ?_
  rw [valueWithin]
  refine (Reader.takes_peek? _).bind_left ?_
  simp only [List.cons_append, List.head?_cons]
  split
  · next heq => exact absurd (Option.some.inj heq) hbasic
  · next heq => exact absurd (Option.some.inj heq) hliteral
  · exact hscalar.bind_right (Reader.takes_pure _ _)

/-- An integer is written in decimal and read back. -/
theorem isReadable_integer (n : Int64) : IsReadable (.integer n) := by
  obtain ⟨c, w, hw, hc⟩ := head_writeInt n.toInt
  have hvalue := ofWord?_writeInt n
  rw [hw] at hvalue
  refine isReadable_word (v := .integer n) hw hc (fun d hd => ?_) hvalue
  exact isWordChar_of_mem_writeInt (hw ▸ hd)

/-- A truth value is written as a word and read back. -/
theorem isReadable_truth (b : Bool) : IsReadable (.truth b) := by
  cases b
  · exact isReadable_word (v := .truth false) rfl (by decide) (List.all_eq_true.1 rfl) rfl
  · exact isReadable_word (v := .truth true) rfl (by decide) (List.all_eq_true.1 rfl) rfl

/-! ### Lines -/

/-- A name that is written without quotes. -/
structure IsBare (name : String) : Prop where
  ne_nil : name.toList ≠ []
  bare : ∀ c ∈ name.toList, isBareChar c = true

instance (name : String) : Decidable (IsBare name) :=
  decidable_of_iff (name.toList ≠ [] ∧ name.toList.all isBareChar = true)
    ⟨fun ⟨h₁, h₂⟩ => ⟨h₁, List.all_eq_true.1 h₂⟩, fun ⟨h₁, h₂⟩ => ⟨h₁, List.all_eq_true.2 h₂⟩⟩

/-- A bare name starts like nothing else in a line. -/
theorem IsBare.head {name : String} (h : IsBare name) :
    ∃ c w, name.toList = c :: w ∧ c ∉ [' ', '\t', '#', '\r', '\n', '[', '"', '\''] := by
  cases hw : name.toList with
  | nil => exact absurd hw h.ne_nil
  | cons c w =>
    have hc := h.bare c (hw ▸ List.mem_cons_self)
    refine ⟨c, w, rfl, ?_⟩
    intro hmem
    simp only [List.mem_cons, List.not_mem_nil, or_false] at hmem
    rcases hmem with rfl | rfl | rfl | rfl | rfl | rfl | rfl | rfl <;> revert hc <;> decide

/-- Blanks are taken up to the next character. -/
theorem takes_blanks {s rest : List Char} (hs : ∀ c ∈ s, c = ' ')
    (hrest : rest.head? ≠ some ' ' ∧ rest.head? ≠ some '\t') : Takes blanks s rest () := by
  refine Takes.bind_right (Reader.takes_takeWhile (fun c hc => by simp [hs c hc]) fun c hc => ?_)
    (Reader.takes_pure () rest)
  rw [hc] at hrest
  simpa using hrest

/-- A bare name is a key. -/
theorem takes_key {name : String} (h : IsBare name) {s rest : List Char} {d : Char}
    (hs : ∀ c ∈ s, c = ' ') (hd : d = '=' ∨ d = ']') :
    Takes key (name.toList ++ s) (d :: rest) ([], name) := by
  obtain ⟨c, w, hw, hc⟩ := h.head
  have hfirst : Takes blanks [] (name.toList ++ s ++ d :: rest) () := by
    refine takes_blanks (by simp) ?_
    rw [hw]
    constructor <;> rintro hhead <;> obtain rfl := Option.some.inj hhead <;> exact hc (by simp)
  have hname : Takes simpleKey name.toList (s ++ d :: rest) name := by
    have htake : Takes (Reader.takeWhile isBareChar) name.toList (s ++ d :: rest) name.toList := by
      refine Reader.takes_takeWhile h.bare fun e he => ?_
      cases s with
      | nil =>
        obtain rfl := Option.some.inj he
        rcases hd with rfl | rfl <;> decide
      | cons b s =>
        obtain rfl := Option.some.inj he
        rw [hs b List.mem_cons_self]
        decide
    have hempty : name.toList.isEmpty = false := by simp [hw]
    refine (Reader.takes_peek? _).bind_left ?_
    split
    · next heq =>
      rw [hw] at heq
      exact absurd (Option.some.inj heq) fun heq => hc (by simp [heq])
    · next heq =>
      rw [hw] at heq
      exact absurd (Option.some.inj heq) fun heq => hc (by simp [heq])
    · refine htake.bind_right ?_
      rw [hempty]
      have hpure := Reader.takes_pure (String.ofList name.toList) (s ++ d :: rest)
      rwa [String.ofList_toList] at hpure ⊢
  have hblanks : Takes blanks s (d :: rest) () := by
    refine takes_blanks hs ?_
    rcases hd with rfl | rfl <;> simp
  have hmore : ∀ part : Reader String,
      Takes (Reader.many (Reader.char '.' >>= fun _ => part)) [] (d :: rest) [] := by
    intro part
    refine Reader.takes_many_nil (Reader.bind_none (Reader.char_none ?_))
    rcases hd with rfl | rfl <;> simp
  refine hfirst.bind_left (hname.bind (hblanks.bind_right ((hmore _).bind_left ?_)))
  exact Reader.takes_pure _ _

/-- The end of a line. -/
theorem takes_lineEnd (rest : List Char) : Takes lineEnd ['\n'] rest () := by
  have hblanks : Takes blanks [] ('\n' :: rest) () := takes_blanks (by simp) (by simp)
  have hcomment : comment.run ('\n' :: rest) = none :=
    Reader.bind_none (Reader.char_none (by simp))
  exact hblanks.bind_left ((Reader.takes_optional_none hcomment).bind_left
    (takes_newline rest).orElse)

/-- A line is told from comments and empty lines by its first character. -/
theorem takes_anyLine {c : Char} {s rest : List Char} {l : Line}
    (hc : c ∉ [' ', '\t', '#', '\r', '\n']) (h : Takes line (c :: s) ('\n' :: rest) l) :
    Takes anyLine (c :: s ++ ['\n']) rest (some l) := by
  simp only [List.mem_cons, List.not_mem_nil, or_false, not_or] at hc
  obtain ⟨hspace, htab, hcomment, hreturn, hline⟩ := hc
  have hblanks : Takes blanks [] (c :: s ++ ['\n'] ++ rest) () :=
    takes_blanks (by simp) (by simp [hspace, htab])
  have hend : Takes (lineEnd >>= fun _ => pure (some l)) ['\n'] rest (some l) :=
    (takes_lineEnd rest).bind_right (Reader.takes_pure _ rest)
  have hboth : Takes (line >>= fun l => lineEnd >>= fun _ => pure (some l)) (c :: s ++ ['\n']) rest
      (some l) := h.bind hend
  refine hblanks.bind_left ((Reader.takes_peek? _).bind_left ?_)
  simp only [List.cons_append, List.head?_cons]
  exact hboth

/-- A line without anything on it. -/
theorem takes_emptyLine (rest : List Char) : Takes anyLine ['\n'] rest none := by
  have hblanks : Takes blanks [] ('\n' :: rest) () := takes_blanks (by simp) (by simp)
  exact hblanks.bind_left ((Reader.takes_peek? _).bind_left
    ((takes_lineEnd rest).bind_right (Reader.takes_pure none rest)))

/-- A line with a key and its value. -/
theorem takes_entry {name : String} (h : IsBare name) {v : Scalar} (hv : IsReadable v)
    (rest : List Char) :
    Takes anyLine (name.toList ++ " = ".toList ++ v.write ++ ['\n']) rest
      (some (.entry [] name (.scalar v))) := by
  have hblanks : Takes blanks [' '] (v.write ++ '\n' :: rest) () := by
    refine takes_blanks (by simp) ?_
    have hhead := hv.head
    cases hw : v.write with
    | nil => simp
    | cons c w => simpa [hw] using hhead
  have hvalue : Takes (value >>= fun v => pure (([] : List String), name, v)) v.write
      ('\n' :: rest) ([], name, .scalar v) :=
    (hv.takes rest).bind_right (Reader.takes_pure _ _)
  have hpair : Takes (keyValue value) (name.toList ++ " = ".toList ++ v.write) ('\n' :: rest)
      ([], name, .scalar v) := by
    have hparts : name.toList ++ " = ".toList ++ v.write =
        name.toList ++ [' '] ++ (['='] ++ ([' '] ++ v.write)) := by simp
    rw [hparts]
    exact (takes_key h (by simp) (.inl rfl)).bind
      ((Reader.takes_char '=' _).bind (hblanks.bind hvalue))
  obtain ⟨c, w, hw, hc⟩ := h.head
  simp only [List.mem_cons, List.not_mem_nil, or_false, not_or] at hc
  have hline : Takes line (name.toList ++ " = ".toList ++ v.write) ('\n' :: rest)
      (.entry [] name (.scalar v)) := by
    rw [hw] at hpair ⊢
    refine (Reader.takes_rest _).bind_left ?_
    split
    · next heq => exact absurd (List.cons.inj heq).1 (by simp [hc])
    · next heq => exact absurd (List.cons.inj heq).1 (by simp [hc])
    · exact hpair.bind_right (Reader.takes_pure _ _)
  rw [hw] at hline ⊢
  exact takes_anyLine (by simp [hc]) hline

/-- A line with a header of a row. -/
theorem takes_header {name : String} (h : IsBare name) (rest : List Char) :
    Takes anyLine ('[' :: '[' :: name.toList ++ ']' :: ']' :: ['\n']) rest
      (some (.row [] name)) := by
  have hclose : Takes (Reader.literal [']', ']'] >>= fun _ => pure (Line.row [] name)) [']', ']']
      ('\n' :: rest) (.row [] name) :=
    (Reader.takes_literal _ _).bind_right (Reader.takes_pure _ _)
  have hline : Takes line ('[' :: ('[' :: (name.toList ++ [] ++ [']', ']']))) ('\n' :: rest)
      (.row [] name) :=
    (Reader.takes_rest _).bind_left
      ((Reader.takes_literal ['[', '['] _).bind ((takes_key h (by simp) (.inr rfl)).bind hclose))
  have hany := takes_anyLine (by decide) hline
  simpa using hany

/-! ### Documents -/

/-- A row that is read back: bare keys, no two of them alike, with values that are read back. -/
structure IsRow (row : Row) : Prop where
  nodup : (row.map (·.1)).Nodup
  bare : ∀ e ∈ row, IsBare e.1
  readable : ∀ e ∈ row, IsReadable e.2

/-- The lines of a row that say something. -/
def rowLines (name : String) (row : Row) : List Line :=
  .row [] name :: row.map fun e => .entry [] e.1 (.scalar e.2)

/-- The lines of a document of rows, with an empty line between any two of them. -/
def documentLines (name : String) (rows : List Row) : List (Option Line) :=
  [none].intercalate (rows.map fun row => (rowLines name row).map some)

/-- Lines with keys and values in front of more lines. -/
theorem takes_entries {row : Row} (hbare : ∀ e ∈ row, IsBare e.1)
    (hreadable : ∀ e ∈ row, IsReadable e.2) {s rest : List Char} {ls : List (Option Line)}
    (hmore : Takes (Reader.many anyLine) s rest ls) :
    Takes (Reader.many anyLine) (writeRow row ++ s) rest
      ((row.map fun e => some (.entry [] e.1 (.scalar e.2))) ++ ls) := by
  induction row with
  | nil => exact hmore
  | cons e row ih =>
    obtain ⟨he, hbare⟩ := List.forall_mem_cons.1 hbare
    obtain ⟨hv, hreadable⟩ := List.forall_mem_cons.1 hreadable
    have hentry := takes_entry he hv (writeRow row ++ s ++ rest)
    have hlines := Reader.takes_many_cons hentry (by simp) (ih hbare hreadable)
    simpa [writeRow] using hlines

/-- The lines of a row in front of more lines. -/
theorem takes_row {name : String} (hname : IsBare name) {row : Row} (hrow : IsRow row)
    {s rest : List Char} {ls : List (Option Line)} (hmore : Takes (Reader.many anyLine) s rest ls) :
    Takes (Reader.many anyLine)
      ('[' :: '[' :: name.toList ++ ']' :: ']' :: '\n' :: writeRow row ++ s) rest
      ((rowLines name row).map some ++ ls) := by
  have hheader := takes_header hname (writeRow row ++ s ++ rest)
  have hlines := Reader.takes_many_cons hheader (by simp)
    (takes_entries hrow.bare hrow.readable hmore)
  simpa [rowLines, Function.comp_def] using hlines

/-- The lines of a document are read one by one. -/
theorem takes_rows {name : String} (hname : IsBare name) {rows : List Row}
    (hrows : ∀ row ∈ rows, IsRow row) (hne : rows ≠ []) :
    Takes (Reader.many anyLine) (writeRows name rows) [] (documentLines name rows) := by
  have hend : anyLine.run [] = none := rfl
  induction rows with
  | nil => exact absurd rfl hne
  | cons row rows ih =>
    obtain ⟨hrow, hrows⟩ := List.forall_mem_cons.1 hrows
    cases rows with
    | nil =>
      have hlines := takes_row hname hrow (Reader.takes_many_nil hend)
      simpa [writeRows, documentLines] using hlines
    | cons row' rows =>
      have hmore := Reader.takes_many_cons (takes_emptyLine _) (by simp) (ih hrows (by simp))
      have hlines := takes_row hname hrow hmore
      simpa [writeRows, documentLines, List.intercalate_cons_cons] using hlines

/-- What the lines of a document say. -/
theorem filterMap_documentLines (name : String) (rows : List Row) :
    (documentLines name rows).filterMap id = rows.flatMap (rowLines name) := by
  have hrow : ∀ row, ((rowLines name row).map some).filterMap id = rowLines name row := by
    simp [List.filterMap_map]
  rw [documentLines]
  induction rows with
  | nil => rfl
  | cons row rows ih =>
    cases rows with
    | nil => simp
    | cons row' rows =>
      rw [List.map_cons] at ih
      rw [List.map_cons, List.map_cons, List.intercalate_cons_cons, List.filterMap_append,
        List.filterMap_append, ih, hrow, List.flatMap_cons]
      simp

/-! ### Tables -/

/-- The table of a row. -/
def rowEntries (row : Row) : Entries := row.map fun e => (e.1, .scalar e.2)

/-- What stands under a key of a row. -/
theorem lookup_rowEntries {row : Row} (h : (row.map (·.1)).Nodup) {key : String} {v : Scalar}
    (hv : (key, v) ∈ row) : (rowEntries row).lookup key = some (.scalar v) := by
  induction row with
  | nil => cases hv
  | cons e row ih =>
    rw [List.map_cons, List.nodup_cons] at h
    rw [rowEntries, List.map_cons, List.lookup_cons]
    rcases List.mem_cons.1 hv with rfl | hmem
    · simp only [beq_self_eq_true]
    · have hkey : (key == e.1) = false := by
        rw [beq_eq_false_iff_ne]
        rintro rfl
        exact h.1 (List.mem_map.2 ⟨_, hmem, rfl⟩)
      simp only [hkey]
      exact ih h.2 hmem

/-- A key that is not in a table. -/
theorem lookup_eq_none {es : Entries} {key : String} (h : key ∉ es.map (·.1)) :
    es.lookup key = none := by
  rw [List.lookup_eq_none_iff]
  intro p hp
  rw [bne_iff_ne]
  rintro rfl
  exact h (List.mem_map_of_mem hp)

/-- A key with its value goes into the last row. -/
theorem add?_entry {name key : String} {rows : List Entries} {es : Entries} {v : Value}
    (h : key ∉ es.map (·.1)) :
    State.add? ⟨[(name, .tables (rows ++ [es]))], [name]⟩ (.entry [] key v) =
      some ⟨[(name, .tables (rows ++ [es ++ [(key, v)]]))], [name]⟩ := by
  have hlookup := lookup_eq_none h
  simp [State.add?, State.change?, Entries.within, Entries.addDotted, Entries.addKey, hlookup,
    Entries.replace]

/-- A key with its value goes into the document, if there is no header before it. -/
theorem add?_rootEntry {key : String} {es : Entries} {v : Value} (h : key ∉ es.map (·.1)) :
    State.add? ⟨es, []⟩ (.entry [] key v) = some ⟨es ++ [(key, v)], []⟩ := by
  have hlookup := lookup_eq_none h
  simp [State.add?, State.change?, Entries.within, Entries.addDotted, Entries.addKey, hlookup]

/-- Keys with their values go one after the other where a single one goes. -/
theorem foldlM_entries (around : Entries → Entries) {current : List String}
    (hadd : ∀ {es key v}, key ∉ es.map (·.1) →
      State.add? ⟨around es, current⟩ (.entry [] key v) = some ⟨around (es ++ [(key, v)]), current⟩)
    {es : Entries} {row : Row} (h : (es.map (·.1) ++ row.map (·.1)).Nodup) :
    (row.map fun e => Line.entry [] e.1 (.scalar e.2)).foldlM State.add? ⟨around es, current⟩ =
      some ⟨around (es ++ rowEntries row), current⟩ := by
  induction row generalizing es with
  | nil => simp [rowEntries]
  | cons e row ih =>
    have hnew : e.1 ∉ es.map (·.1) := fun hmem =>
      (List.nodup_append.1 h).2.2 e.1 hmem e.1 List.mem_cons_self rfl
    have hnodup : ((es ++ [(e.1, Value.scalar e.2)]).map (·.1) ++ row.map (·.1)).Nodup := by
      simpa using h
    rw [List.map_cons, List.foldlM_cons, hadd hnew]
    show (row.map fun e => Line.entry [] e.1 (.scalar e.2)).foldlM State.add? _ = _
    rw [ih hnodup, rowEntries, rowEntries, List.map_cons, List.append_assoc]
    rfl

/-- The tables that rows have made so far. -/
def rowTables (name : String) : List Entries → Entries
  | [] => []
  | rows => [(name, .tables rows)]

/-- The lines of a row make a table. -/
theorem foldlM_rowLines (name : String) {row : Row} (h : (row.map (·.1)).Nodup)
    (rows : List Entries) (current : List String) :
    (rowLines name row).foldlM State.add? ⟨rowTables name rows, current⟩ =
      some ⟨rowTables name (rows ++ [rowEntries row]), [name]⟩ := by
  have hrow : State.add? ⟨rowTables name rows, current⟩ (.row [] name) =
      some ⟨[(name, .tables (rows ++ [[]]))], [name]⟩ := by
    cases rows <;>
      simp [State.add?, State.change?, Entries.within, Entries.openRow, rowTables, Entries.replace]
  have htables : rowTables name (rows ++ [rowEntries row]) =
      [(name, .tables (rows ++ [[] ++ rowEntries row]))] := by
    cases rows <;> rfl
  rw [rowLines, List.foldlM_cons, hrow, htables]
  exact foldlM_entries (fun es => [(name, .tables (rows ++ [es]))]) add?_entry (by simpa using h)

/-- The lines of all rows make all tables. -/
theorem foldlM_flatMap (name : String) {rows : List Row} (h : ∀ row ∈ rows, (row.map (·.1)).Nodup)
    (before : List Entries) (current : List String) :
    ∃ current', (rows.flatMap (rowLines name)).foldlM State.add? ⟨rowTables name before, current⟩ =
      some ⟨rowTables name (before ++ rows.map rowEntries), current'⟩ := by
  induction rows generalizing before current with
  | nil => exact ⟨current, by simp⟩
  | cons row rows ih =>
    obtain ⟨hrow, hrows⟩ := List.forall_mem_cons.1 h
    obtain ⟨current', hmore⟩ := ih hrows (before ++ [rowEntries row]) [name]
    refine ⟨current', ?_⟩
    rw [List.flatMap_cons, List.foldlM_append, foldlM_rowLines name hrow]
    simpa using hmore

/-- A document is read line by line. -/
theorem read?_of_lines {s : List Char} (hmark : s.head? ≠ some '\uFEFF') {ls : List (Option Line)}
    (h : Takes (Reader.many anyLine) s [] ls) :
    read? (String.ofList s) =
      ((ls.filterMap id).foldlM State.add? ⟨[], []⟩).map (·.entries) := by
  have hblanks : Takes blanks [] [] () := takes_blanks (by simp) (by simp)
  have hend : Takes Reader.atEnd [] [] () := rfl
  have htakes : Takes lines s [] (ls.filterMap id) :=
    h.bind_right (hblanks.bind_left (hend.bind_left (Reader.takes_pure _ _)))
  have hrun : lines.run s = some (ls.filterMap id, []) := by
    rw [← List.append_nil s]
    exact htakes
  have hlines : lines.readAll? s = some (ls.filterMap id) := by
    simp only [Reader.readAll?, hrun]
  rw [read?, String.toList_ofList]
  split
  · exact absurd rfl hmark
  · rw [hlines]
    rfl

/-- A document of rows is read back. -/
theorem read?_writeRows {name : String} (hname : IsBare name) {rows : List Row}
    (hrows : ∀ row ∈ rows, IsRow row) (hne : rows ≠ []) :
    read? (String.ofList (writeRows name rows)) = some [(name, .tables (rows.map rowEntries))] := by
  have hmark : (writeRows name rows).head? = some '[' := by
    cases rows with
    | nil => exact absurd rfl hne
    | cons row rows =>
      cases rows with
      | nil => simp [writeRows]
      | cons row' rows => simp [writeRows, List.intercalate_cons_cons]
  obtain ⟨current, hfold⟩ := foldlM_flatMap name (fun row hrow => (hrows row hrow).nodup) [] []
  have htables : rowTables name ([] ++ rows.map rowEntries) =
      [(name, .tables (rows.map rowEntries))] := by
    cases rows with
    | nil => exact absurd rfl hne
    | cons row rows => rfl
  have hstart : rowTables name [] = [] := rfl
  rw [htables, hstart] at hfold
  rw [read?_of_lines (by simp [hmark]) (takes_rows hname hrows hne), filterMap_documentLines, hfold]
  rfl

/-- A table at the top of a document is read back. -/
theorem read?_writeRow {row : Row} (h : IsRow row) :
    read? (String.ofList (writeRow row)) = some (rowEntries row) := by
  have hmark : (writeRow row).head? ≠ some '\uFEFF' := by
    cases row with
    | nil => simp [writeRow]
    | cons e row =>
      have hbare := h.bare e List.mem_cons_self
      cases hname : e.1.toList with
      | nil => exact absurd hname hbare.ne_nil
      | cons c w =>
        have hc := hbare.bare c (hname ▸ List.mem_cons_self)
        simp only [writeRow, List.flatMap_cons, hname, List.cons_append, List.head?_cons]
        rintro heq
        obtain rfl := Option.some.inj heq
        exact absurd hc (by decide)
  have hend : anyLine.run [] = none := rfl
  have htakes := takes_entries h.bare h.readable (Reader.takes_many_nil hend)
  rw [List.append_nil, List.append_nil] at htakes
  have hlines : (row.map fun e => some (Line.entry [] e.1 (.scalar e.2))).filterMap id =
      row.map fun e => Line.entry [] e.1 (.scalar e.2) := by
    simp [List.filterMap_map]
  have hfold : (row.map fun e => Line.entry [] e.1 (.scalar e.2)).foldlM State.add? ⟨[], []⟩ =
      some ⟨[] ++ rowEntries row, []⟩ :=
    foldlM_entries id add?_rootEntry (by simpa using h.nodup)
  rw [read?_of_lines hmark htakes, hlines, hfold]
  rfl

end MailFilter.Toml
