import MailFilter.Proofs.Evaluation

/-!
# The Pieces of a Template

A template is cut into pieces from the left: a percent sign with one of ten letters is a
placeholder, every other percent sign stands for itself, and so does every other character
(`Segments`). There is one way to cut it. A percent sign that stands for itself leaves the character
behind it alone, and this may not be a letter of a placeholder, a second percent sign among them; so
of a run of percent signs at most the last one stands for itself.

To fill in a template is to put the meanings of its pieces together (`fill_of_segments`). What comes
out of a message is a meaning and no piece, and it is not looked at again. Two templates behind one
another are filled in apart, unless the first one ends in a percent sign that stands for itself.

## Main results

* `Segments.unique`, `exists_segments`: a template is cut in one way.
* `fill_of_segments`: a template is filled in piece by piece.
* `Segments.append`: where two templates can be put behind one another.
* `command_one_pass`: the same for commands, and how a text is written as a template.
-/

namespace MailFilter.CommandTemplate

/-! ### Placeholders and pieces -/

/-- What a percent sign with a letter stands for. -/
inductive Placeholder where
  | percent
  | subject
  | sender
  | recipient
  | cc
  | date
  | messageId
  | newsgroups
  | references
  | file
deriving DecidableEq

namespace Placeholder

/-- The letter behind the percent sign. -/
def letter : Placeholder → Char
  | percent => '%'
  | subject => 's'
  | sender => 'f'
  | recipient => 't'
  | cc => 'c'
  | date => 'd'
  | messageId => 'i'
  | newsgroups => 'n'
  | references => 'r'
  | file => 'F'

/-- What is inserted for a message. What the message does not have is empty. -/
def value (m : Message) : Placeholder → Except Fault String
  | percent => .ok "%"
  | subject => .ok (m.subject.getD "")
  | sender => .ok (m.sender.getD "")
  | recipient => .ok (m.recipient.getD "")
  | cc => .ok (m.cc.getD "")
  | date =>
    match m.date with
    | none => .ok ""
    | some d =>
      match d.mailDate? with
      | some text => .ok text
      | none => .error .unwritableDate
  | messageId => .ok (m.messageId.getD "")
  | newsgroups => .ok (m.newsgroups.getD "")
  | references => .ok (m.references.getD "")
  | file => .ok (m.file.getD "")

/-- No letter stands for two placeholders. -/
theorem letter_injective {p q : Placeholder} (h : p.letter = q.letter) : p = q := by
  cases p <;> cases q <;> first | rfl | exact absurd h (by decide)

/-- A letter is looked up as its placeholder. -/
theorem value?_letter (m : Message) (p : Placeholder) : value? m p.letter = some (p.value m) := by
  cases p with
  | date =>
    simp only [letter, value?, value]
    cases m.date with
    | none => rfl
    | some date =>
      simp only
      cases date.mailDate? <;> rfl
  | _ => rfl

/-- Any other character is not found. -/
theorem value?_eq_none {c : Char} (h : ∀ p : Placeholder, c ≠ p.letter) (m : Message) :
    value? m c = none := by
  unfold value?
  split
  · exact absurd rfl (h percent)
  · exact absurd rfl (h subject)
  · exact absurd rfl (h sender)
  · exact absurd rfl (h recipient)
  · exact absurd rfl (h cc)
  · exact absurd rfl (h date)
  · exact absurd rfl (h messageId)
  · exact absurd rfl (h newsgroups)
  · exact absurd rfl (h references)
  · exact absurd rfl (h file)
  · rfl

/-- Something is inserted for every placeholder, but for a date that has no form in mail headers. -/
theorem exists_value_iff {m : Message} {p : Placeholder} :
    (∃ text, p.value m = .ok text) ↔ (p = date → HasMailDate m) := by
  cases p with
  | date =>
    have hvalue := value?_letter m date
    rcases value?_cases m 'd' with ⟨h, -⟩ | ⟨-, hdate, text, htext⟩ | ⟨-, hdate, htext⟩
    · exact absurd (by decide) h
    · rw [letter, htext] at hvalue
      exact ⟨fun _ _ => hdate rfl, fun _ => ⟨text, (Option.some.inj hvalue).symm⟩⟩
    · rw [letter, htext] at hvalue
      rw [← Option.some.inj hvalue]
      simp [hdate]
  | _ => simp [value]

end Placeholder

/-- A piece of a template: a character that is no percent sign, a placeholder, or a percent sign
that stands for itself. -/
inductive Piece where
  | plain (c : Char)
  | placeholder (p : Placeholder)
  | sign
deriving DecidableEq

/-- What a piece stands for. -/
def Piece.meaning (m : Message) : Piece → Except Fault (List Char)
  | plain c => .ok [c]
  | placeholder p => (p.value m).map String.toList
  | sign => .ok ['%']

/-- How a template is cut into pieces. -/
inductive Segments : List Piece → List Char → Prop
  | nil : Segments [] []
  | plain {c : Char} {ps : List Piece} {s : List Char} :
      c ≠ '%' → Segments ps s → Segments (.plain c :: ps) (c :: s)
  | placeholder {p : Placeholder} {ps : List Piece} {s : List Char} :
      Segments ps s → Segments (.placeholder p :: ps) ('%' :: p.letter :: s)
  | sign {ps : List Piece} {s : List Char} :
      (∀ p : Placeholder, s.head? ≠ some p.letter) → Segments ps s →
        Segments (.sign :: ps) ('%' :: s)

variable {m : Message} {s t : List Char} {ps qs : List Piece}

/-! ### Cutting a template -/

/-- A template is cut in one way. -/
theorem Segments.unique (h : Segments ps s) (h' : Segments qs s) : ps = qs := by
  induction h generalizing qs with
  | nil =>
    cases h'
    rfl
  | plain hc _ ih =>
    cases h' with
    | plain _ h' => rw [ih h']
    | placeholder => exact absurd rfl hc
    | sign => exact absurd rfl hc
  | @placeholder p ps s _ ih =>
    generalize hs : '%' :: p.letter :: s = t at h'
    cases h' with
    | nil => cases hs
    | plain hc => exact absurd (List.cons_eq_cons.1 hs).1.symm hc
    | placeholder h' =>
      obtain ⟨-, hrest⟩ := List.cons_eq_cons.1 hs
      obtain ⟨hletter, rfl⟩ := List.cons_eq_cons.1 hrest
      rw [Placeholder.letter_injective hletter, ih h']
    | sign hfree =>
      obtain ⟨-, rfl⟩ := List.cons_eq_cons.1 hs
      exact absurd rfl (hfree p)
  | @sign ps s hfree _ ih =>
    generalize hs : '%' :: s = t at h'
    cases h' with
    | nil => cases hs
    | plain hc => exact absurd (List.cons_eq_cons.1 hs).1.symm hc
    | @placeholder p =>
      obtain ⟨-, rfl⟩ := List.cons_eq_cons.1 hs
      exact absurd rfl (hfree p)
    | sign _ h' =>
      obtain ⟨-, rfl⟩ := List.cons_eq_cons.1 hs
      rw [ih h']

/-- Every template can be cut. -/
theorem exists_segments : ∀ s : List Char, ∃ ps, Segments ps s
  | [] => ⟨[], .nil⟩
  | c :: s => by
    obtain ⟨ps, hps⟩ := exists_segments s
    by_cases hc : c = '%'
    case neg => exact ⟨.plain c :: ps, .plain hc hps⟩
    subst hc
    by_cases hletter : ∃ p : Placeholder, s.head? = some p.letter
    case neg => exact ⟨.sign :: ps, .sign (fun p h => hletter ⟨p, h⟩) hps⟩
    obtain ⟨p, hp⟩ := hletter
    match s, hp with
    | c :: s, hp =>
      obtain rfl := Option.some.inj hp
      obtain ⟨ps, hps⟩ := exists_segments s
      exact ⟨.placeholder p :: ps, .placeholder hps⟩

/-- What a list does not end with, its tail does not end with either. -/
theorem getLast?_ne_of_cons {p q : Piece} (h : (p :: ps).getLast? ≠ some q) :
    ps.getLast? ≠ some q := by
  cases ps with
  | nil => simp
  | cons => rwa [List.getLast?_cons_cons] at h

/-- Two templates behind one another are cut like each of them, unless the first one ends in a
percent sign that stands for itself. -/
theorem Segments.append (h : Segments ps s) (h' : Segments qs t)
    (hlast : ps.getLast? ≠ some .sign) : Segments (ps ++ qs) (s ++ t) := by
  induction h with
  | nil => exact h'
  | plain hc _ ih => exact .plain hc (ih (getLast?_ne_of_cons hlast))
  | placeholder _ ih => exact .placeholder (ih (getLast?_ne_of_cons hlast))
  | @sign ps s hfree hps ih =>
    refine .sign (fun p => ?_) (ih (getLast?_ne_of_cons hlast))
    cases hps with
    | nil => simp at hlast
    | plain => exact hfree p
    | placeholder => exact hfree p
    | sign => exact hfree p

/-! ### Filling in a template -/

/-- What pieces stand for, put together. -/
def joined (m : Message) (ps : List Piece) : Except Fault (List Char) :=
  (ps.mapM (Piece.meaning m)).map List.flatten

theorem joined_nil (m : Message) : joined m [] = .ok [] := rfl

theorem joined_cons (m : Message) (p : Piece) (ps : List Piece) :
    joined m (p :: ps) = (p.meaning m).bind fun text => (joined m ps).map (text ++ ·) := by
  simp only [joined, List.mapM_cons]
  cases p.meaning m with
  | error e => rfl
  | ok text => cases ps.mapM (Piece.meaning m) <;> rfl

theorem joined_append (m : Message) (ps qs : List Piece) :
    joined m (ps ++ qs) = (joined m ps).bind fun text => (joined m qs).map (text ++ ·) := by
  simp only [joined, List.mapM_append]
  cases ps.mapM (Piece.meaning m) with
  | error e => rfl
  | ok texts =>
    cases qs.mapM (Piece.meaning m) with
    | error e => rfl
    | ok rest => exact congrArg Except.ok List.flatten_append

/-- A character that is no percent sign is kept. -/
theorem fill_plain {c : Char} (hc : c ≠ '%') (m : Message) (s : List Char) :
    fill m (c :: s) = (fill m s).map (c :: ·) := by
  rw [fill]
  exact fun _ _ h => absurd h hc

/-- What is inserted for a placeholder is not looked at again. -/
theorem fill_placeholder (m : Message) (p : Placeholder) (s : List Char) :
    fill m ('%' :: p.letter :: s) =
      (p.value m).bind fun text => (fill m s).map (text.toList ++ ·) := by
  rw [fill, p.value?_letter m]
  cases p.value m <;> rfl

/-- A percent sign that stands for itself is kept, and what is behind it is filled in as if it stood
alone. -/
theorem fill_sign (hfree : ∀ p : Placeholder, s.head? ≠ some p.letter) (m : Message) :
    fill m ('%' :: s) = (fill m s).map ('%' :: ·) := by
  cases s with
  | nil => rfl
  | cons c s =>
    have hvalue := Placeholder.value?_eq_none (fun p h => hfree p (congrArg some h)) m
    rw [fill, hvalue]

/-- A template is filled in piece by piece. -/
theorem fill_of_segments (m : Message) (h : Segments ps s) : fill m s = joined m ps := by
  induction h with
  | nil => rfl
  | plain hc _ ih =>
    rw [fill_plain hc, ih, joined_cons]
    rfl
  | @placeholder p ps s _ ih =>
    rw [fill_placeholder, ih, joined_cons, Piece.meaning]
    cases p.value m <;> rfl
  | sign hfree _ ih =>
    rw [fill_sign hfree, ih, joined_cons]
    rfl

/-- A piece stands for something unless it is a date that has no form in mail headers. -/
theorem Piece.isOk_meaning_iff {p : Piece} :
    (p.meaning m).isOk = true ↔ (p = .placeholder .date → HasMailDate m) := by
  cases p with
  | plain c => simp [meaning, Except.isOk, Except.toBool]
  | sign => simp [meaning, Except.isOk, Except.toBool]
  | placeholder p =>
    rw [meaning, isOk_map, Piece.placeholder.injEq, ← Placeholder.exists_value_iff]
    cases p.value m <;> simp [Except.isOk, Except.toBool]

/-- Pieces can be put together unless one of them is a date that has no form in mail headers. -/
theorem isOk_joined_iff :
    (joined m ps).isOk = true ↔ (.placeholder .date ∈ ps → HasMailDate m) := by
  induction ps with
  | nil => simp [joined_nil, Except.isOk, Except.toBool]
  | cons p ps ih =>
    have hpiece := Piece.isOk_meaning_iff (m := m) (p := p)
    rw [joined_cons]
    cases hmeaning : p.meaning m with
    | error e =>
      have hdate : ¬ (p = .placeholder .date → HasMailDate m) := by
        rw [← hpiece, hmeaning]
        simp [Except.isOk, Except.toBool]
      simp only [Except.bind, Except.isOk, Except.toBool, List.mem_cons]
      grind
    | ok text =>
      have hdate : p = .placeholder .date → HasMailDate m := by
        rw [← hpiece, hmeaning]
        rfl
      simp only [Except.bind, isOk_map, ih, List.mem_cons]
      grind

/-- Where a template is cut, and how a command is made of the pieces. A template is cut in one way,
and the command is made of what the pieces stand for, one after the other. It is made unless a piece
is a date that has no form in mail headers. So a text behind a template is filled in apart, unless
the template ends in a percent sign that stands for itself, and a text with its percent signs
doubled is a template for itself, whatever the message has. -/
theorem command_one_pass (m : Message) :
    (∀ template : String, ∃ ps, Segments ps template.toList ∧
      (∀ qs, Segments qs template.toList → qs = ps) ∧
      command template m =
        (ps.mapM (Piece.meaning m)).map (fun texts => String.ofList texts.flatten) ∧
      ((command template m).isOk = true ↔ (.placeholder .date ∈ ps → HasMailDate m))) ∧
    (∀ (first second : String) (ps : List Piece), Segments ps first.toList →
      ps.getLast? ≠ some .sign →
      command (first ++ second) m =
        (command first m).bind fun text => (command second m).map (text ++ ·)) ∧
    ∀ s : String, command (String.ofList (double s.toList)) m = .ok s := by
  refine ⟨fun template => ?_, fun first second ps hps hlast => ?_, fun s => ?_⟩
  · obtain ⟨ps, hps⟩ := exists_segments template.toList
    refine ⟨ps, hps, fun qs hqs => hqs.unique hps, ?_, ?_⟩
    · rw [command, fill_of_segments m hps, joined]
      cases ps.mapM (Piece.meaning m) <;> rfl
    · rw [command, isOk_map, fill_of_segments m hps, isOk_joined_iff]
  · obtain ⟨qs, hqs⟩ := exists_segments second.toList
    have hboth := fill_of_segments m (hps.append hqs hlast)
    simp only [command, String.toList_append, hboth, joined_append, fill_of_segments m hps,
      fill_of_segments m hqs]
    cases joined m ps with
    | error e => rfl
    | ok text =>
      cases joined m qs with
      | error e => rfl
      | ok rest => exact congrArg Except.ok String.ofList_append
  · rw [command, String.toList_ofList, fill_double]
    exact congrArg Except.ok String.ofList_toList

/-- A message with percent signs in its subject. The first template ends in a percent sign and a
letter that is no placeholder, the second one in a percent sign. -/
theorem command_one_pass_percents :
    let m : Message := { subject := some "%f %%" }
    Segments [.placeholder .percent, .sign, .plain 'q'] "%%%q".toList ∧
      command ("%%%q" ++ "[%s] 5%") m = .ok "%%q[%f %%] 5%" := by
  intro m
  have hps : Segments [.placeholder .percent, .sign, .plain 'q'] "%%%q".toList :=
    .placeholder (.sign (by intro p; cases p <;> decide) (.plain (by decide) .nil))
  refine ⟨hps, ?_⟩
  rw [(command_one_pass m).2.1 _ "[%s] 5%" _ hps (by decide)]
  decide +kernel

end MailFilter.CommandTemplate
