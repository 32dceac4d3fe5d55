import MailFilter.Message.TableFormat
import MailFilter.Proofs.HeaderLookup
import MailFilter.Rule.SyntaxError

/-!
# What a Column Is For

Each column of a table is for one part of a message (`Message.Target`): one of its texts, a measure,
a flag, or an extra header of the name of the column. A cell is read by itself and says what is to
be put there (`Message.Change`), so whether a cell can be read depends on no other cell, and not on
the message either.

A name is for a header with a field of its own whenever it is the name of that header in any
letters. So a table never gives a message an extra header that a field could hide, and every extra
header can be looked up.

## Main results

* `Message.putValue_eq`, `Message.putCell_eq`: a cell is read, and what it says is put.
* `Message.onlyExtras_of_ofRecords`: no column makes an extra header of the name of a field.
* `Message.header?_of_listOfTable`: the extra headers of a table are found.
-/

namespace MailFilter.Message

open Text (equalsIgnoringCase equalsIgnoringCase_iff lowered trimmed)

/-! ### Targets -/

/-- The texts of a message that have fields of their own. -/
inductive TextField where
  | subject
  | sender
  | recipient
  | cc
  | newsgroups
  | inReplyTo
  | references
  | xLabel
  | messageId
  | body
  | file
deriving DecidableEq

/-- The status flags. -/
inductive FlagField where
  | unread
  | new
  | marked
  | deleted
  | replied
  | forwarded
  | locked
deriving DecidableEq

/-- What a column is for. -/
inductive Target where
  | text (field : TextField)
  | size
  | score
  | date
  | flag (field : FlagField)
  | extra (name : String)
deriving DecidableEq

/-- The field that a key stands for. -/
def Target.ofKey? : String → Option Target
  | "subject" => some (.text .subject)
  | "from" => some (.text .sender)
  | "to" => some (.text .recipient)
  | "cc" => some (.text .cc)
  | "newsgroups" => some (.text .newsgroups)
  | "in_reply_to" => some (.text .inReplyTo)
  | "references" => some (.text .references)
  | "x_label" => some (.text .xLabel)
  | "message_id" => some (.text .messageId)
  | "body" => some (.text .body)
  | "file" => some (.text .file)
  | "size" => some .size
  | "score" => some .score
  | "date" => some .date
  | "unread" => some (.flag .unread)
  | "new" => some (.flag .new)
  | "marked" => some (.flag .marked)
  | "deleted" => some (.flag .deleted)
  | "replied" => some (.flag .replied)
  | "forwarded" => some (.flag .forwarded)
  | "locked" => some (.flag .locked)
  | _ => none

/-- What a column is for: the field that its key stands for, or an extra header of its name. -/
def target (column : String) : Target :=
  (Target.ofKey? (columnKey column)).getD (.extra (trimmed column))

/-! ### Changes -/

/-- What a cell says of a message. -/
inductive Change where
  | text (field : TextField) (value : String)
  | size (n : UInt64)
  | score (n : Int64)
  | date (t : Calendar.Instant)
  | flag (field : FlagField) (b : Bool)
  | extra (name value : String)

/-- Reads a cell of a column. -/
def Target.read (cell : String) : Target → Except CellFault Change
  | text field => .ok (.text field cell)
  | size => (readSize cell).map .size
  | score => (readScore cell).map .score
  | date => (readDate cell).map .date
  | flag field => (readFlag cell).map (.flag field)
  | extra name => .ok (.extra name cell)

/-- Puts a text into its field. -/
def TextField.put (m : Message) (value : String) : TextField → Message
  | subject => { m with subject := some value }
  | sender => { m with sender := some value }
  | recipient => { m with recipient := some value }
  | cc => { m with cc := some value }
  | newsgroups => { m with newsgroups := some value }
  | inReplyTo => { m with inReplyTo := some value }
  | references => { m with references := some value }
  | xLabel => { m with xLabel := some value }
  | messageId => { m with messageId := some value }
  | body => { m with body := some value }
  | file => { m with file := some value }

/-- Puts a flag. -/
def FlagField.put (f : Flags) (b : Bool) : FlagField → Flags
  | unread => { f with unread := b }
  | new => { f with new := b }
  | marked => { f with marked := b }
  | deleted => { f with deleted := b }
  | replied => { f with replied := b }
  | forwarded => { f with forwarded := b }
  | locked => { f with locked := b }

/-- Puts what a cell says into a message. -/
def apply (m : Message) : Change → Message
  | .text field value => field.put m value
  | .size n => { m with size := n }
  | .score n => { m with score := n }
  | .date t => { m with date := some t }
  | .flag field b => { m with flags := field.put m.flags b }
  | .extra name value => { m with headers := m.headers.insert name value }

variable {m m' : Message} {column cell : String}

theorem map_map {α β γ ε : Type} (a : Except ε α) (f : α → β) (g : β → γ) :
    (a.map f).map g = a.map (g ∘ f) := by
  cases a <;> rfl

/-- A cell is read, and what it says is put into the message. -/
theorem putValue_eq (m : Message) (column cell : String) :
    m.putValue column cell = ((target column).read cell).map m.apply := by
  rw [putValue, target]
  split
  -- a key that stands for no field comes last
  case h_22 =>
    have hnone : Target.ofKey? (columnKey column) = none := by
      rw [Target.ofKey?] <;> assumption
    rw [hnone]
    rfl
  all_goals
    next hkey =>
    rw [hkey]
    simp only [Target.ofKey?, Option.getD_some, Target.read, map_map, putFlag]
    rfl

/-- What a cell says, if it says anything. -/
def changeOf (column cell : String) : Except CellFault (Option Change) :=
  if cell = "" then .ok none else ((target column).read cell).map some

/-- Puts what a cell says, if it says anything. -/
def applyIfAny (m : Message) (change? : Option Change) : Message := (change?.map m.apply).getD m

theorem putCell_eq (m : Message) (column cell : String) :
    m.putCell column cell = (changeOf column cell).map m.applyIfAny := by
  rw [putCell, changeOf]
  split
  · rfl
  · rw [putValue_eq, map_map]
    rfl

/-- What a change is for. -/
def Change.target : Change → Target
  | .text field _ => .text field
  | .size _ => .size
  | .score _ => .score
  | .date _ => .date
  | .flag field _ => .flag field
  | .extra name _ => .extra name

/-- What a cell says is for what its column is for. -/
theorem target_of_read {target : Target} {change : Change}
    (h : target.read cell = .ok change) : change.target = target := by
  cases target with
  | text field | extra name =>
    rw [Target.read, Except.ok.injEq] at h
    rw [← h]
    rfl
  | size | score | date | flag field =>
    rw [Target.read, map_ok_iff] at h
    obtain ⟨value, -, rfl⟩ := h
    rfl

theorem target_of_changeOf {change : Change} (h : changeOf column cell = .ok (some change)) :
    change.target = target column := by
  rw [changeOf] at h
  split at h
  · cases h
  · obtain ⟨c, hread, hc⟩ := map_ok_iff.1 h
    cases hc
    exact target_of_read hread

/-! ### Extra headers -/

/-- The names of the headers with fields of their own. -/
def knownNames : List String := ({} : Message).knownHeaders.map (·.1)

theorem mem_knownNames {h : String × Option String} (hmem : h ∈ m.knownHeaders) :
    h.1 ∈ knownNames :=
  List.mem_map_of_mem (f := (·.1)) hmem

/-- Whether no extra header has the name of a header with a field of its own, in any letters. -/
def OnlyExtras (m : Message) : Prop :=
  ∀ e ∈ m.headers.entries, ∀ name ∈ knownNames, equalsIgnoringCase name e.1 = false

/-- A column with the name of a header that has a field of its own is for this field. -/
theorem isSome_ofKey?_of_known {name : String} (hknown : name ∈ knownNames)
    (hname : equalsIgnoringCase name (trimmed column) = true) :
    (Target.ofKey? (columnKey column)).isSome = true := by
  have hfields : ∀ name ∈ knownNames, (Target.ofKey? (String.ofList
      ((lowered name).toList.map fun c => if c = '-' then '_' else c))).isSome = true := by
    decide
  have hlowered : lowered (trimmed column) = lowered name := by
    rw [lowered, lowered, equalsIgnoringCase_iff.1 hname]
  rw [columnKey, hlowered]
  exact hfields name hknown

/-- A column for an extra header has the name of none that has a field of its own. -/
theorem name_of_target_extra {name : String} (h : target column = .extra name) :
    ∀ known ∈ knownNames, equalsIgnoringCase known name = false := by
  have hfield : ∀ key, Target.ofKey? key ≠ some (.extra name) := fun key => by
    unfold Target.ofKey?
    split <;> simp
  intro known hknown
  rw [target] at h
  cases hkey : Target.ofKey? (columnKey column) with
  | some t =>
    rw [hkey, Option.getD_some] at h
    exact absurd (h ▸ hkey) (hfield _)
  | none =>
    rw [hkey, Option.getD_none, Target.extra.injEq] at h
    subst h
    refine Bool.eq_false_iff.2 fun hname => ?_
    have hsome := isSome_ofKey?_of_known hknown hname
    rw [hkey] at hsome
    cases hsome

/-- A change of another part of the message leaves the extra headers alone. -/
theorem headers_apply (m : Message) (change : Change) :
    (m.apply change).headers =
      match change with
      | .extra name value => m.headers.insert name value
      | _ => m.headers := by
  cases change with
  | text field value => cases field <;> rfl
  | _ => rfl

/-- A cell adds no extra header that has the name of a header with a field of its own. -/
theorem OnlyExtras.putCell (h : m.OnlyExtras) (hput : m.putCell column cell = .ok m') :
    m'.OnlyExtras := by
  rw [putCell_eq] at hput
  obtain ⟨change?, hchange, rfl⟩ := map_ok_iff.1 hput
  cases change? with
  | none => exact h
  | some change =>
    have htarget := target_of_changeOf hchange
    change (m.apply change).OnlyExtras
    intro e he
    rw [headers_apply] at he
    cases change with
    | extra name value =>
      rcases Headers.mem_insertEntry he with rfl | he
      · exact name_of_target_extra htarget.symm
      · exact h e he
    | _ => exact h e he

theorem OnlyExtras.putCells {cells : List (String × String)} (h : m.OnlyExtras)
    (hput : m.putCells cells = .ok m') : m'.OnlyExtras := by
  induction cells generalizing m with
  | nil =>
    cases hput
    exact h
  | cons c rest ih =>
    obtain ⟨column, cell⟩ := c
    rw [Message.putCells] at hput
    split at hput
    · cases hput
    · next m₁ hcell => exact ih (h.putCell hcell) hput

/-- The messages of a table have only extra headers that no field could hide. -/
theorem onlyExtras_of_ofRecords {columns : List String} {n : Nat} {rows : List (List String)}
    {messages : List Message} (h : ofRecords columns n rows = .ok messages) :
    ∀ m ∈ messages, m.OnlyExtras := by
  induction rows generalizing n messages with
  | nil =>
    cases h
    simp
  | cons cells rest ih =>
    rw [ofRecords] at h
    split at h
    · cases h
    · next m hcells =>
      obtain ⟨others, hothers, rfl⟩ := map_ok_iff.1 h
      have hempty : ({} : Message).OnlyExtras := fun e he => by cases he
      exact List.forall_mem_cons.2 ⟨hempty.putCells hcells, ih hothers⟩

theorem onlyExtras_of_listOfTable {delimiter : Char} {text : String} {messages : List Message}
    (h : listOfTable delimiter text = .ok messages) : ∀ m ∈ messages, m.OnlyExtras := by
  rw [listOfTable] at h
  split at h
  · cases h
    simp
  · exact onlyExtras_of_ofRecords h

/-- An extra header that no field could hide is looked up among the extra headers. -/
theorem OnlyExtras.header?_eq (h : m.OnlyExtras) {e : String × String}
    (he : e ∈ m.headers.entries) :
    m.header? e.1 = (m.headers.entries.find? (isNamed e.1)).map (·.2) := by
  have hnone : m.knownHeaders.find? (isNamed e.1) = none := by
    refine List.find?_eq_none.2 fun known hknown => ?_
    exact Bool.eq_false_iff.1 (h e he known.1 (mem_knownNames hknown))
  rw [Message.header?_eq, hnone]

/-- The extra headers of a table have other names than the headers with fields of their own, and are
all found. An extra header is found under its name if no other has this name in other letters. -/
theorem header?_of_listOfTable {delimiter : Char} {text : String} {messages : List Message}
    (h : listOfTable delimiter text = .ok messages) (hm : m ∈ messages) {e : String × String}
    (he : e ∈ m.headers.entries) :
    (∀ known ∈ m.knownHeaders, equalsIgnoringCase known.1 e.1 = false) ∧
      (m.header? e.1).isSome = true ∧
      ((∀ other ∈ m.headers.entries, other.1 ≠ e.1 → equalsIgnoringCase other.1 e.1 = false) →
        m.header? e.1 = some e.2) := by
  have hextras : m.OnlyExtras := onlyExtras_of_listOfTable h m hm
  have hself : isNamed e.1 e = true := equalsIgnoringCase_iff.2 rfl
  rw [hextras.header?_eq he]
  refine ⟨fun known hknown => hextras e he _ (mem_knownNames hknown), ?_, fun hother => ?_⟩
  · rw [Option.isSome_map, List.find?_isSome]
    exact ⟨e, he, hself⟩
  · have hname : ∀ a ∈ m.headers.entries, isNamed e.1 a = true → a = e := fun a ha hna => by
      refine Headers.eq_of_mem ha he (Decidable.byContradiction fun hne => ?_)
      rw [isNamed, hother a ha hne] at hna
      cases hna
    have hfind : m.headers.entries.find? (isNamed e.1) = some e :=
      (find?_eq_some_iff_of_unique fun a ha b hb hna hnb =>
        (hname a ha hna).trans (hname b hb hnb).symm).2 ⟨he, hself⟩
    rw [hfind]
    rfl

/-- A column with a blank in place of a hyphen is for an extra header beside the field. -/
theorem header?_of_listOfTable_blank :
    let text := "In-reply_TO,In reply-to, X-Tag\n<a>,<b>,<c>\n"
    ∃ m, listOfTable ',' text = .ok [m] ∧ m.inReplyTo = some "<a>" ∧
      ("In reply-to", "<b>") ∈ m.headers.entries ∧ m.header? "In reply-to" = some "<b>" := by
  intro text
  let m : Message :=
    { inReplyTo := some "<a>",
      headers := (Headers.empty.insert "In reply-to" "<b>").insert "X-Tag" "<c>" }
  have htable : listOfTable ',' text = .ok [m] := by decide +kernel
  have hentry : ("In reply-to", "<b>") ∈ m.headers.entries := by decide +kernel
  have hother : ∀ other ∈ m.headers.entries, other.1 ≠ "In reply-to" →
      equalsIgnoringCase other.1 "In reply-to" = false := by decide +kernel
  obtain ⟨-, -, hvalue⟩ := header?_of_listOfTable htable (List.mem_singleton_self m) hentry
  exact ⟨m, htable, rfl, hentry, hvalue hother⟩

end MailFilter.Message
