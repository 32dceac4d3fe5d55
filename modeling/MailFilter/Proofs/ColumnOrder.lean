import Mathlib.Data.List.Perm.Basic
import MailFilter.Proofs.TableColumns

/-!
# The Order of the Columns

The columns of a table can be rearranged, if no two of them are for the same part of a message: the
messages are the same, and if there are none because a cell cannot be read, then the first record
with such a cell is the same. Which cell of the record is found at fault may change, and with it
what is said about it.

What two cells say is put into different parts of the message, so it does not matter which is put
first (`Message.apply_comm`). That is carried over to a whole record along the steps of a
permutation, and from record to record.

## Main results

* `Message.apply_comm`: changes of different parts can be made in either order.
* `Message.putCells_perm`: the cells of a record can be rearranged.
* `Message.listOfTable_rearranged`: the columns of a table can be rearranged.
-/

namespace MailFilter

/-! ### Extra headers by their names -/

namespace Headers

variable {h h' : Headers}

/-- Headers are the same if the same stands under every name. -/
theorem ext_lookup? (heq : ∀ name, h.lookup? name = h'.lookup? name) : h = h' := by
  have hnodup : ∀ h : Headers, h.entries.Nodup := fun h =>
    h.sorted.imp fun {a b} hlt (heq : a = b) => String.ne_of_lt hlt (congrArg Prod.fst heq)
  have hperm : h.entries.Perm h'.entries :=
    (List.perm_ext_iff_of_nodup (hnodup h) (hnodup h')).2 fun e => by
      rw [mem_entries_iff, mem_entries_iff, heq]
  refine Headers.ext (hperm.eq_of_pairwise (fun a b _ _ hab hba => ?_) h.sorted h'.sorted)
  exact absurd hba (String.lt_asymm hab)

/-- Headers of different names can be inserted in either order. -/
theorem insert_comm {name other : String} (hne : name ≠ other) (value value' : String)
    (h : Headers) :
    (h.insert name value).insert other value' = (h.insert other value').insert name value := by
  refine ext_lookup? fun asked => ?_
  simp only [lookup?_insert]
  by_cases hname : asked = name
  · subst hname
    simp [hne]
  · simp [hname]

end Headers

namespace Message

/-! ### One part behind another -/

theorem TextField.put_comm {field other : TextField} (hne : field ≠ other) (value value' : String)
    (m : Message) :
    other.put (field.put m value) value' = field.put (other.put m value') value := by
  cases field <;> cases other <;> first | rfl | exact absurd rfl hne

theorem FlagField.put_comm {field other : FlagField} (hne : field ≠ other) (b b' : Bool)
    (f : Flags) : other.put (field.put f b) b' = field.put (other.put f b') b := by
  cases field <;> cases other <;> first | rfl | exact absurd rfl hne

/-- A text can be put before or after a change of another part of the message. -/
theorem apply_text_comm {field : TextField} {value : String} {other : Change}
    (hne : other.target ≠ .text field) (m : Message) :
    (m.apply (.text field value)).apply other = (m.apply other).apply (.text field value) := by
  cases other with
  | text field' value' =>
    exact TextField.put_comm (fun heq => hne (congrArg Target.text heq.symm)) value value' m
  | _ => cases field <;> rfl

/-- Changes of different parts of a message can be made in either order. -/
theorem apply_comm {change other : Change} (hne : change.target ≠ other.target) (m : Message) :
    (m.apply change).apply other = (m.apply other).apply change := by
  cases change with
  | text field value => exact apply_text_comm hne.symm m
  | flag field b =>
    cases other with
    | text field' value' => exact (apply_text_comm hne m).symm
    | flag field' b' =>
      have hcomm := FlagField.put_comm (fun heq => hne (congrArg Target.flag heq)) b b' m.flags
      simp only [apply, hcomm]
    | _ => rfl
  | extra name value =>
    cases other with
    | text field' value' => exact (apply_text_comm hne m).symm
    | extra name' value' =>
      have hcomm := Headers.insert_comm (fun heq => hne (congrArg Target.extra heq)) value value'
        m.headers
      simp only [apply, hcomm]
    | _ => rfl
  | size | score | date =>
    cases other with
    | text field' value' => exact (apply_text_comm hne m).symm
    | _ => first | rfl | exact absurd rfl hne

/-! ### The cells of a record -/

variable {m : Message}

theorem putCells_cons (m : Message) (c : String × String) (rest : List (String × String)) :
    m.putCells (c :: rest) =
      changeOf c.1 c.2 >>= fun change? => (m.applyIfAny change?).putCells rest := by
  rw [putCells, putCell_eq]
  cases changeOf c.1 c.2 <;> rfl

/-- What two columns of different targets say can be put in either order. -/
theorem applyIfAny_comm {c d : String × String} {change? other? : Option Change}
    (hne : target c.1 ≠ target d.1) (hc : changeOf c.1 c.2 = .ok change?)
    (hd : changeOf d.1 d.2 = .ok other?) (m : Message) :
    (m.applyIfAny change?).applyIfAny other? = (m.applyIfAny other?).applyIfAny change? := by
  cases change? with
  | none => rfl
  | some change =>
    cases other? with
    | none => rfl
    | some other =>
      refine apply_comm ?_ m
      rwa [target_of_changeOf hc, target_of_changeOf hd]

/-- The cells of a record can be put in any order, if their columns are for different parts of the
message. Only the fault, if there is one, depends on the order. -/
theorem putCells_perm {cells cells' : List (String × String)} (h : cells.Perm cells')
    (hdistinct : (cells.map (target ·.1)).Nodup) (m : Message) :
    (m.putCells cells).toOption = (m.putCells cells').toOption := by
  -- only a swap changes anything, and there the two cells are read before either is put
  induction h generalizing m with
  | nil => rfl
  | cons c _ ih =>
    rw [putCells_cons, putCells_cons]
    cases changeOf c.1 c.2 with
    | error e => rfl
    | ok change? => exact ih (List.nodup_cons.1 hdistinct).2 _
  | swap c d rest =>
    have hne : target c.1 ≠ target d.1 := fun heq => by
      simp [heq] at hdistinct
    simp only [putCells_cons]
    cases hc : changeOf c.1 c.2 with
    | error e => cases changeOf d.1 d.2 <;> rfl
    | ok change? =>
      cases hd : changeOf d.1 d.2 with
      | error e => rfl
      | ok other? =>
        change (((m.applyIfAny other?).applyIfAny change?).putCells rest).toOption =
          (((m.applyIfAny change?).applyIfAny other?).putCells rest).toOption
        rw [applyIfAny_comm hne hc hd]
  | trans h₁ _ ih₁ ih₂ =>
    exact (ih₁ hdistinct m).trans (ih₂ ((h₁.map _).nodup_iff.1 hdistinct) m)

/-! ### Rearranged tables -/

/-- Cells in another order, which is given by their places. -/
def rearranged (order : List Nat) (cells : List String) : List String :=
  order.map fun i => cells.getD i ""

variable {columns : List String} {order : List Nat}

/-- What is said of the first parts alone is said of the first list. -/
theorem map_zip_fst {α β γ : Type} (f : α → γ) {l : List α} {l' : List β}
    (h : l.length ≤ l'.length) : (l.zip l').map (f ·.1) = l.map f :=
  calc (l.zip l').map (f ·.1) = ((l.zip l').map Prod.fst).map f := by
        rw [List.map_map]
        rfl
    _ = l.map f := by rw [List.map_fst_zip h]

/-- Columns and cells that are rearranged alike go together as before. -/
theorem zip_perm_rearranged {cells : List String}
    (horder : order.Perm (List.range columns.length)) (hlength : cells.length = columns.length) :
    (columns.zip cells).Perm ((rearranged order columns).zip (rearranged order cells)) := by
  have hzip : columns.zip cells =
      (List.range columns.length).map fun i => (columns.getD i "", cells.getD i "") := by
    apply List.ext_getElem
    · simp [hlength]
    · intro i hi _
      have hcolumn : i < columns.length := by simp at hi; omega
      simp [hcolumn, hlength]
  rw [hzip, rearranged, rearranged, List.zip_map']
  exact (horder.map _).symm

/-- A step on the result can be made in front of a change of the fault. -/
theorem mapError_map {α β ε ε' : Type} (a : Except ε α) (f : α → β) (g : ε → ε') :
    (a.map f).mapError g = (a.mapError g).map f := by
  cases a <;> rfl

/-- Rearranged records have the same messages, or the same first record that is at fault. -/
theorem ofRecords_rearranged {rows : List (List String)}
    (htargets : (columns.map target).Nodup)
    (hlengths : ∀ cells ∈ rows, cells.length = columns.length)
    (horder : order.Perm (List.range columns.length)) (n : Nat) :
    (ofRecords columns n rows).mapError (·.record) =
      (ofRecords (rearranged order columns) n (rows.map (rearranged order))).mapError
        (·.record) := by
  induction rows generalizing n with
  | nil => rfl
  | cons cells rest ih =>
    have hlength := hlengths cells List.mem_cons_self
    have hdistinct : ((columns.zip cells).map (target ·.1)).Nodup := by
      rwa [map_zip_fst target (by omega)]
    have hsame := putCells_perm (zip_perm_rearranged horder hlength) hdistinct {}
    rw [List.map_cons, ofRecords, ofRecords]
    cases hcells : putCells {} (columns.zip cells) with
    | error e =>
      cases hother : putCells {} ((rearranged order columns).zip (rearranged order cells)) with
      | error e' => rfl
      | ok m => simp [hcells, hother, Except.toOption] at hsame
    | ok m =>
      cases hother : putCells {} ((rearranged order columns).zip (rearranged order cells)) with
      | error e' => simp [hcells, hother, Except.toOption] at hsame
      | ok m' =>
        obtain rfl : m = m' := by simpa [hcells, hother, Except.toOption] using hsame
        have hrest := ih (fun cells hc => hlengths cells (List.mem_cons_of_mem _ hc)) (n + 1)
        simp only [mapError_map, hrest]

/-- Two tables with the same columns in different orders have the same messages, or the same first
record that is at fault, if every column is for a part of its own and every record has a cell for
each column. -/
theorem listOfTable_rearranged {delimiter delimiter' : Char} {text text' : String}
    {rows : List (List String)} (htargets : (columns.map target).Nodup)
    (hlengths : ∀ cells ∈ rows, cells.length = columns.length)
    (horder : order.Perm (List.range columns.length))
    (htext : Text.records delimiter text.toList = columns :: rows)
    (htext' : Text.records delimiter' text'.toList =
      rearranged order columns :: rows.map (rearranged order)) :
    (listOfTable delimiter text).mapError (·.record) =
      (listOfTable delimiter' text').mapError (·.record) := by
  simp only [listOfTable, htext, htext']
  exact ofRecords_rearranged htargets hlengths horder 1

/-- A record with two bad cells is at fault in both orders, though not for the same cell. -/
theorem listOfTable_rearranged_faults :
    let columns := ["subject", "size", "score"]
    let rows := [["Hi", "7", "1"], ["Bye", "lots", "few"]]
    let text := "subject,size,score\nHi,7,1\nBye,lots,few\n"
    let text' := "score;size;subject\n1;7;Hi\nfew;lots;Bye\n"
    ((columns.map target).Nodup ∧ (∀ cells ∈ rows, cells.length = columns.length) ∧
      [2, 1, 0].Perm (List.range columns.length) ∧
      Text.records ',' text.toList = columns :: rows ∧
      Text.records ';' text'.toList =
        rearranged [2, 1, 0] columns :: rows.map (rearranged [2, 1, 0])) ∧
    listOfTable ',' text = .error ⟨2, .size "lots"⟩ ∧
      (listOfTable ';' text').mapError (·.record) = .error 2 := by
  intro columns rows text text'
  have htargets : (columns.map target).Nodup := by decide +kernel
  have hlengths : ∀ cells ∈ rows, cells.length = columns.length := by decide
  have horder : [2, 1, 0].Perm (List.range columns.length) := by decide
  have htext : Text.records ',' text.toList = columns :: rows := by decide +kernel
  have htext' : Text.records ';' text'.toList =
      rearranged [2, 1, 0] columns :: rows.map (rearranged [2, 1, 0]) := by decide +kernel
  have hfault : listOfTable ',' text = .error ⟨2, .size "lots"⟩ := by decide +kernel
  have hsame := listOfTable_rearranged htargets hlengths horder htext htext'
  rw [hfault] at hsame
  exact ⟨⟨htargets, hlengths, horder, htext, htext'⟩, hfault, hsame.symm⟩

end Message

end MailFilter
