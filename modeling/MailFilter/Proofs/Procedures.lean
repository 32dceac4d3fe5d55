import MailFilter.Program.Rules

/-!
# Procedures

A procedure is a chain of steps. A step that succeeds hands its answer to the next one, and many
steps leave the files as they are (`Procedure.LeavesFiles`), however they end: all but those that
write settings, rules or documents.

## Main results

* `Procedure.bind_of_ok`: what follows a step that succeeds.
* `Procedure.error_of_bind`: where a chain fails.
* `Procedure.files_bind`: steps at the end that leave files alone do not count.
* `Session.files_filter`: a filter changes files only where it counts a use of a stored rule.
-/

namespace MailFilter.Program

/-! ### Procedures step by step -/

namespace Procedure

variable {α β ε : Type} {a : Procedure α} {next : α → Procedure β} {x : α} {w w' : World}

/-- What follows a step that succeeds. -/
theorem bind_of_ok (h : a w = (.ok x, w')) : (a >>= next) w = next x w' := by
  simp only [bind, andThen, h]

/-- What is read from the files. -/
theorem reading_eq (f : FileTree → α) (w : World) : reading f w = (.ok (f w.files), w) := rfl

/-- A query that succeeds leaves the world alone. -/
theorem query_of_ok {fault : ε → Program.Fault} {f : FileTree → Except ε α}
    (h : f w.files = .ok x) : query fault f w = (.ok x, w) := by
  simp only [query, andThen, reading, h, result, done]

/-- A chain ends with a step that fails. -/
theorem bind_of_error {fault : Fault} (h : a w = (.error fault, w')) :
    (a >>= next) w = (.error fault, w') := by
  simp only [bind, andThen, h]

/-- A query that fails leaves the world alone. -/
theorem query_of_error {fault : ε → Program.Fault} {f : FileTree → Except ε α} {e : ε}
    (h : f w.files = .error e) : query fault f w = (.error (fault e), w) := by
  simp only [query, andThen, reading, h, result, fail]

/-- A change that succeeds leaves its files behind. -/
theorem change_of_ok {fault : ε → Program.Fault} {f : FileTree → Except ε α × FileTree}
    {t : FileTree} (h : f w.files = (.ok x, t)) :
    change fault f w = (.ok x, { w with files := t }) := by
  simp only [change, h]

/-- A change that fails leaves its files behind. -/
theorem change_of_error {fault : ε → Program.Fault} {f : FileTree → Except ε α × FileTree} {e : ε}
    {t : FileTree} (h : f w.files = (.error e, t)) :
    change fault f w = (.error (fault e), { w with files := t }) := by
  simp only [change, h]

/-- Two steps succeed one after the other. -/
theorem exists_of_bind {y : β} (h : (a >>= next) w = (.ok y, w')) :
    ∃ x w₁, a w = (.ok x, w₁) ∧ next x w₁ = (.ok y, w') := by
  rcases ha : a w with ⟨e | x, w₁⟩
  · rw [bind_of_error ha] at h
    cases h
  · rw [bind_of_ok ha] at h
    exact ⟨x, w₁, rfl, h⟩

/-- A chain fails at its front or behind it. -/
theorem error_of_bind {fault : Fault} (h : ((a >>= next) w).1 = .error fault) :
    (a w).1 = .error fault ∨ ∃ x w₁, a w = (.ok x, w₁) ∧ (next x w₁).1 = .error fault := by
  rcases ha : a w with ⟨e | x, w₁⟩
  · rw [bind_of_error ha] at h
    cases h
    exact .inl rfl
  · rw [bind_of_ok ha] at h
    exact .inr ⟨x, w₁, rfl, h⟩

/-- A result fails with its fault. -/
theorem error_of_result {kind : ε → Fault} {fault : Fault} {r : Except ε α}
    (h : (result kind r w).1 = .error fault) : ∃ e, fault = kind e := by
  cases r with
  | error e => exact ⟨e, (Except.error.inj h).symm⟩
  | ok x => cases h

/-- A change that succeeds, with its files. -/
theorem eq_of_change {fault : ε → Fault} {f : FileTree → Except ε α × FileTree}
    (h : change fault f w = (.ok x, w')) : f w.files = (.ok x, w'.files) := by
  rw [change] at h
  rcases hf : f w.files with ⟨e | y, t⟩
  · rw [hf] at h
    cases h
  · rw [hf] at h
    cases h
    rfl

/-- A result that is there leaves the world alone. -/
theorem eq_of_result {fault : ε → Fault} {r : Except ε α}
    (h : result fault r w = (.ok x, w')) : r = .ok x ∧ w' = w := by
  cases r with
  | error e => cases h
  | ok y =>
    cases h
    exact ⟨rfl, rfl⟩

/-! ### Procedures that leave files alone -/

/-- Whether a procedure leaves all files as they are. -/
def LeavesFiles (a : Procedure α) : Prop := ∀ w, (a w).2.files = w.files

/-- What leaves files alone at the end does not count. -/
theorem files_bind (h : ∀ x, (next x).LeavesFiles) (w : World) :
    ((a >>= next) w).2.files = (a w).2.files := by
  show (andThen a next w).2.files = _
  rw [andThen]
  rcases a w with ⟨_ | x, w'⟩
  · rfl
  · exact h x w'

/-- Two steps that leave files alone. -/
theorem LeavesFiles.bind (ha : a.LeavesFiles) (h : ∀ x, (next x).LeavesFiles) :
    (a >>= next).LeavesFiles := fun w => (files_bind h w).trans (ha w)

/-- One of two procedures that leave files alone. -/
theorem LeavesFiles.ite {b : Procedure α} {c : Prop} [Decidable c] (ha : a.LeavesFiles)
    (hb : b.LeavesFiles) : (if c then a else b).LeavesFiles := by
  split
  · exact ha
  · exact hb

/-- An answer leaves files alone. -/
theorem leavesFiles_pure (x : α) : (pure x : Procedure α).LeavesFiles := fun _ => rfl

/-- A result leaves files alone. -/
theorem leavesFiles_result (fault : ε → Fault) (r : Except ε α) :
    (result fault r).LeavesFiles := by
  cases r <;> exact fun _ => rfl

/-- Reading leaves files alone. -/
theorem leavesFiles_reading (f : FileTree → α) : (reading f).LeavesFiles := fun _ => rfl

/-- A query leaves files alone. -/
theorem leavesFiles_query (fault : ε → Fault) (f : FileTree → Except ε α) :
    (query fault f).LeavesFiles :=
  (leavesFiles_reading f).bind fun r => leavesFiles_result fault r

/-- Printing leaves files alone. -/
theorem leavesFiles_print (text : String) : (print text).LeavesFiles := fun _ => rfl

/-- Printing leaves files alone. -/
theorem leavesFiles_printLine (text : String) : (printLine text).LeavesFiles := fun _ => rfl

/-- A note leaves files alone. -/
theorem leavesFiles_note (text : String) : (note text).LeavesFiles := fun _ => rfl

/-- Printing leaves files alone. -/
theorem leavesFiles_printLines (ls : List String) : (printLines ls).LeavesFiles := by
  induction ls with
  | nil => exact fun _ => rfl
  | cons l ls ih => exact (leavesFiles_printLine l).bind fun _ => ih

/-- The files after a change. -/
theorem files_change (fault : ε → Fault) (f : FileTree → Except ε α × FileTree) (w : World) :
    (change fault f w).2.files = (f w.files).2 := by
  rw [change]
  rcases f w.files with ⟨_ | _, _⟩ <;> rfl

/-- The answer that all is well does not count. -/
theorem files_well (a : Procedure α) (w : World) :
    ((a >>= fun _ => pure true : Procedure Bool) w).2.files = (a w).2.files :=
  files_bind (fun _ => leavesFiles_pure true) w

/-- What leaves files alone still does with the answer that all is well. -/
theorem LeavesFiles.well (h : a.LeavesFiles) :
    (a >>= fun _ => pure true : Procedure Bool).LeavesFiles :=
  h.bind fun _ => leavesFiles_pure true

/-! ### Procedures that always answer -/

/-- Whether a procedure answers, and leaves all files as they are. -/
structure Answers (a : Procedure α) : Prop where
  leaves : a.LeavesFiles
  answers : ∀ w, ∃ y, (a w).1 = .ok y

/-- Two procedures that answer. -/
theorem Answers.bind {next : α → Procedure β} (ha : a.Answers) (h : ∀ x, (next x).Answers) :
    (a >>= next).Answers where
  leaves := ha.leaves.bind fun x => (h x).leaves
  answers w := by
    obtain ⟨x, hx⟩ := ha.answers w
    rw [bind_of_ok (Prod.ext hx rfl)]
    exact (h x).answers _

/-- One of two procedures that answer. -/
theorem Answers.ite {b : Procedure α} {c : Prop} [Decidable c] (ha : a.Answers) (hb : b.Answers) :
    (if c then a else b).Answers := by
  split
  · exact ha
  · exact hb

/-- What always answers does not fail. -/
theorem Answers.not_error {fault : Fault} (h : a.Answers) : (a w).1 ≠ .error fault := by
  obtain ⟨y, hy⟩ := h.answers w
  simp [hy]

/-- An answer is there. -/
theorem answers_pure (x : α) : (pure x : Procedure α).Answers :=
  ⟨leavesFiles_pure x, fun _ => ⟨x, rfl⟩⟩

/-- A note can be made. -/
theorem answers_note (text : String) : (note text).Answers :=
  ⟨leavesFiles_note text, fun _ => ⟨(), rfl⟩⟩

/-- Printing works. -/
theorem answers_printLine (text : String) : (printLine text).Answers :=
  ⟨leavesFiles_printLine text, fun _ => ⟨(), rfl⟩⟩

/-- Printing works. -/
theorem answers_printLines (ls : List String) : (printLines ls).Answers := by
  induction ls with
  | nil => exact answers_pure ()
  | cons l ls ih => exact (answers_printLine l).bind fun _ => ih

end Procedure

open Procedure

namespace Session

variable (s : Session)

/-! ### Commands that leave files alone -/

/-- Saying something leaves files alone. -/
theorem leavesFiles_say (line : String) : (s.say line).LeavesFiles :=
  .ite (leavesFiles_pure ()) (leavesFiles_printLine line)

/-- Saying something works. -/
theorem answers_say (line : String) : (s.say line).Answers where
  leaves := s.leavesFiles_say line
  answers w := by
    rw [say]
    split <;> exact ⟨(), rfl⟩

/-- Checking a rule leaves files alone. -/
theorem leavesFiles_check (text : String) : (s.check text).LeavesFiles := by
  rw [check]
  split
  · refine (leavesFiles_printLine _).bind fun _ => .ite ?_ (leavesFiles_pure true)
    exact (leavesFiles_printLine _).bind fun _ =>
      (leavesFiles_printLines _).bind fun _ => leavesFiles_pure true
  · exact (leavesFiles_note _).bind fun _ => leavesFiles_pure false

/-- Loading messages leaves files alone. -/
theorem leavesFiles_load (source : MessageSource) : (load source).LeavesFiles :=
  leavesFiles_query _ _

/-- A summary leaves files alone. -/
theorem leavesFiles_summarize (count total : Nat) (verb : String) :
    (s.summarize count total verb).LeavesFiles :=
  .ite (leavesFiles_pure ()) ((leavesFiles_printLine _).bind fun _ => leavesFiles_printLine _)

/-- A filter changes files only where it counts a use of a stored rule. -/
theorem files_filter (choice : RuleChoice) (count : Bool) (source : MessageSource) (w : World) :
    (s.filter choice count source w).2.files = (s.chosenRule choice w).2.files := by
  have hprint : ∀ selection : Selection, (if count
      then printLine (Text.natural selection.taken.length)
      else do
        printLines (selection.taken.map s.messageLine)
        s.summarize selection.taken.length selection.messages.length "matched").LeavesFiles :=
    fun selection => .ite (leavesFiles_printLine _)
      ((leavesFiles_printLines _).bind fun _ => s.leavesFiles_summarize _ _ _)
  refine (files_bind hprint w).trans (files_bind (fun rule => ?_) w)
  refine (leavesFiles_load source).bind fun messages => (leavesFiles_reading _).bind fun ctx =>
    (leavesFiles_result _ _).bind fun x => .ite ?_ (leavesFiles_pure _)
  exact (leavesFiles_note _).bind fun _ => leavesFiles_pure _

/-- Saying that there are no rules leaves files alone. -/
theorem leavesFiles_noRules : s.noRules.LeavesFiles :=
  .ite (leavesFiles_pure ()) (leavesFiles_printLines _)

/-- A classifier leaves files alone. -/
theorem leavesFiles_classify (first : Bool) (source : MessageSource) :
    (s.classify first source).LeavesFiles := by
  have hlabelled : (s.labelled first source).LeavesFiles :=
    (leavesFiles_query _ _).bind fun _ => .ite (leavesFiles_pure none)
      ((leavesFiles_load source).bind fun messages => (leavesFiles_reading _).bind fun ctx =>
        (leavesFiles_result _ _).bind fun places => leavesFiles_pure _)
  refine hlabelled.bind fun labelled => ?_
  split
  · exact s.leavesFiles_noRules
  · exact (leavesFiles_printLines _).bind fun _ =>
      .ite ((leavesFiles_printLine _).bind fun _ => leavesFiles_printLine _) (leavesFiles_pure ())

/-- A search leaves files alone. -/
theorem leavesFiles_search (query : String) (mode : Option QuickSearch.Mode)
    (source : MessageSource) : (s.search query mode source).LeavesFiles := by
  have hfound : (s.found query mode source).LeavesFiles := by
    refine (leavesFiles_load source).bind fun messages =>
      .ite ((leavesFiles_note _).bind fun _ => ?_) ?_
    · exact (leavesFiles_reading _).bind fun ctx => (leavesFiles_result _ _).bind fun x =>
        leavesFiles_pure _
    · exact (leavesFiles_reading _).bind fun ctx => (leavesFiles_result _ _).bind fun x =>
        leavesFiles_pure _
  exact hfound.bind fun selection => (leavesFiles_printLines _).bind fun _ =>
    s.leavesFiles_summarize _ _ _

/-- A list of the rules leaves files alone. -/
theorem leavesFiles_listRules : s.listRules.LeavesFiles :=
  (leavesFiles_query _ _).bind fun _ => .ite s.leavesFiles_noRules
    ((s.leavesFiles_say _).bind fun _ => (s.leavesFiles_say _).bind fun _ =>
      leavesFiles_printLines _)

/-- Showing a rule leaves files alone. -/
theorem leavesFiles_showRule (name : String) : (s.showRule name).LeavesFiles :=
  (leavesFiles_query _ _).bind fun _ => .ite (leavesFiles_printLine _) (leavesFiles_print _)

/-- Statistics leave files alone. -/
theorem leavesFiles_statistics : s.statistics.LeavesFiles := by
  refine (leavesFiles_query _ _).bind fun rules => .ite (leavesFiles_printLine _) ?_
  refine (leavesFiles_printLine _).bind fun _ => (leavesFiles_printLine _).bind fun _ =>
    .ite ?_ (leavesFiles_pure ())
  exact (leavesFiles_printLine _).bind fun _ => (leavesFiles_printLine _).bind fun _ =>
    (leavesFiles_printLines _).bind fun _ => (leavesFiles_printLine _).bind fun _ =>
      (leavesFiles_printLine _).bind fun _ => leavesFiles_printLines _

end Session

end MailFilter.Program
