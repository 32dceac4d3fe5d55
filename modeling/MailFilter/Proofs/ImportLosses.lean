import MailFilter.Proofs.ImportFrame
import MailFilter.Proofs.Reading
import MailFilter.Proofs.SetDocument
import Mathlib.Data.Nat.Count

/-!
# Which Rules an Import Loses

An import that overwrites always succeeds, and every rule of the document that has a name is stored
under it, if no two have the same one. A rule without a name gets a generated one, which is free at
its turn. But a rule behind it may ask for that very name, and then takes its place: the rule
without a name is lost, though it is counted as one that was taken over.

Whether that happens can be told from the stored names and the document. Generated names are given
in the order of their numbers, and those are passed over that a stored rule has or a rule in front
asks for. So a rule asks for a name that was given in front of it exactly if the name is spare, and
fewer spare names come before it than there are rules without a name in front (`IsLate`).

## Main results

* `Import.Granted.exists_step`, `Import.Granted.step`: an import that overwrites takes over the next
  rule of a document, and loses no rule with a name.
* `Import.Clean.isLate_iff`: a rule asks too late exactly if its name is taken, but not by a rule
  that was there before.
* `Import.Clean.step`: while no rule asks too late, all rules of the document are stored.
* `Import.Outcome.run`: what the whole import comes to.
* `length_of_keepsAll`: the number of rules tells whether one was lost.
* `RuleFile.importRules_keepsAll_iff`: exactly when an import loses no rule.
-/

namespace MailFilter

open Calendar (Instant)

/-! ### Generated names are names -/

namespace Text

/-- Digits have one byte each. -/
theorem byteLength_of_digits {s : List Char} (h : ∀ c ∈ s, isDigit c = true) :
    byteLength s = s.length := by
  induction s with
  | nil => rfl
  | cons c s ih =>
    obtain ⟨hc, hs⟩ := List.forall_mem_cons.1 h
    have hsize : c.utf8Size = 1 := by
      simp only [isDigit, Bool.and_eq_true, decide_eq_true_eq] at hc
      have hnine : c.val ≤ '9'.val := hc.2
      exact Char.utf8Size_eq_one_iff.2 (UInt32.le_trans hnine (by decide))
    rw [byteLength, List.length_cons, hsize, ih hs, Nat.add_comm]

end Text

namespace RuleStore

/-- A generated name is valid, as long as its number has less than sixty digits. -/
theorem checkName_generatedName {n : Nat} (h : n < 10 ^ 59) :
    checkName (generatedName n) = .ok () := by
  have htext : (generatedName n).toList = "rule-".toList ++ Text.decimal n := by
    simp [generatedName, Text.natural]
  have hdigits : ∀ c ∈ Text.decimal n, Text.isDigit c = true := fun c hc =>
    Text.isDigit_of_mem_decimal hc
  have hlength : (Text.decimal n).length ≤ 59 := Text.length_decimal_le h (by decide)
  refine checkName_ok_iff.2 ⟨fun hempty => ?_, ?_, ?_⟩
  · rw [hempty] at htext
    simp at htext
  · rw [htext, Text.byteLength_append, Text.byteLength_of_digits hdigits]
    have hfront : Text.byteLength "rule-".toList = 5 := by decide
    omega
  · rw [htext, List.all_append, Bool.and_eq_true]
    refine ⟨by decide, List.all_eq_true.2 fun c hc => ?_⟩
    simp [isNameChar, Text.isAlphanumeric, hdigits c hc]

/-! ### Lists that agree -/

/-- Of two lists that agree, every member of the second one agrees with one of the first. -/
theorem exists_of_mem_forall₂ {α β : Type} {R : α → β → Prop} {l : List α} {l' : List β} {b : β}
    (h : List.Forall₂ R l l') (hb : b ∈ l') : ∃ a ∈ l, R a b := by
  induction h with
  | nil => cases hb
  | cons hab _ ih =>
    rcases List.mem_cons.1 hb with rfl | hb
    · exact ⟨_, List.mem_cons_self, hab⟩
    · obtain ⟨a, ha, hab⟩ := ih hb
      exact ⟨a, List.mem_cons_of_mem _ ha, hab⟩

/-- Members that agree are counted alike. -/
theorem countP_eq_of_forall₂ {α β : Type} {R : α → β → Prop} {p : α → Bool} {q : β → Bool}
    {l : List α} {l' : List β} (h : List.Forall₂ R l l') (hpq : ∀ a b, R a b → p a = q b) :
    l.countP p = l'.countP q := by
  induction h with
  | nil => rfl
  | cons hab _ ih => rw [List.countP_cons, List.countP_cons, ih, hpq _ _ hab]

/-! ### Names that are given and names that are asked for -/

/-- How many rules of a document have no name. -/
def unnamed (rules : RuleSet) : Nat := rules.countP (·.name.isNone)

/-- Whether the generated name for a number is spare: neither a stored rule has it nor a rule in
front asks for it. The numbers start at one. -/
def IsSpare (s : RuleStore) (front : RuleSet) (n : Nat) : Prop :=
  1 ≤ n ∧ generatedName n ∉ s.names ∧ ∀ listed ∈ front, listed.name ≠ some (generatedName n)

instance (s : RuleStore) (front : RuleSet) : DecidablePred (s.IsSpare front) := fun n =>
  inferInstanceAs (Decidable (1 ≤ n ∧ generatedName n ∉ s.names ∧
    ∀ listed ∈ front, listed.name ≠ some (generatedName n)))

/-- Whether a rule asks too late for its name, because a rule without a name has got it in front: it
is a generated name that was spare, and fewer spare names come before it than there are rules
without a name in front. -/
def IsLate (s : RuleStore) (front : RuleSet) (listed : ListedRule) : Prop :=
  ∃ n, listed.name = some (generatedName n) ∧ s.IsSpare front n ∧
    Nat.count (s.IsSpare front) n < unnamed front

/-- Whether a rule of a document asks too late for its name. -/
def HasLate (s : RuleStore) (rules : RuleSet) : Prop :=
  ∃ front listed back, rules = front ++ listed :: back ∧ s.IsLate front listed

/-- Whether a rule of a document asks for no name that a rule in front asks for. -/
def AsksAnew (front : RuleSet) (listed : ListedRule) : Prop :=
  ∀ other ∈ front, other.name.isSome → other.name ≠ listed.name

/-- Whether a rule of a document does not ask for the name of a stored one. -/
def isNew (s : RuleStore) (listed : ListedRule) : Bool :=
  listed.name.all fun name => !s.contains name

/-- How many rules of a document do not ask for the name of a stored one. -/
def newcomers (s : RuleStore) (rules : RuleSet) : Nat := rules.countP s.isNew

/-- A stored rule that says what a rule of a document does, under the name it asks for, or under a
generated one that no rule had before. -/
structure IsCopy (s : RuleStore) (listed : ListedRule) (r : StoredRule) : Prop where
  name : listed.name = some r.name ∨
    listed.name = none ∧ r.name ∉ s.names ∧ ∃ n, r.name = generatedName n
  description : r.description = listed.description
  rule : r.rule = listed.rule.text

/-- Whether every rule of a document is stored, each under a name of its own. -/
def KeepsAll (s : RuleStore) (rules : RuleSet) (s' : RuleStore) : Prop :=
  ∃ copies : RuleStore, copies ⊆ s' ∧ copies.names.Nodup ∧ List.Forall₂ (IsCopy s) rules copies

variable {s s' : RuleStore} {done rules : RuleSet} {listed : ListedRule} {r : StoredRule}
  {now : Instant} {i i' : Import}

/-- A change to one rule leaves their number. -/
theorem length_onRule {name : String} {f : StoredRule → StoredRule} :
    (s.onRule name f).length = s.length := by
  induction s with
  | nil => rfl
  | cons r s ih =>
    rw [onRule]
    split <;> simp [ih]

/-- The rules of a document that ask too late, after one more. -/
theorem hasLate_concat :
    s.HasLate (done ++ [listed]) ↔ s.HasLate done ∨ s.IsLate done listed := by
  constructor
  · rintro ⟨front, late, back, hrules, hlate⟩
    rcases List.eq_nil_or_concat' back with rfl | ⟨back, last, rfl⟩
    · obtain ⟨rfl, hlast⟩ := List.append_inj' hrules rfl
      obtain rfl := List.singleton_inj.1 hlast
      exact .inr hlate
    · rw [← List.cons_append, ← List.append_assoc] at hrules
      obtain ⟨rfl, -⟩ := List.append_inj' hrules rfl
      exact .inl ⟨front, late, back, rfl, hlate⟩
  · rintro (⟨front, late, back, rfl, hlate⟩ | hlate)
    · exact ⟨front, late, back ++ [listed], by simp, hlate⟩
    · exact ⟨done, listed, [], rfl, hlate⟩

/-- The rules without a name, after one more. -/
theorem unnamed_concat :
    unnamed (done ++ [listed]) = unnamed done + if listed.name = none then 1 else 0 := by
  simp [unnamed, List.countP_append, List.countP_singleton, Option.isNone_iff_eq_none]

/-- The rules that do not ask for the name of a stored one, after one more. -/
theorem newcomers_concat :
    s.newcomers (done ++ [listed]) = s.newcomers done + if s.isNew listed then 1 else 0 := by
  simp [newcomers, List.countP_append, List.countP_singleton]

/-- A rule is new exactly if it does not ask for the name of a stored one. -/
theorem isNew_iff :
    s.isNew listed = true ↔ ∀ name, listed.name = some name → name ∉ s.names := by
  simp [isNew, Option.all_eq_true, ← contains_iff]

/-! ### One rule, overwriting -/

namespace Import

/-- The rule that is made of the next rule of a document is a copy of it. -/
theorem isCopy_copyOf (h : s.names ⊆ i.store.names) : IsCopy s listed (i.copyOf now listed) where
  name := (i.nameFor_cases listed).imp_right fun ⟨hnone, hname, hfree⟩ =>
    ⟨hnone, fun hmem => hfree (h hmem), _, hname⟩
  description := rfl
  rule := rfl

/-- The rules after the next rule of a document has been taken over are its copy, and those of other
names. -/
theorem mem_step (hnodup : i.store.names.Nodup) (hi : i.step now .overwrite listed = .ok i') :
    r ∈ i'.store ↔ r = i.copyOf now listed ∨ r ∈ i.store ∧ r.name ≠ i.nameFor listed := by
  rcases step_ok_iff.1 hi with ⟨htaken, ⟨hskip, -⟩ | ⟨-, -, rfl⟩⟩ | ⟨hfree, -, rfl⟩
  · cases hskip
  · simp only [onRule_eq_map hnodup, List.mem_map]
    constructor
    · rintro ⟨r₀, hr₀, rfl⟩
      split
      · exact .inl rfl
      · next hne => exact .inr ⟨hr₀, hne⟩
    · rintro (rfl | ⟨hr, hne⟩)
      · obtain ⟨r₀, hr₀, hname⟩ := List.mem_map.1 htaken
        exact ⟨r₀, hr₀, if_pos hname⟩
      · exact ⟨r, hr, if_neg hne⟩
  · have hne : r ∈ i.store → r.name ≠ i.nameFor listed := fun hr hname =>
      hfree (List.mem_map.2 ⟨r, hr, hname⟩)
    rw [List.mem_append, List.mem_singleton, or_comm, and_iff_left_of_imp hne]

/-- The names stay distinct. -/
theorem nodup_step (hnodup : i.store.names.Nodup) (hi : i.step now .overwrite listed = .ok i') :
    i'.store.names.Nodup := by
  rcases step_ok_iff.1 hi with ⟨-, ⟨hskip, -⟩ | ⟨-, -, rfl⟩⟩ | ⟨hfree, -, rfl⟩
  · cases hskip
  · exact nodup_onRule hnodup fun _ _ _ => .inl rfl
  · exact nodup_append hnodup hfree

/-- There is one rule more, unless the name was taken. -/
theorem length_step (hi : i.step now .overwrite listed = .ok i') :
    i'.store.length = i.store.length + if i.nameFor listed ∈ i.store.names then 0 else 1 := by
  rcases step_ok_iff.1 hi with ⟨htaken, ⟨hskip, -⟩ | ⟨-, -, rfl⟩⟩ | ⟨hfree, -, rfl⟩
  · cases hskip
  · simp [htaken, length_onRule]
  · simp [hfree]

/-! ### What every import that overwrites keeps -/

/-- How far an import that overwrites has come. The rules that were there still are, under their
names; all numbers up to the last one are in use; and the rules with names are stored. -/
structure Granted (s : RuleStore) (done : RuleSet) (i : Import) : Prop where
  nodup : i.store.names.Nodup
  names : s.names ⊆ i.store.names
  dense : i.IsDense
  length : i.store.length ≤ s.length + s.newcomers done
  named : ∀ listed ∈ done, listed.name.isSome → ∃ r ∈ i.store, IsCopy s listed r

/-- Nothing has been taken over yet. -/
theorem granted_start (h : s.names.Nodup) : Granted s [] ⟨s, 0, 0, 0⟩ where
  nodup := h
  names := List.Subset.refl _
  dense := isDense_start s
  length := Nat.le_refl _
  named := by simp

/-- A rule of a document is new exactly if no stored rule had the name that it gets. -/
theorem Granted.isNew_iff (h : Granted s done i) :
    s.isNew listed = true ↔ i.nameFor listed ∉ s.names := by
  rw [RuleStore.isNew_iff]
  rcases i.nameFor_cases listed with hname | ⟨hnone, -, hfree⟩
  · simp [hname]
  · simp [hnone, mt (fun hmem => h.names hmem) hfree]

/-- A rule is stored under every name that has been asked for. -/
theorem Granted.mem_of_asked {front : ListedRule} {name : String} (h : Granted s done i)
    (hfront : front ∈ done) (hname : front.name = some name) : name ∈ i.store.names := by
  obtain ⟨r, hr, hcopy⟩ := h.named front hfront (by simp [hname])
  rcases hcopy.name with hasked | ⟨hnone, -⟩
  · obtain heq := Option.some.inj (hname.symm.trans hasked)
    exact List.mem_map.2 ⟨r, hr, heq.symm⟩
  · rw [hname] at hnone
    cases hnone

/-- A number that is given next is not greater than the number of rules in front of it. -/
theorem Granted.freeNumber_le (h : Granted s done i) :
    i.store.freeNumber i.lastNumber ≤ s.length + done.length + 1 := by
  have hnew : s.newcomers done ≤ done.length := List.countP_le_length
  have hlength := h.length
  have hnumber := h.dense.freeNumber_le
  omega

/-- The next rule of a document is taken over. -/
theorem Granted.exists_step (h : Granted s done i) (hlisted : listed.IsListable)
    (hlength : s.length + done.length + 1 < 10 ^ 59) (now : Instant) :
    ∃ i', i.step now .overwrite listed = .ok i' := by
  have hname : checkName (i.nameFor listed) = .ok () := by
    rcases i.nameFor_cases listed with hname | ⟨-, hname, -⟩
    · exact hlisted.name _ hname
    · rw [hname]
      exact checkName_generatedName (Nat.lt_of_le_of_lt h.freeNumber_le hlength)
  have hvalid : (i.copyOf now listed).validate = .ok () :=
    StoredRule.validate_ok_iff.2 ⟨hname, listed.rule, hlisted.writable⟩
  by_cases htaken : i.nameFor listed ∈ i.store.names
  · exact ⟨_, step_ok_iff.2 (.inl ⟨htaken, .inr ⟨rfl, hvalid, rfl⟩⟩)⟩
  · exact ⟨_, step_ok_iff.2 (.inr ⟨htaken, hvalid, rfl⟩)⟩

/-- The next rule of a document does not take the place of the copy of a rule that asks for another
name. -/
theorem name_ne_of_isCopy {front : ListedRule} (hr : r ∈ i.store) (hcopy : IsCopy s front r)
    (hfront : front.name.isSome) (hdistinct : front.name ≠ listed.name) :
    r.name ≠ i.nameFor listed := by
  intro hname
  have htaken : i.nameFor listed ∈ i.store.names := List.mem_map.2 ⟨r, hr, hname⟩
  rcases hcopy.name with hasked | ⟨hnone, -⟩
  · exact hdistinct (by rw [hasked, name_eq_of_taken htaken, hname])
  · rw [hnone] at hfront
    cases hfront

/-- Taking over the next rule of a document. -/
theorem Granted.step (h : Granted s done i)
    (hanew : AsksAnew done listed)
    (hi : i.step now .overwrite listed = .ok i') : Granted s (done ++ [listed]) i' where
  nodup := nodup_step h.nodup hi
  names := fun name hname => (mem_names_step hi).2 (.inr (h.names hname))
  dense := h.dense.step hi
  length := by
    have hlength := h.length
    rw [length_step hi, newcomers_concat]
    by_cases htaken : i.nameFor listed ∈ i.store.names
    · rw [if_pos htaken]
      omega
    · have hnew : s.isNew listed = true := h.isNew_iff.2 (mt (fun hmem => h.names hmem) htaken)
      rw [if_neg htaken, if_pos hnew]
      omega
  named := by
    intro other hother hsome
    rcases List.mem_append.1 hother with hfront | hlast
    · obtain ⟨r, hr, hcopy⟩ := h.named other hfront hsome
      exact ⟨r, (mem_step h.nodup hi).2 (.inr ⟨hr,
        name_ne_of_isCopy hr hcopy hsome (hanew other hfront hsome)⟩), hcopy⟩
    · obtain rfl := List.mem_singleton.1 hlast
      exact ⟨_, (mem_step h.nodup hi).2 (.inl rfl), isCopy_copyOf h.names⟩

/-! ### Until a rule asks too late -/

/-- How far an import that overwrites has come, if no rule has asked too late. All names are those
of rules that were there, those that were asked for, and generated ones up to the last number; as
many of these were spare as there are rules without a name. -/
structure Clean (s : RuleStore) (done : RuleSet) (i : Import) : Prop extends Granted s done i where
  mem_names : ∀ name ∈ i.store.names, name ∈ s.names ∨
    (∃ listed ∈ done, listed.name = some name) ∨
    ∃ n, 1 ≤ n ∧ n ≤ i.lastNumber ∧ generatedName n = name
  count : Nat.count (s.IsSpare done) (i.lastNumber + 1) = unnamed done
  keepsAll : s.KeepsAll done i.store
  length_eq : i.store.length = s.length + s.newcomers done

/-- Nothing has been taken over yet. -/
theorem clean_start (h : s.names.Nodup) : Clean s [] ⟨s, 0, 0, 0⟩ where
  toGranted := granted_start h
  mem_names := fun _ hname => .inl hname
  count := by simp [Nat.count_succ, IsSpare, unnamed]
  keepsAll := ⟨[], by simp, by simp [RuleStore.names], .nil⟩
  length_eq := rfl

/-- A rule asks too late exactly if the name that it gets is taken, but not by a rule that was there
before. -/
theorem Clean.isLate_iff (h : Clean s done i)
    (hanew : AsksAnew done listed) :
    s.IsLate done listed ↔ i.nameFor listed ∈ i.store.names ∧ i.nameFor listed ∉ s.names := by
  constructor
  · rintro ⟨n, hname, hspare, hcount⟩
    have hgets : i.nameFor listed = generatedName n := by simp [nameFor, hname]
    rw [← h.count] at hcount
    have hlast : n ≤ i.lastNumber := Nat.le_of_lt_succ (Nat.lt_of_count_lt_count hcount)
    rw [hgets]
    exact ⟨h.dense n hspare.1 hlast, hspare.2.1⟩
  · rintro ⟨htaken, hnew⟩
    have hname := name_eq_of_taken htaken
    have hasked : ∀ front ∈ done, front.name ≠ some (i.nameFor listed) := fun front hfront heq =>
      hanew front hfront (by simp [heq]) (heq.trans hname.symm)
    rcases h.mem_names _ htaken with hold | ⟨front, hfront, heq⟩ | ⟨n, hn, hlast, heq⟩
    · exact absurd hold hnew
    · exact absurd heq (hasked front hfront)
    · rw [← heq] at hname hnew hasked
      have hspare : s.IsSpare done n := ⟨hn, hnew, hasked⟩
      refine ⟨n, hname, hspare, ?_⟩
      rw [← h.count]
      exact Nat.count_strict_mono hspare (Nat.lt_succ_of_le hlast)

/-- Where a name is taken and no rule asks too late, a rule that was there before has it. -/
theorem Clean.old_of_taken (h : Clean s done i)
    (hanew : AsksAnew done listed)
    (hlate : ¬ s.IsLate done listed) (htaken : i.nameFor listed ∈ i.store.names) :
    i.nameFor listed ∈ s.names := by
  by_contra hnew
  exact hlate ((h.isLate_iff hanew).2 ⟨htaken, hnew⟩)

/-- Where a rule gets a generated name, it is the next spare one. -/
theorem Clean.count_lastFor (h : Clean s done i) :
    Nat.count (s.IsSpare done) (i.lastFor listed + 1) = unnamed (done ++ [listed]) := by
  rw [unnamed_concat, lastFor, ← h.count]
  split
  · obtain ⟨passed, hnumber⟩ := Nat.exists_eq_add_of_le (i.store.lt_freeNumber i.lastNumber)
    have hfree := i.store.generatedName_freeNumber i.lastNumber
    have hspare : s.IsSpare done (i.lastNumber + 1 + passed) := by
      rw [← hnumber]
      exact ⟨by omega, mt (fun hmem => h.names hmem) hfree,
        fun front hfront hname => hfree (h.mem_of_asked hfront hname)⟩
    have hnone : Nat.count (fun k => s.IsSpare done (i.lastNumber + 1 + k)) passed = 0 := by
      refine Nat.count_iff_forall_not.2 fun k hk hspare => ?_
      obtain ⟨-, hnew, hasked⟩ := hspare
      have hlast : i.lastNumber < i.lastNumber + 1 + k := by omega
      have htaken : generatedName (i.lastNumber + 1 + k) ∈ i.store.names :=
        mem_names_of_lt_freeNumber hlast (by omega)
      rcases h.mem_names _ htaken with hold | ⟨front, hfront, heq⟩ | ⟨n, -, hlast, heq⟩
      · exact hnew hold
      · exact hasked front hfront heq
      · have := generatedName_injective heq
        omega
    rw [hnumber, Nat.count_succ, Nat.count_add, hnone, if_pos hspare]
  · rfl

/-- The next rule of a document makes no name up to the last number less spare, unless it asks too
late. -/
theorem Clean.isSpare_concat_iff (h : Clean s done i)
    (hanew : AsksAnew done listed)
    (hlate : ¬ s.IsLate done listed) {n : Nat} (hn : n ≤ i.lastFor listed) :
    s.IsSpare (done ++ [listed]) n ↔ s.IsSpare done n := by
  have hconcat : s.IsSpare (done ++ [listed]) n ↔
      s.IsSpare done n ∧ listed.name ≠ some (generatedName n) := by
    simp only [IsSpare, List.forall_mem_append, List.forall_mem_singleton, and_assoc]
  rw [hconcat, and_iff_left_iff_imp]
  rintro ⟨hpos, hnew, -⟩ hname
  have hlast : n ≤ i.lastNumber := by simpa [lastFor, hname] using hn
  have hgets : i.nameFor listed = generatedName n := by simp [nameFor, hname]
  exact hlate ((h.isLate_iff hanew).2 (by rw [hgets]; exact ⟨h.dense n hpos hlast, hnew⟩))

/-- Unless the next rule of a document asks too late, it takes the place of no copy. -/
theorem Clean.keepsAll_step (h : Clean s done i)
    (hanew : AsksAnew done listed)
    (hlate : ¬ s.IsLate done listed) (hi : i.step now .overwrite listed = .ok i') :
    s.KeepsAll (done ++ [listed]) i'.store := by
  obtain ⟨copies, hsub, hnodup, hcopies⟩ := h.keepsAll
  have hne : ∀ r ∈ copies, r.name ≠ i.nameFor listed := by
    intro r hr hname
    obtain ⟨front, hfront, hcopy⟩ := exists_of_mem_forall₂ hcopies hr
    have htaken : i.nameFor listed ∈ i.store.names := List.mem_map.2 ⟨r, hsub hr, hname⟩
    rcases hcopy.name with hasked | ⟨-, hnew, -⟩
    · exact name_ne_of_isCopy (hsub hr) hcopy (by simp [hasked])
        (hanew front hfront (by simp [hasked])) hname
    · exact hnew (hname ▸ h.old_of_taken hanew hlate htaken)
  have hfree : (i.copyOf now listed).name ∉ copies.names := fun hmem => by
    obtain ⟨r, hr, hname⟩ := List.mem_map.1 hmem
    exact hne r hr hname
  refine ⟨copies ++ [i.copyOf now listed], fun r hr => ?_, nodup_append hnodup hfree,
    List.rel_append hcopies (.cons (isCopy_copyOf h.names) .nil)⟩
  rw [mem_step h.nodup hi]
  rcases List.mem_append.1 hr with hr | hr
  · exact .inr ⟨hsub hr, hne r hr⟩
  · exact .inl (List.mem_singleton.1 hr)

/-- Taking over the next rule of a document, if it does not ask too late. -/
theorem Clean.step (h : Clean s done i)
    (hanew : AsksAnew done listed)
    (hlate : ¬ s.IsLate done listed) (hi : i.step now .overwrite listed = .ok i') :
    Clean s (done ++ [listed]) i' where
  toGranted := h.toGranted.step hanew hi
  mem_names := by
    intro name hname
    rw [lastNumber_step hi]
    rcases (mem_names_step hi).1 hname with rfl | hname
    · rcases i.nameFor_cases listed with hasked | ⟨hnone, hgets, -⟩
      · exact .inr (.inl ⟨listed, by simp, hasked⟩)
      · have hlast : i.lastFor listed = i.store.freeNumber i.lastNumber := by simp [lastFor, hnone]
        exact .inr (.inr ⟨_, Nat.zero_lt_of_lt (i.store.lt_freeNumber i.lastNumber), hlast.ge,
          hgets.symm⟩)
    · rcases h.mem_names name hname with hold | ⟨front, hfront, hasked⟩ | ⟨n, hn, hlast, hname⟩
      · exact .inl hold
      · exact .inr (.inl ⟨front, List.mem_append_left _ hfront, hasked⟩)
      · exact .inr (.inr ⟨n, hn, hlast.trans (i.lastNumber_le_lastFor listed), hname⟩)
  count := by
    have hspare : ∀ n < i.lastFor listed + 1,
        (s.IsSpare (done ++ [listed]) n ↔ s.IsSpare done n) := fun n hn =>
      h.isSpare_concat_iff hanew hlate (Nat.le_of_lt_succ hn)
    rw [lastNumber_step hi, ← h.count_lastFor]
    exact le_antisymm (Nat.count_mono_left fun n hn => (hspare n hn).1)
      (Nat.count_mono_left fun n hn => (hspare n hn).2)
  keepsAll := h.keepsAll_step hanew hlate hi
  length_eq := by
    rw [length_step hi, newcomers_concat, h.length_eq, Nat.add_assoc]
    by_cases htaken : i.nameFor listed ∈ i.store.names
    · have hold := h.old_of_taken hanew hlate htaken
      rw [if_pos htaken, if_neg (mt h.isNew_iff.1 (not_not.2 hold))]
    · rw [if_neg htaken, if_pos (h.isNew_iff.2 (mt (fun hmem => h.names hmem) htaken))]

/-! ### All rules -/

/-- What an import that overwrites comes to: no rule has asked too late, or one has, and there are
fewer rules than there would be else. -/
inductive Outcome (s : RuleStore) (done : RuleSet) (i : Import) : Prop
  | clean : ¬ s.HasLate done → Clean s done i → Outcome s done i
  | lost : s.HasLate done → Granted s done i →
      i.store.length < s.length + s.newcomers done → Outcome s done i

/-- What every import that overwrites keeps. -/
theorem Outcome.granted (h : Outcome s done i) : Granted s done i := by
  cases h with
  | clean _ h => exact h.toGranted
  | lost _ h _ => exact h

/-- Taking over the next rule of a document. -/
theorem Outcome.step (h : Outcome s done i)
    (hanew : AsksAnew done listed)
    (hi : i.step now .overwrite listed = .ok i') : Outcome s (done ++ [listed]) i' := by
  have hgranted := h.granted.step hanew hi
  cases h with
  | clean hnone h =>
    by_cases hlate : s.IsLate done listed
    · -- the rule takes the place of one that got its name in front
      refine .lost (hasLate_concat.2 (.inr hlate)) hgranted ?_
      obtain ⟨htaken, hnew⟩ := (h.isLate_iff hanew).1 hlate
      rw [length_step hi, newcomers_concat, if_pos htaken, if_pos (h.isNew_iff.2 hnew), h.length_eq]
      omega
    · exact .clean (fun hlost => (hasLate_concat.1 hlost).elim hnone hlate)
        (h.step hanew hlate hi)
  | lost hlost h hlength =>
    refine .lost (hasLate_concat.2 (.inl hlost)) hgranted ?_
    rw [length_step hi, newcomers_concat]
    by_cases htaken : i.nameFor listed ∈ i.store.names
    · rw [if_pos htaken]
      omega
    · rw [if_neg htaken, if_pos (h.isNew_iff.2 (mt (fun hmem => h.names hmem) htaken))]
      omega

/-- Taking over the rules that are left. -/
theorem Outcome.run (h : Outcome s done i) (hlisted : ∀ listed ∈ rules, listed.IsListable)
    (hdistinct : (done ++ rules).Pairwise fun a b => a.name.isSome → a.name ≠ b.name)
    (hlength : s.length + (done ++ rules).length < 10 ^ 59) (clock : Nat → Instant) :
    ∃ i', Import.run .overwrite clock i rules = .ok i' ∧ Outcome s (done ++ rules) i' := by
  induction rules generalizing clock i done with
  | nil => exact ⟨i, rfl, by rwa [List.append_nil]⟩
  | cons listed rules ih =>
    obtain ⟨hfirst, hrest⟩ := List.forall_mem_cons.1 hlisted
    have hanew : AsksAnew done listed := fun front hfront =>
      (List.pairwise_append.1 hdistinct).2.2 front hfront listed List.mem_cons_self
    have hshort : s.length + done.length + 1 < 10 ^ 59 := by
      simp only [List.length_append, List.length_cons] at hlength
      omega
    obtain ⟨i₁, hstep⟩ := h.granted.exists_step hfirst hshort (clock 0)
    rw [List.append_cons] at hdistinct hlength ⊢
    obtain ⟨i', hrun, houtcome⟩ :=
      ih (h.step hanew hstep) hrest hdistinct hlength fun n => clock (n + 1)
    exact ⟨i', by rw [Import.run, hstep]; exact hrun, houtcome⟩

end Import

/-- Where all rules of a document are stored beside those that were there, there are as many rules
more as do not ask for the name of a stored one. -/
theorem length_of_keepsAll (hs : s.names.Nodup) (hnames : s.names ⊆ s'.names)
    (h : s.KeepsAll rules s') : s.length + s.newcomers rules ≤ s'.length := by
  obtain ⟨copies, hsub, hnodup, hcopies⟩ := h
  let fresh : RuleStore := copies.filter fun r => !s.contains r.name
  have hfresh : s.newcomers rules = fresh.length := by
    rw [newcomers, ← List.countP_eq_length_filter]
    refine countP_eq_of_forall₂ hcopies fun listed r hcopy => ?_
    rcases hcopy.name with hname | ⟨hnone, hnew, -⟩
    · simp [isNew, hname]
    · simp [isNew, hnone, mt contains_iff.1 hnew]
  have hall : (s.names ++ names fresh).Nodup := by
    refine List.nodup_append.2 ⟨hs, hnodup.sublist (List.filter_sublist.map _), ?_⟩
    rintro name hold other hnew rfl
    obtain ⟨r, hr, rfl⟩ := List.mem_map.1 hnew
    have hfree := (List.mem_filter.1 hr).2
    rw [contains_iff.2 hold] at hfree
    cases hfree
  have hmem : s.names ++ names fresh ⊆ s'.names := by
    refine List.append_subset.2 ⟨hnames, fun name hname => ?_⟩
    obtain ⟨r, hr, rfl⟩ := List.mem_map.1 hname
    exact List.mem_map.2 ⟨r, hsub (List.mem_filter.1 hr).1, rfl⟩
  have hlength := (hall.subperm hmem).length_le
  simpa [names, ← hfresh] using hlength

end RuleStore

/-! ### In a file -/

namespace RuleFile

open RuleStore (IsCopy)

variable {f : RuleFile} {t : FileTree} {s : RuleStore} {source : Path} {text : String}
  {rules : RuleSet}

/-- An import that overwrites succeeds and counts every rule of the document as taken over. If no
two rules of the document ask for the same name, those that ask for one are stored under it. The
other ones are stored too, and there are as many rules more as do not ask for the name of a stored
one, exactly if no rule asks too late for its name. -/
theorem importRules_keepsAll_iff (clock : Nat → Instant) (hload : f.load t = .ok s)
    (hs : s.names.Nodup) (hread : t.read source = .ok text)
    (hdocument : RuleSet.ofDocument text = .ok rules)
    (hdistinct : rules.Pairwise fun a b => a.name.isSome → a.name ≠ b.name)
    (hlength : s.length + rules.length < 10 ^ 59) (hw : f.IsWritable t) :
    ∃ s' t', f.importRules clock source .overwrite t = (.ok (rules.length, 0), t') ∧
      f.save s' t = (.ok (), t') ∧
      (∀ listed ∈ rules, listed.name.isSome → ∃ r ∈ s', IsCopy s listed r) ∧
      (s.KeepsAll rules s' ↔ ¬ s.HasLate rules) ∧
      (s'.length = s.length + s.newcomers rules ↔ ¬ s.HasLate rules) := by
  have hstart : RuleStore.Import.Outcome s [] ⟨s, 0, 0, 0⟩ :=
    .clean (by simp [RuleStore.HasLate]) (RuleStore.Import.clean_start hs)
  obtain ⟨i, hi, houtcome⟩ := hstart.run (RuleSet.isListable_of_ofDocument hdocument)
    (by simpa using hdistinct) (by simpa using hlength) clock
  obtain ⟨kept, added, haccounts⟩ := (RuleStore.Import.accounts_start hs).run hi
  rw [List.nil_append] at houtcome haccounts
  have hskipped : i.skipped = 0 := haccounts.skipped (by simp)
  have himported : i.imported = rules.length := by
    have htotal := haccounts.total
    omega
  obtain ⟨t', hsave, -⟩ := hw.save_ok i.store
  have hgranted := houtcome.granted
  refine ⟨i.store, t', importRules_ok_iff.2 ⟨s, text, rules, i, hload, hread, hdocument, hi,
    himported, hskipped, hsave⟩, hsave, hgranted.named, ?_⟩
  cases houtcome with
  | clean hnone h => exact ⟨iff_of_true h.keepsAll hnone, iff_of_true h.length_eq hnone⟩
  | lost hlost _ hless =>
    have hkeeps : ¬ s.KeepsAll rules i.store := fun hkeeps =>
      absurd (RuleStore.length_of_keepsAll hs hgranted.names hkeeps) (Nat.not_le.2 hless)
    exact ⟨iff_of_false hkeeps (not_not.2 hlost), iff_of_false hless.ne (not_not.2 hlost)⟩

/-- A document whose rule with the name `rule-1` comes first, so that the other one gets the next
name. -/
theorem importRules_keepsAll_iff_named_first :
    let stored : RuleStore := [⟨"a", "", ⟨0, 0, 0⟩, ⟨0, 0, 0⟩, 3, "N"⟩]
    let rules : RuleSet := [⟨some "rule-1", "", ⟨[⟨false, .status .new⟩], .all, by simp⟩⟩,
      ⟨none, "", ⟨[⟨false, .status .unread⟩], .all, by simp⟩⟩]
    RuleSet.ofDocument "rule-1: N\nU\n" = .ok rules ∧
    ∃ s' t', (rootFile "rules.toml").importRules (fun _ => ⟨7, 0, 0⟩) ⟨"in.txt"⟩ .overwrite
        (filesOf stored "rule-1: N\nU\n") = (.ok (2, 0), t') ∧
      (rootFile "rules.toml").save s' (filesOf stored "rule-1: N\nU\n") = (.ok (), t') ∧
      ¬ stored.HasLate rules ∧ stored.KeepsAll rules s' ∧ s'.length = 3 := by
  intro stored rules
  have hdated : ∀ r ∈ stored, r.IsDated :=
    List.forall_mem_singleton.2 ⟨isRegular_zero, isRegular_zero⟩
  obtain ⟨hload, hread, hwritable⟩ := read_filesOf "rule-1: N\nU\n" hdated
  have hdocument : RuleSet.ofDocument "rule-1: N\nU\n" = .ok rules := by decide +kernel
  have hnone : ¬ stored.HasLate rules := by
    rintro ⟨front, listed, back, hrules, n, hname, -, hcount⟩
    rcases front with _ | ⟨first, _ | ⟨second, front⟩⟩
    · -- no rule stands in front of the first one
      simp [RuleStore.unnamed] at hcount
    · -- the second one asks for no name
      obtain ⟨-, rfl, -⟩ : _ ∧ _ ∧ _ := by simpa [rules] using hrules
      cases hname
    · simp [rules] at hrules
  obtain ⟨s', t', himport, hsave, -, hkeeps, hlength⟩ :=
    importRules_keepsAll_iff (fun _ => ⟨7, 0, 0⟩) hload (by decide +kernel) hread hdocument
      (by decide +kernel) (by decide +kernel) hwritable
  exact ⟨hdocument, s', t', himport, hsave, hnone, hkeeps.2 hnone,
    (hlength.2 hnone).trans (by decide +kernel)⟩

/-- A document whose rule with the name `rule-1` comes second, when the other one has got that name.
Both are counted, and one is stored. -/
theorem importRules_loses_unnamed :
    let rules : RuleSet := [⟨none, "", ⟨[⟨false, .status .unread⟩], .all, by simp⟩⟩,
      ⟨some "rule-1", "", ⟨[⟨false, .status .new⟩], .all, by simp⟩⟩]
    let s' : RuleStore := [.make ⟨7, 0, 0⟩ "rule-1" "" "N"]
    let t := filesOf [] "U\nrule-1: N\n"
    (rootFile "rules.toml").load t = .ok [] ∧ t.read ⟨"in.txt"⟩ = .ok "U\nrule-1: N\n" ∧
      RuleSet.ofDocument "U\nrule-1: N\n" = .ok rules ∧
      (rules.Pairwise fun a b => a.name.isSome → a.name ≠ b.name) ∧
      ∃ t', (rootFile "rules.toml").importRules (fun _ => ⟨7, 0, 0⟩) ⟨"in.txt"⟩ .overwrite t =
          (.ok (2, 0), t') ∧
        (rootFile "rules.toml").save s' t = (.ok (), t') ∧
        ¬ RuleStore.KeepsAll [] rules s' ∧ s'.length ≠ RuleStore.newcomers [] rules := by
  intro rules s' t
  obtain ⟨hload, hread, -⟩ := read_filesOf (s := []) "U\nrule-1: N\n" (by simp)
  have hdocument : RuleSet.ofDocument "U\nrule-1: N\n" = .ok rules := by decide +kernel
  obtain ⟨t', himport, hsave⟩ := importRules_filesOf (s := []) (by simp) hdocument
    (show (RuleStore.importRules [] (fun _ => ⟨7, 0, 0⟩) .overwrite rules).map
      (fun i => (i.store, i.imported, i.skipped)) = .ok (s', 2, 0) by decide +kernel)
  have hless : s'.length < RuleStore.newcomers [] rules := by decide +kernel
  refine ⟨hload, hread, hdocument, by decide +kernel, t', himport, hsave, fun hkeeps => ?_,
    hless.ne⟩
  have hlength :=
    RuleStore.length_of_keepsAll (s := []) List.nodup_nil (List.nil_subset _) hkeeps
  rw [List.length_nil, Nat.zero_add] at hlength
  exact absurd hlength (Nat.not_le.2 hless)

end RuleFile

end MailFilter
