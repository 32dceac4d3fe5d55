import MailFilter.Proofs.StoreInvariant
import Mathlib.Data.List.Nodup
import Mathlib.Data.List.Perm.Subperm

/-!
# Taking Over Rules

An import takes over the rules of a set one after the other. A rule without a name gets a generated
one that is free, so it is always added. Hence an import replaces no rules but those whose names the
set has, and only where it may overwrite (`Imported`).

The search for a free name goes on from the last number that was given, and all numbers up to that
one are in use (`Import.IsDense`). So the numbers stay small: none is greater than the number of
rules that are there by then.

## Main results

* `exists_passed`: the search for a generated name passes over taken ones, not more than there are
  rules.
* `Import.IsDense.freeNumber_le`: the next number is not greater than the number of rules and one.
* `imported_of_importRules`: where the rules come from that are there after an import.
-/

namespace MailFilter.RuleStore

open Calendar (Instant)

/-! ### Generated names -/

/-- Numbers make different names. -/
theorem generatedName_injective {m n : Nat} (h : generatedName m = generatedName n) : m = n := by
  have htext : (generatedName m).toList = (generatedName n).toList := congrArg String.toList h
  simp only [generatedName, Text.natural, String.toList_append, String.toList_ofList,
    List.append_cancel_left_eq] at htext
  have hread : Text.readNatural? (Text.decimal m) = Text.readNatural? (Text.decimal n) := by
    rw [htext]
  simpa [Text.readNatural?_decimal] using hread

/-- Among the generated names for some numbers, one more than there are rules, one is free. -/
theorem exists_free (s : RuleStore) (last : Nat) :
    ∃ i, i ≤ s.length ∧ generatedName (last + 1 + i) ∉ s.names := by
  by_contra hall
  push Not at hall
  let candidates := (List.range (s.length + 1)).map fun i => generatedName (last + 1 + i)
  have hnodup : candidates.Nodup := List.Nodup.map (fun i j hij => by
    have hsum := generatedName_injective hij
    omega) List.nodup_range
  have htaken : candidates ⊆ s.names := fun name hname => by
    obtain ⟨i, hi, rfl⟩ := List.mem_map.1 hname
    exact hall i (Nat.le_of_lt_succ (List.mem_range.1 hi))
  have hlength := (hnodup.subperm htaken).length_le
  simp only [candidates, names, List.length_map, List.length_range] at hlength
  omega

/-- The search for a generated name ends at a free one. It passes over taken ones only, and not over
more than there are rules. -/
theorem exists_passed (s : RuleStore) (last : Nat) :
    ∃ passed ≤ s.length, s.freeNumber last = last + 1 + passed ∧
      generatedName (s.freeNumber last) ∉ s.names ∧
      ∀ i < passed, generatedName (last + 1 + i) ∈ s.names := by
  have hfree : ∀ i, (!s.contains (generatedName (last + 1 + i))) = true ↔
      generatedName (last + 1 + i) ∉ s.names := fun i => by
    rw [Bool.not_eq_true', ← Bool.not_eq_true, contains_iff]
  obtain ⟨i, hi, hname⟩ := s.exists_free last
  have hsome : ((List.range (s.length + 1)).find? fun i =>
      !s.contains (generatedName (last + 1 + i))).isSome :=
    List.find?_isSome.2 ⟨i, List.mem_range.2 (Nat.lt_succ_of_le hi), (hfree i).2 hname⟩
  obtain ⟨passed, hfind⟩ := Option.isSome_iff_exists.1 hsome
  have hnumber : s.freeNumber last = last + 1 + passed := by
    rw [freeNumber, hfind, Option.getD_some]
  obtain ⟨hpassed, hmem, hbefore⟩ := List.find?_range_eq_some.1 hfind
  refine ⟨passed, Nat.le_of_lt_succ (List.mem_range.1 hmem), hnumber,
    hnumber ▸ (hfree passed).1 hpassed, fun j hj => contains_iff.1 ?_⟩
  simpa using hbefore j hj

/-- The name of the next number is free. -/
theorem generatedName_freeNumber (s : RuleStore) (last : Nat) :
    generatedName (s.freeNumber last) ∉ s.names := by
  obtain ⟨-, -, -, hfree, -⟩ := s.exists_passed last
  exact hfree

/-- The next number is greater than the last one. -/
theorem lt_freeNumber (s : RuleStore) (last : Nat) : last < s.freeNumber last := by
  obtain ⟨passed, -, hnumber, -⟩ := s.exists_passed last
  omega

/-- The generated names between the last one and the next one are taken. -/
theorem mem_names_of_lt_freeNumber {s : RuleStore} {last n : Nat} (hlast : last < n)
    (hn : n < s.freeNumber last) : generatedName n ∈ s.names := by
  obtain ⟨passed, -, hnumber, -, hpassed⟩ := s.exists_passed last
  have htaken := hpassed (n - (last + 1)) (by omega)
  rwa [Nat.add_sub_of_le hlast] at htaken

/-! ### One rule -/

namespace Import

variable {now : Instant} {collision : Collision} {i i' : Import} {listed : ListedRule}

/-- A name comes from the document, or it is a generated one that is free. -/
theorem nameFor_cases (i : Import) (listed : ListedRule) :
    listed.name = some (i.nameFor listed) ∨
      listed.name = none ∧ i.nameFor listed = generatedName (i.store.freeNumber i.lastNumber) ∧
        i.nameFor listed ∉ i.store.names := by
  cases hname : listed.name with
  | some name => exact .inl (by simp [nameFor, hname])
  | none =>
    have hfree := i.store.generatedName_freeNumber i.lastNumber
    exact .inr ⟨rfl, by simp [nameFor, hname], by simpa [nameFor, hname] using hfree⟩

/-- Where a name is taken, the document asks for it. -/
theorem name_eq_of_taken (h : i.nameFor listed ∈ i.store.names) :
    listed.name = some (i.nameFor listed) :=
  (i.nameFor_cases listed).resolve_right fun hfree => hfree.2.2 h

/-- The last number of a generated name does not decrease. -/
theorem lastNumber_le_lastFor (i : Import) (listed : ListedRule) :
    i.lastNumber ≤ i.lastFor listed := by
  have hlt := i.store.lt_freeNumber i.lastNumber
  rw [lastFor]
  split <;> omega

/-- The generated names up to the last number that were passed over are taken. -/
theorem taken_of_le_lastFor {n : Nat} (hlast : i.lastNumber < n) (hn : n ≤ i.lastFor listed)
    (hne : generatedName n ≠ i.nameFor listed) : generatedName n ∈ i.store.names := by
  rw [lastFor] at hn
  split at hn
  · next hnone =>
    have hgets : generatedName (i.store.freeNumber i.lastNumber) = i.nameFor listed := by
      simp [nameFor, hnone]
    have hlt : n ≠ i.store.freeNumber i.lastNumber := fun heq => hne (heq ▸ hgets)
    exact mem_names_of_lt_freeNumber hlast (Nat.lt_of_le_of_ne hn hlt)
  · omega

/-- The last number of a generated name, after one more rule. -/
theorem lastNumber_step (hi : i.step now collision listed = .ok i') :
    i'.lastNumber = i.lastFor listed := by
  rcases step_ok_iff.1 hi with ⟨-, ⟨-, rfl⟩ | ⟨-, -, rfl⟩⟩ | ⟨-, -, rfl⟩ <;> rfl

/-- A rule that takes the place of another one has its name. -/
theorem names_replaced (i : Import) (now : Instant) (listed : ListedRule) :
    (i.store.onRule (i.nameFor listed) fun _ => i.copyOf now listed).names = i.store.names :=
  names_onRule fun _ _ => rfl

/-- The names that are there after one more rule: those from before, and the one that it gets. -/
theorem mem_names_step {name : String} (hi : i.step now collision listed = .ok i') :
    name ∈ i'.store.names ↔ name = i.nameFor listed ∨ name ∈ i.store.names := by
  have hsame (htaken : i.nameFor listed ∈ i.store.names) :
      name ∈ i.store.names ↔ name = i.nameFor listed ∨ name ∈ i.store.names :=
    (or_iff_right_of_imp fun heq => heq ▸ htaken).symm
  rcases step_ok_iff.1 hi with ⟨htaken, ⟨-, rfl⟩ | ⟨-, -, rfl⟩⟩ | ⟨-, -, rfl⟩
  · exact hsame htaken
  · rw [names_replaced]
    exact hsame htaken
  · simp [names, or_comm]

/-- Whether all numbers up to the last one are in use. -/
def IsDense (i : Import) : Prop :=
  ∀ n, 1 ≤ n → n ≤ i.lastNumber → generatedName n ∈ i.store.names

/-- No number has been given yet. -/
theorem isDense_start (s : RuleStore) : IsDense ⟨s, 0, 0, 0⟩ :=
  fun _ hn hlast => absurd hlast (Nat.not_le.2 hn)

/-- Taking over one more rule leaves no number out. -/
theorem IsDense.step (h : i.IsDense) (hi : i.step now collision listed = .ok i') :
    i'.IsDense := by
  intro n hn hlast
  rw [lastNumber_step hi] at hlast
  rw [mem_names_step hi]
  by_cases hname : generatedName n = i.nameFor listed
  · exact .inl hname
  · rcases Nat.lt_or_ge i.lastNumber n with hlt | hle
    · exact .inr (taken_of_le_lastFor hlt hlast hname)
    · exact .inr (h n hn hle)

/-- The number that is given next is not greater than the number of rules and one. -/
theorem IsDense.freeNumber_le (h : i.IsDense) :
    i.store.freeNumber i.lastNumber ≤ i.store.length + 1 := by
  obtain ⟨k, hk, hfree⟩ := i.store.exists_free 0
  -- all numbers below are in use, and one of the first ones is not
  by_contra hlt
  refine hfree ?_
  rcases Nat.lt_or_ge i.lastNumber (0 + 1 + k) with hlast | hlast
  · exact mem_names_of_lt_freeNumber hlast (by omega)
  · exact h _ (by omega) hlast

end Import

/-! ### Where rules come from -/

/-- Whether the rule of a name comes from an import: the name is new, or it is one of the names of
the set, and the import may overwrite. -/
def IsTaken (s : RuleStore) (collision : Collision) (rules : RuleSet) (name : String) : Prop :=
  name ∉ s.names ∨ collision = .overwrite ∧ ∃ listed ∈ rules, listed.name = some name

/-- What is there after an import, compared with what was there before it: every rule that does not
come from the import was there, and the other ones have just been made. -/
structure Imported (s : RuleStore) (collision : Collision) (rules : RuleSet) (s' : RuleStore) :
    Prop where
  names : s.names ⊆ s'.names
  nodup : s'.names.Nodup
  kept : ∀ r ∈ s', ¬ s.IsTaken collision rules r.name → r ∈ s
  made : ∀ r ∈ s', s.IsTaken collision rules r.name →
    ∃ now description text, r = .make now r.name description text

variable {s : RuleStore} {collision : Collision} {rules : RuleSet} {listed : ListedRule}

/-- A rule of the set makes a difference for its own name only. -/
theorem isTaken_append {other : String} (h : listed.name ≠ some other) :
    s.IsTaken collision (rules ++ [listed]) other ↔ s.IsTaken collision rules other := by
  simp [IsTaken, or_and_right, exists_or, h]

/-- Before anything is taken over, all rules were there. -/
theorem imported_nil (h : s.names.Nodup) : Imported s collision [] s where
  names := List.Subset.refl _
  nodup := h
  kept := fun _ hr _ => hr
  made := fun r hr htaken => by
    rcases htaken with hnew | ⟨-, _, hmem, -⟩
    · exact absurd (List.mem_map.2 ⟨r, hr, rfl⟩) hnew
    · cases hmem

/-- What is there after taking over one more rule. -/
theorem Imported.step {now : Instant} {i i' : Import} (h : Imported s collision rules i.store)
    (hi : i.step now collision listed = .ok i') :
    Imported s collision (rules ++ [listed]) i'.store := by
  -- nothing changes for the rules of other names
  have hother : ∀ r : StoredRule, r.name ≠ i.nameFor listed →
      (s.IsTaken collision (rules ++ [listed]) r.name ↔ s.IsTaken collision rules r.name) := by
    intro r hr
    refine isTaken_append fun hlisted => hr ?_
    simp [Import.nameFor, hlisted]
  rcases Import.step_ok_iff.1 hi with ⟨htaken, ⟨rfl, rfl⟩ | ⟨rfl, -, rfl⟩⟩ | ⟨hfree, -, rfl⟩
  · have hsame : ∀ other, s.IsTaken .skip (rules ++ [listed]) other ↔ s.IsTaken .skip rules other :=
      fun other => by simp [IsTaken]
    exact ⟨h.names, h.nodup, fun r hr hr' => h.kept r hr (mt (hsame _).2 hr'),
      fun r hr hr' => h.made r hr ((hsame _).1 hr')⟩
  · have hlisted : listed.name = some (i.nameFor listed) := Import.name_eq_of_taken htaken
    have hnames := i.names_replaced now listed
    refine ⟨hnames ▸ h.names, hnames ▸ h.nodup, fun r hr hr' => ?_, fun r hr hr' => ?_⟩
    · rcases mem_onRule_of_nodup h.nodup hr with ⟨hr, hn⟩ | ⟨_, -, -, rfl⟩
      · exact h.kept r hr (mt (hother r hn).2 hr')
      · exact absurd (.inr ⟨rfl, listed, by simp, hlisted⟩) hr'
    · rcases mem_onRule_of_nodup h.nodup hr with ⟨hr, hn⟩ | ⟨_, -, -, rfl⟩
      · exact h.made r hr ((hother r hn).1 hr')
      · exact ⟨now, _, _, rfl⟩
  · have hne : ∀ r ∈ i.store, r.name ≠ i.nameFor listed := fun r hr hn =>
      hfree (List.mem_map.2 ⟨r, hr, hn⟩)
    refine ⟨fun other hmem => ?_, nodup_append h.nodup hfree, fun r hr hr' => ?_,
      fun r hr hr' => ?_⟩
    · rw [RuleStore.names, List.map_append]
      exact List.mem_append_left _ (h.names hmem)
    · rcases List.mem_append.1 hr with hr | hr
      · exact h.kept r hr (mt (hother r (hne r hr)).2 hr')
      · obtain rfl := List.mem_singleton.1 hr
        exact absurd (.inl fun hmem => hfree (h.names hmem)) hr'
    · rcases List.mem_append.1 hr with hr | hr
      · exact h.made r hr ((hother r (hne r hr)).1 hr')
      · obtain rfl := List.mem_singleton.1 hr
        exact ⟨now, _, _, rfl⟩

/-- What is there after taking over more rules. -/
theorem Imported.run {clock : Nat → Instant} {i i' : Import} {done : RuleSet}
    (h : Imported s collision done i.store) (hi : Import.run collision clock i rules = .ok i') :
    Imported s collision (done ++ rules) i'.store := by
  induction rules generalizing clock i done with
  | nil =>
    cases hi
    rwa [List.append_nil]
  | cons listed rules ih =>
    rw [Import.run] at hi
    split at hi
    · cases hi
    · next i₁ hstep =>
      rw [List.append_cons]
      exact ih (h.step hstep) hi

/-- What is there after an import. -/
theorem imported_of_importRules {clock : Nat → Instant} {i : Import} (h : s.names.Nodup)
    (hi : s.importRules clock collision rules = .ok i) : Imported s collision rules i.store :=
  Imported.run (i := ⟨s, 0, 0, 0⟩) (imported_nil h) hi

end MailFilter.RuleStore
