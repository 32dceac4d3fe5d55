import MailFilter.Proofs.Verdict

/-!
# Regard to Case

With regard to case an operand is found wherever it occurs. Without regard to case both texts are
lowered first, each of them for itself. That loses an occurrence if a character is lowered in
another way inside the text than it is in the operand alone, and the only character that looks at
the text around it is the capital sigma.

So the operands that lose nothing are those whose own letters fix the forms of their capital sigmas
(`Unicode.FixesSigmas`). Every other operand is lost in one of two texts: behind a letter or in
front of one. There it has fewer sigmas of one form than it has alone, and what is put around it has
none (`Unicode.atSigmas_of_count_le`).

## Main results

* `Unicode.lowercase_infix`: an operand that fixes its sigmas is found wherever it occurs.
* `Unicode.fixesSigmas_of_infix`: an operand that is found behind and in front of a letter fixes its
  sigmas.
* `Condition.plain_of_exact_iff`: for which operands everything that is found with regard to case is
  found without it.
-/

namespace MailFilter

namespace Unicode

/-! ### Lowering with any rule for the sigma -/

/-- Lowers the rest of a text whose beginning, read backwards, is `before`; the form of a capital
sigma is chosen by the texts before and behind it. -/
def lowercaseBy (form : List Char → List Char → Char) (before : List Char) : List Char → List Char
  | [] => []
  | c :: after =>
    (if c = 'Σ' then [form before after] else lowerChar c) ++ lowercaseBy form (c :: before) after

/-- Whether something holds of the texts before, read backwards, and behind every capital sigma. -/
def AtSigmas (p : List Char → List Char → Prop) (before : List Char) : List Char → Prop
  | [] => True
  | c :: after => (c = 'Σ' → p before after) ∧ AtSigmas p (c :: before) after

section
variable {form form' : List Char → List Char → Char} {p q : List Char → List Char → Prop}

/-- What holds at every capital sigma can be weakened. -/
theorem AtSigmas.imp {before s : List Char} (h : AtSigmas p before s)
    (hpq : ∀ x y, p x y → q x y) : AtSigmas q before s := by
  induction s generalizing before with
  | nil => trivial
  | cons c after ih => exact ⟨fun hc => hpq _ _ (h.1 hc), ih h.2⟩

/-- Two things that hold at every capital sigma. -/
theorem AtSigmas.and {before s : List Char} (hp : AtSigmas p before s) (hq : AtSigmas q before s) :
    AtSigmas (fun x y => p x y ∧ q x y) before s := by
  induction s generalizing before with
  | nil => trivial
  | cons c after ih => exact ⟨fun hc => ⟨hp.1 hc, hq.1 hc⟩, ih hp.2 hq.2⟩

/-- Two rules that agree about the sigmas of a text lower it alike. -/
theorem lowercaseBy_congr {before s : List Char}
    (h : AtSigmas (fun x y => form x y = form' x y) before s) :
    lowercaseBy form before s = lowercaseBy form' before s := by
  induction s generalizing before with
  | nil => rfl
  | cons c after ih =>
    rw [lowercaseBy, lowercaseBy, ih h.2]
    by_cases hc : c = 'Σ'
    · rw [if_pos hc, if_pos hc, h.1 hc]
    · rw [if_neg hc, if_neg hc]

/-- A rule that chooses a form more seldom than another one writes it at most as often. -/
theorem count_lowercaseBy_le {w : Char} (hseldom : ∀ x y, form' x y = w → form x y = w)
    (before s : List Char) :
    (lowercaseBy form' before s).count w ≤ (lowercaseBy form before s).count w := by
  induction s generalizing before with
  | nil => exact Nat.le_refl _
  | cons c after ih =>
    rw [lowercaseBy, lowercaseBy, List.count_append, List.count_append]
    refine Nat.add_le_add ?_ (ih _)
    split
    · by_cases hw : form' before after = w
      · exact Nat.le_of_eq (by rw [hw, hseldom _ _ hw])
      · simp [List.count_singleton, hw]
    · exact Nat.le_refl _

/-- If it writes the form as often, it chooses it at the same sigmas. -/
theorem atSigmas_of_count_le {w : Char} (hseldom : ∀ x y, form' x y = w → form x y = w)
    {before s : List Char}
    (h : (lowercaseBy form before s).count w ≤ (lowercaseBy form' before s).count w) :
    AtSigmas (fun x y => form x y = w → form' x y = w) before s := by
  induction s generalizing before with
  | nil => trivial
  | cons c after ih =>
    rw [lowercaseBy, lowercaseBy, List.count_append, List.count_append] at h
    have hrest := count_lowercaseBy_le hseldom (c :: before) after
    by_cases hc : c = 'Σ'
    · rw [if_pos hc, if_pos hc] at h
      by_cases hw' : form' before after = w
      · refine ⟨fun _ _ => hw', ih ?_⟩
        rw [hw', hseldom _ _ hw'] at h
        omega
      · -- otherwise the other rule is ahead by this sigma, and never falls behind again
        have hw : form before after ≠ w := fun hw => by
          simp only [List.count_singleton, hw, hw', beq_self_eq_true, beq_iff_eq, if_true,
            if_false] at h
          omega
        refine ⟨fun _ heq => absurd heq hw, ih ?_⟩
        simp only [List.count_singleton, hw, hw', beq_iff_eq, if_false] at h
        omega
    · rw [if_neg hc, if_neg hc] at h
      exact ⟨fun heq => absurd heq hc, ih (by omega)⟩

end

/-! ### Letters around a sigma -/

/-- A letter is reached behind two texts in the first one, unless nothing in that interrupts the way
to the second one. -/
theorem reachesCased_append (s t : List Char) :
    reachesCased (s ++ t) = if s.all isCaseIgnorable then reachesCased t else reachesCased s := by
  induction s with
  | nil => rfl
  | cons c s ih =>
    have hskip : ∀ u, reachesCased (c :: u) =
        if isCaseIgnorable c then reachesCased u else isCased c := fun u => by
      rw [reachesCased, List.dropWhile_cons]
      cases isCaseIgnorable c <;> rfl
    rw [List.cons_append, hskip, hskip, List.all_cons]
    cases isCaseIgnorable c <;> simp [ih]

/-- No letter is reached in a text that interrupts nothing. -/
theorem reachesCased_of_all {s : List Char} (h : s.all isCaseIgnorable = true) :
    reachesCased s = false := by
  have hnil := reachesCased_append s []
  rw [List.append_nil, if_pos h] at hnil
  exact hnil

/-- A letter stops the search and is what is searched for. -/
theorem reachesCased_letter : reachesCased ['a'] = true := by decide +kernel

/-- The form of a sigma inside a longer text. -/
def formWithin (outer behind before after : List Char) : Char :=
  lowerSigma (before ++ outer) (after ++ behind)

/-- Whether the letters around a sigma leave its form open: nothing before it stops the search for a
letter and none follows, or a letter comes before it and nothing behind it stops the search. -/
def IsOpen (before after : List Char) : Prop :=
  before.all isCaseIgnorable = true ∧ reachesCased after = false ∨
    reachesCased before = true ∧ after.all isCaseIgnorable = true

/-- A sigma whose form is not open has the same one inside every longer text. -/
theorem formWithin_of_not_isOpen {before after : List Char} (h : ¬ IsOpen before after)
    (outer behind : List Char) :
    formWithin outer behind before after = lowerSigma before after := by
  rw [IsOpen, not_or] at h
  obtain ⟨hfront, hback⟩ := h
  rw [formWithin, lowerSigma, lowerSigma, reachesCased_append, reachesCased_append]
  cases hafter : reachesCased after with
  | true =>
    have hall : ¬ after.all isCaseIgnorable = true := fun hall => by
      rw [reachesCased_of_all hall] at hafter
      cases hafter
    simp [hall]
  | false =>
    have hall : ¬ before.all isCaseIgnorable = true := fun hall => hfront ⟨hall, hafter⟩
    rw [if_neg hall]
    cases hbefore : reachesCased before with
    | false => simp
    | true => rw [if_neg fun hall => hback ⟨hbefore, hall⟩]

/-- A letter in front of the text can only make a sigma final. -/
theorem lowerSigma_of_formWithin_front {before after : List Char}
    (h : formWithin ['a'] [] before after = 'σ') : lowerSigma before after = 'σ' := by
  rw [formWithin, lowerSigma, reachesCased_append, List.append_nil] at h
  rw [lowerSigma]
  cases hall : before.all isCaseIgnorable with
  | true => simp [reachesCased_of_all hall]
  | false => simpa [hall] using h

/-- A letter behind the text can only keep a sigma from being final. -/
theorem lowerSigma_of_formWithin_back {before after : List Char}
    (h : formWithin [] ['a'] before after = 'ς') : lowerSigma before after = 'ς' := by
  rw [formWithin, lowerSigma, List.append_nil, reachesCased_append] at h
  rw [lowerSigma]
  cases hall : after.all isCaseIgnorable with
  | true => simp [hall, reachesCased_letter] at h
  | false => simpa [hall] using h

/-- A sigma that a letter in front of the text and one behind it leave as it is has no open form. -/
theorem not_isOpen_of_forms {before after : List Char}
    (hfront : lowerSigma before after = 'σ' → formWithin ['a'] [] before after = 'σ')
    (hback : lowerSigma before after = 'ς' → formWithin [] ['a'] before after = 'ς') :
    ¬ IsOpen before after := by
  rintro (⟨hall, hafter⟩ | ⟨hbefore, hall⟩)
  · have hform := hfront (by simp [lowerSigma, reachesCased_of_all hall])
    simp [formWithin, lowerSigma, reachesCased_append, hall, reachesCased_letter, hafter] at hform
  · have hform := hback (by simp [lowerSigma, hbefore, reachesCased_of_all hall])
    simp [formWithin, lowerSigma, reachesCased_append, hall, reachesCased_letter] at hform

/-! ### Texts inside longer ones -/

/-- Whether something holds at every capital sigma of a text, part by part. -/
theorem atSigmas_iff {p : List Char → List Char → Prop} {before s : List Char} :
    AtSigmas p before s ↔
      ∀ front back, s = front ++ 'Σ' :: back → p (front.reverse ++ before) back := by
  induction s generalizing before with
  | nil => simp [AtSigmas]
  | cons c after ih =>
    rw [AtSigmas, ih]
    constructor
    · rintro ⟨hhere, hrest⟩ front back hsplit
      cases front with
      | nil =>
        obtain ⟨hc, rfl⟩ := List.cons.inj hsplit
        exact hhere hc
      | cons d front =>
        obtain ⟨rfl, hafter⟩ := List.cons.inj hsplit
        simpa using hrest front back hafter
    · intro h
      refine ⟨fun hc => h [] after (by rw [hc, List.nil_append]), fun front back hafter => ?_⟩
      simpa using h (c :: front) back (by rw [hafter, List.cons_append])

/-- A text whose own letters fix the forms of its capital sigmas. -/
def FixesSigmas (s : List Char) : Prop :=
  ∀ before after, s = before ++ 'Σ' :: after → ¬ IsOpen before.reverse after

/-- A text fixes its sigmas if the form of none of them is open. -/
theorem fixesSigmas_iff {s : List Char} :
    FixesSigmas s ↔ AtSigmas (fun before after => ¬ IsOpen before after) [] s := by
  simp only [FixesSigmas, atSigmas_iff, List.append_nil]

/-- Two texts are lowered one behind the other, each with regard to the other one. -/
theorem lowercaseFrom_append (before outer s t : List Char) :
    lowercaseFrom (before ++ outer) (s ++ t) =
      lowercaseBy (formWithin outer t) before s ++
        lowercaseFrom (s.reverse ++ before ++ outer) t := by
  induction s generalizing before with
  | nil => rfl
  | cons c s ih =>
    rw [List.cons_append, lowercaseFrom, lowercaseBy, List.append_assoc, List.reverse_cons,
      List.append_assoc s.reverse, List.append_assoc s.reverse]
    exact congrArg _ ((ih (c :: before)).trans (by rw [List.append_assoc]; rfl))

/-- A text alone. -/
theorem lowercase_eq (s : List Char) : lowercase s = lowercaseBy lowerSigma [] s := by
  have happend := lowercaseFrom_append [] [] s []
  rw [List.append_nil, List.append_nil, lowercaseFrom, List.append_nil] at happend
  refine happend.trans (congrArg (lowercaseBy · [] s) ?_)
  funext before after
  rw [formWithin, List.append_nil, List.append_nil]

/-- A text that is lowered inside a longer one as it is alone is found there, once both are
lowered. -/
theorem lowercase_infix_of_within {front s back : List Char}
    (h : lowercaseBy (formWithin front.reverse back) [] s = lowercase s) :
    lowercase s <:+: lowercase (front ++ s ++ back) := by
  have hfront := lowercaseFrom_append [] [] front (s ++ back)
  have hmiddle := lowercaseFrom_append [] front.reverse s back
  simp only [List.append_nil, List.nil_append] at hfront hmiddle
  rw [hmiddle, h, ← List.append_assoc, ← List.append_assoc] at hfront
  exact ⟨_, _, hfront.symm⟩

/-- A text that fixes its sigmas is found, once both are lowered, wherever it occurs. -/
theorem lowercase_infix {s t : List Char} (hs : FixesSigmas s) (h : s <:+: t) :
    lowercase s <:+: lowercase t := by
  obtain ⟨front, back, rfl⟩ := h
  refine lowercase_infix_of_within ?_
  rw [lowercase_eq]
  exact lowercaseBy_congr
    ((fixesSigmas_iff.1 hs).imp fun _ _ hopen => formWithin_of_not_isOpen hopen _ _)

/-- A text that is found behind a letter and in front of one fixes its sigmas. -/
theorem fixesSigmas_of_infix {s : List Char} (hfront : lowercase s <:+: lowercase ('a' :: s))
    (hback : lowercase s <:+: lowercase (s ++ ['a'])) : FixesSigmas s := by
  have hletter : lowerChar 'a' = ['a'] := by decide
  -- neither text around has a sigma of its own, so the sigmas of the text alone must all be kept
  have hfinal :
      AtSigmas (fun x y => lowerSigma x y = 'σ' → formWithin ['a'] [] x y = 'σ') [] s := by
    refine atSigmas_of_count_le (fun _ _ => lowerSigma_of_formWithin_front) ?_
    have hlower : lowercase ('a' :: s) = 'a' :: lowercaseBy (formWithin ['a'] []) [] s := by
      have happend := lowercaseFrom_append [] ['a'] s []
      rw [List.append_nil, lowercaseFrom, List.append_nil] at happend
      rw [lowercase, lowercaseFrom, if_neg (by decide), hletter]
      exact congrArg _ happend
    have hcount := hfront.sublist.count_le 'σ'
    rw [hlower, lowercase_eq, List.count_cons_of_ne (by decide)] at hcount
    exact hcount
  have hinner :
      AtSigmas (fun x y => lowerSigma x y = 'ς' → formWithin [] ['a'] x y = 'ς') [] s := by
    refine atSigmas_of_count_le (fun _ _ => lowerSigma_of_formWithin_back) ?_
    have hlower : lowercase (s ++ ['a']) = lowercaseBy (formWithin [] ['a']) [] s ++ ['a'] := by
      have happend := lowercaseFrom_append [] [] s ['a']
      rw [lowercaseFrom, if_neg (by decide), hletter] at happend
      exact happend
    have hcount := hback.sublist.count_le 'ς'
    rw [hlower, lowercase_eq, List.count_append, List.count_singleton,
      if_neg (by decide), Nat.add_zero] at hcount
    exact hcount
  exact fixesSigmas_iff.2
    ((hfinal.and hinner).imp fun _ _ hforms => not_isOpen_of_forms hforms.1 hforms.2)

end Unicode

/-! ### Literal conditions -/

/-- Literal and with regard to case. -/
def Comparison.exact : Comparison := ⟨false, true⟩

namespace Condition

open Unicode (FixesSigmas)

/-- A literal condition holds of a message if its operand is found in one of the texts. -/
theorem verdict_literal (ctx : Context) (m : Message) (f : Field) {how : Comparison}
    (hhow : how.isPattern = false) (operand : String) :
    verdict ctx m ⟨false, .text f how operand⟩ = .ok ((m.texts f).any (how.occurs operand)) := by
  simp [verdict, Probe.run, Probe.prepare, Probe.ofCondition, Probe.isFaulty, Test.pattern?,
    Test.check, hhow, Except.map]

/-- Whatever a literal condition finds with regard to case, it finds without regard to case as well,
exactly if its operand fixes the forms of its capital sigmas. -/
theorem plain_of_exact_iff (operand : String) :
    (∀ (ctx : Context) (m : Message) (f : Field),
      verdict ctx m ⟨false, .text f .exact operand⟩ = .ok true →
        verdict ctx m ⟨false, .text f .plain operand⟩ = .ok true) ↔
      FixesSigmas operand.toList := by
  have hexact : ∀ text : String, Comparison.exact.occurs operand text = true ↔
      operand.toList <:+: text.toList := Comparison.occurs_of_sensitive rfl operand
  have hplain : ∀ text : String, Comparison.plain.occurs operand text = true ↔
      Unicode.lowercase operand.toList <:+: Unicode.lowercase text.toList := fun text => by
    rw [Comparison.occurs, if_neg (by decide), Text.occursIn_iff]
  constructor
  · intro h
    -- the subject of a message can be any text around the operand
    let ctx : Context := ⟨⟨0, 0, 0⟩, fun _ _ => .exited 0, none⟩
    have hverdict : ∀ (how : Comparison) text, how.isPattern = false →
        verdict ctx { subject := some text } ⟨false, .text .subject how operand⟩ =
          .ok (how.occurs operand text) := fun how text hhow => by
      simp [verdict_literal ctx _ _ hhow, Message.texts]
    have hsubject : ∀ text, operand.toList <:+: text →
        Unicode.lowercase operand.toList <:+: Unicode.lowercase text := fun text htext => by
      have hoccurs := (hexact (String.ofList text)).2 (by rwa [String.toList_ofList])
      have hfound := h ctx { subject := some (.ofList text) } .subject
        (by rw [hverdict _ _ rfl, hoccurs])
      rw [hverdict _ _ rfl, Except.ok.injEq, hplain, String.toList_ofList] at hfound
      exact hfound
    exact Unicode.fixesSigmas_of_infix (hsubject _ (List.suffix_cons _ _).isInfix)
      (hsubject _ (List.prefix_append _ _).isInfix)
  · intro hfixes ctx m f hfound
    rw [verdict_literal ctx m f rfl, Except.ok.injEq, List.any_eq_true] at hfound ⊢
    obtain ⟨text, htext, hoccurs⟩ := hfound
    exact ⟨text, htext,
      (hplain text).2 (Unicode.lowercase_infix hfixes ((hexact text).1 hoccurs))⟩

/-- An operand that ends with a capital sigma is found in a subject with regard to case, and as a
pattern also without regard to case, but not as a plain operand: there the sigma is not final. -/
theorem exact_beyond_plain :
    let ctx : Context := ⟨⟨0, 0, 0⟩, fun _ _ => .exited 0, none⟩
    let m : Message := { subject := some "ΑΣΑ" }
    let pattern : Comparison := ⟨true, false⟩
    Rule.parse "%s \"ΑΣ\"" = .ok ⟨[⟨false, .text .subject .exact "ΑΣ"⟩], .all, by simp⟩ ∧
      Rule.parse "s \"ΑΣ\"" = .ok ⟨[⟨false, .text .subject .plain "ΑΣ"⟩], .all, by simp⟩ ∧
      Rule.parse "s /ΑΣ/" = .ok ⟨[⟨false, .text .subject pattern "ΑΣ"⟩], .all, by simp⟩ ∧
      verdict ctx m ⟨false, .text .subject .exact "ΑΣ"⟩ = .ok true ∧
      verdict ctx m ⟨false, .text .subject .plain "ΑΣ"⟩ = .ok false ∧
      verdict ctx m ⟨false, .text .subject pattern "ΑΣ"⟩ = .ok true := by
  decide +kernel

end Condition

end MailFilter
