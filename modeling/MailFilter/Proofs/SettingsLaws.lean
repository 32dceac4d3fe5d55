import MailFilter.Proofs.SettingsChange
import MailFilter.Proofs.SettingsRuns

/-!
# Setting What Is Shown

Every setting has a text, and a text that makes sense for a key is a setting. To show a setting and
to set its key to the text that is shown is no change, as long as the path of the rules is one that
a text can set: it has no blanks around it, and it does not stand for nothing (`IsSettable`). Calls
lead to no other paths, since the text of a call is trimmed first.

A call looks at no key but its own, and makes the same of that one whatever the settings are
(`call_eq`). So it does not matter in which order calls with different keys come.

## Main results

* `setKey_text_iff`: which settings stay as they are when a key is set to what is shown.
* `IsSettable.run`: calls lead to such settings only.
* `call_comm`: calls with different keys can change places.
* `laws_of_run`: what a call changes after other calls, and what it does not.
-/

namespace MailFilter

/-! ### Texts without blanks around them -/

namespace Text

/-- A trimmed text starts with no blank. -/
theorem head_trim_not_blank {s : List Char} {c : Char} (h : c ∈ (trim s).head?) :
    isBlank c = false := by
  obtain ⟨rest, hrest⟩ := List.head?_eq_some_iff.1 (Option.mem_def.1 h)
  obtain ⟨dropped, hdropped⟩ := trimEnd_prefix (trimStart s)
  rw [← trim, hrest, List.cons_append] at hdropped
  exact head_trimStart_not_blank hdropped.symm

/-- Trimming a trimmed text changes nothing. -/
theorem trimmed_trimmed (s : String) : trimmed (trimmed s) = trimmed s := by
  rw [trimmed, trimmed, String.toList_ofList,
    trim_eq_self (fun _ => head_trim_not_blank) fun _ => last_trim_not_blank]

/-- There are no blanks around a number. -/
theorem trimmed_natural (n : Nat) : trimmed (natural n) = natural n := by
  have hblank : ∀ c ∈ decimal n, isBlank c = false := fun c hc =>
    isBlank_of_isDigit (isDigit_of_mem_decimal hc)
  rw [trimmed, natural, String.toList_ofList,
    trim_eq_self (fun c hc => hblank c (List.mem_of_mem_head? hc))
      fun c hc => hblank c (List.mem_of_getLast? hc)]

/-- Reading gives back every unsigned word that was written. -/
theorem readUInt64?_decimal (n : UInt64) : readUInt64? (decimal n.toNat) = some n := by
  have hsize : n.toNat < UInt64.size := n.toNat_lt
  unfold readUInt64?
  split
  · next rest hrest =>
    have hsign : isDigit '+' = true := isDigit_of_mem_decimal (n := n.toNat) (by simp [hrest])
    cases hsign
  · simp only [readNatural?_decimal, if_pos hsize, UInt64.ofNat_toNat]

/-- A digit is not the letter `n`, in either case. -/
theorem toLower_ne_of_isDigit {c : Char} (h : isDigit c = true) : c.toLower ≠ 'n' := by
  simp only [isDigit, Bool.and_eq_true, decide_eq_true_eq] at h
  have hhigh : c.val.toNat ≤ 57 := h.2
  have hlower : c.toLower = c := by
    refine dif_neg fun hupper => ?_
    have hlow : 65 ≤ c.val.toNat := UInt32.le_iff_toNat_le.1 hupper.1
    omega
  rw [hlower]
  rintro rfl
  exact absurd hhigh (by decide)

end Text

namespace Settings

variable {s s' : Settings} {j k : Key} {value : String}

/-! ### Setting what is shown -/

/-- Whether the path of the rules, if there is one, is what its own text sets. -/
def IsSettable (s : Settings) : Prop :=
  ∀ p, s.rulesPath = some p → Text.trimmed p.text = p.text ∧ isUnset p.text = false

/-- A number does not stand for nothing. -/
theorem isUnset_natural (n : Nat) : isUnset (Text.natural n) = false := by
  have hne : Text.natural n ≠ "" := fun h =>
    Text.decimal_ne_nil n (by simpa [Text.natural] using congrArg String.toList h)
  have hword : Text.equalsIgnoringCase (Text.natural n) "none" = false := by
    rw [Bool.eq_false_iff, Ne, Text.equalsIgnoringCase_iff, Text.natural, String.toList_ofList]
    intro h
    have hn : 'n' ∈ Text.asciiLower (Text.decimal n) := by
      rw [h]
      decide
    obtain ⟨c, hc, hlower⟩ := List.mem_map.1 hn
    exact Text.toLower_ne_of_isDigit (Text.isDigit_of_mem_decimal hc) hlower
  rw [isUnset, hword, beq_false_of_ne hne]
  rfl

/-- The name of a mode is read as that mode. -/
theorem read_name (m : QuickSearch.Mode) :
    QuickSearch.Mode.read (Text.trimmed m.name) = .ok m := by
  cases m <;> decide +kernel

/-- The text of a truth value is read as that value. -/
theorem truth_truthText (k : Key) (b : Bool) : truth k (Text.trimmed (truthText b)) = .ok b := by
  have htrimmed : Text.trimmed (truthText b) = truthText b := by cases b <;> decide +kernel
  rw [htrimmed]
  cases b <;> rfl

/-- A key that is set to what is shown stays as it is. Of the path of the rules this is true exactly
if its text sets it. -/
theorem setKey_text_iff (s : Settings) :
    (∀ k, s.setKey k (Text.trimmed (s.text k)) = (.ok (), s)) ↔ s.IsSettable := by
  have hword : Text.trimmed "none" = "none" := by decide +kernel
  have hunset : isUnset "none" = true := by decide +kernel
  constructor
  · intro h p hp
    have htext : s.text .rulesPath = p.text := by rw [text, hp]; rfl
    have hpath := h .rulesPath
    rw [htext, setKey] at hpath
    have hpath := congrArg (fun x => x.2.rulesPath) hpath
    rw [hp] at hpath
    simp only at hpath
    split at hpath
    · cases hpath
    · next hset =>
      have htrimmed : Text.trimmed p.text = p.text := congrArg Path.text (Option.some.inj hpath)
      rw [htrimmed, Bool.not_eq_true] at hset
      exact ⟨htrimmed, hset⟩
  · intro h k
    obtain ⟨rulesPath, timeout, searchMode, parallel, quiet⟩ := s
    cases k with
    | rulesPath =>
      cases rulesPath with
      | none => simp [setKey, text, hword, hunset]
      | some p =>
        obtain ⟨htrimmed, hset⟩ := h p rfl
        simp [setKey, text, htrimmed, hset]
    | timeout =>
      cases timeout with
      | none => simp [setKey, text, hword, hunset]
      | some n =>
        have hread : Text.readUInt64? (Text.natural n.toNat).toList = some n := by
          rw [Text.natural, String.toList_ofList, Text.readUInt64?_decimal]
        simp [setKey, text, Text.trimmed_natural, isUnset_natural, hread]
    | searchMode => simp only [setKey, text, read_name]
    | parallel => simp only [setKey, text, truth_truthText]
    | quiet => simp only [setKey, text, truth_truthText]

/-! ### Calls -/

/-- A key is known by its name alone. -/
theorem Key.ofName?_eq_some_iff {name : String} : ofName? name = some k ↔ name = k.name := by
  constructor
  · intro h
    unfold ofName? at h
    split at h <;> cases h <;> rfl
  · rintro rfl
    exact ofName?_name k

/-- A key that is set to a trimmed text leads to such settings again. -/
theorem IsSettable.setKey (h : s.IsSettable) (k : Key) (value : String) :
    (s.setKey k (Text.trimmed value)).2.IsSettable := by
  intro p hp
  by_cases hk : Key.rulesPath = k
  · subst hk
    simp only [Settings.setKey] at hp
    split at hp
    · cases hp
    · next hunset =>
      obtain rfl := Option.some.inj hp
      exact ⟨Text.trimmed_trimmed _, by simpa using hunset⟩
  · have hkept : (s.setKey k (Text.trimmed value)).2.rulesPath = s.rulesPath :=
      s.agree_of_setKey _ hk
    exact h p (hkept ▸ hp)

/-- So does a call. -/
theorem IsSettable.call (h : s.IsSettable) (c : String × String) : (s.call c).IsSettable := by
  rw [Settings.call, set]
  split
  · next k _ => exact h.setKey k c.2
  · exact h

/-- Calls lead to settings that can be set to what they show. -/
theorem IsSettable.run (h : s.IsSettable) (calls : List (String × String)) :
    (s.run calls).IsSettable := by
  induction calls generalizing s with
  | nil => exact h
  | cons c rest ih => exact ih (h.call c)

/-- What a call makes of its key, if it is granted: settings that have the new value under it. -/
def granted? (c : String × String) : Option (Key × Settings) :=
  (Key.ofName? c.1).bind fun k =>
    match setKey {} k (Text.trimmed c.2) with
    | (.ok (), source) => some (k, source)
    | (.error _, _) => none

/-- A call makes the same of its key whatever the settings are. -/
theorem call_eq (s : Settings) (c : String × String) :
    s.call c = (granted? c).elim s fun x => withKey x.1 s x.2 := by
  rw [call, set, granted?]
  cases Key.ofName? c.1 with
  | none => rfl
  | some k =>
    simp only [Option.bind_some]
    rw [setKey_eq]
    rcases setKey {} k (Text.trimmed c.2) with ⟨_ | ⟨⟩, _⟩ <;> rfl

/-- A call answers the same whatever the settings are. -/
theorem answer_eq (s : Settings) (c : String × String) : s.answer c = answer {} c := by
  rw [answer, answer, set, set]
  cases Key.ofName? c.1 with
  | none => rfl
  | some k =>
    simp only
    rw [setKey_eq s]
    rcases setKey {} k (Text.trimmed c.2) with ⟨_ | ⟨⟩, _⟩ <;> rfl

/-- A call that is refused changes nothing. -/
theorem call_of_refused {c : String × String} {e : SettingsFault} (h : s.answer c = .error e) :
    s.call c = s := by
  rw [answer, set] at h
  rw [call, set]
  split at h
  · next k hk =>
    rcases s.setKey_cases k (Text.trimmed c.2) with ⟨source, -, hset⟩ | ⟨e', -, hset⟩
    · rw [hset] at h
      cases h
    · rw [hset]
  · rfl

/-- A call that is granted changes at most its own key. -/
theorem agree_of_call {c : String × String} (h : s.answer c = .ok ()) :
    ∃ k : Key, c.1 = k.name ∧ ∀ j, j ≠ k → Agree j (s.call c) s := by
  rw [answer, set] at h
  rw [call, set]
  split at h
  · next k hk => exact ⟨k, Key.ofName?_eq_some_iff.1 hk, fun j hj => s.agree_of_setKey _ hj⟩
  · cases h

/-- The key of a call that is granted. -/
theorem name_of_granted? {c : String × String} {source : Settings}
    (h : granted? c = some (k, source)) : c.1 = k.name := by
  obtain ⟨k', hk', h⟩ := Option.bind_eq_some_iff.1 h
  split at h
  · cases h
    exact Key.ofName?_eq_some_iff.1 hk'
  · cases h

/-- Different keys can be changed in either order. -/
theorem withKey_comm (h : j ≠ k) (s a b : Settings) :
    withKey k (withKey j s a) b = withKey j (withKey k s b) a := by
  cases j <;> cases k <;> first | rfl | exact absurd rfl h

/-- Calls with different keys can change places. -/
theorem call_comm (s : Settings) {c c' : String × String} (h : c.1 ≠ c'.1) :
    (s.call c).call c' = (s.call c').call c := by
  simp only [call_eq]
  cases hc : granted? c with
  | none => rfl
  | some x =>
    cases hc' : granted? c' with
    | none => rfl
    | some x' =>
      obtain ⟨j, a⟩ := x
      obtain ⟨k, b⟩ := x'
      rw [name_of_granted? hc, name_of_granted? hc'] at h
      exact withKey_comm (fun hjk => h (congrArg Key.name hjk)) s a b

/-- After any calls, a call that fails changes nothing, and one that is granted changes at most its
own key. Every key can be set to what is shown under it, and this changes nothing; under a name that
is no key nothing is shown or set. Calls with different keys can change places, and each answers the
same in either order. -/
theorem laws_of_run (calls : List (String × String)) :
    let s := run {} calls
    (∀ c e, s.answer c = .error e → s.call c = s) ∧
    (∀ c, s.answer c = .ok () →
      ∃ k : Key, c.1 = k.name ∧ ∀ j, j ≠ k → Agree j (s.call c) s) ∧
    (∀ k : Key, ∃ shown, s.get k.name = .ok shown ∧ s.set k.name shown = (.ok (), s)) ∧
    (∀ name, (∀ k : Key, name ≠ k.name) → s.get name = .error (.unknownKey name) ∧
      ∀ value, s.set name value = (.error (.unknownKey name), s)) ∧
    ∀ c c', c.1 ≠ c'.1 → (s.call c).call c' = (s.call c').call c ∧
      (s.call c).answer c' = s.answer c' ∧ (s.call c').answer c = s.answer c := by
  intro s
  have hdefault : IsSettable {} := fun p hp => by cases hp
  have hsettable : s.IsSettable := hdefault.run calls
  refine ⟨fun c e => call_of_refused, fun c => agree_of_call, fun k => ?_, fun name hname => ?_,
    fun c c' hne => ⟨s.call_comm hne, ?_, ?_⟩⟩
  · refine ⟨s.text k, by rw [get, Key.ofName?_name], ?_⟩
    rw [set, Key.ofName?_name]
    exact s.setKey_text_iff.2 hsettable k
  · have hnone : Key.ofName? name = none :=
      Option.eq_none_iff_forall_ne_some.2 fun k hk => hname k (Key.ofName?_eq_some_iff.1 hk)
    exact ⟨by rw [get, hnone], fun value => by rw [set, hnone]⟩
  · rw [answer_eq, ← answer_eq s]
  · rw [answer_eq, ← answer_eq s]

/-- A path that starts like the word for nothing, between blanks, and a number with a sign. -/
theorem laws_of_run_padded :
    let s := run {} [("rules_path", " None/such "), ("exec_timeout_secs", "+07"), ("quiet", "no")]
    s = ⟨some ⟨"None/such"⟩, some 7, .extended, false, false⟩ ∧
      s.answer ("parallel", "yes") = .error (.invalidValue "parallel" "yes" .truth) ∧
      s.call ("parallel", "yes") = s ∧
      s.set "rules_path" "None/such" = (.ok (), s) ∧
      (s.call ("quiet", " true")).call ("rules_path", "NONE") =
        (s.call ("rules_path", "NONE")).call ("quiet", " true") := by
  intro s
  have hs : s = ⟨some ⟨"None/such"⟩, some 7, .extended, false, false⟩ := by decide +kernel
  have hfail : s.answer ("parallel", "yes") = .error (.invalidValue "parallel" "yes" .truth) := by
    decide +kernel
  obtain ⟨hunchanged, -, hshown, -, hswap⟩ := laws_of_run
    [("rules_path", " None/such "), ("exec_timeout_secs", "+07"), ("quiet", "no")]
  obtain ⟨shown, hget, hset⟩ := hshown .rulesPath
  have hpath : s.get "rules_path" = .ok "None/such" := by rw [hs]; rfl
  obtain rfl : "None/such" = shown := Except.ok.inj (hpath.symm.trans hget)
  exact ⟨hs, hfail, hunchanged _ _ hfail, hset, (hswap _ _ (by decide)).1⟩

end Settings

end MailFilter
