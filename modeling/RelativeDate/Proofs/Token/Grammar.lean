import RelativeDate.Operation.Token

/-! # The grammar of suffixes

What may follow the word `now` is a run of steps and then one rounding at most. The tokens of a
suffix are found in another way: the rounding is taken off the end, steps are searched for
anywhere in the rest, and their lengths are added up. The main statement says that this accepts
exactly the non-empty texts of the grammar, and that a text has its tokens in one way only. -/

namespace RelativeDate

/-! ## Texts up to a stop -/

namespace Text

variable {p : Char → Bool} {front : List Char} {stop : Char}

/-- A run of characters ends before the first one that does not belong to it. -/
theorem takeWhile_append_stop (hfront : ∀ c ∈ front, p c) (hstop : ¬ p stop) (rest : List Char) :
    (front ++ stop :: rest).takeWhile p = front := by
  rw [List.takeWhile_append_of_pos hfront, List.takeWhile_cons_of_neg hstop, List.append_nil]

theorem dropWhile_append_stop (hfront : ∀ c ∈ front, p c) (hstop : ¬ p stop) (rest : List Char) :
    (front ++ stop :: rest).dropWhile p = stop :: rest := by
  rw [List.dropWhile_append_of_pos hfront, List.dropWhile_cons_of_neg hstop]

end Text

namespace Token

/-! ## The grammar -/

/-- A sign, at least one digit, and a unit. -/
inductive IsStep : Token → Prop
  | intro {sign unit : Char} {digits : List Char} (hsign : sign ∈ ['+', '-'])
      (hne : digits ≠ []) (hdigits : ∀ c ∈ digits, '0' ≤ c ∧ c ≤ '9')
      (hunit : unit ∈ ['s', 'm', 'h', 'd', 'w', 'M', 'y']) :
      IsStep (sign :: digits ++ [unit])

/-- A slash and a unit. -/
inductive IsRounding : Token → Prop
  | intro {unit : Char} (hunit : unit ∈ ['s', 'm', 'h', 'd', 'w', 'M', 'y']) :
      IsRounding ['/', unit]

/-- Any number of steps, and then one rounding at most. -/
inductive IsSequence : List Token → Prop
  | nil : IsSequence []
  | rounding {t : Token} (ht : IsRounding t) : IsSequence [t]
  | step {t : Token} {ts : List Token} (ht : IsStep t) (hts : IsSequence ts) :
      IsSequence (t :: ts)

/-- A text that is put together from such a sequence. The empty text is one. -/
def IsText (s : List Char) : Prop :=
  ∃ ts, IsSequence ts ∧ ts.flatten = s

theorem isSequence_iff {ts : List Token} :
    IsSequence ts ↔ ∃ (steps : List Token) (rounding : Option Token),
      (∀ t ∈ steps, IsStep t) ∧ (∀ t ∈ rounding, IsRounding t) ∧ ts = steps ++ rounding.toList := by
  constructor
  · intro h
    induction h with
    | nil => exact ⟨[], none, by simp, by simp, rfl⟩
    | @rounding t ht => exact ⟨[], some t, by simp, by simpa using ht, rfl⟩
    | @step t ts ht _ ih =>
      obtain ⟨steps, rounding, hsteps, hrounding, rfl⟩ := ih
      exact ⟨t :: steps, rounding, by simpa using ⟨ht, hsteps⟩, hrounding, rfl⟩
  · rintro ⟨steps, rounding, hsteps, hrounding, rfl⟩
    induction steps with
    | nil =>
      cases rounding with
      | none => exact .nil
      | some t => exact .rounding (hrounding t rfl)
    | cons t steps ih =>
      rw [List.forall_mem_cons] at hsteps
      exact .step hsteps.1 (ih hsteps.2)

/-! ## Characters -/

theorem isSign_iff {c : Char} : isSign c ↔ c ∈ ['+', '-'] := by
  simp [isSign]

theorem isUnit_iff {c : Char} : isUnit c ↔ c ∈ ['s', 'm', 'h', 'd', 'w', 'M', 'y'] := by
  unfold isUnit TimeUnit.ofSymbol? FixedUnit.ofSymbol?
  split
  · simp
  · simp
  · split <;> simp_all

theorem isDigit_iff {c : Char} : c.isDigit ↔ '0' ≤ c ∧ c ≤ '9' := by
  simp [Char.isDigit, Char.le_def]

theorem not_isDigit_of_unit {c : Char} (h : c ∈ ['s', 'm', 'h', 'd', 'w', 'M', 'y']) :
    c.isDigit = false := by
  simp only [List.mem_cons, List.not_mem_nil, or_false] at h
  rcases h with rfl | rfl | rfl | rfl | rfl | rfl | rfl <;> rfl

theorem IsStep.ne_nil {t : Token} (h : IsStep t) : t ≠ [] := by
  cases h
  simp

theorem IsRounding.ne_nil {t : Token} (h : IsRounding t) : t ≠ [] := by
  cases h
  simp

theorem IsSequence.flatten_ne_nil {ts : List Token} (h : IsSequence ts) (hne : ts ≠ []) :
    ts.flatten ≠ [] := by
  cases h with
  | nil => exact absurd rfl hne
  | rounding ht => simpa using ht.ne_nil
  | step ht _ =>
    simp only [List.flatten_cons, ne_eq, List.append_eq_nil_iff, not_and]
    exact fun hnil => absurd hnil ht.ne_nil

/-! ## The step at the front -/

/-- A step is found where one starts. Its digits stop at its unit, whatever comes next. -/
theorem leadingStep?_append {t : Token} (h : IsStep t) (rest : List Char) :
    leadingStep? (t ++ rest) = some t := by
  cases h with
  | @intro sign unit digits hsign hne hdigits hunit =>
    have hall : ∀ c ∈ digits, c.isDigit := fun c hc => isDigit_iff.mpr (hdigits c hc)
    have hstop : ¬ unit.isDigit := by simp [not_isDigit_of_unit hunit]
    -- A unit is no digit, so the run of digits ends before it.
    have htake := Text.takeWhile_append_stop hall hstop rest
    have hdrop := Text.dropWhile_append_stop hall hstop rest
    have htext : sign :: digits ++ [unit] ++ rest = sign :: (digits ++ unit :: rest) := by simp
    rw [htext]
    simp [leadingStep?, isSign_iff.mpr hsign, htake, hdrop, hne, isUnit_iff.mpr hunit]

/-- What is found at the front is a step, and the text goes on after it. -/
theorem eq_append_of_leadingStep? {s : List Char} {t : Token} (h : leadingStep? s = some t) :
    IsStep t ∧ ∃ rest, s = t ++ rest := by
  unfold leadingStep? at h
  split at h
  · simp at h
  · rename_i sign rest
    split at h
    · rename_i hsign
      split at h
      · rename_i unit after hafter
        simp only [Option.ite_none_right_eq_some, Option.some.injEq] at h
        obtain ⟨⟨hne, hunit⟩, rfl⟩ := h
        have hdigits : ∀ c ∈ rest.takeWhile Char.isDigit, '0' ≤ c ∧ c ≤ '9' :=
          fun c hc => isDigit_iff.mp (List.all_eq_true.mp List.all_takeWhile c hc)
        refine ⟨.intro (isSign_iff.mp hsign) hne hdigits (isUnit_iff.mp hunit), after, ?_⟩
        simp [← hafter]
      · simp at h
    · simp at h

/-! ## The search for steps -/

/-- Characters that belong to the last step are passed over. -/
theorem stepsIn_eq_drop (n : Nat) (s : List Char) : stepsIn n s = stepsIn 0 (s.drop n) := by
  induction s generalizing n with
  | nil => simp [stepsIn]
  | cons c s ih =>
    cases n with
    | zero => rfl
    | succ n => simpa [stepsIn] using ih n

theorem stepsIn_append {t : Token} (h : IsStep t) (rest : List Char) :
    stepsIn 0 (t ++ rest) = t :: stepsIn 0 rest := by
  obtain ⟨c, cs, rfl⟩ := List.exists_cons_of_ne_nil h.ne_nil
  have hfront := leadingStep?_append h rest
  rw [List.cons_append] at hfront ⊢
  simp [stepsIn, hfront, stepsIn_eq_drop cs.length]

/-- In a run of steps the search finds these steps. -/
theorem stepsIn_flatten {ts : List Token} (h : ∀ t ∈ ts, IsStep t) :
    stepsIn 0 ts.flatten = ts := by
  induction ts with
  | nil => rfl
  | cons t ts ih =>
    rw [List.forall_mem_cons] at h
    rw [List.flatten_cons, stepsIn_append h.1, ih h.2]

/-- What the search finds are steps that stand in the text in this order, and do not overlap. -/
theorem stepsIn_sound (n : Nat) (s : List Char) :
    (∀ t ∈ stepsIn n s, IsStep t) ∧ (stepsIn n s).flatten.Sublist (s.drop n) := by
  induction s generalizing n with
  | nil => simp [stepsIn]
  | cons c s ih =>
    cases n with
    | succ n => simpa [stepsIn] using ih n
    | zero =>
      unfold stepsIn
      split
      · rename_i t hfound
        -- The search goes on behind the step that was found, so `ih` is used at its length.
        obtain ⟨hstep, rest, htext⟩ := eq_append_of_leadingStep? hfound
        obtain ⟨hsteps, hsub⟩ := ih (t.length - 1)
        obtain ⟨b, bs, rfl⟩ := List.exists_cons_of_ne_nil hstep.ne_nil
        obtain ⟨rfl, rfl⟩ := List.cons.inj htext
        refine ⟨by simpa using ⟨hstep, hsteps⟩, ?_⟩
        simpa using hsub
      · obtain ⟨hsteps, hsub⟩ := ih 0
        exact ⟨hsteps, hsub.trans (List.sublist_cons_self c s)⟩

theorem totalLength_eq (ts : List Token) : totalLength ts = ts.flatten.length := by
  induction ts with
  | nil => rfl
  | cons t ts ih => rw [totalLength, ih, List.flatten_cons, List.length_append]

/-- The steps found cover a text exactly when it is a run of steps. -/
theorem totalLength_stepsIn_iff {s : List Char} :
    totalLength (stepsIn 0 s) = s.length ↔ (stepsIn 0 s).flatten = s := by
  rw [totalLength_eq]
  constructor
  · intro h
    -- A part of the text that is as long as the text leaves nothing out.
    exact (stepsIn_sound 0 s).2.eq_of_length h
  · intro h
    rw [h]

/-! ## The rounding at the end -/

theorem partRounding_append {t : Token} (h : IsRounding t) (s : List Char) :
    partRounding (s ++ t) = (s, some t) := by
  cases h with
  | intro hunit => simp [partRounding, isUnit_iff.mpr hunit]

/-- A run of steps ends in a digit and a unit, so no rounding is taken off it. -/
theorem partRounding_flatten {ts : List Token} (h : ∀ t ∈ ts, IsStep t) :
    partRounding ts.flatten = (ts.flatten, none) := by
  rcases List.eq_nil_or_concat ts with rfl | ⟨front, t, rfl⟩
  · rfl
  · have ht : IsStep t := h t (by simp)
    cases ht with
    | @intro sign unit digits hsign hne hdigits hunit =>
      rcases List.eq_nil_or_concat digits with rfl | ⟨digits, d, rfl⟩
      · exact absurd rfl hne
      · have hdigit : d ≠ '/' := by
          rintro rfl
          exact absurd (hdigits '/' (by simp)) (by decide)
        simp [partRounding, hdigit]

theorem partRounding_sound {s front : List Char} {rounding : Option Token}
    (h : partRounding s = (front, rounding)) :
    (∀ t ∈ rounding, IsRounding t) ∧ s = front ++ rounding.toList.flatten := by
  unfold partRounding at h
  split at h
  · rename_i u rest hreverse
    split at h
    · rename_i hunit
      obtain ⟨rfl, rfl⟩ := Prod.mk.inj h
      refine ⟨by simpa using IsRounding.intro (isUnit_iff.mp hunit), ?_⟩
      rw [← List.reverse_reverse s, hreverse]
      simp
    · obtain ⟨rfl, rfl⟩ := Prod.mk.inj h
      simp
  · obtain ⟨rfl, rfl⟩ := Prod.mk.inj h
    simp

end Token

/-! ## Tokens and the grammar -/

open Token

/-- The tokens of a text are the sequence of the grammar that it is put together from. -/
theorem tokens?_eq_some_iff {s : List Char} {ts : List Token} :
    tokens? s = some ts ↔ s ≠ [] ∧ IsSequence ts ∧ ts.flatten = s := by
  constructor
  · intro h
    rcases hpart : partRounding s with ⟨front, rounding⟩
    simp only [tokens?, hpart, Option.ite_none_right_eq_some, Option.some.injEq] at h
    obtain ⟨⟨hcover, hne⟩, rfl⟩ := h
    obtain ⟨hrounding, rfl⟩ := partRounding_sound hpart
    have hfront := totalLength_stepsIn_iff.mp hcover
    have hseq : IsSequence (stepsIn 0 front ++ rounding.toList) :=
      isSequence_iff.mpr ⟨_, _, (stepsIn_sound 0 front).1, hrounding, rfl⟩
    have htext : (stepsIn 0 front ++ rounding.toList).flatten =
        front ++ rounding.toList.flatten := by
      rw [List.flatten_append, hfront]
    exact ⟨htext ▸ hseq.flatten_ne_nil hne, hseq, htext⟩
  · rintro ⟨hne, hseq, rfl⟩
    have hnil : ts ≠ [] := by
      rintro rfl
      exact hne rfl
    obtain ⟨steps, rounding, hsteps, hrounding, rfl⟩ := isSequence_iff.mp hseq
    -- The rounding is taken off again, and the search finds the steps before it.
    have hpart : partRounding (steps ++ rounding.toList).flatten = (steps.flatten, rounding) := by
      cases rounding with
      | none => simpa using partRounding_flatten hsteps
      | some t => simpa using partRounding_append (hrounding t rfl) steps.flatten
    have hcover := totalLength_stepsIn_iff.mpr (congrArg List.flatten (stepsIn_flatten hsteps))
    rw [stepsIn_flatten hsteps] at hcover
    simp only [tokens?, hpart, stepsIn_flatten hsteps]
    exact if_pos ⟨hcover, hnil⟩

theorem tokens?_eq_none_of_not_isText {s : List Char} (h : ¬ IsText s) : tokens? s = none := by
  rw [Option.eq_none_iff_forall_ne_some]
  intro ts hts
  exact h ⟨ts, (tokens?_eq_some_iff.mp hts).2⟩

/-- A text has its tokens in one way only. -/
theorem Token.IsSequence.eq_of_flatten_eq {ts us : List Token} (hts : IsSequence ts)
    (hus : IsSequence us) (h : ts.flatten = us.flatten) : ts = us := by
  by_cases hnil : us = []
  · subst hnil
    exact Decidable.byContradiction fun hne => hts.flatten_ne_nil hne h
  · have hne := hus.flatten_ne_nil hnil
    -- Both are what `tokens?` answers for this text.
    have htokens := tokens?_eq_some_iff.mpr ⟨h ▸ hne, hts, rfl⟩
    have hothers := tokens?_eq_some_iff.mpr ⟨hne, hus, rfl⟩
    rw [h] at htokens
    exact Option.some.inj (htokens.symm.trans hothers)

/-! ## Putting texts together -/

namespace Token

variable {t r : Token} {ts us steps : List Token} {s front : List Char}

theorem IsSequence.append (hsteps : ∀ t ∈ steps, IsStep t) (hus : IsSequence us) :
    IsSequence (steps ++ us) := by
  induction steps with
  | nil => exact hus
  | cons t steps ih =>
    rw [List.forall_mem_cons] at hsteps
    exact .step hsteps.1 (ih hsteps.2)

theorem IsRounding.leadingStep?_eq_none (h : IsRounding r) : leadingStep? r = none := by
  cases h
  rfl

/-- If a step stands at the front of a text, it is the first token of that text. -/
theorem IsSequence.eq_cons_of_flatten_eq_append (ht : IsStep t) (hts : IsSequence ts)
    (h : ts.flatten = t ++ s) : ∃ us, IsSequence us ∧ us.flatten = s := by
  have hfront := leadingStep?_append ht s
  rw [← h] at hfront
  cases hts with
  | nil => cases hfront
  | rounding hr =>
    rw [List.flatten_singleton, hr.leadingStep?_eq_none] at hfront
    cases hfront
  | @step u us hu hus =>
    rw [List.flatten_cons, leadingStep?_append hu] at hfront
    obtain rfl := Option.some.inj hfront
    exact ⟨us, hus, List.append_cancel_left h⟩

/-- Steps at the front of a text neither make it a text of the grammar nor keep it from being
    one. -/
theorem isText_append_iff (hsteps : ∀ t ∈ steps, IsStep t) :
    IsText (steps.flatten ++ s) ↔ IsText s := by
  constructor
  · intro h
    induction steps with
    | nil => exact h
    | cons t steps ih =>
      rw [List.forall_mem_cons] at hsteps
      -- The grammar has only one token for the front of this text, which is the step.
      obtain ⟨ts, hts, hflat⟩ := h
      rw [List.flatten_cons, List.append_assoc] at hflat
      exact ih hsteps.2 (hts.eq_cons_of_flatten_eq_append hsteps.1 hflat)
  · rintro ⟨us, hus, rfl⟩
    exact ⟨steps ++ us, hus.append hsteps, List.flatten_append⟩

theorem IsStep.slash_notMem (h : IsStep t) : '/' ∉ t := by
  cases h with
  | @intro sign unit digits hsign hne hdigits hunit =>
    intro hmem
    rw [List.mem_append, List.mem_cons, List.mem_singleton] at hmem
    rcases hmem with (rfl | hdigit) | rfl
    · exact absurd hsign (by decide)
    · exact absurd (hdigits '/' hdigit) (by decide)
    · exact absurd hunit (by decide)

theorem IsStep.not_isRounding (h : IsStep t) : ¬ IsRounding t := by
  intro hround
  cases hround
  exact h.slash_notMem (by simp)

/-- Nothing comes after a rounding. -/
theorem not_isText_append_rounding (hr : IsRounding r) (hs : s ≠ []) :
    ¬ IsText (front ++ (r ++ s)) := by
  rintro ⟨ts, hts, hflat⟩
  obtain ⟨steps, last, hsteps, hlast, rfl⟩ := isSequence_iff.mp hts
  have hslash : '/' ∉ steps.flatten := by
    intro hmem
    obtain ⟨t, ht, hmem⟩ := List.mem_flatten.mp hmem
    exact (hsteps t ht).slash_notMem hmem
  have hshort : last.toList.flatten.length ≤ 2 := by
    cases last with
    | none => decide
    | some t =>
      cases hlast t rfl
      exact Nat.le_refl 2
  have hlong : 0 < s.length := List.length_pos_iff.mpr hs
  cases hr with
  | @intro unit hunit =>
    rw [List.flatten_append, List.append_eq_append_iff] at hflat
    rcases hflat with ⟨middle, -, hend⟩ | ⟨middle, hfront, hend⟩
    · -- The rounding and what follows would be part of the last token, which is too short.
      have hlength := congrArg List.length hend
      simp only [List.length_append, List.length_cons, List.length_nil] at hlength
      omega
    · -- The steps would reach up to the rounding at least, but they hold no slash.
      cases middle with
      | nil =>
        have hlength := congrArg List.length hend
        simp only [List.nil_append, List.length_append, List.length_cons,
          List.length_nil] at hlength
        omega
      | cons c middle =>
        obtain ⟨rfl, -⟩ := List.cons.inj hend
        exact hslash (hfront ▸ by simp)

end Token

theorem Token.IsSequence.isStep_of_mem_dropLast {ts : List Token} (h : IsSequence ts) :
    ∀ t ∈ ts.dropLast, IsStep t := by
  obtain ⟨steps, rounding, hsteps, -, rfl⟩ := isSequence_iff.mp h
  intro t ht
  cases rounding with
  | none => exact hsteps t (List.dropLast_subset _ (by simpa using ht))
  | some r => exact hsteps t (by simpa using ht)

theorem tokensOf_eq_ok_iff {suffix expression : String} {ts : List Token} :
    tokensOf suffix expression = .ok ts ↔
      suffix ≠ "" ∧ IsSequence ts ∧ ts.flatten = suffix.toList := by
  have htokens := @tokens?_eq_some_iff suffix.toList ts
  rw [Ne, String.toList_eq_nil_iff] at htokens
  rw [← htokens, tokensOf]
  cases tokens? suffix.toList <;> simp

/-- A text is cut into tokens exactly when it is not empty and belongs to the grammar. The tokens
    are the only ones of the grammar that it is put together from, and all but the last are
    steps. Any other text is malformed, and the error names the expression that was given, or
    the text after the word `now` when none was. -/
theorem tokensOf_accepts_grammar (suffix expression : String) :
    ((∃ ts, tokensOf suffix expression = .ok ts) ↔
      suffix ≠ "" ∧ ∃ ts, IsSequence ts ∧ ts.flatten = suffix.toList) ∧
    (∀ ts, tokensOf suffix expression = .ok ts →
      ts.flatten = suffix.toList ∧ IsSequence ts ∧ (∀ t ∈ ts.dropLast, IsStep t) ∧
        ∀ us, IsSequence us → us.flatten = suffix.toList → us = ts) ∧
    ((¬ ∃ ts, tokensOf suffix expression = .ok ts) →
      tokensOf suffix expression = .error (.malformed expression) ∧
        tokensOf suffix = .error (.malformed ("now" ++ suffix))) := by
  refine ⟨?_, ?_, ?_⟩
  · simp only [tokensOf_eq_ok_iff, exists_and_left]
  · intro ts h
    obtain ⟨-, hseq, htext⟩ := tokensOf_eq_ok_iff.mp h
    refine ⟨htext, hseq, hseq.isStep_of_mem_dropLast, ?_⟩
    intro us hus hutext
    exact hus.eq_of_flatten_eq hseq (hutext.trans htext.symm)
  · intro h
    cases htokens : tokens? suffix.toList with
    | none => simp [tokensOf, htokens, expressionOf]
    | some ts => exact absurd ⟨ts, by simp [tokensOf, htokens]⟩ h

example : tokensOf "-1d+1d/yy" = .error (.malformed "now-1d+1d/yy") := by rfl

end RelativeDate
