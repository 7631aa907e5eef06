import RelativeDate.Expression
import RelativeDate.Proofs.Operation
import RelativeDate.Proofs.Token.Meaning

/-! # The value of an expression

Operations are applied one after the other, and the run fails at the first of them that leaves
the calendar. What an expression comes to depends on what follows the word `now`: on the tokens
it consists of, or on the fact that it consists of none. -/

namespace RelativeDate

/-! ## Runs of operations -/

namespace Operation

variable {ops : List Operation} {t s : Instant}

/-- Where operations lead, if none of them leaves the calendar. -/
def runAll? (ops : List Operation) (t : Instant) : Option Instant :=
  ops.foldlM (fun t op => op.run? t) t

@[simp] theorem runAll?_nil (t : Instant) : runAll? [] t = some t := rfl

@[simp] theorem runAll?_cons (op : Operation) (ops : List Operation) (t : Instant) :
    runAll? (op :: ops) t = (op.run? t).bind (runAll? ops) := rfl

theorem runAll?_append (ops others : List Operation) (t : Instant) :
    runAll? (ops ++ others) t = (runAll? ops t).bind (runAll? others) :=
  List.foldlM_append

/-- A run fails at one of its operations, and all operations before that one succeed. -/
theorem runAll?_eq_none_iff :
    runAll? ops t = none ↔ ∃ before op after s, ops = before ++ op :: after ∧
      runAll? before t = some s ∧ op.LeavesCalendar s := by
  constructor
  · intro h
    -- The rest of a run starts where its first operation leads, so the start has to vary.
    induction ops generalizing t with
    | nil => cases h
    | cons op ops ih =>
      cases hop : op.run? t with
      | none => exact ⟨[], op, ops, t, rfl, rfl, run?_eq_none_iff.mp hop⟩
      | some r =>
        rw [runAll?_cons, hop, Option.bind_some] at h
        obtain ⟨before, next, after, s, rfl, hbefore, hnext⟩ := ih h
        refine ⟨op :: before, next, after, s, rfl, ?_, hnext⟩
        rw [runAll?_cons, hop, Option.bind_some, hbefore]
  · rintro ⟨before, op, after, s, rfl, hbefore, hop⟩
    rw [runAll?_append, hbefore, Option.bind_some, runAll?_cons, run?_eq_none_iff.mpr hop,
      Option.bind_none]

/-- A run leads from a whole millisecond to a whole millisecond. -/
theorem isWholeMilli_of_runAll? (h : t.IsWholeMilli) (hs : runAll? ops t = some s) :
    s.IsWholeMilli := by
  induction ops generalizing t with
  | nil => exact Option.some.inj hs ▸ h
  | cons op ops ih =>
    obtain ⟨r, hr, hs⟩ := Option.bind_eq_some_iff.mp hs
    exact ih (isWholeMilli_of_run? h hr) hs

theorem trace_result (ops : List Operation) (t : Instant) :
    (trace ops t).result = runAll? ops t := by
  induction ops generalizing t with
  | nil => rfl
  | cons op ops ih =>
    rw [runAll?_cons, trace]
    cases op.run? t with
    | none => rfl
    | some finish => exact ih finish

end Operation

/-! ## Runs of tokens -/

namespace Token

variable {ts us : List Token} {ops : List Operation} {t s : Instant}

/-- Where tokens lead, if all of them can be read and none of their operations leaves the
    calendar. -/
def follow? (ts : List Token) (t : Instant) : Option Instant :=
  (ts.mapM Operation.ofToken).toOption.bind fun ops => Operation.runAll? ops t

theorem follow?_append (ts us : List Token) (t : Instant) :
    follow? (ts ++ us) t = (follow? ts t).bind (follow? us) := by
  unfold follow?
  rw [List.mapM_append]
  cases ts.mapM Operation.ofToken with
  | error cause => rfl
  | ok ops =>
    cases us.mapM Operation.ofToken with
    -- All tokens are read before the first is followed, but either way the whole leads nowhere.
    | error cause => exact (Option.bind_fun_none _).symm
    | ok others => exact Operation.runAll?_append ops others t

/-- Written operations lead where the operations lead. -/
theorem follow?_map_chars (hops : ∀ op ∈ ops, op.Writable) (t : Instant) :
    follow? (ops.map Operation.chars) t = Operation.runAll? ops t := by
  rw [follow?, Operation.mapM_ofToken_chars hops]
  rfl

/-- Tokens lead nowhere when an amount among them is too long, or else when one of their
    operations leaves the calendar. -/
theorem follow?_eq_none_iff (h : List.Forall₂ Writes ts ops) :
    follow? ts t = none ↔ (∃ long ∈ ts, Text.digitLimit < long.amountDigits.length) ∨
      ∃ before op after s, ops = before ++ op :: after ∧
        Operation.runAll? before t = some s ∧ op.LeavesCalendar s := by
  rw [← Operation.runAll?_eq_none_iff, follow?]
  rcases mapM_ofToken h with ⟨hshort, hread⟩ | ⟨long, hmem, hlong, hread⟩
  · have hnone : ¬ ∃ long ∈ ts, Text.digitLimit < long.amountDigits.length := by
      rintro ⟨long, hmem, hlong⟩
      exact absurd (hshort long hmem) (by omega)
    rw [hread, or_iff_right hnone]
    rfl
  · rw [hread]
    exact iff_of_true rfl (.inl ⟨long, hmem, hlong⟩)

/-- Tokens lead to an instant when no amount among them is too long and their operations lead
    there. -/
theorem follow?_eq_some_iff (h : List.Forall₂ Writes ts ops) :
    follow? ts t = some s ↔
      (∀ r ∈ ts, r.amountDigits.length ≤ Text.digitLimit) ∧ Operation.runAll? ops t = some s := by
  rw [follow?]
  rcases mapM_ofToken h with ⟨hshort, hread⟩ | ⟨long, hmem, hlong, hread⟩
  · rw [hread, and_iff_right hshort]
    rfl
  · rw [hread]
    constructor
    · intro hnone
      cases hnone
    · rintro ⟨hshort, -⟩
      exact absurd (hshort long hmem) (by omega)

theorem Writes.run?_of_follow? {r : Token} {op : Operation} (h : Writes r op)
    (hs : follow? [r] t = some s) : op.run? t = some s := by
  obtain ⟨-, hrun⟩ := (follow?_eq_some_iff (.cons h .nil)).mp hs
  obtain ⟨last, hlast, hnil⟩ := Option.bind_eq_some_iff.mp hrun
  exact hlast.trans hnil

theorem isWholeMilli_of_follow? (h : t.IsWholeMilli) (hs : follow? ts t = some s) :
    s.IsWholeMilli := by
  obtain ⟨ops, -, hops⟩ := Option.bind_eq_some_iff.mp hs
  exact Operation.isWholeMilli_of_runAll? h hops

/-- Tokens without a rounding lead to the same part of another second, and a rounding at the end
    leads to a whole second. -/
theorem IsSequence.subsecond_of_follow? (hts : IsSequence ts) (hs : follow? ts t = some s) :
    (∀ r ∈ ts, ¬ IsRounding r) ∧ s.subsecond = t.subsecond ∨
      (∃ r ∈ ts, IsRounding r) ∧ s.subsecond = 0 := by
  induction hts generalizing t with
  | nil =>
    obtain rfl : t = s := Option.some.inj hs
    exact .inl ⟨by simp, rfl⟩
  | @rounding r hr =>
    obtain ⟨u, hwrites⟩ := hr.exists_writes
    exact .inr ⟨⟨r, by simp, hr⟩, Operation.subsecond_of_round (hwrites.run?_of_follow? hs)⟩
  | @step r ts hr _ ih =>
    obtain ⟨dir, u, amount, hwrites⟩ := hr.exists_writes
    obtain ⟨next, hnext, hrest⟩ := Option.bind_eq_some_iff.mp (follow?_append [r] ts t ▸ hs)
    rw [← Operation.subsecond_of_move (hwrites.run?_of_follow? hnext)]
    rcases ih hrest with ⟨hsteps, hsame⟩ | ⟨⟨last, hmem, hlast⟩, hzero⟩
    · exact .inl ⟨List.forall_mem_cons.mpr ⟨hr.not_isRounding, hsteps⟩, hsame⟩
    · exact .inr ⟨⟨last, by simp [hmem], hlast⟩, hzero⟩

end Token

/-! ## Expressions -/

open Operation Token

variable {expression rest : String} {ts : List Token} {ops : List Operation}

theorem eq_now_append {s : List Char} (h : expression.toList = 'n' :: 'o' :: 'w' :: s) :
    expression = "now" ++ String.ofList s := by
  apply String.toList_inj.mp
  simp [h]

theorem evaluate_now_append (h : rest ≠ "") (anchor : Instant) :
    evaluate ("now" ++ rest) anchor = evaluateSuffix ("now" ++ rest) rest.toList anchor := by
  have hrest : rest.toList ≠ [] := by rwa [Ne, String.toList_eq_nil_iff]
  unfold evaluate
  rw [String.toList_append]
  split
  · simp_all
  · simp_all
  · simp_all

/-- An expression that does not start with `now` is told so. -/
theorem evaluate_of_not_now (h : ¬ ∃ rest, expression = "now" ++ rest) (anchor : Instant) :
    evaluate expression anchor = ⟨[], .error (.noNow expression)⟩ := by
  unfold evaluate
  split
  · rename_i hlist
    exact absurd ⟨_, eq_now_append hlist⟩ h
  · rename_i hlist
    exact absurd ⟨_, eq_now_append hlist⟩ h
  · rfl

/-- An expression is malformed when no tokens make up what follows the word `now`. -/
theorem evaluate_of_not_isText (h : ¬ IsText rest.toList) (anchor : Instant) :
    evaluate ("now" ++ rest) anchor = ⟨[], .error (.malformed ("now" ++ rest))⟩ := by
  have hne : rest ≠ "" := by
    rintro rfl
    exact h ⟨[], .nil, rfl⟩
  rw [evaluate_now_append hne, evaluateSuffix, tokens?_eq_none_of_not_isText h]

/-- The tokens of an expression are logged, and then they are read and applied. -/
theorem evaluate_of_isSequence (hts : IsSequence ts) (hne : ts ≠ []) (h : rest.toList = ts.flatten)
    (anchor : Instant) :
    evaluate ("now" ++ rest) anchor =
      match ts.mapM ofToken with
      | .error _ => ⟨[.tokenized ("now" ++ rest) ts], .error (.outOfRange ("now" ++ rest))⟩
      | .ok ops => ⟨.tokenized ("now" ++ rest) ts :: (trace ops anchor).records,
          (runAll? ops anchor).elim (.error (.outOfRange ("now" ++ rest))) .ok⟩ := by
  have hrest : rest.toList ≠ [] := h ▸ hts.flatten_ne_nil hne
  have htokens : tokens? rest.toList = some ts := tokens?_eq_some_iff.mpr ⟨hrest, hts, h.symm⟩
  rw [evaluate_now_append (by rwa [Ne, ← String.toList_eq_nil_iff])]
  cases hread : ts.mapM ofToken with
  | error cause => simp [evaluateSuffix, htokens, hread]
  | ok ops => simp [evaluateSuffix, htokens, hread, trace_result]

theorem outcome_evaluate_of_not_now (h : ¬ ∃ rest, expression = "now" ++ rest) (anchor : Instant) :
    (evaluate expression anchor).outcome = .error (.noNow expression) := by
  rw [evaluate_of_not_now h]

theorem outcome_evaluate_of_not_isText (h : ¬ IsText rest.toList) (anchor : Instant) :
    (evaluate ("now" ++ rest) anchor).outcome = .error (.malformed ("now" ++ rest)) := by
  rw [evaluate_of_not_isText h]

/-- The value of an expression is the instant that its tokens lead to. -/
theorem outcome_evaluate_of_isSequence (hts : IsSequence ts) (h : rest.toList = ts.flatten)
    (anchor : Instant) :
    (evaluate ("now" ++ rest) anchor).outcome =
      (follow? ts anchor).elim (.error (.outOfRange ("now" ++ rest))) .ok := by
  by_cases hnil : ts = []
  · subst hnil
    obtain rfl := String.toList_eq_nil_iff.mp h
    rfl
  · rw [evaluate_of_isSequence hts hnil h, follow?]
    cases ts.mapM ofToken <;> rfl

/-- A run that leads nowhere is the only source of the error that stands in for it. -/
theorem elim_eq_error_iff {result : Option Instant} {cause other : ExpressionError} :
    result.elim (.error cause) Except.ok = .error other ↔ result = none ∧ cause = other := by
  cases result <;> simp

theorem elim_eq_ok_iff {result : Option Instant} {cause : ExpressionError} {t : Instant} :
    result.elim (.error cause) Except.ok = .ok t ↔ result = some t := by
  cases result <;> simp

theorem expressionText_eq (ops : List Operation) :
    expressionText ops = "now" ++ String.ofList (ops.map chars).flatten := by
  rw [← List.flatMap_def]
  exact eq_now_append String.toList_ofList

/-- An expression spells operations when it has a token for each of them behind the word `now`, and
    none of the amounts has too many digits. -/
def Spells (expression : String) (ops : List Operation) : Prop :=
  ∃ rest ts, expression = "now" ++ rest ∧ rest.toList = ts.flatten ∧ List.Forall₂ Writes ts ops ∧
    ∀ t ∈ ts, t.amountDigits.length ≤ Text.digitLimit

theorem spells_expressionText (hops : ∀ op ∈ ops, op.Writable) :
    Spells (expressionText ops) ops := by
  refine ⟨_, ops.map chars, expressionText_eq ops, String.toList_ofList, writes_map_chars hops, ?_⟩
  rw [List.forall_mem_map]
  exact fun op hop => length_amountDigits_chars (hops op hop)

/-- The value of an expression is the instant that the operations lead to which it spells. -/
theorem outcome_evaluate_of_spells (h : Spells expression ops)
    (hmoves : ∀ op ∈ ops.dropLast, op.IsMove) (anchor : Instant) :
    (evaluate expression anchor).outcome =
      (runAll? ops anchor).elim (.error (.outOfRange expression)) .ok := by
  obtain ⟨rest, ts, rfl, hflat, hwrites, hshort⟩ := h
  have hfollow : follow? ts anchor = runAll? ops anchor := by
    apply Option.ext
    intro t
    rw [follow?_eq_some_iff hwrites, and_iff_right hshort]
  rw [outcome_evaluate_of_isSequence (isSequence_of_writes hwrites hmoves) hflat, hfollow]

/-- The value of written operations is the instant that they lead to. -/
theorem evaluate_expressionText (hops : ∀ op ∈ ops, op.Writable)
    (hmoves : ∀ op ∈ ops.dropLast, op.IsMove) (anchor : Instant) :
    (evaluate (expressionText ops) anchor).outcome =
      (runAll? ops anchor).elim (.error (.outOfRange (expressionText ops))) .ok :=
  outcome_evaluate_of_spells (spells_expressionText hops) hmoves anchor

end RelativeDate
