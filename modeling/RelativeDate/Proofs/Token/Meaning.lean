import Mathlib.Data.List.Forall2
import RelativeDate.Proofs.Token.Reading

/-! # The meaning of tokens

A token of the grammar writes one operation: its sign is the direction, its digits are the
amount, and its last character is the unit. Reading it gives this operation back, unless the
amount has too many digits. That is the only way in which reading a token of the grammar fails. -/

namespace RelativeDate

namespace Token

/-- What stands between the first and the last character: the digits of a step, and nothing in a
    rounding. -/
def amountDigits (t : Token) : List Char :=
  t.tail.dropLast

/-- The token `t` writes the operation `op`. -/
inductive Writes : Token → Operation → Prop
  | step (dir : Direction) (u : TimeUnit) {digits : List Char} (hne : digits ≠ [])
      (hdigits : ∀ c ∈ digits, '0' ≤ c ∧ c ≤ '9') :
      Writes (dir.symbol :: digits ++ [u.symbol]) (.move dir u (Nat.ofDigitChars 10 digits 0 : Nat))
  | rounding (u : TimeUnit) : Writes ['/', u.symbol] (.round u)

variable {t : Token} {ts us : List Token} {op : Operation} {ops : List Operation}

theorem amountDigits_step (dir : Direction) (u : TimeUnit) (digits : List Char) :
    amountDigits (dir.symbol :: digits ++ [u.symbol]) = digits := by
  rw [amountDigits, List.cons_append, List.tail_cons, List.dropLast_concat]

/-! ## Every token writes an operation -/

theorem exists_direction {c : Char} (h : c ∈ ['+', '-']) : ∃ dir : Direction, c = dir.symbol := by
  simp only [List.mem_cons, List.not_mem_nil, or_false] at h
  rcases h with rfl | rfl
  · exact ⟨.forward, rfl⟩
  · exact ⟨.backward, rfl⟩

theorem exists_unit {c : Char} (h : c ∈ ['s', 'm', 'h', 'd', 'w', 'M', 'y']) :
    ∃ u : TimeUnit, c = u.symbol := by
  simp only [List.mem_cons, List.not_mem_nil, or_false] at h
  rcases h with rfl | rfl | rfl | rfl | rfl | rfl | rfl
  · exact ⟨.fixed .second, rfl⟩
  · exact ⟨.fixed .minute, rfl⟩
  · exact ⟨.fixed .hour, rfl⟩
  · exact ⟨.fixed .day, rfl⟩
  · exact ⟨.fixed .week, rfl⟩
  · exact ⟨.month, rfl⟩
  · exact ⟨.year, rfl⟩

theorem IsStep.exists_writes (h : IsStep t) : ∃ dir u amount, Writes t (.move dir u amount) := by
  cases h with
  | intro hsign hne hdigits hunit =>
    obtain ⟨dir, rfl⟩ := exists_direction hsign
    obtain ⟨u, rfl⟩ := exists_unit hunit
    exact ⟨dir, u, _, .step dir u hne hdigits⟩

theorem IsRounding.exists_writes (h : IsRounding t) : ∃ u, Writes t (.round u) := by
  cases h with
  | intro hunit =>
    obtain ⟨u, rfl⟩ := exists_unit hunit
    exact ⟨u, .rounding u⟩

/-- The tokens of a sequence write operations, one each. -/
theorem IsSequence.exists_writes (h : IsSequence ts) : ∃ ops, List.Forall₂ Writes ts ops := by
  induction h with
  | nil => exact ⟨[], .nil⟩
  | rounding ht =>
    obtain ⟨u, hround⟩ := ht.exists_writes
    exact ⟨[.round u], .cons hround .nil⟩
  | step ht _ ih =>
    obtain ⟨dir, u, amount, hmove⟩ := ht.exists_writes
    obtain ⟨ops, hops⟩ := ih
    exact ⟨.move dir u amount :: ops, .cons hmove hops⟩

/-- A digit, a sign, a slash or the symbol of a unit. -/
def IsCharacter (c : Char) : Prop :=
  c.isDigit ∨ c ∈ ['+', '-', '/', 's', 'm', 'h', 'd', 'w', 'M', 'y']

instance (c : Char) : Decidable (IsCharacter c) :=
  inferInstanceAs (Decidable (_ ∨ _))

theorem isCharacter_unit (u : TimeUnit) : IsCharacter u.symbol :=
  .inr (List.mem_append_right ['+', '-', '/'] u.symbol_mem)

theorem Writes.isCharacter (h : Writes t op) : ∀ c ∈ t, IsCharacter c := by
  cases h with
  | @step dir u digits hne hdigits =>
    rw [List.forall_mem_append, List.forall_mem_cons, List.forall_mem_singleton]
    exact ⟨⟨.inr (List.mem_append_left _ dir.symbol_mem),
      fun c hc => .inl (isDigit_iff.mpr (hdigits c hc))⟩, isCharacter_unit u⟩
  | rounding u =>
    rw [List.forall_mem_cons, List.forall_mem_singleton]
    exact ⟨by decide, isCharacter_unit u⟩

theorem isCharacter_of_writes (h : List.Forall₂ Writes ts ops) :
    ∀ t ∈ ts, ∀ c ∈ t, IsCharacter c := by
  induction h with
  | nil => simp
  | cons hop _ ih => exact List.forall_mem_cons.mpr ⟨hop.isCharacter, ih⟩

/-! ## Every operation that can be written has a token -/

theorem writes_chars_move (dir : Direction) (u : TimeUnit) (n : Nat) :
    Writes (Operation.move dir u n).chars (.move dir u n) := by
  have hstep := Writes.step dir u Nat.toDigits_ne_nil fun c (hc : c ∈ Nat.toDigits 10 n) =>
    Operation.digit_of_mem_toDigits hc
  rwa [← Operation.chars_move, Nat.ofDigitChars_ten_toDigits] at hstep

theorem writes_chars (hop : op.Writable) : Writes op.chars op := by
  cases op with
  | round u => exact .rounding u
  | move dir u amount =>
    obtain ⟨n, rfl⟩ := Int.eq_ofNat_of_zero_le hop.1
    exact writes_chars_move dir u n

theorem length_amountDigits_chars (hop : op.Writable) :
    (amountDigits op.chars).length ≤ Text.digitLimit := by
  cases op with
  | round u => exact Nat.zero_le _
  | move dir u amount =>
    obtain ⟨n, rfl⟩ := Int.eq_ofNat_of_zero_le hop.1
    rw [Operation.chars_move, amountDigits_step]
    exact hop.2

theorem writes_map_chars (hops : ∀ op ∈ ops, op.Writable) :
    List.Forall₂ Writes (ops.map Operation.chars) ops :=
  List.forall₂_map_left_iff.mpr (List.forall₂_same.mpr fun op hop => writes_chars (hops op hop))

/-! ## Sequences of tokens -/

theorem Writes.isStep (h : Writes t op) (hmove : op.IsMove) : IsStep t := by
  cases h with
  | step dir u hne hdigits => exact .intro dir.symbol_mem hne hdigits u.symbol_mem
  | rounding u => exact hmove.elim

/-- Tokens are a sequence of the grammar when only the last one may write a rounding. -/
theorem isSequence_of_writes (h : List.Forall₂ Writes ts ops)
    (hmoves : ∀ op ∈ ops.dropLast, op.IsMove) : IsSequence ts := by
  induction h with
  | nil => exact .nil
  | @cons t op ts ops hop hrest ih =>
    cases hrest with
    | nil =>
      cases hop with
      | step dir u hne hdigits => exact .step (.intro dir.symbol_mem hne hdigits u.symbol_mem) .nil
      | rounding u => exact .rounding (.intro u.symbol_mem)
    | cons hnext hrest =>
      rw [List.dropLast_cons_of_ne_nil (by simp), List.forall_mem_cons] at hmoves
      exact .step (hop.isStep hmoves.1) (ih hmoves.2)

/-! ## Zeros at the front -/

/-- The token of a step is how the step is written, unless its amount starts with a zero. -/
theorem Writes.eq_chars (h : Writes t op) (hmove : op.IsMove)
    (hzero : t.amountDigits.head? ≠ some '0') : t = op.chars := by
  cases h with
  | @step dir u digits hne hdigits =>
    rw [amountDigits_step] at hzero
    rw [Operation.chars_move,
      Text.toDigits_ofDigitChars hne (fun c hc => isDigit_iff.mpr (hdigits c hc)) hzero]
  | rounding u => exact hmove.elim

theorem eq_map_chars (h : List.Forall₂ Writes ts ops) (hmoves : ∀ op ∈ ops, op.IsMove)
    (hzero : ∀ t ∈ ts, t.amountDigits.head? ≠ some '0') : ts = ops.map Operation.chars := by
  induction h with
  | nil => rfl
  | cons hop _ ih =>
    rw [List.forall_mem_cons] at hmoves hzero
    rw [List.map_cons, hop.eq_chars hmoves.1 hzero.1, ih hmoves.2 hzero.2]

/-! ## Reading -/

/-- A token is read as the operation that it writes, as long as its amount is short enough. -/
theorem Writes.ofToken (h : Writes t op) :
    Operation.ofToken t =
      if Text.digitLimit < t.amountDigits.length then
        .error (.number t.amountDigits (.tooLong t.amountDigits.length))
      else .ok op := by
  cases h with
  | @step dir u digits hne hdigits =>
    rw [amountDigits_step]
    exact Operation.ofToken_step dir u hne fun c hc => isDigit_iff.mpr (hdigits c hc)
  | rounding u =>
    simp [Operation.ofToken, Operator.ofSymbol?, amountDigits]

/-- Tokens are read as the operations that they write. If they are not, one of the amounts is
    too long, and no other error comes up. -/
theorem mapM_ofToken (h : List.Forall₂ Writes ts ops) :
    (∀ t ∈ ts, t.amountDigits.length ≤ Text.digitLimit) ∧ ts.mapM Operation.ofToken = .ok ops ∨
      ∃ t ∈ ts, Text.digitLimit < t.amountDigits.length ∧
        ts.mapM Operation.ofToken =
          .error (.number t.amountDigits (.tooLong t.amountDigits.length)) := by
  induction h with
  | nil => exact .inl ⟨by simp, rfl⟩
  | @cons t op ts ops hop _ ih =>
    have hread := hop.ofToken
    rw [List.mapM_cons]
    by_cases hlong : Text.digitLimit < t.amountDigits.length
    · rw [if_pos hlong] at hread
      rw [hread]
      exact .inr ⟨t, by simp, hlong, rfl⟩
    · rw [if_neg hlong] at hread
      rw [hread]
      rcases ih with ⟨hshort, hread⟩ | ⟨long, hmem, hlong, hread⟩
      · rw [hread]
        exact .inl ⟨by simpa using ⟨by omega, hshort⟩, rfl⟩
      · rw [hread]
        exact .inr ⟨long, by simp [hmem], hlong, rfl⟩

end Token

/-! ## Written operations -/

namespace Operation

open Token

variable {op : Operation} {ops : List Operation}

theorem isStep_chars (hop : op.Writable) (hmove : op.IsMove) : IsStep op.chars :=
  (writes_chars hop).isStep hmove

/-- Written operations are a sequence of the grammar when only the last one may be a rounding. -/
theorem isSequence_map_chars (hops : ∀ op ∈ ops, op.Writable)
    (hmoves : ∀ op ∈ ops.dropLast, op.IsMove) : IsSequence (ops.map chars) :=
  isSequence_of_writes (writes_map_chars hops) hmoves

end Operation

end RelativeDate
