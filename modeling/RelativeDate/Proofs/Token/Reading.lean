import Mathlib.Data.List.Basic
import Mathlib.Data.List.Induction
import Mathlib.Data.List.TakeWhile
import RelativeDate.Proofs.Token.Grammar

/-! # Reading what was written

A run of decimal digits is read as its value, unless it is too long. So an operation is read back
from its characters, and a suffix that is put together from written operations has these
operations. -/

namespace RelativeDate

namespace Text

variable {digits : List Char}

/-! ## Runs of digits -/

theorem ne_of_isDigit {c d : Char} (hc : c.isDigit) (hd : d.isDigit = false) : c ≠ d := by
  rintro rfl
  simp [hc] at hd

theorem digitChar_toNat_sub {c : Char} (h : c.isDigit) : Nat.digitChar (c.toNat - 48) = c := by
  have hrange : 48 ≤ c.toNat ∧ c.toNat ≤ 57 := Char.isDigit_iff_toNat.mp h
  rw [← Char.toNat_inj, Nat.toNat_digitChar_of_lt_ten (by omega)]
  omega

theorem asciiSpelling_of_isDigit {c : Char} (h : c.isDigit) : asciiSpelling c = c := by
  have hrange : 48 ≤ c.toNat ∧ c.toNat ≤ 57 := Char.isDigit_iff_toNat.mp h
  have hblank : isWideBlank c = false := by
    simp only [isWideBlank, Bool.or_eq_false_iff, Bool.and_eq_false_iff, decide_eq_false_iff_not]
    omega
  have hvalue : digitValue? c = some (c.toNat - 48) := by
    unfold digitValue? digitZeros
    rw [List.find?_cons_of_pos (by simp; omega)]
    rfl
  simp [asciiSpelling, hblank, hvalue, digitChar_toNat_sub h]

theorem digitRun?_of_isDigit (hne : digits ≠ []) (h : ∀ c ∈ digits, c.isDigit) :
    digitRun? digits = some digits := by
  induction digits with
  | nil => exact absurd rfl hne
  | cons c rest ih =>
    rw [List.forall_mem_cons] at h
    cases rest with
    | nil => simp [digitRun?, h.1]
    | cons d rest =>
      have hscore : d ≠ '_' := by
        rintro rfl
        exact absurd (h.2 '_' (by simp)) (by decide)
      rw [digitRun?, if_pos h.1, ih (by simp) h.2]
      · rfl
      · simp
      · simpa using hscore

theorem readUnsigned_of_isDigit (hne : digits ≠ []) (h : ∀ c ∈ digits, c.isDigit) :
    readUnsigned digits =
      if digitLimit < digits.length then .error (.tooLong digits.length)
      else .ok (Nat.ofDigitChars 10 digits 0) := by
  have hrun : ∀ c ∈ digits, isRunCharacter c := fun c hc => by simp [isRunCharacter, h c hc]
  have htake : digits.takeWhile isRunCharacter = digits := List.takeWhile_eq_self_iff.mpr hrun
  have hdrop : digits.dropWhile isRunCharacter = [] := List.dropWhile_eq_nil_iff.mpr hrun
  simp [readUnsigned, htake, hdrop, digitRun?_of_isDigit hne h]

theorem readInteger_of_isDigit (hne : digits ≠ []) (h : ∀ c ∈ digits, c.isDigit) :
    readInteger digits =
      if digitLimit < digits.length then .error (.tooLong digits.length)
      else .ok (Nat.ofDigitChars 10 digits 0 : Nat) := by
  obtain ⟨c, rest, rfl⟩ := List.exists_cons_of_ne_nil hne
  have hspelling : (c :: rest).map asciiSpelling = c :: rest :=
    (List.map_congr_left fun d hd => asciiSpelling_of_isDigit (h d hd)).trans (List.map_id' _)
  have hc : c.isDigit := h c (by simp)
  -- A digit is neither a blank nor a sign, so nothing is taken off the front.
  have hblank : isAsciiBlank c = false := by
    have hrange : 48 ≤ c.toNat ∧ c.toNat ≤ 57 := Char.isDigit_iff_toNat.mp hc
    have hspace : c ≠ ' ' := by
      rintro rfl
      simp at hrange
    simp only [isAsciiBlank, hspace, decide_false, Bool.false_or, Bool.and_eq_false_iff,
      decide_eq_false_iff_not]
    omega
  have hminus : c ≠ '-' := by
    rintro rfl
    exact absurd hc (by decide)
  have hplus : c ≠ '+' := by
    rintro rfl
    exact absurd hc (by decide)
  unfold readInteger
  rw [hspelling, List.dropWhile_cons_of_neg (by simp [hblank])]
  split
  · simp_all
  · simp_all
  · rw [readUnsigned_of_isDigit hne h]
    split <;> rfl

/-! ## Zeros at the front -/

/-- A run of digits that does not start with a zero is how its value is written. -/
theorem toDigits_ofDigitChars (hne : digits ≠ []) (h : ∀ c ∈ digits, c.isDigit)
    (hzero : digits.head? ≠ some '0') :
    Nat.toDigits 10 (Nat.ofDigitChars 10 digits 0) = digits := by
  induction digits using List.reverseRecOn with
  | nil => exact absurd rfl hne
  | append_singleton front d ih =>
    have hd : d.isDigit := h d (by simp)
    have hrange : 48 ≤ d.toNat ∧ d.toNat ≤ 57 := Char.isDigit_iff_toNat.mp hd
    have hlast : Nat.toDigits 10 (d.toNat - 48) = [d] := by
      rw [Nat.toDigits_of_lt_base (by omega), digitChar_toNat_sub hd]
    rw [Nat.ofDigitChars_append, Nat.ofDigitChars_cons, Nat.ofDigitChars_nil]
    cases front with
    | nil => simpa using hlast
    | cons c front =>
      have hdigits : ∀ x ∈ c :: front, x.isDigit := fun x hx => h x (List.mem_append_left _ hx)
      have hfront := ih (by simp) hdigits (by simpa using hzero)
      -- The value in front of the last digit is not zero, or else `0` would stand there.
      have hpos : 0 < Nat.ofDigitChars 10 (c :: front) 0 := by
        rw [Nat.pos_iff_ne_zero]
        intro hvalue
        rw [hvalue, Nat.toDigits_zero] at hfront
        simp [← hfront] at hzero
      have happend := Nat.toDigits_append_toDigits (by decide : 1 < 10) hpos
        (by omega : d.toNat - 48 < 10)
      rw [hfront, hlast] at happend
      exact happend.symm

theorem head?_toDigits_ne_zero {n : Nat} (h : n ≠ 0) : (Nat.toDigits 10 n).head? ≠ some '0' := by
  induction n using Nat.strongRecOn with
  | ind n ih =>
    rw [Nat.toDigits_eq_if (by decide)]
    split
    · rename_i hlt
      have hchar : Nat.digitChar n ≠ '0' := by
        intro heq
        have hvalue := congrArg Char.toNat heq
        rw [Nat.toNat_digitChar_of_lt_ten hlt] at hvalue
        simp at hvalue
        omega
      simpa using hchar
    · rename_i hge
      have hfront := ih (n / 10) (by omega) (by omega)
      rwa [List.head?_append_of_ne_nil _ Nat.toDigits_ne_nil]

end Text

/-! ## Operations -/

open Token

theorem Direction.symbol_mem (dir : Direction) : dir.symbol ∈ ['+', '-'] := by
  cases dir <;> decide

theorem TimeUnit.symbol_mem (u : TimeUnit) :
    u.symbol ∈ ['s', 'm', 'h', 'd', 'w', 'M', 'y'] := by
  cases u with
  | fixed u => cases u <;> decide
  | month => decide
  | year => decide

namespace Operation

/-- An operation that can be written: a step has a natural number for its amount, with no more
    digits than a numeral may have. -/
def Writable : Operation → Prop
  | .move _ _ amount => 0 ≤ amount ∧ (Nat.toDigits 10 amount.toNat).length ≤ Text.digitLimit
  | .round _ => True

/-- Every amount below the length of the calendar can be written. -/
theorem writable_move {n : Nat} (h : n < Calendar.dayLimit * microsPerDay) (dir : Direction)
    (u : TimeUnit) : Writable (.move dir u n) := by
  have hdigits : (Nat.toDigits 10 n).length ≤ 18 :=
    (Nat.length_toDigits_le_iff (by decide) (by decide)).mpr (Nat.lt_of_lt_of_le h (by decide))
  exact ⟨Int.natCast_nonneg n, Nat.le_trans hdigits (by decide)⟩

/-- A step, as opposed to a rounding. -/
def IsMove : Operation → Prop
  | .move .. => True
  | .round _ => False

theorem chars_move (dir : Direction) (u : TimeUnit) (n : Nat) :
    chars (.move dir u n) = dir.symbol :: Nat.toDigits 10 n ++ [u.symbol] := by
  rw [← Nat.toList_repr]
  rfl

theorem digit_of_mem_toDigits {n : Nat} {c : Char} (h : c ∈ Nat.toDigits 10 n) :
    '0' ≤ c ∧ c ≤ '9' :=
  isDigit_iff.mp (Nat.isDigit_of_mem_toDigits (by decide) (by decide) h)

/-! ### Reading a token -/

/-- A step is read from its token as long as its amount has not too many digits. -/
theorem ofToken_step (dir : Direction) (u : TimeUnit) {digits : List Char} (hne : digits ≠ [])
    (h : ∀ c ∈ digits, c.isDigit) :
    ofToken (dir.symbol :: digits ++ [u.symbol]) =
      if Text.digitLimit < digits.length then
        .error (.number digits (.tooLong digits.length))
      else .ok (.move dir u (Nat.ofDigitChars 10 digits 0 : Nat)) := by
  have hoperator := Operator.ofSymbol?_symbol (.move dir)
  simp only [Operator.symbol] at hoperator
  simp only [List.cons_append, ofToken, hoperator, List.getLastD_concat, TimeUnit.ofSymbol?_symbol,
    List.dropLast_concat, Text.readInteger_of_isDigit hne h]
  by_cases hlong : Text.digitLimit < digits.length
  · simp only [hlong, if_true]
  · simp only [hlong, if_false]

theorem ofToken_chars {op : Operation} (hop : op.Writable) : ofToken op.chars = .ok op := by
  cases op with
  | round u =>
    simp [chars, ofToken, Operator.ofSymbol?]
  | move dir u amount =>
    obtain ⟨n, rfl⟩ := Int.eq_ofNat_of_zero_le hop.1
    have hlength : (Nat.toDigits 10 n).length ≤ Text.digitLimit := hop.2
    rw [chars_move, ofToken_step dir u Nat.toDigits_ne_nil
      (fun c hc => Nat.isDigit_of_mem_toDigits (by decide) (by decide) hc),
      if_neg (by omega), Nat.ofDigitChars_ten_toDigits]

theorem mapM_ofToken_chars {ops : List Operation} (hops : ∀ op ∈ ops, op.Writable) :
    (ops.map chars).mapM ofToken = .ok ops := by
  induction ops with
  | nil => rfl
  | cons op ops ih =>
    rw [List.forall_mem_cons] at hops
    rw [List.map_cons, List.mapM_cons, ofToken_chars hops.1, ih hops.2]
    rfl

end Operation

end RelativeDate
