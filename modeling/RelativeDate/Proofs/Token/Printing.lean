import Mathlib.Algebra.Ring.Int.Defs
import RelativeDate.Proofs.Token.Meaning

/-! # Printing operations

The printed forms of operations can be put together without any mark between them, and the tokens
of the whole are the printed forms again. So operations are read back from their text. A suffix is
printed again with the same tokens, except that its amounts have lost the zeros at their front. -/

namespace RelativeDate

/-! ## Zeros at the front -/

namespace Text

variable {digits : List Char}

/-- A run of digits without the zeros at its front. If there is no other digit, one zero stays. -/
def trimZeros : List Char → List Char
  | '0' :: d :: digits => trimZeros (d :: digits)
  | digits => digits

theorem length_trimZeros_le (digits : List Char) : (trimZeros digits).length ≤ digits.length := by
  fun_induction trimZeros digits with
  | case1 d digits ih => exact Nat.le_succ_of_le ih
  | case2 digits _ => exact Nat.le_refl _

/-- The value of a run of digits is written without the zeros at the front of the run. -/
theorem toDigits_ofDigitChars_eq_trimZeros (hne : digits ≠ []) (h : ∀ c ∈ digits, c.isDigit) :
    Nat.toDigits 10 (Nat.ofDigitChars 10 digits 0) = trimZeros digits := by
  fun_induction trimZeros digits with
  | case1 d digits ih =>
    rw [List.forall_mem_cons] at h
    exact ih (List.cons_ne_nil d digits) h.2
  | case2 digits hkept =>
    by_cases hzero : digits.head? = some '0'
    · -- Only a zero that is alone is kept.
      obtain ⟨rest, rfl⟩ := List.head?_eq_some_iff.mp hzero
      cases rest with
      | nil => decide
      | cons d rest => exact absurd rfl (hkept d rest)
    · exact toDigits_ofDigitChars hne h hzero

end Text

namespace Token

variable {t : Token} {ts : List Token} {op : Operation} {ops : List Operation}

/-- A token whose amount has lost the zeros at its front. In a rounding there is no amount. -/
def trimZeros : Token → Token
  | [] => []
  | operator :: rest => operator :: Text.trimZeros rest.dropLast ++ rest.getLast?.toList

/-! ## Printing what was read -/

/-- The operation that a token writes is printed as this token without the zeros. -/
theorem Writes.chars_eq_trimZeros (h : Writes t op) : op.chars = t.trimZeros := by
  cases h with
  | @step dir u digits hne hdigits =>
    rw [Operation.chars_move,
      Text.toDigits_ofDigitChars_eq_trimZeros hne fun c hc => isDigit_iff.mpr (hdigits c hc)]
    simp [trimZeros]
  | rounding u => rfl

theorem map_chars_eq_map_trimZeros (h : List.Forall₂ Writes ts ops) :
    ops.map Operation.chars = ts.map trimZeros := by
  induction h with
  | nil => rfl
  | cons hop _ ih => rw [List.map_cons, List.map_cons, hop.chars_eq_trimZeros, ih]

/-- What a token writes can be written as long as the token can be read. -/
theorem Writes.writable (h : Writes t op) (hshort : t.amountDigits.length ≤ Text.digitLimit) :
    op.Writable := by
  cases h with
  | @step dir u digits hne hdigits =>
    rw [amountDigits_step] at hshort
    refine ⟨Int.natCast_nonneg _, ?_⟩
    rw [Int.toNat_natCast,
      Text.toDigits_ofDigitChars_eq_trimZeros hne fun c hc => isDigit_iff.mpr (hdigits c hc)]
    exact Nat.le_trans (Text.length_trimZeros_le digits) hshort
  | rounding u => trivial

theorem forall_writable (h : List.Forall₂ Writes ts ops)
    (hshort : ∀ t ∈ ts, t.amountDigits.length ≤ Text.digitLimit) : ∀ op ∈ ops, op.Writable := by
  induction h with
  | nil => simp
  | cons hop _ ih =>
    rw [List.forall_mem_cons] at hshort ⊢
    exact ⟨hop.writable hshort.1, ih hshort.2⟩

theorem Writes.isMove (h : Writes t op) (hstep : IsStep t) : op.IsMove := by
  cases h with
  | step dir u hne hdigits => trivial
  | rounding u => exact absurd (.intro u.symbol_mem) hstep.not_isRounding

/-- Only the last token of a sequence may write a rounding. -/
theorem IsSequence.isMove_of_mem_dropLast (hts : IsSequence ts)
    (h : List.Forall₂ Writes ts ops) : ∀ op ∈ ops.dropLast, op.IsMove := by
  induction hts generalizing ops with
  | nil =>
    cases h
    simp
  | rounding ht =>
    obtain ⟨op, rest, -, hrest, rfl⟩ := List.forall₂_cons_left_iff.mp h
    cases hrest
    simp
  | step ht hts ih =>
    obtain ⟨op, rest, hop, hrest, rfl⟩ := List.forall₂_cons_left_iff.mp h
    cases rest with
    | nil => simp
    | cons next rest =>
      rw [List.dropLast_cons_of_ne_nil (List.cons_ne_nil next rest), List.forall_mem_cons]
      exact ⟨hop.isMove ht, ih hrest⟩

end Token

open Token Operation

variable {suffix expression : String} {ts : List Token} {ops : List Operation}

/-! ## Reading what was printed -/

/-- The operations of a suffix are those that its tokens write, as long as no amount is too long. -/
theorem operationsOf_eq_ok_iff :
    operationsOf suffix expression = .ok ops ↔
      ∃ ts, tokensOf suffix expression = .ok ts ∧ List.Forall₂ Writes ts ops ∧
        ∀ t ∈ ts, t.amountDigits.length ≤ Text.digitLimit := by
  rw [operationsOf]
  cases htokens : tokensOf suffix expression with
  | error cause => simp [bind, Except.bind]
  | ok ts =>
    obtain ⟨written, hwrites⟩ := (tokensOf_eq_ok_iff.mp htokens).2.1.exists_writes
    change (ts.mapM ofToken).mapError _ = _ ↔ _
    constructor
    · intro h
      rcases mapM_ofToken hwrites with ⟨hshort, hread⟩ | ⟨long, -, -, hread⟩
      · rw [hread] at h
        obtain rfl : written = ops := Except.ok.inj h
        exact ⟨ts, rfl, hwrites, hshort⟩
      · rw [hread] at h
        cases h
    · rintro ⟨found, hfound, hops, hshort⟩
      obtain rfl : ts = found := Except.ok.inj hfound
      rcases mapM_ofToken hops with ⟨-, hread⟩ | ⟨long, hmem, hlong, -⟩
      · rw [hread]
        rfl
      · exact absurd (hshort long hmem) (Nat.not_le.mpr hlong)

theorem toList_join_text (ops : List Operation) :
    (String.join (ops.map Operation.text)).toList = (ops.map chars).flatten := by
  rw [String.toList_join, List.flatMap_map, ← List.flatMap_def]
  exact List.flatMap_congr fun op _ => String.toList_ofList

/-- Printed operations are read back when only the last one may be a rounding. -/
theorem operationsOf_join_text (hne : ops ≠ []) (hops : ∀ op ∈ ops, op.Writable)
    (hmoves : ∀ op ∈ ops.dropLast, op.IsMove) (expression : String) :
    operationsOf (String.join (ops.map Operation.text)) expression = .ok ops := by
  have hseq := isSequence_map_chars hops hmoves
  have hflat := toList_join_text ops
  have htext : String.join (ops.map Operation.text) ≠ "" := by
    rw [Ne, ← String.toList_eq_nil_iff, hflat]
    exact hseq.flatten_ne_nil (by simpa using hne)
  have hshort : ∀ t ∈ ops.map chars, (amountDigits t).length ≤ Text.digitLimit := by
    rw [List.forall_mem_map]
    exact fun op hop => length_amountDigits_chars (hops op hop)
  exact operationsOf_eq_ok_iff.mpr
    ⟨_, tokensOf_eq_ok_iff.mpr ⟨htext, hseq, hflat.symm⟩, writes_map_chars hops, hshort⟩

theorem writable_move_iff {dir : Direction} {u : TimeUnit} {amount : Int} :
    (move dir u amount).Writable ↔ 0 ≤ amount ∧ amount < 10 ^ Text.digitLimit := by
  rw [Writable, Nat.length_toDigits_le_iff (by decide) (by decide)]
  constructor
  · rintro ⟨hnonneg, hlt⟩
    rw [Int.toNat_lt hnonneg, Int.natCast_pow] at hlt
    exact ⟨hnonneg, hlt⟩
  · rintro ⟨hnonneg, hlt⟩
    rw [Int.toNat_lt hnonneg, Int.natCast_pow]
    exact ⟨hnonneg, hlt⟩

/-- Operations are read back from what is printed for them, whatever their amounts below 10 ^ 4300
    are, as long as only the last of them may be a rounding. The operations of a suffix are printed
    as its tokens without the zeros at the front of the amounts, and this text has the same
    operations. -/
theorem operations_printed_and_read :
    (∀ (ops : List Operation) (expression : String), ops ≠ [] →
      (∀ op ∈ ops.dropLast, op.IsMove) →
      (∀ dir u amount, .move dir u amount ∈ ops → 0 ≤ amount ∧ amount < 10 ^ 4300) →
      operationsOf (String.join (ops.map Operation.text)) expression = .ok ops) ∧
    ∀ (suffix expression : String) (ops : List Operation),
      operationsOf suffix expression = .ok ops →
      ∃ ts, tokensOf suffix expression = .ok ts ∧ ts.flatten = suffix.toList ∧
        (String.join (ops.map Operation.text)).toList = (ts.map Token.trimZeros).flatten ∧
        ∀ other, operationsOf (String.join (ops.map Operation.text)) other = .ok ops := by
  refine ⟨?_, ?_⟩
  · intro ops expression hne hmoves hamounts
    have hops : ∀ op ∈ ops, op.Writable := by
      intro op hop
      cases op with
      | move dir u amount => exact writable_move_iff.mpr (hamounts dir u amount hop)
      | round u => trivial
    exact operationsOf_join_text hne hops hmoves expression
  · intro suffix expression ops h
    obtain ⟨ts, htokens, hwrites, hshort⟩ := operationsOf_eq_ok_iff.mp h
    obtain ⟨hsuffix, hseq, hflat⟩ := tokensOf_eq_ok_iff.mp htokens
    have hne : ops ≠ [] := by
      rintro rfl
      cases hwrites
      exact hsuffix (String.toList_eq_nil_iff.mp hflat.symm)
    refine ⟨ts, htokens, hflat, ?_, ?_⟩
    · rw [toList_join_text, map_chars_eq_map_trimZeros hwrites]
    · exact operationsOf_join_text hne (forall_writable hwrites hshort)
        (hseq.isMove_of_mem_dropLast hwrites)

/-- The longest amount there is, and a suffix with zeros at the front of all its amounts. -/
theorem operations_printed_and_read_zeros :
    let longest : List Operation :=
      [.move .forward (.fixed .second) (10 ^ 4300 - 1), .round (.fixed .week)]
    let ops : List Operation :=
      [.move .forward .month 0, .move .backward (.fixed .day) 120, .round .year]
    operationsOf (String.join (longest.map Operation.text)) "" = .ok longest ∧
      operationsOf "+00M-0120d/y" = .ok ops ∧
      String.join (ops.map Operation.text) = "+0M-120d/y" ∧
      operationsOf "+0M-120d/y" = .ok ops := by
  intro longest ops
  have hlongest : ∀ dir u amount, .move dir u amount ∈ longest →
      0 ≤ amount ∧ amount < 10 ^ 4300 := by
    intro dir u amount hmem
    rcases List.mem_cons.mp hmem with hmove | hround
    · have hamount := (Operation.move.inj hmove).2.2
      rw [hamount]
      exact ⟨Int.le_sub_one_of_lt (Int.pow_pos (by decide)), Int.sub_one_lt_of_le (Int.le_refl _)⟩
    · cases List.mem_singleton.mp hround
  have hmoves : ∀ op ∈ longest.dropLast, op.IsMove := by
    intro op hop
    obtain rfl := List.mem_singleton.mp hop
    trivial
  have hread : operationsOf "+00M-0120d/y" = .ok ops := by rfl
  have htext : String.join (ops.map Operation.text) = "+0M-120d/y" := by decide
  refine ⟨?_, hread, htext, ?_⟩
  · exact operations_printed_and_read.1 longest "" (List.cons_ne_nil _ _) hmoves hlongest
  · obtain ⟨ts, -, -, -, hagain⟩ := operations_printed_and_read.2 _ _ ops hread
    rw [← htext]
    exact hagain _

end RelativeDate
