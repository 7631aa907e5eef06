import RelativeDate.Proofs.DateTime.Reading
import RelativeDate.Proofs.Token.Meaning
import RelativeDate.Trace

/-! # What the log shows

A record of the log shows as a line: the channel that it goes to, and a text. The text of a step
names its operation and the instants before and after it. All three can be told from the text, so
steps that show the same are the same. -/

namespace RelativeDate

open Operation Token

/-! ## Quotes -/

namespace Text

/-- A character that stands between single quotes as it is. -/
def IsPlain (c : Char) : Prop :=
  c ≠ '\'' ∧ c ≠ '\\' ∧ isPrintable c

instance (c : Char) : Decidable (IsPlain c) :=
  inferInstanceAs (Decidable (_ ∧ _))

theorem escape_of_isPlain {c : Char} (h : IsPlain c) : escape '\'' c = [c] := by
  obtain ⟨hquote, hbackslash, hprintable⟩ := h
  have hshown {d : Char} (hd : isPrintable d = false) : c ≠ d := by
    rintro rfl
    simp [hd] at hprintable
  have htab : c ≠ '\t' := hshown (by decide)
  have hnewline : c ≠ '\n' := hshown (by decide)
  have hreturn : c ≠ '\r' := hshown (by decide)
  simp [escape, hquote, hbackslash, htab, hnewline, hreturn, hprintable]

theorem quoted_of_isPlain {s : String} (h : ∀ c ∈ s.toList, IsPlain c) :
    quoted s = "'" ++ s ++ "'" := by
  have hmark : quoteMark s.toList = '\'' := by
    have hnone : '\'' ∉ s.toList := fun hmem => (h _ hmem).1 rfl
    simp [quoteMark, hnone]
  have hchars : s.toList.flatMap (escape '\'') = s.toList := by
    rw [List.flatMap_congr fun c hc => escape_of_isPlain (h c hc), List.flatMap_singleton']
  rw [quoted, quotedChars, hmark, hchars, ← String.toList_inj]
  simp

end Text

theorem Token.IsCharacter.isPlain {c : Char} (h : IsCharacter c) : Text.IsPlain c := by
  rcases h with hdigit | hmark
  · have hrange : 48 ≤ c.toNat ∧ c.toNat ≤ 57 := Char.isDigit_iff_toNat.mp hdigit
    refine ⟨Text.ne_of_isDigit hdigit rfl, Text.ne_of_isDigit hdigit rfl, ?_⟩
    simp only [Text.isPrintable]
    rw [if_pos (by omega), decide_eq_true_iff]
    omega
  · exact List.all_iff_forall_prop.mp (by decide) c hmark

/-! ## Texts of records -/

namespace Record

theorem message_tokenized (e : String) (ts : List Token) :
    (tokenized e ts).message =
      "Tokenized " ++ Text.quoted e ++ " into " ++ Text.quotedList (ts.map Token.text) := by
  unfold message
  simp only [toString, String.append_assoc]

theorem message_leapCorrection (days : Int) (t : Instant) (dir : Direction) :
    (leapCorrection days t dir).message =
      "Leap correction of " ++ toString days ++ " day(s) for " ++ t.utcText .whenNeeded ++ " "
        ++ dir.symbol.toString ++ "y" := by
  unfold message shown
  simp only [toString, String.append_assoc]

theorem message_rounded (t s : Instant) (u : TimeUnit) :
    (rounded t s u).message =
      "Rounded " ++ t.utcText .whenNeeded ++ " to " ++ s.utcText .whenNeeded ++ " (/"
        ++ u.symbol.toString ++ ")" := by
  unfold message shown
  simp only [toString, String.append_assoc]

theorem message_applied (step : Step) :
    (applied step).message =
      step.operation.text ++ ": " ++ step.start.utcText .whenNeeded ++ " -> "
        ++ step.finish.utcText .whenNeeded := by
  unfold message shown
  simp only [toString, String.append_assoc]

/-- A record as the log shows it: the channel that it goes to, and its text. -/
def line (r : Record) : String × String :=
  (r.logger, r.message)

/-- The tokens of an expression, and the expression itself, need no more than quotes. -/
theorem line_tokenized {rest : String} {ts : List Token} (hflat : rest.toList = ts.flatten)
    (hts : ∀ t ∈ ts, ∀ c ∈ t, IsCharacter c) :
    (tokenized ("now" ++ rest) ts).line =
      ("datemath.tokenizer",
        "Tokenized '" ++ ("now" ++ rest) ++ "' into ["
          ++ ", ".intercalate (ts.map fun t => "'" ++ t.text ++ "'") ++ "]") := by
  have hexpression : Text.quoted ("now" ++ rest) = "'" ++ ("now" ++ rest) ++ "'" := by
    refine Text.quoted_of_isPlain ?_
    rw [String.toList_append, List.forall_mem_append, hflat]
    refine ⟨List.all_iff_forall_prop.mp (by decide), fun c hc => ?_⟩
    obtain ⟨t, ht, hct⟩ := List.mem_flatten.mp hc
    exact (hts t ht c hct).isPlain
  have htokens : (ts.map Token.text).map Text.quoted = ts.map fun t => "'" ++ t.text ++ "'" := by
    rw [List.map_map]
    refine List.map_congr_left fun t ht => Text.quoted_of_isPlain fun c hc => ?_
    rw [Token.text, String.toList_ofList] at hc
    exact (hts t ht c hc).isPlain
  refine Prod.ext rfl ?_
  rw [line, message_tokenized, hexpression, Text.quotedList, htokens]
  simp only [String.append_assoc]
  rfl

end Record

/-! ## Lines of steps -/

/-- Texts that are the same up to the first `c` in each of them are the same up to there and from
    there on. -/
theorem eq_of_append_cons_eq {c : Char} {front front' rest rest' : List Char} (h : c ∉ front)
    (h' : c ∉ front') (heq : front ++ c :: rest = front' ++ c :: rest') :
    front = front' ∧ rest = rest' := by
  have htake (front rest : List Char) (h : c ∉ front) :
      (front ++ c :: rest).takeWhile (· ≠ c) = front :=
    Text.takeWhile_append_stop (fun d hd => decide_eq_true (ne_of_mem_of_not_mem hd h)) (by simp)
      rest
  obtain rfl : front = front' := by
    rw [← htake front rest h, heq, htake front' rest' h']
  exact ⟨rfl, (List.cons.inj (List.append_cancel_left heq)).2⟩

namespace Step

variable {step other : Step} {steps others : List Step}

/-- The line of a step: its operation, and the instants before and after it. -/
def line (step : Step) : String × String :=
  ("datemath.calculator",
    step.operation.text ++ ": " ++ step.start.utcText .whenNeeded ++ " -> "
      ++ step.finish.utcText .whenNeeded)

theorem line_applied (step : Step) : (Record.applied step).line = step.line :=
  Prod.ext rfl (Record.message_applied step)

/-- A step can be told from its line. The colon ends the operation, and the space behind it the
    first instant. -/
theorem eq_of_line_eq (hstep : step.operation.Writable) (hother : other.operation.Writable)
    (h : step.line = other.line) : step = other := by
  have htext (step : Step) : step.line.2.toList = step.operation.chars ++ ':' :: ' ' ::
      ((step.start.utcText .whenNeeded).toList ++ ' ' ::
        ("-> ".toList ++ (step.finish.utcText .whenNeeded).toList)) := by
    simp [line, Operation.text]
  have hcolon {op : Operation} (hop : op.Writable) : ':' ∉ op.chars := fun hmem =>
    absurd ((writes_chars hop).isCharacter _ hmem) (by decide)
  have hspace (t : Instant) : ' ' ∉ (t.utcText .whenNeeded).toList := fun hmem =>
    absurd (Iso.isDateCharacter_of_mem_utcText t _ _ hmem) (by decide)
  have hlines := congrArg (fun line => String.toList line.2) h
  rw [htext, htext] at hlines
  obtain ⟨hchars, hinstants⟩ := eq_of_append_cons_eq (hcolon hstep) (hcolon hother) hlines
  obtain ⟨hstart, hfinish⟩ :=
    eq_of_append_cons_eq (hspace _) (hspace _) (List.cons.inj hinstants).2
  have hop : step.operation = other.operation := by
    have hread := ofToken_chars hstep
    rw [hchars, ofToken_chars hother] at hread
    exact (Except.ok.inj hread).symm
  have hinstant {t s : Instant}
      (h : (t.utcText .whenNeeded).toList = (s.utcText .whenNeeded).toList) : t = s :=
    Iso.utcText_whenNeeded_injective (String.toList_inj.mp h)
  obtain ⟨op, start, finish⟩ := step
  obtain rfl : op = _ := hop
  obtain rfl : start = _ := hinstant hstart
  obtain rfl : finish = _ := hinstant (List.append_cancel_left hfinish)
  rfl

/-- So can steps that follow one another. -/
theorem eq_of_map_line_eq (hsteps : ∀ step ∈ steps, step.operation.Writable)
    (hothers : ∀ step ∈ others, step.operation.Writable)
    (h : others.map line = steps.map line) : others = steps := by
  induction steps generalizing others with
  | nil => exact List.map_eq_nil_iff.mp h
  | cons step steps ih =>
    obtain ⟨other, rest, rfl, hother, hrest⟩ := List.map_eq_cons_iff.mp h
    rw [List.forall_mem_cons] at hsteps hothers
    rw [eq_of_line_eq hothers.1 hsteps.1 hother, ih hsteps.2 hothers.2 hrest]

end Step

end RelativeDate
