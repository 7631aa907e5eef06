import RelativeDate.Proofs.Evaluator

/-! # Sessions

A session is a run of calls of one evaluator. What the calls before it were and how they ended
matters to a call only through the number of readings that they took. Without a base a call takes
one reading, or none if its argument is at fault already, and with a base no call takes any. -/

namespace RelativeDate

open Calendar

/-! ## Calls -/

/-- A call of an evaluator. -/
inductive Call
  | evaluate (v : Value)
  | express (v : Value)
  | anchor

/-- The reply to a call, be it an answer or a failure. -/
inductive Reply
  | evaluated (answer : Evaluator.Answer)
  | expressed (outcome : Except Evaluator.Failure String)
  | anchored (outcome : Except InstantError Instant)

/-- The number of readings that a call takes of the clock when there is no base. None is taken to
    evaluate what is no text, nor to express what is no date and time or lies outside the years
    1 to 9999 in UTC. -/
def Call.readings : Call → Nat
  | .evaluate (.text _) => 1
  | .evaluate _ => 0
  | .express (.dateTime d) =>
    if Within (dayLimit * microsPerDay) (d.civil.micros - d.offset.getD 0) then 1 else 0
  | .express _ => 0
  | .anchor => 1

/-- The readings of a clock from position `n` on. -/
def Clock.drop (clock : Clock) (n : Nat) : Clock :=
  fun k => clock (n + k)

/-- A date and time denotes no instant when it lies outside the years 1 to 9999 in UTC. -/
theorem DateTime.normalize?_eq_none_iff {d : DateTime} :
    d.normalize? = none ↔
      ¬ Within (dayLimit * microsPerDay) (d.civil.micros - d.offset.getD 0) := by
  rw [normalize?, Option.map_eq_none_iff, toUtc?, Instant.addMicros?_eq_none_iff,
    Int.sub_eq_add_neg]

namespace Evaluator

def call (c : Evaluator) : Call → StateM Nat Reply
  | .evaluate v => .evaluated <$> c.evaluate v
  | .express v => .expressed <$> c.express v
  | .anchor => .anchored <$> c.anchor

/-- Make calls one after the other. A call that fails does not keep the next one from being
    made. -/
def session (c : Evaluator) (calls : List Call) : StateM Nat (List Reply) :=
  calls.mapM c.call

variable {c other : Evaluator} {d : DateTime}

/-! ## Single calls -/

theorem run_anchor_of_base (h : c.config.base = some d) (n : Nat) :
    c.anchor.run n = ((Value.dateTime d).normalize, n) := by
  unfold anchor
  rw [h]
  rfl

theorem run_anchor_of_clock (h : c.config.base = none) (n : Nat) :
    c.anchor.run n = ((c.clock n).normalize, n + 1) := by
  unfold anchor
  rw [h]
  rfl

/-- Without a base a call gets the reply of an evaluator whose clock starts at this position, and
    its readings are taken. -/
theorem run_call_of_clock (h : c.config.base = none) (call : Call) (n : Nat) :
    (c.call call).run n =
      ((({ c with clock := c.clock.drop n }.call call).run 0).1, n + call.readings) := by
  let fresh : Evaluator := { c with clock := c.clock.drop n }
  have hanchor := run_anchor_of_clock h n
  have hfresh : (fresh.anchor.run 0).1 = (c.clock n).normalize :=
    congrArg Prod.fst (run_anchor_of_clock (c := fresh) h 0)
  cases call with
  | anchor =>
    change (Reply.anchored (c.anchor.run n).1, (c.anchor.run n).2) =
      (.anchored (fresh.anchor.run 0).1, n + 1)
    rw [hanchor, hfresh]
  | evaluate v =>
    cases v with
    | text s =>
      change (Reply.evaluated (c.answer s (c.anchor.run n).1), (c.anchor.run n).2) =
        (.evaluated (c.answer s (fresh.anchor.run 0).1), n + 1)
      rw [hanchor, hfresh]
    -- What is no text is refused before the clock is looked at.
    | _ => rfl
  | express v =>
    cases v with
    | dateTime d =>
      have hrange := @DateTime.normalize?_eq_none_iff d
      simp only [call, express, Value.normalize, Call.readings]
      cases hd : d.normalize? with
      | none =>
        rw [if_neg (hrange.mp hd)]
        rfl
      | some t =>
        rw [if_pos (Decidable.not_not.mp fun hout => by simp [hrange.mpr hout] at hd)]
        change (Reply.expressed (c.expressionFor t (c.anchor.run n).1), (c.anchor.run n).2) =
          (.expressed (c.expressionFor t (fresh.anchor.run 0).1), n + 1)
        rw [hanchor, hfresh]
    | _ => rfl

/-- With a base a call leaves the clock alone, and gets the reply of any evaluator with the same
    configuration. -/
theorem run_call_of_base (h : c.config.base = some d) (hconfig : other.config = c.config)
    (call : Call) (n m : Nat) :
    (c.call call).run n = (((other.call call).run m).1, n) := by
  obtain ⟨config, clock⟩ := other
  obtain rfl : config = c.config := hconfig
  have hanchor := run_anchor_of_base h n
  have hother := run_anchor_of_base (c := ⟨c.config, clock⟩) h m
  cases call with
  | anchor =>
    change (Reply.anchored (c.anchor.run n).1, (c.anchor.run n).2) =
      (.anchored ((anchor ⟨c.config, clock⟩).run m).1, n)
    rw [hanchor, hother]
  | evaluate v =>
    cases v with
    | text s =>
      change (Reply.evaluated (c.answer s (c.anchor.run n).1), (c.anchor.run n).2) =
        (.evaluated (c.answer s ((anchor ⟨c.config, clock⟩).run m).1), n)
      rw [hanchor, hother]
    | _ => rfl
  | express v =>
    simp only [call, express]
    cases v.normalize with
    | error cause => rfl
    | ok t =>
      change (Reply.expressed (c.expressionFor t (c.anchor.run n).1), (c.anchor.run n).2) =
        (.expressed (c.expressionFor t ((anchor ⟨c.config, clock⟩).run m).1), n)
      rw [hanchor, hother]

/-- A round trip makes its second call where the first one has left the clock. -/
theorem run_roundTrip {v : Value} {e : String} {n : Nat} (h : ((c.express v).run n).1 = .ok e) :
    (c.roundTrip v).run n =
      let second := (c.evaluate (.text e)).run ((c.express v).run n).2
      (second.1.outcome.map fun d => (e, d), second.2) := by
  unfold roundTrip
  rw [StateT.run_bind]
  simp only [h, bind]
  rfl

/-- What has been written as an expression denotes an instant, so a reading was taken. -/
theorem readings_of_express {v : Value} {e : String} {n : Nat}
    (h : ((c.express v).run n).1 = .ok e) : (Call.express v).readings = 1 := by
  cases v with
  | dateTime d =>
    refine if_pos (Decidable.not_not.mp fun hout => ?_)
    rw [← DateTime.normalize?_eq_none_iff] at hout
    simp [express, Value.normalize, hout] at h
  | _ => cases h

theorem readings_roundTrip (hbase : c.config.base = none) {v : Value} {e : String} {n : Nat}
    (h : ((c.express v).run n).1 = .ok e) : ((c.roundTrip v).run n).2 = n + 2 := by
  have hfirst : ((c.express v).run n).2 = n + 1 :=
    readings_of_express h ▸ congrArg Prod.snd (run_call_of_clock hbase (.express v) n)
  have hsecond : ((c.evaluate (.text e)).run (n + 1)).2 = n + 1 + 1 :=
    congrArg Prod.snd (run_call_of_clock hbase (.evaluate (.text e)) (n + 1))
  rw [run_roundTrip h, hfirst]
  exact hsecond

/-! ## Runs of calls -/

@[simp] theorem run_session_nil (c : Evaluator) (n : Nat) : (c.session []).run n = ([], n) := rfl

theorem run_session_cons (c : Evaluator) (first : Call) (calls : List Call) (n : Nat) :
    (c.session (first :: calls)).run n =
      (((c.call first).run n).1 :: ((c.session calls).run ((c.call first).run n).2).1,
        ((c.session calls).run ((c.call first).run n).2).2) := by
  rw [session, List.mapM_cons]
  rfl

/-- A call of a session gets its reply where the calls before it have left the clock. -/
theorem session_getElem? (c : Evaluator) (n : Nat) {calls : List Call} {k : Nat} {call : Call}
    (h : calls[k]? = some call) :
    ((c.session calls).run n).1[k]? =
      some ((c.call call).run ((c.session (calls.take k)).run n).2).1 := by
  induction calls generalizing n k with
  | nil => simp at h
  | cons first calls ih =>
    cases k with
    | zero =>
      obtain rfl : first = call := by simpa using h
      rw [run_session_cons]
      rfl
    | succ k =>
      have hreply := ih ((c.call first).run n).2 (by simpa using h)
      rw [List.take_succ_cons, run_session_cons, run_session_cons]
      exact hreply

theorem readings_session (h : c.config.base = none) (calls : List Call) (n : Nat) :
    ((c.session calls).run n).2 = n + (calls.map Call.readings).sum := by
  induction calls generalizing n with
  | nil => rfl
  | cons first calls ih =>
    rw [run_session_cons, ih, run_call_of_clock h, List.map_cons, List.sum_cons, Nat.add_assoc]

theorem run_session_of_base (h : c.config.base = some d) (hconfig : other.config = c.config)
    (calls : List Call) (n m : Nat) :
    (c.session calls).run n = (((other.session calls).run m).1, n) := by
  induction calls generalizing m with
  | nil => rfl
  | cons first calls ih =>
    rw [run_session_cons, run_session_cons, run_call_of_base h hconfig first n m,
      ih ((other.call first).run m).2]

/-! ## Independence -/

/-- The calls of an evaluator are independent of one another. Without a base every call takes its
    readings, which is one reading or none, and is replied to like the first call of an evaluator
    made from the same settings whose clock starts at this position. So a round trip takes two
    readings when there is an expression. With a base no reading is taken, and no reading
    matters. -/
theorem session_fresh {wall : Clock} {given : ClockArgument} {settings : SettingsArgument}
    {c : Evaluator} (h : make wall given settings = .ok c) (n : Nat) :
    (c.config.base = none →
      (∀ calls, ((c.session calls).run n).2 = n + (calls.map Call.readings).sum ∧
        ∀ k call, calls[k]? = some call →
          ∃ fresh, make wall
              (.clock (c.clock.drop (n + ((calls.take k).map Call.readings).sum))) settings =
                .ok fresh ∧
            ((c.session calls).run n).1[k]? = some ((fresh.call call).run 0).1) ∧
      ∀ v e, ((c.express v).run n).1 = .ok e → ((c.roundTrip v).run n).2 = n + 2) ∧
    (c.config.base ≠ none → ∀ calls, ((c.session calls).run n).2 = n ∧
      ∀ (clock : Clock) (m : Nat),
        (({ c with clock }.session calls).run m).1 = ((c.session calls).run n).1) := by
  refine ⟨?_, ?_⟩
  · intro hbase
    refine ⟨?_, ?_⟩
    · intro calls
      refine ⟨readings_session hbase calls n, ?_⟩
      intro k call hcall
      obtain ⟨held, hheld, -, hcheck⟩ := make_eq_ok_iff.mp h
      let position := n + ((calls.take k).map Call.readings).sum
      refine ⟨{ c with clock := c.clock.drop position }, ?_, ?_⟩
      · exact make_eq_ok_iff.mpr ⟨held, hheld, rfl, hcheck⟩
      · rw [session_getElem? c n hcall, readings_session hbase, run_call_of_clock hbase]
    · intro v e he
      exact readings_roundTrip hbase he
  · intro hbase calls
    obtain ⟨d, hd⟩ := Option.ne_none_iff_exists'.mp hbase
    refine ⟨?_, ?_⟩
    · rw [run_session_of_base hd rfl calls n n]
    · intro clock m
      have hsame := @run_session_of_base c { c with clock } d hd rfl calls n m
      exact (congrArg Prod.fst hsame).symm

/-- A clock gives no date and time first, and then 1 May 2020. The expression fails on the first
    reading, so the anchor after it is the second one. The other two calls take none. -/
theorem session_fresh_two_readings :
    let may : Instant := ⟨737545 * microsPerDay, by decide⟩
    let clock : Clock := .ofReadings .null [.dateTime (.bare may)]
    let settings : SettingsArgument := .entries [(Setting.withOffset.name, .bool false)]
    let c : Evaluator := ⟨{ Config.default with withOffset := false }, clock⟩
    let calls : List Call :=
      [.express (.text "1 May"), .evaluate (.text "now"), .evaluate (.integer 1), .anchor]
    make (.still .null) (.clock clock) settings = .ok c ∧ ((c.session calls).run 0).2 = 2 ∧
      ((c.session calls).run 0).1[1]? =
        some (.evaluated ⟨[], .error (.instant (.notDateTime .null))⟩) ∧
      ((c.session calls).run 0).1[3]? = some (.anchored (.ok may)) := by
  intro may clock settings c calls
  have hmake : make (.still .null) (.clock clock) settings = .ok c := rfl
  obtain ⟨hreadings, hreplies⟩ := ((session_fresh hmake 0).1 rfl).1 calls
  obtain ⟨first, hfirst, hfailure⟩ := hreplies 1 (.evaluate (.text "now")) rfl
  obtain ⟨second, hsecond, hanchor⟩ := hreplies 3 .anchor rfl
  obtain rfl : { c with clock := clock.drop 0 } = first := Except.ok.inj hfirst
  obtain rfl : { c with clock := clock.drop 1 } = second := Except.ok.inj hsecond
  have hmay : (Value.dateTime (.bare may)).normalize = .ok may :=
    normalize_present c (t := may) (by decide)
  refine ⟨hmake, hreadings, hfailure, ?_⟩
  exact hanchor.trans (congrArg (fun a => some (Reply.anchored a)) hmay)

end Evaluator

end RelativeDate
