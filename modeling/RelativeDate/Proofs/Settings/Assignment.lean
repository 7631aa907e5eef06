import Mathlib.Data.List.Induction
import RelativeDate.Proofs.Settings

/-! # Names and their values

What is held after names were given their values one after the other. A name has its last value, and
the names are in the order in which they came up first. -/

namespace RelativeDate

variable {held updates : List Entry} {entry : Entry} {name : String}

/-! ## Names -/

theorem assignAll_append (held first second : List Entry) :
    assignAll held (first ++ second) = assignAll (assignAll held first) second :=
  List.foldl_append

/-- Values for new names are put behind those that are held. -/
theorem assignAll_eq_append (h : ((held ++ updates).map Prod.fst).Nodup) :
    assignAll held updates = held ++ updates := by
  induction updates generalizing held with
  | nil => exact (List.append_nil held).symm
  | cons entry updates ih =>
    have hnew : entry.1 ∉ held.map Prod.fst := by
      rw [List.map_append, List.nodup_append] at h
      intro hmem
      exact h.2.2 _ hmem _ (by simp) rfl
    rw [List.append_cons] at h ⊢
    rw [assignAll_cons, assign_eq, if_neg hnew, ih h]

/-- Names are held in the order in which they came up first. -/
theorem map_fst_assignAll (updates : List Entry) :
    (assignAll [] updates).map Prod.fst = (updates.map Prod.fst).eraseDups := by
  -- From the last update back, as it is the only one that finds the others held.
  induction updates using List.reverseRecOn with
  | nil => rfl
  | append_singleton updates entry ih =>
    have hlast : assignAll [] (updates ++ [entry]) = assign (assignAll [] updates) entry :=
      assignAll_append [] updates [entry]
    rw [hlast, List.map_append, List.eraseDups_append]
    simp only [map_fst_assign, ih, List.mem_eraseDups]
    split
    · rename_i hmem
      simp [List.removeAll, hmem]
    · rename_i hmem
      simp [List.removeAll, hmem, List.eraseDups_cons]

/-! ## Values -/

theorem lookup_entry_cons (entry : Entry) (held : List Entry) (name : String) :
    (entry :: held).lookup name = if name = entry.1 then some entry.2 else held.lookup name := by
  obtain ⟨key, v⟩ := entry
  rw [List.lookup_cons]
  by_cases h : name = key
  · rw [if_pos h, h, beq_self_eq_true]
  · rw [if_neg h, beq_false_of_ne h]

theorem lookup_eq_none_iff_notMem : held.lookup name = none ↔ name ∉ held.map Prod.fst := by
  simp only [List.lookup_eq_none_iff, bne_iff_ne, List.mem_map, not_exists, not_and]
  exact ⟨fun h e he heq => h e he heq.symm, fun h e he heq => h e he heq.symm⟩

/-- A value that takes the place of another one changes what its own name has. -/
theorem lookup_map_replace (held : List Entry) (entry : Entry) (name : String) :
    (held.map fun old => if old.1 = entry.1 then entry else old).lookup name =
      if name = entry.1 then (held.lookup name).map fun _ => entry.2 else held.lookup name := by
  induction held with
  | nil => split <;> rfl
  | cons old held ih =>
    rw [List.map_cons, lookup_entry_cons, lookup_entry_cons, ih]
    by_cases hold : old.1 = entry.1
    · by_cases hname : name = entry.1 <;> simp [hold, hname]
    · by_cases hname : name = entry.1
      · simp [hold, hname, Ne.symm hold]
      · simp [hold, hname]

theorem lookup_assign (held : List Entry) (entry : Entry) (name : String) :
    (assign held entry).lookup name =
      if name = entry.1 then some entry.2 else held.lookup name := by
  rw [assign_eq]
  split
  · rename_i hmem
    rw [lookup_map_replace]
    split
    · rename_i hname
      obtain ⟨old, hold⟩ := Option.ne_none_iff_exists'.mp
        (mt lookup_eq_none_iff_notMem.mp (not_not.mpr hmem))
      rw [hname, hold]
      rfl
    · rfl
  · rename_i hnew
    rw [List.lookup_append, lookup_entry_cons]
    split
    · rename_i hname
      rw [hname, lookup_eq_none_iff_notMem.mpr hnew]
      rfl
    · exact Option.or_none

/-- A name has the last value that it was given. -/
theorem lookup_assignAll (held updates : List Entry) (name : String) :
    (assignAll held updates).lookup name =
      (updates.reverse.lookup name).or (held.lookup name) := by
  induction updates generalizing held with
  | nil => rfl
  | cons entry updates ih =>
    rw [assignAll_cons, ih, lookup_assign, List.reverse_cons, List.lookup_append, Option.or_assoc,
      lookup_entry_cons]
    split
    · rfl
    · rfl

end RelativeDate
