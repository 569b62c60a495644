import Mathlib

/-! Sequences of records in which each one is an accepted successor of the one before, with a
phase and a revision in every record. What one successor keeps is lifted to whole sequences.
-/

namespace RecordChain

open List

variable {Record Plan Phase : Type}

/-- A sequence whose first record is accepted as a first one and whose later records are
accepted after their predecessors.
-/
structure History (first : Record → Prop) (next : Record → Record → Prop)
    (records : List Record)
    : Prop where
  starts : ∀ record ∈ records.head?, first record
  continues : records.IsChain next

namespace History

variable {first : Record → Prop} {next : Record → Record → Prop}

variable {index : Nat}

theorem dropLast (history : History first next (records ++ [record]))
    : History first next records := by
  refine ⟨fun other hf => history.starts other ?_, (isChain_append.mp history.continues).1⟩
  rw [head?_append, hf]
  rfl

theorem last_step (history : History first next (records ++ [record]))
    (isLast : records.getLast? = some last)
    : next last record :=
  (isChain_append.mp history.continues).2.2 last isLast record rfl

/-- What holds of a first record alone and is kept when a successor is added holds of every
sequence.
-/
theorem induct (holds : List Record → Record → Prop)
    (single : ∀ record, first record → holds [record] record)
    (append : ∀ records last record, records.getLast? = some last → next last record
      → holds records last → holds (records ++ [record]) record)
    (history : History first next records) (isLast : records.getLast? = some last)
    : holds records last := by
  induction records using reverseRecOn generalizing last with
  | nil => cases isLast
  | append_singleton records record ih =>
    rw [getLast?_concat] at isLast
    cases isLast
    cases hb : records.getLast? with
    | none =>
      rw [getLast?_eq_none_iff.mp hb]
      exact single record (history.starts record (by rw [getLast?_eq_none_iff.mp hb]; rfl))
    | some before =>
      exact append records before record hb (history.last_step hb) (ih history.dropLast hb)

/-- A reflexive and transitive relation that every step keeps relates each record to all the
later ones.
-/
theorem related (history : History first next records) (keeps : Record → Record → Prop)
    (refl : ∀ record, keeps record record)
    (trans : ∀ {first second third}, keeps first second → keeps second third → keeps first third)
    (step : ∀ {previous record}, next previous record → keeps previous record)
    (ordered : index ≤ later) (hr : records[index]? = some record)
    (ho : records[later]? = some other)
    : keeps record other := by
  have pairwise : records.Pairwise keeps :=
    have : Trans keeps keeps keeps := ⟨trans⟩
    isChain_iff_pairwise.mp (history.continues.imp fun _ _ => step)
  rcases Nat.eq_or_lt_of_le ordered with same | before
  · subst same
    cases hr.symm.trans ho
    exact refl record
  · obtain ⟨within, rfl⟩ := List.getElem?_eq_some_iff.mp hr
    obtain ⟨laterWithin, rfl⟩ := List.getElem?_eq_some_iff.mp ho
    exact pairwise_iff_getElem.mp pairwise index later within laterWithin before

/-- A record that nothing may follow is the last one. -/
theorem last_of_final (history : History first next records)
    (final : ∀ other, ¬ next record other) (hr : records[index]? = some record)
    : index + 1 = records.length := by
  obtain ⟨within, rfl⟩ := List.getElem?_eq_some_iff.mp hr
  by_contra notLast
  have room : index + 1 < records.length := by omega
  exact final _ (isChain_iff_getElem.mp history.continues index room)

end History

/-- The rules of a journal: revisions count the records, the phases run along a path, and
nothing follows a terminal phase.
-/
structure Rules (first : Record → Prop) (next : Record → Record → Prop)
    (revision : Record → Nat) (phase : Record → Phase) (path : Phase → List Phase)
    : Prop where
  first_revision : ∀ {record}, first record → revision record = 0
  first_path : ∀ {record}, first record → path (phase record) = [phase record]
  next_revision : ∀ {previous record}, next previous record
    → revision record = revision previous + 1
  next_path
    : ∀ {previous record}, next previous record
      → path (phase record) = path (phase previous) ++ [phase record]

namespace Rules

variable {first : Record → Prop} {next : Record → Record → Prop} {revision : Record → Nat}
  {phase : Record → Phase} {path : Phase → List Phase}

/-- The phases of a sequence are the path to its last phase. -/
theorem map_phase (rules : Rules first next revision phase path)
    (history : History first next records) (isLast : records.getLast? = some last)
    : records.map phase = path (phase last) := by
  refine History.induct (fun records last => records.map phase = path (phase last))
    (fun record hf => ?_) (fun records last record _ step ih => ?_) history isLast
  · rw [rules.first_path hf, map_singleton]
  · rw [rules.next_path step, map_append, ih, map_singleton]

/-- The revision of a record is its position. -/
theorem revision_eq (rules : Rules first next revision phase path)
    (history : History first next records) (hr : records[index]? = some record)
    : revision record = index := by
  induction index generalizing record with
  | zero =>
    apply rules.first_revision
    apply history.starts
    rwa [head?_eq_getElem?]
  | succ index ih =>
    obtain ⟨within, rfl⟩ := List.getElem?_eq_some_iff.mp hr
    have step := isChain_iff_getElem.mp history.continues index within
    rw [rules.next_revision step, ih (getElem?_eq_getElem (by omega))]

end Rules

end RecordChain
