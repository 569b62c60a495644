import Mathlib

/-! Chains of entries in which each entry names the digest of the one before it, and the
search for the chain in an index of the entries by the digest they name.
-/

namespace HashChain

open List

variable {Entry Digest : Type} (previous digest : Entry → Digest)

/-- The entries lead from the digest `start` to the digest `last`. -/
def Chain : Digest → List Entry → Digest → Prop
  | start, [], last => start = last
  | start, entry :: rest, last => previous entry = start ∧ Chain (digest entry) rest last

variable {previous digest} {start last : Digest} {front : List Entry}

theorem chain_append
    : Chain previous digest start (front ++ back) last
      ↔ ∃ middle,
          Chain previous digest start front middle
          ∧ Chain previous digest middle back last := by
  induction front generalizing start with
  | nil => simp [Chain]
  | cons entry rest ih =>
    simp only [cons_append, Chain, ih]
    constructor
    · rintro ⟨first, middle, left, right⟩
      exact ⟨middle, ⟨first, left⟩, right⟩
    · rintro ⟨middle, ⟨first, left⟩, right⟩
      exact ⟨first, middle, left, right⟩

/-- A chain grows at its end by an entry that names its last digest. -/
theorem chain_append_singleton
    : Chain previous digest start (front ++ [entry]) last
      ↔ Chain previous digest start front (previous entry) ∧ digest entry = last := by
  rw [chain_append]
  constructor
  · rintro ⟨middle, left, first, final⟩
    exact ⟨first ▸ left, final⟩
  · rintro ⟨left, final⟩
    exact ⟨_, left, rfl, final⟩

/-- The digests that the entries of a chain name are its start and all digests but the
last one.
-/
theorem Chain.previous_cons_last (chain : Chain previous digest start entries last)
    : entries.map previous ++ [last] = start :: entries.map digest := by
  induction entries generalizing start with
  | nil => simpa [Chain] using Eq.symm chain
  | cons entry rest ih =>
    simp only [map_cons, cons_append, ih chain.2, chain.1]

section

variable {Valid : Entry → Prop} {left right : List Entry}
  (separates : ∀ one other, Valid one → Valid other → digest one = digest other → one = other)
  (fresh : ∀ entry, Valid entry → digest entry ≠ start)

include separates fresh

/-- The last digest determines a chain of entries that are determined by their digests.
Witness: induction from the end, where the last entries agree.
-/
theorem Chain.unique (hl : Chain previous digest start left last)
    (hr : Chain previous digest start right last)
    (hle : ∀ entry ∈ left, Valid entry) (hri : ∀ entry ∈ right, Valid entry)
    : left = right := by
  induction left using reverseRecOn generalizing right last with
  | nil =>
    cases right using reverseRecOn with
    | nil => rfl
    | append_singleton back other =>
      have reached := (chain_append_singleton.mp hr).2.trans (Eq.symm hl)
      exact absurd reached (fresh other (hri other (by simp)))
  | append_singleton front entry ih =>
    obtain ⟨hf, hla⟩ := chain_append_singleton.mp hl
    have he := hle entry (by simp)
    cases right using reverseRecOn with
    | nil => exact absurd (hla.trans (Eq.symm hr)) (fresh entry he)
    | append_singleton back other =>
      obtain ⟨hb, ho⟩ := chain_append_singleton.mp hr
      obtain rfl := separates entry other he (hri other (by simp)) (hla.trans ho.symm)
      rw [ih hf hb (forall_mem_append.mp hle).1 (forall_mem_append.mp hri).1]

/-- Such a chain does not come back to a digest it has passed. -/
theorem Chain.nodup (chain : Chain previous digest start entries last)
    (valid : ∀ entry ∈ entries, Valid entry)
    : (entries.map digest).Nodup := by
  induction entries using reverseRecOn generalizing last with
  | nil => exact .nil
  | append_singleton front entry ih =>
    obtain ⟨hf, hl⟩ := chain_append_singleton.mp chain
    have hfr := (forall_mem_append.mp valid).1
    rw [map_append]
    refine nodup_append.mpr ⟨ih hf hfr, nodup_singleton _, ?_⟩
    rintro hpa hp final hfi rfl
    obtain ⟨other, ho, same⟩ := mem_map.mp hp
    obtain ⟨before, after, rfl⟩ := append_of_mem ho
    obtain ⟨middle, hb, hn, _⟩ := chain_append.mp hf
    -- The chain up to the passed entry would have to be the whole chain.
    have shorter : Chain previous digest start (before ++ [other]) last :=
      chain_append_singleton.mpr ⟨hn ▸ hb, same.trans ((mem_singleton.mp hfi).trans hl)⟩
    have equal := Chain.unique separates fresh shorter chain
      (fun one hon => hfr one (by simp at hon ⊢; tauto)) valid
    simp at equal

end

section

variable [DecidableEq Digest] {Error : Type} (previous digest)

/-- Follows the links from a digest for a number of hops through entries indexed by the
digest they name. Every entry is checked when it is reached and removed from the index; the
result is the digest of the last one.
-/
def followLinks (missing : Error) (check : Entry → Except Error Unit)
    : Nat → Digest → List Entry → Except Error Digest
  | 0, reached, _ => .ok reached
  | hops + 1, reached, index =>
    match index.find? (fun entry => previous entry = reached) with
    | none => .error missing
    | some entry => do
        check entry
        followLinks missing check hops (digest entry)
          (index.filter (fun other => previous other ≠ reached))

variable {previous digest} {index : List Entry}

/-- Removing the key of an entry from an index with unique keys removes that entry. -/
theorem perm_cons_filter (hu : (index.map previous).Nodup) (hm : entry ∈ index)
    : index.Perm (entry :: index.filter (fun other => previous other ≠ previous entry)) := by
  induction index with
  | nil => exact absurd hm not_mem_nil
  | cons first rest ih =>
    rw [map_cons, nodup_cons] at hu
    rcases mem_cons.mp hm with same | later
    · subst same
      have kept : rest.filter (fun other => previous other ≠ previous entry) = rest := by
        apply filter_eq_self.mpr
        intro other ho
        simp only [ne_eq, decide_not, Bool.not_eq_true', decide_eq_false_iff_not]
        intro equal
        exact hu.1 (equal ▸ mem_map_of_mem ho)
      rw [filter_cons_of_neg (by simp), kept]
    · have ha : previous first ≠ previous entry := fun equal =>
        hu.1 (equal ▸ mem_map_of_mem later)
      rw [filter_cons_of_pos (by simpa using ha)]
      exact ((ih hu.2 later).cons first).trans (Perm.swap entry first _)

/-- With as many hops as entries, following the links succeeds exactly when the entries can
be ordered into one chain and all pass the check. Witness: induction on the number of hops;
the entry that names the reached digest is the head of the order.
-/
theorem followLinks_eq_ok (hu : (index.map previous).Nodup)
    : followLinks previous digest missing check index.length start index = .ok last
      ↔ ∃ order,
          order.Perm index
          ∧ Chain previous digest start order last
          ∧ ∀ entry ∈ index, check entry = .ok () := by
  induction hops : index.length generalizing start index with
  | zero =>
    have empty := eq_nil_of_length_eq_zero hops
    subst empty
    simp only [followLinks, Except.ok.injEq, perm_nil, exists_eq_left, Chain,
      not_mem_nil, false_implies, implies_true, and_true]
  | succ count ih =>
    have step {entry : Entry} (hm : entry ∈ index) (hn : previous entry = start)
        : followLinks previous digest missing check (count + 1) start index = .ok last
          ↔ check entry = .ok ()
            ∧ followLinks previous digest missing check count (digest entry)
                (index.filter (fun other => previous other ≠ start))
              = .ok last := by
      have hfo : index.find? (fun other => previous other = start) = some entry := by
        cases search : index.find? (fun other => previous other = start) with
        | none =>
          have absent := find?_eq_none.mp search entry hm
          simp [hn] at absent
        | some other =>
          have otherNamed : previous other = start := by
            simpa using find?_some search
          have same := inj_on_of_nodup_map hu
            (mem_of_find?_eq_some search) hm (otherNamed.trans hn.symm)
          rw [same]
      rw [followLinks, hfo]
      cases checked : check entry with
      | error _ => simp [checked, bind, Except.bind]
      | ok _ => simp [checked, bind, Except.bind]
    have rest {entry : Entry} (hm : entry ∈ index) (hn : previous entry = start)
        : index.Perm (entry :: index.filter (fun other => previous other ≠ start)) :=
      hn ▸ perm_cons_filter hu hm
    have smaller {entry : Entry} (hm : entry ∈ index)
        (hn : previous entry = start)
        : (index.filter (fun other => previous other ≠ start)).length = count := by
      have lengths := (rest hm hn).length_eq
      rw [length_cons, hops] at lengths
      exact (Nat.add_right_cancel lengths).symm
    have uniqueRest
        : ((index.filter (fun other => previous other ≠ start)).map previous).Nodup :=
      hu.sublist (filter_sublist.map previous)
    refine ⟨?_, ?_⟩
    · intro hf
      cases search : index.find? (fun other => previous other = start) with
      | none =>
        rw [followLinks, search] at hf
        cases hf
      | some entry =>
        have hm := mem_of_find?_eq_some search
        have hn : previous entry = start := by simpa using find?_some search
        obtain ⟨checked, tail⟩ := (step hm hn).mp hf
        obtain ⟨order, perm, chain, checks⟩ := (ih uniqueRest (smaller hm hn)).mp tail
        refine ⟨entry :: order, (perm.cons entry).trans (rest hm hn).symm, ⟨hn, chain⟩, ?_⟩
        intro other hot
        rcases mem_cons.mp ((rest hm hn).mem_iff.mp hot) with
          same | later
        · exact same ▸ checked
        · exact checks other later
    · intro exists_order
      obtain ⟨order, perm, chain, checks⟩ := exists_order
      cases order with
      | nil =>
        rw [← perm.length_eq] at hops
        cases hops
      | cons entry tail =>
        have hm := perm.mem_iff.mp mem_cons_self
        have permTail := (perm_cons entry).mp (perm.trans (rest hm chain.1))
        refine (step hm chain.1).mpr ⟨checks entry hm, ?_⟩
        refine (ih uniqueRest (smaller hm chain.1)).mpr ⟨tail, permTail, chain.2, ?_⟩
        intro other hot
        exact checks other (mem_of_mem_filter hot)

end

end HashChain
