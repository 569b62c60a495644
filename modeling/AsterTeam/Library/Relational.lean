import Mathlib

/-! Tables with uniqueness constraints, as a transactional store keeps them.
The primary key and all unique indices of a table form one relation between rows, which
no two stored rows may satisfy. A table carries that fact, so an invalid one cannot be
built; rows stay in insertion order.
-/

namespace Relational

open List

variable {Row Key : Type}

/-- The keys of a table: two rows conflict when they agree on the primary key or on some
unique index.
-/
structure Keys (Row : Type) where
  conflicts : Row → Row → Prop
  decidable : DecidableRel conflicts
  refl : ∀ row, conflicts row row
  symm : ∀ {left right}, conflicts left right → conflicts right left

attribute [instance] Keys.decidable

/-- A single key column, or a tuple of columns. -/
def Keys.on [DecidableEq Key] (key : Row → Key) : Keys Row where
  conflicts left right := key left = key right
  decidable _ _ := inferInstance
  refl _ := rfl
  symm := Eq.symm

/-- The constraints of both: conflicting rows agree on a key of either. -/
def Keys.or (first second : Keys Row) : Keys Row where
  conflicts left right := first.conflicts left right ∨ second.conflicts left right
  decidable _ _ := inferInstance
  refl row := .inl (first.refl row)
  symm := Or.imp first.symm second.symm

variable {left right : Row}

/-- Rows in insertion order, no two of which conflict. -/
structure Table (keys : Keys Row) where
  rows : List Row
  distinct : rows.Pairwise (fun left right => ¬ keys.conflicts left right)

namespace Table

variable {keys : Keys Row}

@[ext]
theorem ext {left right : Table keys} (same : left.rows = right.rows) : left = right := by
  cases left
  cases right
  cases same
  rfl

def empty : Table keys := ⟨[], Pairwise.nil⟩

variable {table : Table keys}

theorem perm_distinct {rows : List Row} (perm : table.rows.Perm rows)
    : rows.Pairwise (fun left right => ¬ keys.conflicts left right) :=
  (perm.pairwise_iff fun free back => free (keys.symm back)).mp table.distinct

theorem eq_of_conflicts (leftMember : left ∈ table.rows) (rightMember : right ∈ table.rows)
    (hc : keys.conflicts left right)
    : left = right := by
  obtain ⟨before, after, rows⟩ := append_of_mem leftMember
  have ha := perm_distinct (rows ▸ perm_middle : table.rows.Perm (left :: (before ++ after)))
  have hs : right ∈ left :: (before ++ after) := by
    rw [rows] at rightMember
    exact perm_middle.mem_iff.mp rightMember
  rcases mem_cons.mp hs with same | other
  · exact same.symm
  · exact absurd hc ((pairwise_cons.mp ha).1 right other)

-- Reading by a key

def select? [DecidableEq Key] (table : Table keys) (key : Row → Key) (sought : Key)
    : Option Row :=
  table.rows.find? (fun row => key row = sought)

def selectAll [DecidableEq Key] (table : Table keys) (key : Row → Key) (sought : Key)
    : List Row :=
  table.rows.filter (fun row => key row = sought)

variable [DecidableEq Key] {key : Row → Key} {row : Row}

theorem key_of_select? (hf : table.select? key sought = some row) : key row = sought := by
  simpa using find?_some hf

theorem mem_of_select? (hf : table.select? key sought = some row) : row ∈ table.rows :=
  mem_of_find?_eq_some hf

/-- Selection by a key that implies a conflict finds exactly the row with that key. -/
theorem select?_eq_some_iff (hu : ∀ {left right}, key left = key right → keys.conflicts left right)
    : table.select? key sought = some row ↔ row ∈ table.rows ∧ key row = sought := by
  constructor
  · intro hf
    exact ⟨mem_of_select? hf, key_of_select? hf⟩
  · rintro ⟨hm, rfl⟩
    cases hf : table.select? key (key row) with
    | none =>
      have missing := find?_eq_none.mp hf row hm
      simp at missing
    | some other =>
      rw [eq_of_conflicts (mem_of_select? hf) hm (hu (key_of_select? hf))]

theorem select?_eq_none_iff
    : table.select? key sought = none ↔ ∀ row ∈ table.rows, key row ≠ sought := by
  simp [select?]

theorem mem_selectAll : row ∈ table.selectAll key sought ↔ row ∈ table.rows ∧ key row = sought := by
  simp [selectAll]

-- Inserting a row

/-- Adds a row at the end, unless it conflicts with a stored one. -/
def insert? (table : Table keys) (row : Row) : Option (Table keys) :=
  if free : ∀ stored ∈ table.rows, ¬ keys.conflicts stored row then
    some ⟨
      table.rows ++ [row],
      pairwise_append.mpr ⟨
        table.distinct,
        pairwise_singleton _ _,
        fun stored member _ same =>
          mem_singleton.mp same ▸ free stored member
      ⟩
    ⟩
  else none

omit [DecidableEq Key] in
theorem insert?_eq_some {next : Table keys}
    : table.insert? row = some next
      ↔ (∀ stored ∈ table.rows, ¬ keys.conflicts stored row) ∧ next.rows = table.rows ++ [row] := by
  unfold insert?
  constructor
  · intro h
    split at h
    · rename_i free
      cases h
      exact ⟨free, rfl⟩
    · cases h
  · rintro ⟨free, rows⟩
    rw [dif_pos free, Option.some.injEq]
    exact Table.ext rows.symm

variable {next : Table keys}

theorem select?_of_rows_append (rows : next.rows = table.rows ++ [row])
    (free : table.select? key (key row) = none) (sought : Key)
    : next.select? key sought
      = if sought = key row then some row else table.select? key sought := by
  unfold select? at free ⊢
  rw [rows, find?_append]
  split_ifs with hr
  · rw [hr, free]
    simp
  · simp [Ne.symm hr]

theorem selectAll_of_rows_append {table next : Table keys} {row : Row}
    (rows : next.rows = table.rows ++ [row]) (sought : Key)
    : next.selectAll key sought
      = if key row = sought then table.selectAll key sought ++ [row]
        else table.selectAll key sought := by
  unfold selectAll
  rw [rows, filter_append]
  split_ifs with hr <;> simp [hr]

/-- A sum over the rows with a key grows by the new row, if that has the key. -/
theorem sum_selectAll_of_rows_append {Value : Type} [AddCommGroup Value]
    (rows : next.rows = table.rows ++ [row]) (value : Row → Value) (sought : Key)
    : ((next.selectAll key sought).map value).sum
      = ((table.selectAll key sought).map value).sum
        + if key row = sought then value row else 0 := by
  rw [selectAll_of_rows_append rows]
  split_ifs <;> simp

-- Changing selected rows

/-- A change of rows that no constraint of the table can notice. -/
structure Keeps (keys : Keys Row) (change : Row → Row) : Prop where
  left : ∀ {a b}, keys.conflicts (change a) b ↔ keys.conflicts a b
  right : ∀ {a b}, keys.conflicts a (change b) ↔ keys.conflicts a b

def updateWhere (table : Table keys) (selected : Row → Bool) (change : Row → Row)
    (keeps : Keeps keys change)
    : Table keys :=
  ⟨
    table.rows.map (fun row => if selected row then change row else row),
    pairwise_map.mpr
      (table.distinct.imp fun {a b} free => by
        split <;> split <;> simpa only [keeps.left, keeps.right] using free)
  ⟩

/-- Changes the selected rows in place, unless that violates a constraint. -/
def tryUpdateWhere (table : Table keys) (selected : Row → Bool) (change : Row → Row)
    : Option (Table keys) :=
  if free : (table.rows.map fun row => if selected row then change row else row).Pairwise
      (fun left right => ¬ keys.conflicts left right) then
    some ⟨_, free⟩
  else none

omit [DecidableEq Key] in
theorem tryUpdateWhere_eq_some (hu : table.tryUpdateWhere selected change = some next)
    : next.rows = table.rows.map fun row => if selected row then change row else row := by
  unfold tryUpdateWhere at hu
  split at hu
  · cases hu
    rfl
  · cases hu

theorem select?_of_rows_map (rows : next.rows = table.rows.map change)
    (same : ∀ row, key (change row) = key row) (sought : Key)
    : next.select? key sought = (table.select? key sought).map change := by
  unfold select?
  rw [rows, find?_map]
  simp only [Function.comp_def, same]

/-- One row of a table has been exchanged for another, and the rest is as before. -/
def Replaces (table next : Table keys) (row replacement : Row) : Prop :=
  ∃ rest, table.rows.Perm (row :: rest) ∧ next.rows.Perm (replacement :: rest)

omit [DecidableEq Key] in
/-- An update that selects exactly one row exchanges it. -/
theorem updateWhere_replaces {table : Table keys} {row : Row} {selected : Row → Bool}
    {change : Row → Row} {keeps : Keeps keys change} (hm : row ∈ table.rows) (hsel : selected row)
    (only : ∀ other ∈ table.rows, selected other → other = row)
    : table.Replaces (table.updateWhere selected change keeps) row (change row) := by
  obtain ⟨before, after, rows⟩ := append_of_mem hm
  have hs : table.rows.Perm (row :: (before ++ after)) := rows ▸ perm_middle
  have ha : row ∉ before ++ after := by
    intro again
    exact (pairwise_cons.mp (perm_distinct hs)).1 row again (keys.refl row)
  have hu (part : List Row) (inside : part ⊆ before ++ after)
      : part.map (fun row => if selected row = true then change row else row) = part := by
    conv_rhs => rw [← map_id part]
    apply map_congr_left
    intro other ho
    have present : other ∈ table.rows :=
      hs.mem_iff.mpr (mem_cons_of_mem _ (inside ho))
    have hp : ¬ selected other := fun hc =>
      ha (only other present hc ▸ inside ho)
    rw [if_neg hp, id]
  refine ⟨before ++ after, hs, ?_⟩
  simp only [updateWhere, rows, map_append, map_cons, hsel, if_true]
  rw [hu before (subset_append_left _ _), hu after (subset_append_right _ _)]
  exact perm_middle

namespace Replaces

variable {replacement : Row}

variable (replaces : table.Replaces next row replacement)

include replaces

omit [DecidableEq Key] in
theorem mem_before : row ∈ table.rows := by
  obtain ⟨rest, before, _⟩ := replaces
  exact before.mem_iff.mpr mem_cons_self

omit [DecidableEq Key] in
/-- The rows afterwards are the replacement and the other rows from before. -/
theorem mem_iff : other ∈ next.rows ↔ other = replacement ∨ (other ∈ table.rows ∧ other ≠ row) := by
  obtain ⟨rest, before, after⟩ := replaces
  have ha : row ∉ rest := fun again =>
    (pairwise_cons.mp (perm_distinct before)).1 row again (keys.refl row)
  rw [after.mem_iff, before.mem_iff, mem_cons, mem_cons]
  constructor
  · rintro (same | hm)
    · exact .inl same
    · exact .inr ⟨.inr hm, fun same => ha (same ▸ hm)⟩
  · rintro (same | ⟨same | hm, hd⟩)
    · exact .inl same
    · exact absurd same hd
    · exact .inr hm

variable {Value : Type}

omit [DecidableEq Key] in
/-- A sum over the rows changes by the difference of the two rows. -/
theorem sum_map [AddCommGroup Value] (value : Row → Value)
    : (next.rows.map value).sum = (table.rows.map value).sum - value row + value replacement := by
  obtain ⟨rest, before, after⟩ := replaces
  rw [(before.map value).sum_eq, (after.map value).sum_eq, map_cons, map_cons, sum_cons, sum_cons]
  abel

/-- A sum over the rows with a key changes by the difference of the two rows. -/
theorem sum_selectAll [AddCommGroup Value]
    (same : key replacement = key row) (value : Row → Value) (sought : Key)
    : ((next.selectAll key sought).map value).sum
      = ((table.selectAll key sought).map value).sum
        + if key row = sought then value replacement - value row else 0 := by
  obtain ⟨rest, before, after⟩ := replaces
  unfold selectAll
  rw [((before.filter _).map value).sum_eq, ((after.filter _).map value).sum_eq]
  simp only [filter_cons, same, decide_eq_true_eq]
  split_ifs with hr
  · rw [map_cons, map_cons, sum_cons, sum_cons]
    abel
  · rw [add_zero]

/-- Selection by a key that both rows share sees the replacement instead of the row. -/
theorem select?_eq (hu : ∀ {left right}, key left = key right → keys.conflicts left right)
    (same : key replacement = key row) (sought : Key)
    : next.select? key sought
      = if sought = key row then some replacement else table.select? key sought := by
  split
  · rename_i hr
    apply (select?_eq_some_iff hu).mpr
    exact ⟨replaces.mem_iff.mpr (.inl rfl), same.trans hr.symm⟩
  · rename_i notRow
    cases hf : table.select? key sought with
    | none =>
      rw [select?_eq_none_iff] at hf ⊢
      intro other hm keyed
      rcases replaces.mem_iff.mp hm with rfl | ⟨hs, _⟩
      · exact notRow (keyed.symm.trans same)
      · exact hf other hs keyed
    | some other =>
      obtain ⟨hm, keyed⟩ := (select?_eq_some_iff hu).mp hf
      apply (select?_eq_some_iff hu).mpr
      exact ⟨replaces.mem_iff.mpr (.inr ⟨hm, fun hr => notRow (hr ▸ keyed.symm)⟩), keyed⟩

end Replaces

end Table

-- Transactions

section

variable {State Error Result : Type}

def rollback (result : Result) : Except Error (Result × Option State) :=
  .ok (result, none)

def commit (result : Result) (next : State) : Except Error (Result × Option State) :=
  .ok (result, some next)

/-- Runs a transaction body atomically: only a body that commits changes the state, and one
that stops with an error leaves it as it was.
-/
def transaction (body : State → Except Error (Result × Option State)) (state : State)
    : Except Error Result × State :=
  match body state with
  | .error error => (.error error, state)
  | .ok (result, none) => (.ok result, state)
  | .ok (result, some next) => (.ok result, next)

variable {guard : Prop} {result : Result} {next : State}

/-- A guard that rolls back has been passed by a body that commits. -/
theorem guard_of_commit [Decidable guard]
    (he : (if guard then rollback refusal else rest) = .ok (result, some next))
    : ¬ guard ∧ rest = .ok (result, some next) := by
  split at he
  · cases he
  · rename_i hp
    exact ⟨hp, he⟩

variable {Value : Type}

/-- A guard that stops with an error has been passed by a body that ends. -/
theorem guard_of_ok [Decidable guard] {rest : Except Error Value}
    (he : (if guard then .error error else rest) = .ok value)
    : ¬ guard ∧ rest = .ok value := by
  split at he
  · cases he
  · rename_i hp
    exact ⟨hp, he⟩

variable {Second : Type}

/-- A sequence that ends well has ended its first part well. -/
theorem bind_eq_ok {First : Type} {first : Except Error First}
    {rest : First → Except Error Second} {value : Second}
    : (first >>= rest) = .ok value ↔ ∃ middle, first = .ok middle ∧ rest middle = .ok value := by
  cases first with
  | error _ => simp [bind, Except.bind]
  | ok middle => simp [bind, Except.bind]

theorem bind_ok {First : Type} {first : Except Error First}
    {rest : First → Except Error Second} {value : Second} (he : (first >>= rest) = .ok value)
    : ∃ middle, first = .ok middle ∧ rest middle = .ok value :=
  bind_eq_ok.mp he

theorem check_eq_ok {rest : Except Error Second}
    : (check >>= fun _ => rest) = .ok value ↔ check = .ok () ∧ rest = .ok value := by
  cases check with
  | error _ => simp [bind, Except.bind]
  | ok _ => simp [bind, Except.bind]

/-- A transaction either commits what its body ends with, or changes nothing. -/
theorem transaction_cases (body : State → Except Error (Result × Option State)) (state : State)
    : (∃ result,
        body state = .ok (result, some (transaction body state).2)
        ∧ (transaction body state).1 = .ok result)
      ∨ (transaction body state).2 = state := by
  unfold transaction
  split
  · exact .inr rfl
  · exact .inr rfl
  · rename_i result next he
    exact .inl ⟨result, he, rfl⟩

/-- A body that commits with the given result and with no other. -/
def CommitsExactly (applied : Result) (ended : Except Error (Result × Option State)) : Prop :=
  ∀ result next, ended = .ok (result, next) → (next.isSome = true ↔ result = applied)

theorem commitsExactly_rollback (other : result ≠ applied)
    : CommitsExactly applied (rollback result : Except Error (Result × Option State)) := by
  intro _ _ he
  cases he
  exact ⟨nofun, fun same => absurd same other⟩

theorem commitsExactly_commit
    : CommitsExactly applied (commit applied next : Except Error (Result × Option State)) := by
  intro _ _ he
  cases he
  exact ⟨fun _ => rfl, fun _ => rfl⟩

theorem commitsExactly_error
    : CommitsExactly applied (.error error : Except Error (Result × Option State)) := by
  intro _ _ he
  cases he

theorem commitsExactly_guard [Decidable guard] (other : refusal ≠ applied)
    (hp : CommitsExactly applied rest)
    : CommitsExactly applied (if guard then rollback refusal else rest) := by
  split
  · exact commitsExactly_rollback other
  · exact hp

theorem commitsExactly_bind (all : ∀ value, CommitsExactly applied (rest value))
    : CommitsExactly applied (first >>= rest) := by
  intro result next he
  obtain ⟨value, _, he⟩ := bind_ok he
  exact all value result next he

/-- A transaction of such a body has committed exactly when it answers with that result,
and has changed nothing otherwise.
-/
theorem transaction_commitsExactly (exactly : CommitsExactly answer (body state))
    : ((transaction body state).1 = .ok answer
        → body state = .ok (answer, some (transaction body state).2))
      ∧ ((transaction body state).1 ≠ .ok answer → (transaction body state).2 = state) := by
  unfold transaction
  split
  · exact ⟨nofun, fun _ => rfl⟩
  · rename_i result he
    refine ⟨?_, fun _ => rfl⟩
    intro same
    exact absurd ((exactly result none he).mpr (Except.ok.inj same)) nofun
  · rename_i result next he
    have same := (exactly result (some next) he).mp rfl
    exact ⟨fun _ => same ▸ he, fun hr => absurd (congrArg Except.ok same) hr⟩

end

end Relational
