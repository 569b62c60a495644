import AsterTeam.Library.Json

/-! JSON values up to the order of object members, and their form with sorted members.
Members are compared through a rank of their names. When the rank tells all names apart,
two values with distinct names have the same sorted form exactly when they are equal up to
member order.
-/

namespace Json

open List

-- Equality up to the order of members, at every depth.
inductive Value.SameMembers : Value → Value → Prop
  | null : SameMembers .null .null
  | bool (value : Bool) : SameMembers (.bool value) (.bool value)
  | number (value : Int) : SameMembers (.number value) (.number value)
  | string (value : String) : SameMembers (.string value) (.string value)
  | array {items others : List Value} (values : Forall₂ SameMembers items others)
      : SameMembers (.array items) (.array others)
  | object {fields middle others : List (String × Value)}
      (names : fields.map Prod.fst = middle.map Prod.fst)
      (values : Forall₂ SameMembers (fields.map Prod.snd) (middle.map Prod.snd))
      (order : middle.Perm others)
      : SameMembers (.object fields) (.object others)

mutual
/-- Every object has each member name once, as a map from names to values has. -/
def Value.Distinct : Value → Prop
  | .array items => DistinctItems items
  | .object fields => (fields.map Prod.fst).Nodup ∧ DistinctFields fields
  | _ => True

def DistinctItems : List Value → Prop
  | [] => True
  | item :: rest => item.Distinct ∧ DistinctItems rest

def DistinctFields : List (String × Value) → Prop
  | [] => True
  | (_, item) :: rest => item.Distinct ∧ DistinctFields rest
end

mutual
/-- Every string, member names included, and every number of a value satisfies its
condition.
-/
def Value.All (text : String → Prop) (number : Int → Prop) : Value → Prop
  | .null => True
  | .bool _ => True
  | .number value => number value
  | .string value => text value
  | .array items => AllItems text number items
  | .object fields => AllFields text number fields

def AllItems (text : String → Prop) (number : Int → Prop) : List Value → Prop
  | [] => True
  | item :: rest => item.All text number ∧ AllItems text number rest

def AllFields (text : String → Prop) (number : Int → Prop) : List (String × Value) → Prop
  | [] => True
  | (name, item) :: rest => text name ∧ item.All text number ∧ AllFields text number rest
end

section

variable {text other : String → Prop} {number another : Int → Prop}

mutual
theorem Value.All.mono {value : Value} (all : value.All text number)
    (texts : ∀ value, text value → other value) (numbers : ∀ value, number value → another value)
    : value.All other another := by
  match value with
  | .null => trivial
  | .bool _ => trivial
  | .number value => exact numbers value all
  | .string value => exact texts value all
  | .array items => exact AllItems.mono all texts numbers
  | .object fields => exact AllFields.mono all texts numbers

theorem AllItems.mono (all : AllItems text number items) (texts : ∀ value, text value → other value)
    (numbers : ∀ value, number value → another value)
    : AllItems other another items := by
  match items with
  | [] => trivial
  | item :: rest => exact ⟨Value.All.mono all.1 texts numbers, AllItems.mono all.2 texts numbers⟩

theorem AllFields.mono (all : AllFields text number fields)
    (texts : ∀ value, text value → other value) (numbers : ∀ value, number value → another value)
    : AllFields other another fields := by
  match fields with
  | [] => trivial
  | (name, item) :: rest =>
    exact ⟨texts name all.1, Value.All.mono all.2.1 texts numbers,
      AllFields.mono all.2.2 texts numbers⟩
end

end

-- Sizes

mutual
/-- The number of names and values in a value. -/
def Value.size : Value → Nat
  | .array items => sizeItems items + 1
  | .object fields => sizeFields fields + 1
  | _ => 1

def sizeItems : List Value → Nat
  | [] => 0
  | item :: rest => item.size + sizeItems rest

def sizeFields : List (String × Value) → Nat
  | [] => 0
  | (_, item) :: rest => item.size + 1 + sizeFields rest
end

theorem sizeItems_le {bound : Nat} (each : ∀ item ∈ items, item.size ≤ bound)
    : sizeItems items ≤ bound * items.length := by
  induction items with
  | nil => simp [sizeItems]
  | cons item rest ih =>
    have tail := ih (fun other hm => each other (mem_cons_of_mem _ hm))
    have head := each item mem_cons_self
    rw [sizeItems, length_cons, Nat.mul_add, Nat.mul_one]
    omega

def Short (limit : Nat) (text : String) : Prop := text.utf8ByteSize ≤ limit

def TwentyDigits (value : Int) : Prop := -10 ^ 20 < value ∧ value < 10 ^ 20

section

variable {limit cost : Nat}

mutual
/-- A value of short texts and numbers has a bounded weight for each name and value. -/
theorem weight_lt_size (enough : 6 * limit + 22 ≤ cost) {value : Value}
    (all : value.All (Short limit) TwentyDigits)
    : weight value < cost * value.size := by
  match value with
  | .null =>
    simp only [weight, Value.size]
    omega
  | .bool _ =>
    simp only [weight, Value.size]
    omega
  | .number value =>
    have digits := weight_number_le all.1 all.2
    simp only [Value.size]
    omega
  | .string value =>
    have short : value.utf8ByteSize ≤ limit := all
    simp only [weight, Value.size]
    omega
  | .array items =>
    have inner := weightItems_le_size enough all
    simp only [weight, Value.size, Nat.mul_add]
    omega
  | .object fields =>
    have inner := weightFields_le_size enough all
    simp only [weight, Value.size, Nat.mul_add]
    omega

theorem weightItems_le_size (enough : 6 * limit + 22 ≤ cost)
    (all : AllItems (Short limit) TwentyDigits items)
    : weightItems items ≤ cost * sizeItems items := by
  match items with
  | [] => simp [weightItems]
  | item :: rest =>
    have head := weight_lt_size enough all.1
    have tail := weightItems_le_size enough all.2
    simp only [weightItems, sizeItems, Nat.mul_add]
    omega

theorem weightFields_le_size (enough : 6 * limit + 22 ≤ cost)
    (all : AllFields (Short limit) TwentyDigits fields)
    : weightFields fields ≤ cost * sizeFields fields := by
  match fields with
  | [] => simp [weightFields]
  | (name, item) :: rest =>
    have short : name.utf8ByteSize ≤ limit := all.1
    have head := weight_lt_size enough all.2.1
    have tail := weightFields_le_size enough all.2.2
    simp only [weightFields, sizeFields, Nat.mul_add]
    omega
end

end

section

variable {Rank : Type} [LinearOrder Rank] (rank : String → Rank)

def sortByName {Content : Type} (members : List (String × Content)) : List (String × Content) :=
  members.insertionSort (fun left right => rank left.1 ≤ rank right.1)

mutual
def Value.sorted : Value → Value
  | .array items => .array (sortedItems items)
  | .object fields => .object (sortByName rank (sortedFields fields))
  | .null => .null
  | .bool value => .bool value
  | .number value => .number value
  | .string value => .string value

def sortedItems : List Value → List Value
  | [] => []
  | item :: rest => item.sorted :: sortedItems rest

def sortedFields : List (String × Value) → List (String × Value)
  | [] => []
  | (name, item) :: rest => (name, item.sorted) :: sortedFields rest
end

theorem sortedItems_eq_map (items : List Value)
    : sortedItems rank items = items.map (Value.sorted rank) := by
  induction items with
  | nil => rfl
  | cons item rest ih => simp [sortedItems, ih]

theorem sortedFields_eq_map (fields : List (String × Value))
    : sortedFields rank fields = fields.map (fun field => (field.1, field.2.sorted rank)) := by
  induction fields with
  | nil => rfl
  | cons field rest ih => simp [sortedFields, ih]

variable {Content : Type}

theorem sortByName_perm (members : List (String × Content))
    : (sortByName rank members).Perm members :=
  perm_insertionSort _ _

theorem sortByName_pairwise (members : List (String × Content))
    : (sortByName rank members).Pairwise (fun left right => rank left.1 ≤ rank right.1) := by
  have total : Std.Total (fun left right : String × Content => rank left.1 ≤ rank right.1) :=
    ⟨fun _ _ => le_total _ _⟩
  have trans : IsTrans (String × Content) (fun left right => rank left.1 ≤ rank right.1) :=
    ⟨fun _ _ _ => le_trans⟩
  exact pairwise_insertionSort _ members

variable {Image : Type}

theorem sortByName_map (image : Content → Image) (members : List (String × Content))
    : sortByName rank (members.map (fun member => (member.1, image member.2)))
      = (sortByName rank members).map (fun member => (member.1, image member.2)) := by
  unfold sortByName
  exact (map_insertionSort (fun left right => rank left.1 ≤ rank right.1)
    (fun left right => rank left.1 ≤ rank right.1)
    (fun member => (member.1, image member.2)) members (fun _ _ _ _ => Iff.rfl)).symm

variable {rank}

theorem sortByName_eq_of_perm {left right : List (String × Content)}
    (separates : Function.Injective rank) (hd : (left.map Prod.fst).Nodup) (order : left.Perm right)
    : sortByName rank left = sortByName rank right := by
  have sortedOrder : (sortByName rank left).Perm (sortByName rank right) :=
    (sortByName_perm rank left).trans (order.trans (sortByName_perm rank right).symm)
  refine Perm.eq_of_pairwise ?_ (sortByName_pairwise rank left)
    (sortByName_pairwise rank right) sortedOrder
  intro first second firstMem secondMem below above
  have names : first.1 = second.1 := separates (le_antisymm below above)
  have firstIn : first ∈ left := (sortByName_perm rank left).mem_iff.mp firstMem
  have secondIn : second ∈ left :=
    order.mem_iff.mpr ((sortByName_perm rank right).mem_iff.mp secondMem)
  exact inj_on_of_nodup_map hd firstIn secondIn names

mutual
theorem sorted_eq_of_sameMembers (separates : Function.Injective rank) (left : Value)
    (hd : left.Distinct) (same : left.SameMembers right)
    : left.sorted rank = right.sorted rank := by
  match left, same with
  | _, .null => rfl
  | _, .bool _ => rfl
  | _, .number _ => rfl
  | _, .string _ => rfl
  | .array items, .array values =>
    rw [Value.sorted, Value.sorted, sortedItems_eq_of_sameMembers separates items hd values]
  | .object fields, @Value.SameMembers.object _ middle others names values order =>
    obtain ⟨namesDistinct, fieldsDistinct⟩ := hd
    have middles : sortedFields rank fields = sortedFields rank middle :=
      sortedFields_eq_of_sameMembers separates fields fieldsDistinct names values
    have moved : (sortedFields rank middle).Perm (sortedFields rank others) := by
      rw [sortedFields_eq_map, sortedFields_eq_map]
      exact order.map _
    have middleDistinct : ((sortedFields rank middle).map Prod.fst).Nodup := by
      rw [sortedFields_eq_map, map_map]
      rw [names] at namesDistinct
      exact namesDistinct
    rw [Value.sorted, Value.sorted, middles, sortByName_eq_of_perm separates middleDistinct moved]

theorem sortedItems_eq_of_sameMembers (separates : Function.Injective rank) (items : List Value)
    (hd : DistinctItems items) (values : Forall₂ Value.SameMembers items others)
    : sortedItems rank items = sortedItems rank others := by
  match items, values with
  | [], .nil => rfl
  | item :: rest, .cons same values =>
    rw [sortedItems, sortedItems, sorted_eq_of_sameMembers separates item hd.1 same,
      sortedItems_eq_of_sameMembers separates rest hd.2 values]

theorem sortedFields_eq_of_sameMembers (separates : Function.Injective rank)
    (fields : List (String × Value)) {others : List (String × Value)}
    (hd : DistinctFields fields) (names : fields.map Prod.fst = others.map Prod.fst)
    (values : Forall₂ Value.SameMembers (fields.map Prod.snd) (others.map Prod.snd))
    : sortedFields rank fields = sortedFields rank others := by
  match fields, others, values with
  | [], [], _ => rfl
  | (name, item) :: rest, (other, value) :: more, .cons same values =>
    simp only [map_cons, List.cons.injEq] at names
    rw [sortedFields, sortedFields, names.1, sorted_eq_of_sameMembers separates item hd.1 same,
      sortedFields_eq_of_sameMembers separates rest hd.2 names.2 values]
end

/-- Lists with the same images in another order agree image by image with some
reordering of the second list.
-/
theorem exists_perm_of_map_perm (image : Content → Image) {left right : List Content}
    (images : (left.map image).Perm (right.map image))
    : ∃ middle : List Content, left.map image = middle.map image ∧ middle.Perm right := by
  have pointwise
      : Forall₂ (fun value source => value = image source) (right.map image) right := by
    rw [forall₂_map_left_iff]
    exact forall₂_same.mpr (fun _ _ => rfl)
  obtain ⟨middle, hm, order⟩ := perm_comp_forall₂ images pointwise
  refine ⟨middle, ?_, order⟩
  rw [forall₂_map_left_iff] at hm
  exact forall₂_eq_eq_eq ▸ (forall₂_map_left_iff.mpr (forall₂_map_right_iff.mpr hm))

mutual
theorem sameMembers_of_sorted_eq (left right : Value) (same : left.sorted rank = right.sorted rank)
    : left.SameMembers right := by
  match left, right with
  | .null, right =>
    cases right with
    | null => exact .null
    | bool _ | number _ | string _ | array _ | object _ => simp [Value.sorted] at same
  | .bool value, right =>
    cases right with
    | bool other =>
      simp only [Value.sorted, Value.bool.injEq] at same
      exact same ▸ .bool value
    | null | number _ | string _ | array _ | object _ => simp [Value.sorted] at same
  | .number value, right =>
    cases right with
    | number other =>
      simp only [Value.sorted, Value.number.injEq] at same
      exact same ▸ .number value
    | null | bool _ | string _ | array _ | object _ => simp [Value.sorted] at same
  | .string value, right =>
    cases right with
    | string other =>
      simp only [Value.sorted, Value.string.injEq] at same
      exact same ▸ .string value
    | null | bool _ | number _ | array _ | object _ => simp [Value.sorted] at same
  | .array items, right =>
    cases right with
    | array others =>
      simp only [Value.sorted, Value.array.injEq] at same
      exact .array (sameItems_of_sorted_eq items others same)
    | null | bool _ | number _ | string _ | object _ => simp [Value.sorted] at same
  | .object fields, right =>
    cases right with
    | object others =>
      simp only [Value.sorted, Value.object.injEq] at same
      have images : (sortedFields rank fields).Perm (sortedFields rank others) := by
        refine (sortByName_perm rank _).symm.trans ?_
        rw [same]
        exact sortByName_perm rank _
      rw [sortedFields_eq_map, sortedFields_eq_map] at images
      obtain ⟨middle, hm, order⟩ := exists_perm_of_map_perm _ images
      rw [← sortedFields_eq_map rank, ← sortedFields_eq_map rank] at hm
      obtain ⟨names, values⟩ := sameFields_of_sorted_eq fields middle hm
      exact .object names values order
    | null | bool _ | number _ | string _ | array _ => simp [Value.sorted] at same

theorem sameItems_of_sorted_eq (items others : List Value)
    (same : sortedItems rank items = sortedItems rank others)
    : Forall₂ Value.SameMembers items others := by
  match items, others with
  | [], [] => exact .nil
  | [], _ :: _ => simp [sortedItems] at same
  | _ :: _, [] => simp [sortedItems] at same
  | item :: rest, other :: more =>
    simp only [sortedItems, List.cons.injEq] at same
    exact .cons (sameMembers_of_sorted_eq item other same.1)
      (sameItems_of_sorted_eq rest more same.2)

theorem sameFields_of_sorted_eq (fields others : List (String × Value))
    (same : sortedFields rank fields = sortedFields rank others)
    : fields.map Prod.fst = others.map Prod.fst
      ∧ Forall₂ Value.SameMembers (fields.map Prod.snd) (others.map Prod.snd) := by
  match fields, others with
  | [], [] => exact ⟨rfl, .nil⟩
  | [], _ :: _ => simp [sortedFields] at same
  | _ :: _, [] => simp [sortedFields] at same
  | (name, item) :: rest, (other, value) :: more =>
    simp only [sortedFields, List.cons.injEq, Prod.mk.injEq] at same
    obtain ⟨names, values⟩ := sameFields_of_sorted_eq rest more same.2
    refine ⟨?_, .cons (sameMembers_of_sorted_eq item value same.1.2) values⟩
    simp only [map_cons, same.1.1, names]
end

end

end Json
