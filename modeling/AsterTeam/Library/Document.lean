import AsterTeam.Library.AssocList

/-! JSON documents as a parser returns them, with the accessors and updates of a document
tree and its size.
-/

namespace Json

open AssocList

/-- A parsed document. A number is an integer or the bits of a floating point number. -/
inductive Document
  | null
  | bool (value : Bool)
  | integer (value : Int)
  | real (bits : UInt64)
  | string (value : String)
  | array (items : List Document)
  | object (fields : List (String × Document))

namespace Document

def get (document : Document) (name : String) : Option Document :=
  match document with
  | .object fields => lookup name fields
  | _ => none

def asStr : Document → Option String
  | .string value => some value
  | _ => none

def asArray : Document → Option (List Document)
  | .array items => some items
  | _ => none

def asU64 : Document → Option Nat
  | .integer value => if 0 ≤ value ∧ value < 2 ^ 64 then some value.toNat else none
  | _ => none

def isObject : Document → Bool
  | .object _ => true
  | _ => false

/-- Assigns a field by name: on null it makes an object, and on any other value it has no
result.
-/
def assign (document : Document) (name : String) (value : Document) : Option Document :=
  match document with
  | .object fields => some (.object (upsert name value fields))
  | .null => some (.object [(name, value)])
  | _ => none

mutual
/-- The size of a document: one for each node and each byte of a name or a text. Its
encoding is never shorter.
-/
def weight : Document → Nat
  | .null => 1
  | .bool _ => 1
  | .integer _ => 1
  | .real _ => 1
  | .string value => 1 + value.utf8ByteSize
  | .array items => 1 + weightItems items
  | .object fields => 1 + weightFields fields

def weightItems : List Document → Nat
  | [] => 0
  | item :: rest => item.weight + weightItems rest

def weightFields : List (String × Document) → Nat
  | [] => 0
  | (name, value) :: rest => 1 + name.utf8ByteSize + value.weight + weightFields rest
end

theorem weight_pos (document : Document) : 1 ≤ document.weight := by
  cases document <;> simp only [weight] <;> omega

theorem weightItems_append (left right : List Document)
    : weightItems (left ++ right) = weightItems left + weightItems right := by
  induction left with
  | nil => simp [weightItems]
  | cons item rest ih => simp only [List.cons_append, weightItems, ih]; omega

theorem weightItems_replicate_null (count : Nat)
    : weightItems (List.replicate count .null) = count := by
  induction count with
  | zero => rfl
  | succ count ih => simp only [List.replicate_succ, weightItems, weight, ih]; omega

theorem weightItems_set (found : items[index]? = some old) (value : Document)
    : weightItems (items.set index value) + old.weight = weightItems items + value.weight := by
  induction items generalizing index with
  | nil => simp at found
  | cons item rest ih =>
    cases index with
    | zero =>
      cases found
      simp only [List.set_cons_zero, weightItems]
      omega
    | succ index =>
      have inner := ih (by simpa using found)
      simp only [List.set_cons_succ, weightItems]
      omega

theorem weightFields_eq_total (fields : List (String × Document))
    : weightFields fields
      = total (fun field => 1 + field.1.utf8ByteSize + field.2.weight) fields := by
  induction fields with
  | nil => rfl
  | cons field rest ih =>
    simp only [weightFields, ih, total, List.map_cons, List.sum_cons]

theorem weight_get_le {document value : Document} (found : document.get name = some value)
    : value.weight < document.weight := by
  unfold get at found
  split at found
  · rename_i fields
    have bounded :=
      @le_total_of_lookup _ _ _ (fun field : String × Document =>
        1 + field.1.utf8ByteSize + field.2.weight) _ _ _ found
    simp only [weight, weightFields_eq_total]
    simp only at bounded
    omega
  · cases found

/-- An assigned field adds at most its own size and that of its name. -/
theorem weight_assign_le {document next value : Document} {name : String}
    (assigned : document.assign name value = some next)
    : next.weight + ((document.get name).map weight).getD 0
      ≤ document.weight + 1 + name.utf8ByteSize + value.weight := by
  unfold assign at assigned
  split at assigned
  · rename_i fields
    cases assigned
    have exchanged :=
      total_upsert (fun field : String × Document =>
        1 + field.1.utf8ByteSize + field.2.weight) name value fields
    simp only [get, weight, weightFields_eq_total]
    cases found : lookup name fields with
    | none =>
      simp only [found, Option.map_none, Option.getD_none] at exchanged ⊢
      omega
    | some old =>
      simp only [found, Option.map_some, Option.getD_some] at exchanged ⊢
      omega
  · cases assigned
    simp only [get, weight, weightFields, Option.map_none, Option.getD_none]
    omega
  · cases assigned

end Document

end Json
