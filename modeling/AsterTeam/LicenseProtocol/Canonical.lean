import AsterTeam.Library.MemberOrder
import AsterTeam.Library.Utf16

/-! The canonical text under a license signature.
Both implementations walk a JSON value, write members in the order of their names' UTF-16
units, and differ only in how they write strings and which numbers they accept. The walk is
one definition with these two as parameters.
-/

namespace AsterTeam

open Json

section

variable {Failure : Type}
variable (quoted : String → List Char) (number : Int → Except Failure (List Char))

def joined (texts : List (List Char)) : List Char := [','].intercalate texts

def memberText (member : String × List Char) : List Char :=
  quoted member.1 ++ ':' :: member.2

mutual
def appendWith : Value → Except Failure (List Char)
  | .null => .ok ['n', 'u', 'l', 'l']
  | .bool true => .ok ['t', 'r', 'u', 'e']
  | .bool false => .ok ['f', 'a', 'l', 's', 'e']
  | .string value => .ok (quoted value)
  | .number value => number value
  | .array items => do
      let texts ← appendItems items
      return '[' :: (joined texts ++ [']'])
  | .object fields => do
      let members ← appendMembers fields
      -- The names are compared as sequences of UTF-16 units.
      let ordered := sortByName Utf16.encode members
      return '{' :: (joined (ordered.map (memberText quoted)) ++ ['}'])

def appendItems : List Value → Except Failure (List (List Char))
  | [] => .ok []
  | item :: rest => do
      let text ← appendWith item
      let texts ← appendItems rest
      return text :: texts

def appendMembers : List (String × Value) → Except Failure (List (String × List Char))
  | [] => .ok []
  | (name, item) :: rest => do
      let text ← appendWith item
      let members ← appendMembers rest
      return (name, text) :: members
end

end

-- What the walk writes

theorem renderItems_eq_joined (item : Value) (rest : List Value)
    : render item ++ renderItems rest = joined ((item :: rest).map render) ++ [']'] := by
  induction rest generalizing item with
  | nil => simp [renderItems, joined]
  | cons next rest ih =>
    rw [renderItems, ih next]
    simp [joined, List.intercalate_cons_cons]

theorem renderFields_eq_joined (field : String × Value) (rest : List (String × Value))
    : quote field.1 ++ ':' :: (render field.2 ++ renderFields rest)
      = joined ((field :: rest).map
          (fun member => memberText quote (member.1, render member.2))) ++ ['}'] := by
  induction rest generalizing field with
  | nil => simp [renderFields, joined, memberText]
  | cons next rest ih =>
    rw [renderFields, ih next]
    simp [joined, memberText, List.intercalate_cons_cons]

theorem render_array (items : List Value)
    : render (.array items) = '[' :: (joined (items.map render) ++ [']']) := by
  cases items with
  | nil => rfl
  | cons item rest => rw [render, renderItems_eq_joined]

theorem render_object (fields : List (String × Value))
    : render (.object fields)
      = '{' :: (joined (fields.map
          (fun member => memberText quote (member.1, render member.2))) ++ ['}']) := by
  cases fields with
  | nil => rfl
  | cons field rest => rw [render, renderFields_eq_joined]

section

variable {Failure : Type}
variable {quoted : String → List Char} {number : Int → Except Failure (List Char)}

/-- What a value needs for its walk to give the standard text of its sorted form. -/
def Plain (quoted : String → List Char) (number : Int → Except Failure (List Char))
    (value : Value)
    : Prop :=
  value.All (fun text => quoted text = quote text) (fun value => number value = .ok (decimal value))

mutual
theorem appendWith_of_plain (value : Value) (hp : Plain quoted number value)
    : appendWith quoted number value = .ok (render (value.sorted Utf16.encode)) := by
  match value with
  | .null => rfl
  | .bool true => rfl
  | .bool false => rfl
  | .string text => simpa [appendWith, Value.sorted, render, Plain, Value.All] using hp
  | .number value => simpa [appendWith, Value.sorted, render, Plain, Value.All] using hp
  | .array items =>
    rw [appendWith, appendItems_of_plain items hp, Value.sorted, render_array]
    rfl
  | .object fields =>
    obtain ⟨members, quotes⟩ := appendMembers_of_plain fields hp
    have ho
        : (sortByName Utf16.encode
            ((sortedFields Utf16.encode fields).map
              (fun field => (field.1, render field.2)))).map (memberText quoted)
          = (sortByName Utf16.encode (sortedFields Utf16.encode fields)).map
            (fun member => memberText quote (member.1, render member.2)) := by
      rw [sortByName_map, List.map_map]
      apply List.map_congr_left
      intro member present
      have hk := (sortByName_perm Utf16.encode _).mem_iff.mp present
      simp only [Function.comp, memberText, quotes member hk]
    rw [appendWith, members, Value.sorted, render_object, ← ho]
    rfl

theorem appendItems_of_plain (items : List Value)
    (hp : AllItems (fun text => quoted text = quote text)
      (fun value => number value = .ok (decimal value)) items)
    : appendItems quoted number items = .ok ((sortedItems Utf16.encode items).map render) := by
  match items with
  | [] => rfl
  | item :: rest =>
    rw [appendItems, appendWith_of_plain item hp.1, appendItems_of_plain rest hp.2, sortedItems]
    rfl

theorem appendMembers_of_plain (fields : List (String × Value))
    (hp : AllFields (fun text => quoted text = quote text)
      (fun value => number value = .ok (decimal value)) fields)
    : appendMembers quoted number fields
        = .ok ((sortedFields Utf16.encode fields).map (fun field => (field.1, render field.2)))
      ∧ ∀ member ∈ sortedFields Utf16.encode fields, quoted member.1 = quote member.1 := by
  match fields with
  | [] => exact ⟨rfl, by simp [sortedFields]⟩
  | (name, item) :: rest =>
    obtain ⟨names, value, others⟩ := hp
    obtain ⟨members, quotes⟩ := appendMembers_of_plain rest others
    refine ⟨?_, ?_⟩
    · rw [appendMembers, appendWith_of_plain item value, members, sortedFields]
      rfl
    · intro member present
      rw [sortedFields] at present
      rcases List.mem_cons.mp present with rfl | later
      · exact names
      · exact quotes member later
end

mutual
/-- A walk that succeeds met only numbers it accepts. -/
theorem numbers_of_appendWith (value : Value) (walked : appendWith quoted number value = .ok text)
    : value.All (fun _ => True) (fun value => ∃ digits, number value = .ok digits) := by
  match value with
  | .null => trivial
  | .bool _ => trivial
  | .string _ => trivial
  | .number value => exact ⟨text, walked⟩
  | .array items =>
    rw [appendWith] at walked
    cases texts : appendItems quoted number items with
    | error failure => simp [texts, bind, Except.bind] at walked
    | ok hf => exact numbers_of_appendItems items texts
  | .object fields =>
    rw [appendWith] at walked
    cases members : appendMembers quoted number fields with
    | error failure => simp [members, bind, Except.bind] at walked
    | ok hf => exact numbers_of_appendMembers fields members

theorem numbers_of_appendItems (items : List Value)
    (walked : appendItems quoted number items = .ok texts)
    : AllItems (fun _ => True) (fun value => ∃ digits, number value = .ok digits) items := by
  match items with
  | [] => trivial
  | item :: rest =>
    rw [appendItems] at walked
    cases first : appendWith quoted number item with
    | error failure => simp [first, bind, Except.bind] at walked
    | ok hf =>
      cases others : appendItems quoted number rest with
      | error failure => simp [first, others, bind, Except.bind] at walked
      | ok more =>
        exact ⟨numbers_of_appendWith item first, numbers_of_appendItems rest others⟩

theorem numbers_of_appendMembers (fields : List (String × Value))
    (walked : appendMembers quoted number fields = .ok members)
    : AllFields (fun _ => True) (fun value => ∃ digits, number value = .ok digits) fields := by
  match fields with
  | [] => trivial
  | (name, item) :: rest =>
    rw [appendMembers] at walked
    cases first : appendWith quoted number item with
    | error failure => simp [first, bind, Except.bind] at walked
    | ok hf =>
      cases others : appendMembers quoted number rest with
      | error failure => simp [first, others, bind, Except.bind] at walked
      | ok more =>
        exact ⟨trivial, numbers_of_appendWith item first, numbers_of_appendMembers rest others⟩
end

end

-- The verifier's canonical text

namespace LicenseCore

inductive LicenseError
  | invalidField (name : String)
  | invalidTimeRange
  | unsupportedNumber
  | invalidJson
  | untrustedKey (keyId : String)
  | signatureEncoding
  | invalidSignature
  deriving DecidableEq

def asI64 (value : Int) : Option Int :=
  if -2 ^ 63 ≤ value ∧ value < 2 ^ 63 then some value else none

def asU64 (value : Int) : Option Int :=
  if 0 ≤ value ∧ value < 2 ^ 64 then some value else none

/-- A number that fits neither 64-bit type is held as a floating-point number. -/
def appendNumber (value : Int) : Except LicenseError (List Char) :=
  if asI64 value = none ∧ asU64 value = none then .error .unsupportedNumber
  else .ok (decimal value)

def appendCanonical : Value → Except LicenseError (List Char) := appendWith quote appendNumber

def canonicalize (value : Value) : Except LicenseError String := do
  let output ← appendCanonical value
  return String.ofList output

/-- Whether a number is one of the two 64-bit integer types. -/
def Integer (value : Int) : Prop := -2 ^ 63 ≤ value ∧ value < 2 ^ 64

def Integral (value : Value) : Prop := value.All (fun _ => True) Integer

theorem appendNumber_eq (value : Int) (integer : Integer value)
    : appendNumber value = .ok (decimal value) := by
  unfold Integer at integer
  refine if_neg ?_
  intro absent
  unfold asI64 asU64 at absent
  simp only [ite_eq_right_iff, reduceCtorEq, imp_false] at absent
  omega

theorem integer_of_appendNumber (written : appendNumber value = .ok digits) : Integer value := by
  unfold Integer
  by_contra outside
  have absent : asI64 value = none ∧ asU64 value = none := by
    unfold asI64 asU64
    simp only [ite_eq_right_iff, reduceCtorEq, imp_false]
    omega
  rw [appendNumber, if_pos absent] at written
  cases written

theorem canonicalize_of_integral (integral : Integral value)
    : canonicalize value = .ok (value.sorted Utf16.encode).text := by
  have hp : Plain quote appendNumber value := integral.mono (fun _ _ => rfl) appendNumber_eq
  rw [canonicalize, appendCanonical, appendWith_of_plain value hp]
  rfl

theorem integral_of_canonicalize (written : canonicalize value = .ok text) : Integral value := by
  unfold canonicalize appendCanonical at written
  cases output : appendWith quote appendNumber value with
  | error failure => simp [output, bind, Except.bind] at written
  | ok hf =>
    refine (numbers_of_appendWith value output).mono (fun _ _ => trivial) ?_
    intro number ha
    obtain ⟨digits, ha⟩ := ha
    exact integer_of_appendNumber ha

/-- A canonical text determines the value up to member order. -/
theorem sorted_eq_of_canonicalize (leftText : canonicalize left = .ok text)
    (rightText : canonicalize right = .ok text)
    : left.sorted Utf16.encode = right.sorted Utf16.encode := by
  rw [canonicalize_of_integral (integral_of_canonicalize leftText)] at leftText
  rw [canonicalize_of_integral (integral_of_canonicalize rightText)] at rightText
  apply text_injective
  rw [Except.ok.inj leftText, Except.ok.inj rightText]

end LicenseCore

end AsterTeam
