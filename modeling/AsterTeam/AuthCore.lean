import AsterTeam.Library.Json

/-! Integrity tags of stored records and the identifiers they are made for.
The keyed digest itself is the only part of the auth core that stays a parameter.
-/

namespace AsterTeam

inductive AuthError
  | invalidContext
  deriving DecidableEq

/-- What a security-state tag covers: a purpose key, the serialized record and the
record's revision.
-/
structure SecurityStateIntegrityInput where
  (key value : String)
  revision : UInt64

structure AuditEventIntegrityInput where
  id : String
  sequence : UInt64
  actorIdentityId : Option String
  (actorRole action targetType : String)
  targetId : Option String
  (outcome previousEventHmac createdAt : String)

/-- The two derived keys of the auth core, seen through the base64 tags they produce. -/
structure AuthCore where
  securityStateTag : SecurityStateIntegrityInput → String
  auditEventTag : AuditEventIntegrityInput → String

def utf8Bytes (text : String) : List UInt8 := text.toUTF8.data.toList

theorem utf8Bytes_injective : Function.Injective utf8Bytes := by
  intro left right same
  apply String.toByteArray_inj.mp
  apply ByteArray.ext
  exact Array.toList_inj.mp same

def isAsciiAlphanumeric (byte : UInt8) : Bool :=
  (48 ≤ byte && byte ≤ 57) || (65 ≤ byte && byte ≤ 90) || (97 ≤ byte && byte ≤ 122)

/-- Letters, digits, `_`, `-`, `.` and `:`, from 3 to 128 bytes. -/
def validIdentifier (value : String) : Bool :=
  (3 ≤ value.utf8ByteSize && value.utf8ByteSize ≤ 128)
    && (utf8Bytes value).all (fun byte =>
      isAsciiAlphanumeric byte || byte == 95 || byte == 45 || byte == 46 || byte == 58)

def AuthCore.securityStateIntegrityHmac (auth : AuthCore)
    (input : SecurityStateIntegrityInput)
    : Except AuthError String :=
  if !validIdentifier input.key || input.value.utf8ByteSize > 1048576 then
    .error .invalidContext
  else
    .ok (auth.securityStateTag input)

def AuthCore.auditEventIntegrityHmac (auth : AuthCore) (input : AuditEventIntegrityInput)
    : Except AuthError String :=
  if !validIdentifier input.id
      || input.sequence == 0
      || input.actorIdentityId.any (fun value => !validIdentifier value)
      || !(input.actorRole ∈ ["owner", "admin", "member", "system", "runner"])
      || !validIdentifier input.action
      || !validIdentifier input.targetType
      || input.targetId.any (fun value => !validIdentifier value)
      || !(input.outcome ∈ ["succeeded", "failed"])
      || (input.previousEventHmac != "" && input.previousEventHmac.utf8ByteSize != 43)
      || input.createdAt.utf8ByteSize != 24 then
    .error .invalidContext
  else
    .ok (auth.auditEventTag input)

/-- Tags behave as those of a keyed digest: they are never empty and differ on different
inputs.
-/
structure AuthCore.CollisionFree (auth : AuthCore) : Prop where
  nonempty : ∀ input, auth.securityStateTag input ≠ ""
  injective : Function.Injective auth.securityStateTag

/-- The core whose tags are the texts they cover. -/
def AuthCore.transparent : AuthCore where
  securityStateTag input :=
    (Json.Value.array [.string input.key, .string input.value, .number input.revision.toNat]).text
  auditEventTag input := (Json.Value.array [.string input.id, .string input.action]).text

theorem AuthCore.transparent_collisionFree : AuthCore.transparent.CollisionFree := by
  refine ⟨?_, ?_⟩
  · intro input empty
    exact absurd (congrArg String.toList empty)
      (by simp [transparent, Json.Value.text, Json.render])
  · intro left right same
    have values := Json.text_injective same
    simp only [Json.Value.array.injEq, List.cons.injEq, Json.Value.string.injEq,
      Json.Value.number.injEq, Nat.cast_inj, and_true] at values
    obtain ⟨keys, texts, revisions⟩ := values
    cases left
    cases right
    simp only [SecurityStateIntegrityInput.mk.injEq]
    exact ⟨keys, texts, UInt64.toNat_inj.mp revisions⟩

-- Comparing tags

/-- Compares two texts without an early exit: lengths first, then the union of all byte
differences.
-/
def constantTimeStringEq (left right : String) : Bool :=
  if left.utf8ByteSize != right.utf8ByteSize then false
  else
    ((utf8Bytes left).zip (utf8Bytes right)).foldl
      (fun difference pair => difference ||| (pair.1 ^^^ pair.2)) (0 : UInt8) == 0

/-- The collected difference of equally long byte lists vanishes exactly on equal lists,
by induction with an arbitrary difference collected so far.
-/
theorem foldl_difference_eq_zero (left right : List UInt8)
    (lengths : left.length = right.length) (collected : UInt8)
    : (left.zip right).foldl
          (fun difference pair => difference ||| (pair.1 ^^^ pair.2)) collected = 0
      ↔ collected = 0 ∧ left = right := by
  induction left generalizing right collected with
  | nil =>
    cases right with
    | nil => simp
    | cons _ _ => simp at lengths
  | cons byte rest ih =>
    cases right with
    | nil => simp at lengths
    | cons other more =>
      simp only [List.length_cons, Nat.add_right_cancel_iff] at lengths
      simp only [List.zip_cons_cons, List.foldl_cons, ih more lengths,
        UInt8.or_eq_zero_iff, UInt8.xor_eq_zero_iff, List.cons.injEq, and_assoc]

/-- The constant-time comparison decides equality. -/
@[simp]
theorem constantTimeStringEq_iff : constantTimeStringEq left right ↔ left = right := by
  unfold constantTimeStringEq
  constructor
  · intro equal
    split at equal
    · cases equal
    · rename_i sizes
      have lengths : (utf8Bytes left).length = (utf8Bytes right).length := by
        simpa [utf8Bytes] using sizes
      have folded := (foldl_difference_eq_zero _ _ lengths 0).mp (by simpa using equal)
      exact utf8Bytes_injective folded.2
  · rintro rfl
    have folded := (foldl_difference_eq_zero (utf8Bytes left) _ rfl 0).mpr ⟨rfl, rfl⟩
    simp [folded]

-- Random identifiers and clock readings

def hexEncode (bytes : List UInt8) : String :=
  String.ofList (bytes.flatMap (fun byte =>
    [Json.hexDigit (byte.toNat / 16), Json.hexDigit (byte.toNat % 16)]))

/-- Sixteen bytes drawn from the operating system. -/
structure RandomBytes where
  bytes : List UInt8
  length : bytes.length = 16

def randomIdentifier (label : String) (random : RandomBytes) : String :=
  label ++ "_" ++ hexEncode random.bytes

theorem randomIdentifier_ne_empty (label : String) (random : RandomBytes)
    : randomIdentifier label random ≠ "" := by
  intro empty
  have sizes := congrArg String.utf8ByteSize empty
  simp [randomIdentifier] at sizes

/-- A clock reading in the database format, year to milliseconds and `Z`. -/
structure DatabaseTime where
  text : String
  length : text.utf8ByteSize = 24

theorem DatabaseTime.text_ne_empty (time : DatabaseTime) : time.text ≠ "" := by
  intro empty
  have size := time.length
  rw [empty] at size
  exact absurd size (by decide)

end AsterTeam
