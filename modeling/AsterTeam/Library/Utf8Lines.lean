import Mathlib

/-! Lines of UTF-8 bytes. A line feed is a byte of its own in every encoding, so bytes can be
split into lines before or after decoding.
-/

namespace Utf8Lines

open List String

/-- Blank characters in the sense of the Unicode property. -/
def isWhitespace (char : Char) : Bool :=
  let code := char.toNat
  (9 ≤ code && code ≤ 13)
    || code ∈ [32, 133, 160, 5760, 8232, 8233, 8239, 8287, 12288]
    || (8192 ≤ code && code ≤ 8202)

def encode (text : List Char) : List UInt8 := text.flatMap utf8EncodeChar

def decode (bytes : List UInt8) : Option (List Char) :=
  (fromUTF8? ⟨bytes.toArray⟩).map String.toList

theorem toByteArray_ofList_eq (text : List Char)
    : (ofList text).toByteArray = ⟨(encode text).toArray⟩ := by
  rw [toByteArray_ofList]
  apply ByteArray.ext
  apply Array.toList_inj.mp
  simp [utf8Encode, encode]

variable {bytes : List UInt8} {text : List Char}

theorem decode_eq_some : decode bytes = some text ↔ encode text = bytes := by
  unfold decode fromUTF8?
  constructor
  · intro decoded
    split at decoded
    · rename_i valid
      simp only [Option.map_some, Option.some.injEq] at decoded
      have same := toByteArray_ofList_eq text
      rw [← decoded, ofList_toList] at same
      have arrays := congrArg (fun bytes : ByteArray => bytes.data.toList) same
      rw [← decoded]
      simpa [fromUTF8] using arrays.symm
    · cases decoded
  · intro encoded
    have same := toByteArray_ofList_eq text
    rw [encoded] at same
    have valid : ByteArray.IsValidUTF8 ⟨bytes.toArray⟩ := same ▸ (ofList text).isValidUTF8
    rw [dif_pos valid, Option.map_some, Option.some.injEq]
    have ht : fromUTF8 ⟨bytes.toArray⟩ valid = ofList text :=
      toByteArray_inj.mp same.symm
    rw [ht, toList_ofList]

/-- Only a line feed is encoded with the byte of a line feed. -/
theorem lineFeed_mem_encodeChar (hm : 10 ∈ utf8EncodeChar char) : char = '\n' := by
  unfold utf8EncodeChar at hm
  have ofNat {value : Nat} (small : value < 256) (same : 10 = UInt8.ofNat value)
      : value = 10 := by
    have numbers := congrArg UInt8.toNat same
    simp only [UInt8.toNat_ofNat'] at numbers
    have ten : (10 : UInt8).toNat = 10 := rfl
    omega
  dsimp only at hm
  split at hm
  · rename_i ascii
    have value := ofNat (by omega) (mem_singleton.mp hm)
    apply Char.ext
    apply UInt32.toNat_inj.mp
    exact value
  · split at hm
    · simp only [mem_cons, not_mem_nil, or_false] at hm
      rcases hm with first | second
      · exact absurd (ofNat (by omega) first) (by omega)
      · exact absurd (ofNat (by omega) second) (by omega)
    · split at hm
      · simp only [mem_cons, not_mem_nil, or_false] at hm
        rcases hm with first | second | third
        · exact absurd (ofNat (by omega) first) (by omega)
        · exact absurd (ofNat (by omega) second) (by omega)
        · exact absurd (ofNat (by omega) third) (by omega)
      · simp only [mem_cons, not_mem_nil, or_false] at hm
        rcases hm with first | second | third | fourth
        · exact absurd (ofNat (by omega) first) (by omega)
        · exact absurd (ofNat (by omega) second) (by omega)
        · exact absurd (ofNat (by omega) third) (by omega)
        · exact absurd (ofNat (by omega) fourth) (by omega)

theorem encode_lineFeed : utf8EncodeChar '\n' = [10] := by
  decide

theorem lineFeed_mem_encode : 10 ∈ encode text ↔ '\n' ∈ text := by
  unfold encode
  rw [mem_flatMap]
  constructor
  · intro hm
    obtain ⟨char, inText, inChar⟩ := hm
    exact lineFeed_mem_encodeChar inChar ▸ inText
  · intro hm
    exact ⟨'\n', hm, by rw [encode_lineFeed]; exact mem_singleton.mpr rfl⟩

/-- A text whose encoding has a line feed after `left` is cut there, by induction on the
text.
-/
theorem encode_split (encoded : encode text = left ++ 10 :: right)
    : ∃ before after, encode before = left ∧ encode after = right := by
  induction text generalizing left with
  | nil => exact absurd encoded (by simp [encode])
  | cons char rest ih =>
    have parts : utf8EncodeChar char ++ encode rest = left ++ 10 :: right := encoded
    rcases append_eq_append_iff.mp parts with ⟨more, hl, hre⟩ | ⟨more, hc, hr⟩
    · obtain ⟨before, after, hb, ha⟩ := ih hre
      refine ⟨char :: before, after, ?_, ha⟩
      rw [hl, ← hb]
      rfl
    · cases more with
      | nil =>
        rw [append_nil] at hc
        rw [nil_append] at hr
        obtain ⟨before, after, hb, ha⟩ := @ih [] hr.symm
        refine ⟨[char], after, ?_, ha⟩
        show utf8EncodeChar char ++ [] = left
        rw [append_nil, hc]
      | cons byte more =>
        obtain ⟨rfl, hm⟩ := List.cons.inj hr
        have hf : char = '\n' := lineFeed_mem_encodeChar (by rw [hc]; simp)
        rw [hf, encode_lineFeed] at hc
        have lengths := congrArg List.length hc
        simp only [List.length_cons, List.length_nil, List.length_append] at lengths
        have noLeft : left = [] := List.length_eq_zero_iff.mp (by omega)
        have noMore : more = [] := length_eq_zero_iff.mp (by omega)
        refine ⟨[], rest, noLeft.symm, ?_⟩
        rw [hm, noMore]
        rfl

def isUtf8 (bytes : List UInt8) : Bool := (decode bytes).isSome

/-- Bytes are UTF-8 exactly when they are on both sides of a line feed. -/
theorem isUtf8_append : isUtf8 (left ++ 10 :: right) ↔ isUtf8 left ∧ isUtf8 right := by
  simp only [isUtf8, Option.isSome_iff_exists, decode_eq_some]
  constructor
  · intro valid
    obtain ⟨text, encoded⟩ := valid
    obtain ⟨before, after, hl, hr⟩ := encode_split encoded
    exact ⟨⟨before, hl⟩, after, hr⟩
  · intro valid
    obtain ⟨⟨before, hl⟩, after, hr⟩ := valid
    refine ⟨before ++ '\n' :: after, ?_⟩
    rw [← hl, ← hr]
    simp only [encode, flatMap_append, flatMap_cons, encode_lineFeed, singleton_append]

/-- The lines between line feeds; the last one may be empty. -/
def lines : List UInt8 → List (List UInt8)
  | [] => [[]]
  | byte :: rest =>
    if byte = 10 then [] :: lines rest
    else
      match lines rest with
      | [] => [[byte]]
      | line :: more => (byte :: line) :: more

def unlines : List (List UInt8) → List UInt8
  | [] => []
  | [line] => line
  | line :: rest => line ++ 10 :: unlines rest

theorem unlines_cons (line next : List UInt8) (more : List (List UInt8))
    : unlines (line :: next :: more) = line ++ 10 :: unlines (next :: more) := by
  rw [unlines]
  simp

theorem lines_ne_nil (bytes : List UInt8) : lines bytes ≠ [] := by
  cases bytes with
  | nil => simp [lines]
  | cons byte rest =>
    unfold lines
    split
    · simp
    · split <;> simp

theorem lines_of_not_mem (single : 10 ∉ line) : lines line = [line] := by
  induction line with
  | nil => rfl
  | cons byte rest ih =>
    simp only [mem_cons, not_or] at single
    rw [lines, if_neg (Ne.symm single.1), ih single.2]

theorem lines_append (left right : List UInt8)
    : lines (left ++ 10 :: right) = lines left ++ lines right := by
  induction left with
  | nil => simp [lines]
  | cons byte rest ih =>
    rw [cons_append, lines, lines.eq_def (byte :: rest)]
    dsimp only
    split
    · rw [ih]
      rfl
    · rw [ih]
      cases hl : lines rest with
      | nil => exact absurd hl (lines_ne_nil rest)
      | cons line more => rfl

theorem not_mem_of_mem_lines (hm : line ∈ lines bytes) : 10 ∉ line := by
  induction bytes generalizing line with
  | nil =>
    rw [lines, mem_singleton] at hm
    rw [hm]
    exact not_mem_nil
  | cons byte rest ih =>
    unfold lines at hm
    split at hm
    · rcases mem_cons.mp hm with he | inRest
      · rw [he]
        exact not_mem_nil
      · exact ih inRest
    · rename_i other
      cases hl : lines rest with
      | nil => exact absurd hl (lines_ne_nil rest)
      | cons head more =>
        rw [hl] at hm
        rcases mem_cons.mp hm with hh | inMore
        · rw [hh, mem_cons, not_or]
          exact ⟨Ne.symm other, ih (by rw [hl]; exact mem_cons_self)⟩
        · exact ih (by rw [hl]; exact mem_cons_of_mem _ inMore)

theorem lines_unlines (nonempty : parts ≠ []) (single : ∀ line ∈ parts, 10 ∉ line)
    : lines (unlines parts) = parts := by
  induction parts with
  | nil => exact absurd rfl nonempty
  | cons line rest ih =>
    have first := lines_of_not_mem (single line mem_cons_self)
    cases rest with
    | nil => exact first
    | cons next more =>
      have others := ih (cons_ne_nil _ _) fun line hm =>
        single line (mem_cons_of_mem _ hm)
      rw [unlines_cons, lines_append, first, others]
      rfl

theorem isUtf8_of_mem_lines (valid : isUtf8 bytes) (hm : line ∈ lines bytes) : isUtf8 line := by
  have split (bytes : List UInt8)
      : bytes = unlines (lines bytes) := by
    induction bytes with
    | nil => rfl
    | cons byte rest ih =>
      unfold lines
      split
      · rename_i hf
        cases hl : lines rest with
        | nil => exact absurd hl (lines_ne_nil rest)
        | cons line more =>
          rw [hl] at ih
          rw [hf, unlines_cons, ← ih]
          rfl
      · cases hl : lines rest with
        | nil => exact absurd hl (lines_ne_nil rest)
        | cons line more =>
          rw [hl] at ih
          rw [ih]
          cases more <;> rfl
  have all (parts : List (List UInt8)) (valid : isUtf8 (unlines parts) = true)
      : ∀ line ∈ parts, isUtf8 line = true := by
    induction parts with
    | nil => exact fun _ absent => absurd absent not_mem_nil
    | cons first rest ih =>
      cases rest with
      | nil => exact fun _ hm => mem_singleton.mp hm ▸ valid
      | cons next more =>
        rw [unlines_cons, isUtf8_append] at valid
        exact forall_mem_cons.mpr ⟨valid.1, ih valid.2⟩
  exact all _ (split bytes ▸ valid) line hm

theorem isUtf8_encode (text : List Char) : isUtf8 (encode text) := by
  rw [isUtf8, decode_eq_some.mpr rfl]
  rfl

theorem isUtf8_unlines (valid : ∀ line ∈ parts, isUtf8 line) : isUtf8 (unlines parts) := by
  induction parts with
  | nil => exact isUtf8_encode []
  | cons first rest ih =>
    cases rest with
    | nil => exact valid first mem_cons_self
    | cons next more =>
      rw [unlines_cons, isUtf8_append]
      exact ⟨valid first mem_cons_self, ih fun line hm => valid line (mem_cons_of_mem _ hm)⟩

theorem unlines_append_empty (nonempty : parts ≠ [])
    : unlines (parts ++ [[]]) = unlines parts ++ [10] := by
  induction parts with
  | nil => exact absurd rfl nonempty
  | cons line rest ih =>
    cases rest with
    | nil => rfl
    | cons next more =>
      have tail := ih (cons_ne_nil _ _)
      rw [cons_append, cons_append, unlines_cons, ← cons_append, tail,
        unlines_cons, List.append_assoc]
      rfl

end Utf8Lines
