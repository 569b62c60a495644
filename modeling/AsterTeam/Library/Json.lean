import Mathlib

/-! JSON values without floating-point numbers and their compact text.
The text is the one a standard compact writer emits: no blanks, short escapes for the
five named control characters, and four hexadecimal digits for the other ones. It
determines the value, even when more text follows.
-/

namespace Json

open String List

inductive Value
  | null
  | bool (value : Bool)
  | number (value : Int)
  | string (value : String)
  | array (items : List Value)
  | object (fields : List (String × Value))

-- Strings and integers

def hexDigit (digit : Nat) : Char :=
  if digit < 10 then Char.ofNat (48 + digit) else Char.ofNat (87 + digit)

def escapeChar (char : Char) : List Char :=
  if char = '"' then ['\\', '"']
  else if char = '\\' then ['\\', '\\']
  else if char = Char.ofNat 8 then ['\\', 'b']
  else if char = Char.ofNat 9 then ['\\', 't']
  else if char = Char.ofNat 10 then ['\\', 'n']
  else if char = Char.ofNat 12 then ['\\', 'f']
  else if char = Char.ofNat 13 then ['\\', 'r']
  else if char.toNat < 32 then
    ['\\', 'u', '0', '0', hexDigit (char.toNat / 16), hexDigit (char.toNat % 16)]
  else [char]

def quote (text : String) : List Char :=
  '"' :: (text.toList.flatMap escapeChar ++ ['"'])

def decimal (value : Int) : List Char :=
  if value < 0 then '-' :: Nat.toDigits 10 value.natAbs else Nat.toDigits 10 value.natAbs

def unescapeChar : List Char → Option (Char × List Char)
  | '\\' :: 'u' :: '0' :: '0' :: high :: low :: rest =>
    (List.range 32).findSome? (fun code =>
      if hexDigit (code / 16) = high ∧ hexDigit (code % 16) = low then
        some (Char.ofNat code, rest)
      else none)
  | '\\' :: 'b' :: rest => some (Char.ofNat 8, rest)
  | '\\' :: 't' :: rest => some (Char.ofNat 9, rest)
  | '\\' :: 'n' :: rest => some (Char.ofNat 10, rest)
  | '\\' :: 'f' :: rest => some (Char.ofNat 12, rest)
  | '\\' :: 'r' :: rest => some (Char.ofNat 13, rest)
  | '\\' :: char :: rest => some (char, rest)
  | '"' :: _ => none
  | char :: rest => some (char, rest)
  | [] => none

/-- The two hexadecimal digits of a control character identify it. -/
theorem findSome_hexDigit (small : code < 32) (rest : List Char)
    : (List.range 32).findSome? (fun candidate =>
        if hexDigit (candidate / 16) = hexDigit (code / 16)
            ∧ hexDigit (candidate % 16) = hexDigit (code % 16) then
          some (Char.ofNat candidate, rest)
        else none)
      = some (Char.ofNat code, rest) := by
  interval_cases code <;> rfl

/-- Escaping is undone by reading one character, whatever text follows. -/
theorem unescapeChar_escapeChar (char : Char) (rest : List Char)
    : unescapeChar (escapeChar char ++ rest) = some (char, rest) := by
  unfold escapeChar
  split
  · rename_i same
    subst same
    rfl
  split
  · rename_i same
    subst same
    rfl
  split
  · rename_i same
    subst same
    rfl
  split
  · rename_i same
    subst same
    rfl
  split
  · rename_i same
    subst same
    rfl
  split
  · rename_i same
    subst same
    rfl
  split
  · rename_i same
    subst same
    rfl
  rename_i quoteFree backslashFree _ _ _ _ _
  split
  · rename_i small
    have found := findSome_hexDigit small rest
    rw [Char.ofNat_toNat] at found
    exact found
  · simp only [List.singleton_append]
    unfold unescapeChar
    split <;> simp_all

theorem unescapeChar_quote (rest : List Char) : unescapeChar ('"' :: rest) = none := rfl

/-- Equal escaped texts up to the closing quote come from equal characters, by induction
on the first text and reading one character back at a time.
-/
theorem flatMap_escapeChar_cancel (left right : List Char) (after next : List Char)
    (same : left.flatMap escapeChar ++ '"' :: after = right.flatMap escapeChar ++ '"' :: next)
    : left = right ∧ after = next := by
  induction left generalizing right with
  | nil =>
    cases right with
    | nil => exact ⟨rfl, by simpa using same⟩
    | cons char rest =>
      have read := congrArg unescapeChar same
      simp only [List.flatMap_nil, List.nil_append, List.flatMap_cons,
        List.append_assoc, unescapeChar_escapeChar, unescapeChar_quote] at read
      cases read
  | cons char rest ih =>
    cases right with
    | nil =>
      have read := congrArg unescapeChar same
      simp only [List.flatMap_nil, List.nil_append, List.flatMap_cons,
        List.append_assoc, unescapeChar_escapeChar, unescapeChar_quote] at read
      cases read
    | cons other more =>
      have read := congrArg unescapeChar same
      simp only [List.flatMap_cons, List.append_assoc, unescapeChar_escapeChar,
        Option.some.injEq, Prod.mk.injEq] at read
      obtain ⟨tails, afters⟩ := ih more read.2
      exact ⟨by rw [read.1, tails], afters⟩

variable {after next : List Char}

theorem quote_cancel (same : quote left ++ after = quote right ++ next)
    : left = right ∧ after = next := by
  simp only [quote, List.cons_append, List.append_assoc, List.cons.injEq, true_and,
    List.nil_append] at same
  obtain ⟨texts, afters⟩ := flatMap_escapeChar_cancel _ _ _ _ same
  exact ⟨String.ext texts, afters⟩

/-- Text that cannot continue a number. -/
def Ended (text : List Char) : Prop := ∀ char ∈ text.head?, char.isDigit = false

variable {char : Char}

theorem isDigit_of_mem_toDigits (hm : char ∈ Nat.toDigits 10 value) : char.isDigit :=
  Nat.isDigit_of_mem_toDigits (by decide) (by decide) hm

theorem toDigits_cancel (leftEnded : Ended after) (rightEnded : Ended next)
    (same : Nat.toDigits 10 left ++ after = Nat.toDigits 10 right ++ next)
    : left = right ∧ after = next := by
  have digits (value : Nat)
      : ∀ char ∈ Nat.toDigits 10 value, char.isDigit = true :=
    fun _ hm => isDigit_of_mem_toDigits hm
  have split (value : Nat) (rest : List Char) (ended : Ended rest)
      : (Nat.toDigits 10 value ++ rest).span Char.isDigit = (Nat.toDigits 10 value, rest) := by
    rw [span_eq_takeWhile_dropWhile, takeWhile_append_of_pos (digits value),
      dropWhile_append_of_pos (digits value)]
    cases rest with
    | nil => simp
    | cons char tail =>
      have stop := ended char (by simp)
      simp [stop]
  have parts := congrArg (span Char.isDigit) same
  rw [split left after leftEnded, split right next rightEnded, Prod.mk.injEq] at parts
  refine ⟨?_, parts.2⟩
  have value := congrArg (fun text => Nat.ofDigitChars 10 text 0) parts.1
  simpa only [Nat.ofDigitChars_ten_toDigits] using value

theorem decimal_head (value : Int)
    : ∃ char rest, decimal value = char :: rest ∧ (char = '-' ∨ char.isDigit) := by
  unfold decimal
  split
  · exact ⟨_, _, rfl, .inl rfl⟩
  · cases text : Nat.toDigits 10 value.natAbs with
    | nil => exact absurd text Nat.toDigits_ne_nil
    | cons char rest =>
      have hm : char ∈ Nat.toDigits 10 value.natAbs := by simp [text]
      exact ⟨char, rest, rfl, .inr (isDigit_of_mem_toDigits hm)⟩

theorem toDigits_ne_sign (value : Nat) (after next : List Char)
    : Nat.toDigits 10 value ++ after ≠ '-' :: next := by
  intro same
  cases text : Nat.toDigits 10 value with
  | nil => exact Nat.toDigits_ne_nil text
  | cons char rest =>
    rw [text, cons_append, List.cons.injEq] at same
    have hm : char ∈ Nat.toDigits 10 value := by simp [text]
    have digit := isDigit_of_mem_toDigits hm
    rw [same.1] at digit
    exact absurd digit (by decide)

theorem decimal_cancel (leftEnded : Ended after) (rightEnded : Ended next)
    (same : decimal left ++ after = decimal right ++ next)
    : left = right ∧ after = next := by
  unfold decimal at same
  split at same <;> split at same
  · simp only [cons_append, List.cons.injEq, true_and] at same
    obtain ⟨values, afters⟩ := toDigits_cancel leftEnded rightEnded same
    exact ⟨by omega, afters⟩
  · exact absurd same.symm (toDigits_ne_sign _ _ _)
  · exact absurd same (toDigits_ne_sign _ _ _)
  · obtain ⟨values, afters⟩ := toDigits_cancel leftEnded rightEnded same
    exact ⟨by omega, afters⟩

-- Values

mutual
def render : Value → List Char
  | .null => ['n', 'u', 'l', 'l']
  | .bool true => ['t', 'r', 'u', 'e']
  | .bool false => ['f', 'a', 'l', 's', 'e']
  | .number value => decimal value
  | .string value => quote value
  | .array [] => ['[', ']']
  | .array (item :: rest) => '[' :: (render item ++ renderItems rest)
  | .object [] => ['{', '}']
  | .object ((name, item) :: rest) =>
    '{' :: (quote name ++ ':' :: (render item ++ renderFields rest))

def renderItems : List Value → List Char
  | [] => [']']
  | item :: rest => ',' :: (render item ++ renderItems rest)

def renderFields : List (String × Value) → List Char
  | [] => ['}']
  | (name, item) :: rest =>
    ',' :: (quote name ++ ':' :: (render item ++ renderFields rest))
end

def Value.text (value : Value) : String := ofList (render value)

-- The text determines the value

/-- The constructor of a value, as its first character shows it. No value starts with a
character of shape `none`.
-/
inductive Shape
  | none
  | null
  | true
  | false
  | number
  | string
  | array
  | object
  deriving DecidableEq

def shapeOfChar (char : Char) : Shape :=
  if char = 'n' then .null
  else if char = 't' then .true
  else if char = 'f' then .false
  else if char = '"' then .string
  else if char = '[' then .array
  else if char = '{' then .object
  else if char = '-' ∨ char.isDigit = true then .number
  else .none

def Value.shape : Value → Shape
  | .null => .null
  | .bool Bool.true => .true
  | .bool Bool.false => .false
  | .number _ => .number
  | .string _ => .string
  | .array _ => .array
  | .object _ => .object

theorem shapeOfChar_number (head : char = '-' ∨ char.isDigit) : shapeOfChar char = .number := by
  unfold shapeOfChar
  rcases head with rfl | digit
  · rfl
  · rw [if_neg (by rintro rfl; exact absurd digit (by decide)),
      if_neg (by rintro rfl; exact absurd digit (by decide)),
      if_neg (by rintro rfl; exact absurd digit (by decide)),
      if_neg (by rintro rfl; exact absurd digit (by decide)),
      if_neg (by rintro rfl; exact absurd digit (by decide)),
      if_neg (by rintro rfl; exact absurd digit (by decide)), if_pos (.inr digit)]

theorem Value.shape_ne_none (value : Value) : value.shape ≠ .none := by
  cases value with
  | bool value => cases value <;> exact Shape.noConfusion
  | null | number _ | string _ | array _ | object _ => exact Shape.noConfusion

/-- The first character of a value's text shows its constructor. -/
theorem render_head (value : Value)
    : ∃ char rest, render value = char :: rest ∧ shapeOfChar char = value.shape := by
  cases value with
  | null => exact ⟨_, _, rfl, rfl⟩
  | bool value => cases value <;> exact ⟨_, _, rfl, rfl⟩
  | number value =>
    obtain ⟨char, rest, text, head⟩ := decimal_head value
    exact ⟨char, rest, by rw [render, text], shapeOfChar_number head⟩
  | string value => exact ⟨_, _, by rw [render, quote], rfl⟩
  | array items =>
    cases items with
    | nil => exact ⟨_, _, by rw [render], rfl⟩
    | cons item rest => exact ⟨_, _, by rw [render], rfl⟩
  | object fields =>
    cases fields with
    | nil => exact ⟨_, _, by rw [render], rfl⟩
    | cons field rest => exact ⟨_, _, by rw [render], rfl⟩

/-- No value's text starts with the closing bracket of an array. -/
theorem render_ne_bracket (value : Value) (after next : List Char)
    : render value ++ after ≠ ']' :: next := by
  intro same
  obtain ⟨char, rest, text, shape⟩ := render_head value
  rw [text, List.cons_append, List.cons.injEq] at same
  rw [same.1] at shape
  exact value.shape_ne_none shape.symm

theorem shape_eq_of_render (same : render left ++ after = render right ++ next)
    : left.shape = right.shape := by
  obtain ⟨leftChar, leftRest, leftText, leftShape⟩ := render_head left
  obtain ⟨rightChar, rightRest, rightText, rightShape⟩ := render_head right
  rw [leftText, rightText, List.cons_append, List.cons_append, List.cons.injEq] at same
  rw [← leftShape, ← rightShape, same.1]

theorem ended_renderItems (items : List Value) (after : List Char)
    : Ended (renderItems items ++ after) := by
  cases items <;> (intro char hm; simp [renderItems] at hm; subst hm; decide)

theorem ended_renderFields (fields : List (String × Value)) (after : List Char)
    : Ended (renderFields fields ++ after) := by
  cases fields <;> (intro char hm; simp [renderFields] at hm; subst hm; decide)

mutual
/-- Equal texts, followed by text that cannot continue a number, come from equal
values. Witness: the first characters fix the constructor, and each part is cancelled
in turn by structural recursion.
-/
theorem render_cancel (left right : Value) (after next : List Char)
    (leftEnded : Ended after) (rightEnded : Ended next)
    (same : render left ++ after = render right ++ next)
    : left = right ∧ after = next := by
  have shapes := shape_eq_of_render same
  match left, right with
  | .null, .null => exact ⟨rfl, by simpa [render] using same⟩
  | .bool true, .bool true => exact ⟨rfl, by simpa [render] using same⟩
  | .bool false, .bool false => exact ⟨rfl, by simpa [render] using same⟩
  | .number value, .number other =>
    simp only [render] at same
    obtain ⟨values, afters⟩ := decimal_cancel leftEnded rightEnded same
    exact ⟨by rw [values], afters⟩
  | .string value, .string other =>
    simp only [render] at same
    obtain ⟨values, afters⟩ := quote_cancel same
    exact ⟨by rw [values], afters⟩
  | .array [], .array [] => exact ⟨rfl, by simpa [render] using same⟩
  | .array [], .array (item :: rest) =>
    simp only [render, List.cons_append, List.append_assoc, List.cons.injEq,
      true_and, List.nil_append] at same
    exact absurd same.symm (render_ne_bracket item _ _)
  | .array (item :: rest), .array [] =>
    simp only [render, List.cons_append, List.append_assoc, List.cons.injEq,
      true_and, List.nil_append] at same
    exact absurd same (render_ne_bracket item _ _)
  | .array (item :: rest), .array (other :: more) =>
    simp only [render, List.cons_append, List.append_assoc, List.cons.injEq, true_and] at same
    obtain ⟨heads, tails⟩ := render_cancel item other _ _ (ended_renderItems _ _)
      (ended_renderItems _ _) same
    obtain ⟨rests, afters⟩ := renderItems_cancel rest more _ _ tails
    exact ⟨by rw [heads, rests], afters⟩
  | .object [], .object [] => exact ⟨rfl, by simpa [render] using same⟩
  | .object [], .object ((name, item) :: rest) => simp [render, quote] at same
  | .object ((name, item) :: rest), .object [] => simp [render, quote] at same
  | .object ((name, item) :: rest), .object ((other, value) :: more) =>
    simp only [render, List.cons_append, List.append_assoc, List.cons.injEq, true_and] at same
    obtain ⟨names, values⟩ := quote_cancel same
    rw [List.cons.injEq] at values
    obtain ⟨heads, tails⟩ := render_cancel item value _ _ (ended_renderFields _ _)
      (ended_renderFields _ _) values.2
    obtain ⟨rests, afters⟩ := renderFields_cancel rest more _ _ tails
    exact ⟨by rw [names, heads, rests], afters⟩

theorem renderItems_cancel (left right : List Value) (after next : List Char)
    (same : renderItems left ++ after = renderItems right ++ next)
    : left = right ∧ after = next := by
  match left, right with
  | [], [] => exact ⟨rfl, by simpa [renderItems] using same⟩
  | [], _ :: _ => simp [renderItems] at same
  | _ :: _, [] => simp [renderItems] at same
  | item :: rest, other :: more =>
    simp only [renderItems, List.cons_append, List.append_assoc, List.cons.injEq, true_and] at same
    obtain ⟨heads, tails⟩ := render_cancel item other _ _ (ended_renderItems _ _)
      (ended_renderItems _ _) same
    obtain ⟨rests, afters⟩ := renderItems_cancel rest more _ _ tails
    exact ⟨by rw [heads, rests], afters⟩

theorem renderFields_cancel (left right : List (String × Value)) (after next : List Char)
    (same : renderFields left ++ after = renderFields right ++ next)
    : left = right ∧ after = next := by
  match left, right with
  | [], [] => exact ⟨rfl, by simpa [renderFields] using same⟩
  | [], _ :: _ => simp [renderFields] at same
  | _ :: _, [] => simp [renderFields] at same
  | (name, item) :: rest, (other, value) :: more =>
    simp only [renderFields, List.cons_append, List.append_assoc, List.cons.injEq, true_and] at same
    obtain ⟨names, values⟩ := quote_cancel same
    rw [List.cons.injEq] at values
    obtain ⟨heads, tails⟩ := render_cancel item value _ _ (ended_renderFields _ _)
      (ended_renderFields _ _) values.2
    obtain ⟨rests, afters⟩ := renderFields_cancel rest more _ _ tails
    exact ⟨by rw [names, heads, rests], afters⟩
end

theorem text_injective : Function.Injective Value.text := by
  intro left right same
  have chars : render left = render right := by
    simpa only [Value.text, String.toList_ofList] using congrArg String.toList same
  have ended : Ended [] := by simp [Ended]
  exact (render_cancel left right [] [] ended ended (by rw [chars])).1

variable {some all : List (String × Value)}

/-- Leaving out fields only leaves out characters. -/
theorem renderFields_sublist (kept : some.Sublist all)
    : (renderFields some).Sublist (renderFields all) := by
  induction kept with
  | slnil => exact .refl _
  | cons field _ ih =>
    refine ih.trans ?_
    rw [renderFields, ← List.singleton_append, ← List.append_assoc, ← List.cons_append,
      ← List.append_assoc]
    exact List.sublist_append_right _ _
  | cons_cons field _ ih =>
    simp only [renderFields]
    exact ((ih.append_left _).cons_cons _ |>.append_left _).cons_cons _

/-- The text of an object does not get longer by leaving out fields after the first. -/
theorem utf8ByteSize_text_le (kept : some.Sublist all)
    : (Value.object (first :: some)).text.utf8ByteSize
      ≤ (Value.object (first :: all)).text.utf8ByteSize := by
  simp only [Value.text, String.utf8ByteSize_ofList]
  apply String.utf8Len_le_of_sublist
  simp only [render]
  exact (((renderFields_sublist kept).append_left _).cons_cons _ |>.append_left _).cons_cons _

mutual
/-- A bound on the size of a value's text that needs no look at the characters: escaping a
byte takes at most six bytes.
-/
def weight : Value → Nat
  | .null => 4
  | .bool _ => 5
  | .number value => (decimal value).length
  | .string value => 6 * value.utf8ByteSize + 2
  | .array items => weightItems items + 2
  | .object fields => weightFields fields + 2

def weightItems : List Value → Nat
  | [] => 0
  | item :: rest => weight item + 1 + weightItems rest

def weightFields : List (String × Value) → Nat
  | [] => 0
  | (name, item) :: rest => 6 * name.utf8ByteSize + 4 + weight item + weightFields rest
end

/-- Text of one-byte characters has as many bytes as characters. -/
theorem utf8Len_of_ascii {chars : List Char} (ascii : ∀ char ∈ chars, char.toNat < 128)
    : String.utf8Len chars = chars.length := by
  induction chars with
  | nil => rfl
  | cons char rest ih =>
    have small : char.val ≤ 127 := by
      rw [UInt32.le_iff_toNat_le]
      exact Nat.lt_succ_iff.mp (ascii char List.mem_cons_self)
    have size : char.utf8Size = 1 := by simp [Char.utf8Size, small]
    rw [String.utf8Len_cons, ih fun other hm => ascii other (.tail _ hm), size, List.length_cons]

theorem hexDigit_ascii (small : digit < 16) : (hexDigit digit).toNat < 128 := by
  interval_cases digit <;> decide

/-- An escaped character is itself or a short ASCII text. -/
theorem escapeChar_cases (char : Char)
    : escapeChar char = [char]
      ∨ ((escapeChar char).length ≤ 6 ∧ ∀ part ∈ escapeChar char, part.toNat < 128) := by
  unfold escapeChar
  split
  · exact .inr ⟨by simp, by simp⟩
  split
  · exact .inr ⟨by simp, by simp⟩
  split
  · exact .inr ⟨by simp, by simp⟩
  split
  · exact .inr ⟨by simp, by simp⟩
  split
  · exact .inr ⟨by simp, by simp⟩
  split
  · exact .inr ⟨by simp, by simp⟩
  split
  · exact .inr ⟨by simp, by simp⟩
  split
  · rename_i control
    refine .inr ⟨le_refl 6, ?_⟩
    have high : char.toNat / 16 < 16 := by omega
    have low : char.toNat % 16 < 16 := by omega
    simp only [List.forall_mem_cons]
    exact ⟨by decide, by decide, by decide, by decide, hexDigit_ascii high,
      hexDigit_ascii low, by simp⟩
  · exact .inl rfl

theorem utf8Len_escapeChar_le (char : Char)
    : String.utf8Len (escapeChar char) ≤ 6 * char.utf8Size := by
  have hp := char.utf8Size_pos
  rcases escapeChar_cases char with same | ⟨short, ascii⟩
  · rw [same, String.utf8Len_cons, String.utf8Len_nil]
    omega
  · rw [utf8Len_of_ascii ascii]
    omega

theorem utf8Len_flatMap_escapeChar_le (chars : List Char)
    : String.utf8Len (chars.flatMap escapeChar) ≤ 6 * String.utf8Len chars := by
  induction chars with
  | nil => simp
  | cons char rest ih =>
    have head := utf8Len_escapeChar_le char
    rw [List.flatMap_cons, String.utf8Len_append, String.utf8Len_cons]
    omega

theorem utf8Len_quote_le (text : String)
    : String.utf8Len (quote text) ≤ 6 * text.utf8ByteSize + 2 := by
  have inner := utf8Len_flatMap_escapeChar_le text.toList
  have size : text.utf8ByteSize = String.utf8Len text.toList := by
    rw [← String.utf8ByteSize_ofList, String.ofList_toList]
  have quotes : '"'.utf8Size = 1 := by decide
  rw [quote, utf8Len_cons, utf8Len_append, size, utf8Len_cons, utf8Len_nil, quotes]
  omega

theorem utf8Len_decimal (value : Int) : utf8Len (decimal value) = (decimal value).length := by
  apply utf8Len_of_ascii
  have digits (char : Char) (hm : char ∈ Nat.toDigits 10 value.natAbs)
      : char.toNat < 128 := by
    have digit := isDigit_of_mem_toDigits hm
    simp only [Char.isDigit, Bool.and_eq_true, decide_eq_true_eq] at digit
    exact lt_of_le_of_lt (UInt32.le_iff_toNat_le.mp digit.2) (by decide)
  unfold decimal
  split
  · simp only [forall_mem_cons]
    exact ⟨by decide, digits⟩
  · exact digits

mutual
theorem utf8Len_render_le (value : Value) : utf8Len (render value) ≤ weight value := by
  match value with
  | .null => decide
  | .bool true => decide
  | .bool false => decide
  | .number value => exact (utf8Len_decimal value).le
  | .string value => exact utf8Len_quote_le value
  | .array [] => decide
  | .array (item :: rest) =>
    have head := utf8Len_render_le item
    have tail := utf8Len_renderItems_le rest
    have bracket : '['.utf8Size = 1 := by decide
    rw [render, utf8Len_cons, utf8Len_append, weight, weightItems, bracket]
    omega
  | .object [] => decide
  | .object ((name, item) :: rest) =>
    have label := utf8Len_quote_le name
    have head := utf8Len_render_le item
    have tail := utf8Len_renderFields_le rest
    have brace : '{'.utf8Size = 1 := by decide
    have colon : ':'.utf8Size = 1 := by decide
    rw [render, utf8Len_cons, utf8Len_append, utf8Len_cons,
      utf8Len_append, weight, weightFields, brace, colon]
    omega

theorem utf8Len_renderItems_le (items : List Value)
    : utf8Len (renderItems items) ≤ weightItems items + 1 := by
  match items with
  | [] => decide
  | item :: rest =>
    have head := utf8Len_render_le item
    have tail := utf8Len_renderItems_le rest
    have comma : ','.utf8Size = 1 := by decide
    rw [renderItems, utf8Len_cons, utf8Len_append, weightItems, comma]
    omega

theorem utf8Len_renderFields_le (fields : List (String × Value))
    : utf8Len (renderFields fields) ≤ weightFields fields + 1 := by
  match fields with
  | [] => decide
  | (name, item) :: rest =>
    have label := utf8Len_quote_le name
    have head := utf8Len_render_le item
    have tail := utf8Len_renderFields_le rest
    have comma : ','.utf8Size = 1 := by decide
    have colon : ':'.utf8Size = 1 := by decide
    rw [renderFields, utf8Len_cons, utf8Len_append, utf8Len_cons,
      utf8Len_append, weightFields, comma, colon]
    omega
end

/-- The text of a value is at most as long as its weight. -/
theorem utf8ByteSize_text_le_weight (value : Value) : value.text.utf8ByteSize ≤ weight value := by
  rw [Value.text, utf8ByteSize_ofList]
  exact utf8Len_render_le value

/-- Fields with short names weigh little more than their values. -/
theorem weightFields_le (limit : Nat) {fields : List (String × Value)}
    (names : (fields.map Prod.fst).all (fun name => name.utf8ByteSize ≤ limit))
    : weightFields fields
      ≤ (6 * limit + 4) * fields.length + ((fields.map Prod.snd).map weight).sum := by
  induction fields with
  | nil => simp [weightFields]
  | cons field rest ih =>
    simp only [map_cons, all_cons, Bool.and_eq_true, decide_eq_true_eq]
      at names
    have tail := ih names.2
    have name := names.1
    rw [weightFields]
    simp only [map_cons, sum_cons, length_cons, Nat.mul_add, Nat.mul_one]
    omega

theorem weight_number_le (low : -10 ^ 20 < value) (high : value < 10 ^ 20)
    : weight (.number value) ≤ 21 := by
  have digits : (Nat.toDigits 10 value.natAbs).length ≤ 20 :=
    Nat.toDigits_length 10 _ 20 (by decide) (by omega)
  rw [weight, decimal]
  split
  · rw [length_cons]
    omega
  · omega

/-- A text without escapes adds its own size to an object after its first field. -/
theorem utf8ByteSize_text_replicate (first : String × Value)
    (front back : List (String × Value)) (name : String) (count : Nat)
    : (Value.object (first :: (front
          ++ (name, .string (String.ofList (List.replicate count 'a'))) :: back))
        ).text.utf8ByteSize
      = (Value.object (first :: (front ++ (name, .string "") :: back))).text.utf8ByteSize
        + count := by
  have plain : (List.replicate count 'a').flatMap escapeChar = List.replicate count 'a' := by
    induction count with
    | zero => rfl
    | succ count ih =>
      rw [List.replicate_succ, List.flatMap_cons, ih]
      rfl
  have size : String.utf8Len (List.replicate count 'a') = count := by
    rw [utf8Len_of_ascii, List.length_replicate]
    intro char hc
    rw [List.eq_of_mem_replicate hc]
    decide
  simp only [Value.text, String.utf8ByteSize_ofList, render, String.utf8Len_cons,
    String.utf8Len_append]
  induction front with
  | nil =>
    simp only [List.nil_append, renderFields, render, quote, String.toList_ofList, plain,
      String.utf8Len_cons, String.utf8Len_append, size, String.toList_empty, List.flatMap_nil,
      String.utf8Len_nil]
    omega
  | cons field rest ih =>
    simp only [List.cons_append, renderFields, String.utf8Len_cons, String.utf8Len_append]
    omega

end Json
