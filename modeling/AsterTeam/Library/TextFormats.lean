import AsterTeam.Library.Json

/-! Two text formats with a fixed grammar: UTC times in milliseconds, and semantic
versions. A value of each type satisfies its calendar or grammar, and the text is computed
from it, so a text that equals a computed one is well formed.
-/

namespace TextFormats

open List

-- Times

/-- A number with leading zeros up to a width. -/
def padded (width value : Nat) : List Char :=
  List.replicate (width - (Nat.toDigits 10 value).length) '0' ++ Nat.toDigits 10 value

def daysInMonth (year : Int) (month : Nat) : Nat :=
  if month = 2 then
    if year % 4 = 0 ∧ (year % 100 ≠ 0 ∨ year % 400 = 0) then 29 else 28
  else if month = 4 ∨ month = 6 ∨ month = 9 ∨ month = 11 then 30
  else 31

/-- A moment by its UTC calendar fields. The second is at most 59: a leap second has no
calendar time of its own.
-/
structure CivilTime where
  year : Int
  (month day hour minute second nanosecond : Nat)
  month_valid : 1 ≤ month ∧ month ≤ 12
  day_valid : 1 ≤ day ∧ day ≤ daysInMonth year month
  hour_valid : hour < 24
  minute_valid : minute < 60
  second_valid : second < 60
  nanosecond_valid : nanosecond < 10 ^ 9
  deriving DecidableEq

namespace CivilTime

def yearText (time : CivilTime) : List Char :=
  if time.year < 0 then '-' :: padded 4 time.year.natAbs else padded 4 time.year.natAbs

/-- Year to second, then three digits of the fraction. -/
def exactChars (time : CivilTime) : List Char :=
  time.yearText ++ '-' :: (padded 2 time.month ++ '-' :: (padded 2 time.day
    ++ 'T' :: (padded 2 time.hour ++ ':' :: (padded 2 time.minute
    ++ ':' :: (padded 2 time.second ++ '.' :: (padded 3 (time.nanosecond / 10 ^ 6) ++ ['Z']))))))

def exactText (time : CivilTime) : String := String.ofList time.exactChars

def before (left right : CivilTime) : Bool :=
  decide ([left.year, (left.month : Int), left.day, left.hour, left.minute, left.second,
      left.nanosecond]
    < [right.year, (right.month : Int), right.day, right.hour, right.minute, right.second,
      right.nanosecond])

/-- A time that its exact text shows completely. -/
structure Exact (time : CivilTime) : Prop where
  year : 0 ≤ time.year ∧ time.year < 10000
  fraction : time.nanosecond % 10 ^ 6 = 0

/-- The same time without what lies below a millisecond. -/
def truncated (time : CivilTime) : CivilTime :=
  { time with
    nanosecond := time.nanosecond / 10 ^ 6 * 10 ^ 6
    nanosecond_valid := by
      have small := time.nanosecond_valid
      omega }

theorem exactText_truncated (time : CivilTime) : time.truncated.exactText = time.exactText := by
  have fraction : time.nanosecond / 10 ^ 6 * 10 ^ 6 / 10 ^ 6 = time.nanosecond / 10 ^ 6 := by
    omega
  simp only [exactText, exactChars, truncated, yearText, fraction]
  rfl

end CivilTime

variable {width value : Nat}

theorem padded_length (hp : 0 < width) (small : value < 10 ^ width)
    : (padded width value).length = width := by
  have digits := Nat.toDigits_length 10 value width hp small
  simp only [padded, length_append, length_replicate]
  omega

theorem padded_digit (hm : char ∈ padded width value) : char.isDigit := by
  rcases mem_append.mp hm with zero | digit
  · rw [eq_of_mem_replicate zero]
    rfl
  · exact Json.isDigit_of_mem_toDigits digit

namespace CivilTime

variable {time : CivilTime}

/-- In a text that shows a four-digit year the fifth character ends it. -/
theorem year_of_exactChars (dash : time.exactChars[4]? = some '-')
    : 0 ≤ time.year ∧ time.year < 10000 := by
  have digit {chars : List Char} {width value : Nat} (present : chars = padded width value)
      (rest : List Char) {index : Nat} (inside : index < chars.length)
      (found : (chars ++ rest)[index]? = some '-')
      : False := by
    rw [getElem?_append_left inside] at found
    have hm := mem_of_getElem? found
    rw [present] at hm
    exact absurd (padded_digit hm) (by decide)
  have long (value : Nat) : 4 ≤ (padded 4 value).length := by
    simp only [padded, length_append, length_replicate]
    omega
  unfold exactChars yearText at dash
  split at dash
  · rename_i negative
    rw [cons_append, getElem?_cons_succ] at dash
    exact (digit rfl _ (long _) dash).elim
  · rename_i hp
    refine ⟨by omega, ?_⟩
    by_contra large
    have longer : 4 < (padded 4 time.year.natAbs).length := by
      have digits : ¬ (Nat.toDigits 10 time.year.natAbs).length ≤ 4 := by
        intro short
        have bound := (Nat.length_toDigits_le_iff (by decide) (by decide)).mp short
        omega
      simp only [padded, length_append, length_replicate]
      omega
    exact digit rfl _ longer dash

theorem yearText_of_exact (exact : time.Exact) : time.yearText = padded 4 time.year.natAbs :=
  if_neg (by have year := exact.year; omega)

theorem yearText_length (exact : time.Exact) : time.yearText.length = 4 := by
  rw [yearText_of_exact exact]
  have year := exact.year
  exact padded_length (by decide) (by omega)

variable (time : CivilTime)

theorem month_length : (padded 2 time.month).length = 2 :=
  padded_length (by decide) (by have bound := time.month_valid; omega)

theorem day_length : (padded 2 time.day).length = 2 := by
  refine padded_length (by decide) ?_
  have bound := time.day_valid
  have longest : daysInMonth time.year time.month ≤ 31 := by
    unfold daysInMonth
    split_ifs <;> omega
  omega

theorem hour_length : (padded 2 time.hour).length = 2 :=
  padded_length (by decide) (by have bound := time.hour_valid; omega)

theorem minute_length : (padded 2 time.minute).length = 2 :=
  padded_length (by decide) (by have bound := time.minute_valid; omega)

theorem second_length : (padded 2 time.second).length = 2 :=
  padded_length (by decide) (by have bound := time.second_valid; omega)

theorem fraction_length : (padded 3 (time.nanosecond / 10 ^ 6)).length = 3 :=
  padded_length (by decide) (by have bound := time.nanosecond_valid; omega)

variable {time}

/-- The exact text of a four-digit year has twenty-four characters, with the dot of the
fraction and the final letter in fixed places.
-/
theorem exactChars_shape (exact : time.Exact)
    : time.exactChars.length = 24 ∧ time.exactChars[19]? = some '.'
      ∧ time.exactChars.getLast? = some 'Z'
      ∧ ∀ char ∈ time.exactChars, char.isDigit ∨ char ∈ ['-', 'T', ':', '.', 'Z'] := by
  have year := yearText_length exact
  have month := time.month_length
  have day := time.day_length
  have hour := time.hour_length
  have minute := time.minute_length
  have second := time.second_length
  have fraction := time.fraction_length
  refine ⟨?_, ?_, ?_, ?_⟩
  · simp only [exactChars, length_append, length_cons, length_nil, year, month,
      day, hour, minute, second, fraction]
  · simp [exactChars, getElem?_append, year, month, day, hour, minute, second]
  · simp [exactChars, getLast?_append, getLast?_cons]
  · intro char hm
    rw [exactChars, yearText_of_exact exact] at hm
    simp only [mem_append, mem_cons, not_mem_nil, or_false] at hm
    rcases hm with digit | rfl | digit | rfl | digit | rfl | digit | rfl | digit | rfl
      | digit | rfl | digit | rfl
    all_goals first | exact .inl (padded_digit digit) | exact .inr (by decide)

end CivilTime

/-- What a reader of times returns: the UTC calendar fields, and whether the text named
UTC itself as its offset.
-/
structure Moment where
  civil : CivilTime
  utc : Bool

/-- A reader that follows RFC 3339 on calendar times: it reads every exact text as its own
time, and reads no text whose year does not have four digits.
-/
structure ReadsCalendar (parse : String → Option Moment) : Prop where
  exact : ∀ time : CivilTime, time.Exact → parse time.exactText = some ⟨time, true⟩
  year : ∀ text moment, parse text = some moment → text.toList[4]? = some '-'

/-- A text that a reader gives back unchanged is the exact text of its time. -/
theorem ReadsCalendar.exact_of_round_trip (reads : ReadsCalendar parse)
    (parsed : parse text = some moment) (same : moment.civil.exactText = text)
    : moment.civil.Exact ∧ moment.utc := by
  have dash := reads.year text moment parsed
  rw [← same, CivilTime.exactText, String.toList_ofList] at dash
  have year := CivilTime.year_of_exactChars dash
  have exact : moment.civil.truncated.Exact := ⟨year, by simp [CivilTime.truncated]⟩
  have again := reads.exact _ exact
  rw [CivilTime.exactText_truncated, same, parsed, Option.some.injEq] at again
  rw [again]
  exact ⟨exact, rfl⟩

theorem ofDigitChars_padded (width value : Nat)
    : Nat.ofDigitChars 10 (padded width value) 0 = value := by
  have zeros (count : Nat) (rest : List Char)
      : Nat.ofDigitChars 10 (List.replicate count '0' ++ rest) 0 = Nat.ofDigitChars 10 rest 0 := by
    induction count with
    | zero => rfl
    | succ count ih =>
      rw [replicate_succ, cons_append, Nat.ofDigitChars_cons]
      exact ih
  rw [padded, zeros, Nat.ofDigitChars_ten_toDigits]

theorem padded_append_inj {after next : List Char}
    (lengths : (padded width left).length = (padded width right).length)
    (same : padded width left ++ after = padded width right ++ next)
    : left = right ∧ after = next := by
  obtain ⟨numbers, rests⟩ := append_inj same lengths
  have values := congrArg (fun digits => Nat.ofDigitChars 10 digits 0) numbers
  simp only [ofDigitChars_padded] at values
  exact ⟨values, rests⟩

/-- An exact time can be read off its text: every field has a fixed width. -/
theorem CivilTime.exactText_injective {left right : CivilTime} (leftExact : left.Exact)
    (rightExact : right.Exact) (same : left.exactText = right.exactText)
    : left = right := by
  have chars : left.exactChars = right.exactChars := by
    have texts := congrArg String.toList same
    simpa only [exactText, String.toList_ofList] using texts
  have years := (yearText_length leftExact).trans (yearText_length rightExact).symm
  rw [exactChars, exactChars, yearText_of_exact leftExact, yearText_of_exact rightExact] at chars
  rw [yearText_of_exact leftExact, yearText_of_exact rightExact] at years
  obtain ⟨year, chars⟩ := padded_append_inj years chars
  rw [List.cons.injEq] at chars
  obtain ⟨month, chars⟩ :=
    padded_append_inj (left.month_length.trans right.month_length.symm) chars.2
  rw [List.cons.injEq] at chars
  obtain ⟨day, chars⟩ := padded_append_inj (left.day_length.trans right.day_length.symm) chars.2
  rw [List.cons.injEq] at chars
  obtain ⟨hour, chars⟩ :=
    padded_append_inj (left.hour_length.trans right.hour_length.symm) chars.2
  rw [List.cons.injEq] at chars
  obtain ⟨minute, chars⟩ :=
    padded_append_inj (left.minute_length.trans right.minute_length.symm) chars.2
  rw [List.cons.injEq] at chars
  obtain ⟨second, chars⟩ :=
    padded_append_inj (left.second_length.trans right.second_length.symm) chars.2
  rw [List.cons.injEq] at chars
  obtain ⟨fraction, _⟩ :=
    padded_append_inj (left.fraction_length.trans right.fraction_length.symm) chars.2
  have hl := leftExact.year
  have hr := rightExact.year
  have hle := leftExact.fraction
  have hri := rightExact.fraction
  obtain ⟨_, _, _, _, _, _, _, _, _, _, _, _, _⟩ := left
  obtain ⟨_, _, _, _, _, _, _, _, _, _, _, _, _⟩ := right
  simp only [CivilTime.mk.injEq]
  dsimp only at *
  exact ⟨by omega, month, day, hour, minute, second, by omega⟩

open Classical in
/-- The reader that knows exactly the exact texts. -/
noncomputable def calendarReader (text : String) : Option Moment :=
  if found : ∃ time : CivilTime, time.Exact ∧ time.exactText = text then
    some ⟨found.choose, true⟩
  else none

theorem calendarReader_reads : ReadsCalendar calendarReader := by
  refine ⟨?_, ?_⟩
  · intro time exact
    have found : ∃ other : CivilTime, other.Exact ∧ other.exactText = time.exactText :=
      ⟨time, exact, rfl⟩
    have chosen := found.choose_spec
    rw [calendarReader, dif_pos found, CivilTime.exactText_injective chosen.1 exact chosen.2]
  · intro text moment read
    unfold calendarReader at read
    split at read
    · rename_i found
      obtain ⟨exact, same⟩ := found.choose_spec
      have year := CivilTime.yearText_length exact
      rw [← same, CivilTime.exactText, String.toList_ofList, CivilTime.exactChars,
        getElem?_append_right (by omega), year]
      rfl
    · cases read

-- Semantic versions

/-- Letters, digits and hyphens, at least one. -/
def BuildIdentifier (identifier : List Char) : Prop :=
  identifier ≠ [] ∧ ∀ char ∈ identifier, char.isAlphanum = true ∨ char = '-'

/-- A pre-release identifier of digits only has no leading zero. -/
def PreReleaseIdentifier (identifier : List Char) : Prop :=
  BuildIdentifier identifier
    ∧ ((∀ char ∈ identifier, char.isDigit = true) → identifier.head? = some '0' →
      identifier = ['0'])

structure SemanticVersion where
  (major minor patch : Nat)
  (preRelease build : List (List Char))
  preRelease_valid : ∀ identifier ∈ preRelease, PreReleaseIdentifier identifier
  build_valid : ∀ identifier ∈ build, BuildIdentifier identifier

namespace SemanticVersion

def coreChars (version : SemanticVersion) : List Char :=
  Nat.toDigits 10 version.major ++ '.' :: (Nat.toDigits 10 version.minor
    ++ '.' :: Nat.toDigits 10 version.patch)

/-- The identifiers after their mark, if there are any. -/
def suffix (mark : Char) (identifiers : List (List Char)) : List Char :=
  if identifiers = [] then [] else mark :: ['.'].intercalate identifiers

def chars (version : SemanticVersion) : List Char :=
  version.coreChars ++ (suffix '-' version.preRelease ++ suffix '+' version.build)

def text (version : SemanticVersion) : String := String.ofList version.chars

variable {version : SemanticVersion} {char : Char}

theorem coreChars_cases (hm : char ∈ version.coreChars) : char.isDigit ∨ char = '.' := by
  simp only [coreChars, mem_append, mem_cons] at hm
  rcases hm with digit | dot | digit | dot | digit
  · exact .inl (Json.isDigit_of_mem_toDigits digit)
  · exact .inr dot
  · exact .inl (Json.isDigit_of_mem_toDigits digit)
  · exact .inr dot
  · exact .inl (Json.isDigit_of_mem_toDigits digit)

theorem mem_intercalate (hm : char ∈ [separator].intercalate parts)
    : char = separator ∨ ∃ part ∈ parts, char ∈ part := by
  induction parts with
  | nil => simp at hm
  | cons part rest ih =>
    cases rest with
    | nil => exact .inr ⟨part, by simp, by simpa using hm⟩
    | cons next more =>
      rw [intercalate_cons_cons] at hm
      simp only [mem_append, mem_singleton] at hm
      rcases hm with (here | mark) | later
      · exact .inr ⟨part, by simp, here⟩
      · exact .inl mark
      · rcases ih later with mark | ⟨found, present, inside⟩
        · exact .inl mark
        · exact .inr ⟨found, mem_cons_of_mem _ present, inside⟩

variable {mark : Char} {identifiers : List (List Char)}

theorem suffix_cases (valid : ∀ identifier ∈ identifiers, BuildIdentifier identifier)
    (hm : char ∈ suffix mark identifiers)
    : char = mark ∨ char = '.' ∨ char.isAlphanum ∨ char = '-' := by
  unfold suffix at hm
  split at hm
  · simp at hm
  · rcases mem_cons.mp hm with same | inside
    · exact .inl same
    · rcases mem_intercalate inside with dot | ⟨identifier, present, here⟩
      · exact .inr (.inl dot)
      · exact .inr (.inr ((valid identifier present).2 char here))

theorem preRelease_build (version : SemanticVersion)
    : ∀ identifier ∈ version.preRelease, BuildIdentifier identifier :=
  fun identifier hm => (version.preRelease_valid identifier hm).1

/-- Every character of a version is a letter, a digit or one of three marks. -/
theorem chars_cases (hm : char ∈ version.chars)
    : char.isAlphanum ∨ char = '.' ∨ char = '-' ∨ char = '+' := by
  rcases mem_append.mp hm with core | rest
  · rcases coreChars_cases core with digit | dot
    · exact .inl (by simp [Char.isAlphanum, digit])
    · exact .inr (.inl dot)
  · rcases mem_append.mp rest with pre | build
    · rcases suffix_cases version.preRelease_build pre with dash | dot | letter | dash
      · exact .inr (.inr (.inl dash))
      · exact .inr (.inl dot)
      · exact .inl letter
      · exact .inr (.inr (.inl dash))
    · rcases suffix_cases version.build_valid build with plus | dot | letter | dash
      · exact .inr (.inr (.inr plus))
      · exact .inr (.inl dot)
      · exact .inl letter
      · exact .inr (.inr (.inl dash))

theorem takeWhile_mark (free : mark ∉ before)
    : (before ++ suffix mark identifiers).takeWhile (fun char => char != mark) = before := by
  have passed : ∀ char ∈ before, (char != mark) := by
    intro char hm
    simp only [bne_iff_ne, ne_eq]
    intro same
    exact free (same ▸ hm)
  rw [takeWhile_append_of_pos passed]
  unfold suffix
  split <;> simp

/-- Cutting at the first plus and then at the first hyphen leaves the three numbers. -/
theorem cut_chars (version : SemanticVersion)
    : (version.chars.takeWhile (fun char => char != '+')).takeWhile (fun char => char != '-')
      = version.coreChars := by
  have hc {mark : Char} (digit : mark.isDigit = false) (dot : mark ≠ '.')
      : mark ∉ version.coreChars := by
    intro hm
    rcases coreChars_cases hm with hd | hdo
    · rw [digit] at hd
      cases hd
    · exact dot hdo
  have hp : '+' ∉ version.coreChars ++ suffix '-' version.preRelease := by
    intro hm
    rcases mem_append.mp hm with core | pre
    · exact hc (by decide) (by decide) core
    · rcases suffix_cases version.preRelease_build pre with same | same | same | same <;>
        exact absurd same (by decide)
  rw [chars, ← append_assoc, takeWhile_mark hp, takeWhile_mark (hc (by decide) (by decide))]

theorem splitOnP_coreChars (version : SemanticVersion)
    : version.coreChars.splitOnP (fun char => char == '.')
      = [Nat.toDigits 10 version.major, Nat.toDigits 10 version.minor,
        Nat.toDigits 10 version.patch] := by
  have whole (value : Nat)
      : (Nat.toDigits 10 value).splitOnP (fun char => char == '.') = [Nat.toDigits 10 value] := by
    apply splitOnP_eq_singleton
    intro char hm
    have digit := Json.isDigit_of_mem_toDigits hm
    simp only [beq_eq_false_iff_ne, ne_eq]
    intro same
    rw [same] at digit
    exact absurd digit (by decide)
  rw [coreChars, splitOnP_append_cons _ _ (by decide),
    splitOnP_append_cons _ _ (by decide), whole, whole, whole]
  rfl

end SemanticVersion

end TextFormats
