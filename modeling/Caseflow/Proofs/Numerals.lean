import Mathlib.Data.List.Basic
import Mathlib.Data.List.Induction
import Caseflow.Template
import Caseflow.Text.Numeral
/-! Numerals that are written and read back. The numeral of an integer has no blanks at its ends and
no references in it, so neither trimming nor interpolation changes it, and reading it gives the
integer again. -/
namespace Caseflow.Text

theorem isBlank_of_lt {c : Char} (visible : 0x20 < c.toNat) (plain : c.toNat < 0x85) :
    isBlank c = false := by
  simp only [isBlank]
  grind

theorem toNat_of_isDigit {c : Char} (isDigit : c.isDigit = true) :
    0x30 ≤ c.toNat ∧ c.toNat ≤ 0x39 := by
  simp only [Char.isDigit, Bool.and_eq_true, decide_eq_true_eq] at isDigit
  exact ⟨isDigit.1, isDigit.2⟩

theorem digit?_of_isDigit {c : Char} (isDigit : c.isDigit = true) :
    digit? c = some (c.toNat - '0'.toNat) := by
  simp only [Char.isDigit, Bool.and_eq_true, decide_eq_true_eq] at isDigit
  exact if_pos isDigit

/-- A run of digits is read as the number they stand for. -/
theorem continueNumeral?_digits {text : List Char} (digits : ∀ c ∈ text, c.isDigit = true)
    (value : Nat) : continueNumeral? value text = some (Nat.ofDigitChars 10 text value) := by
  induction text generalizing value with
  | nil => simp [continueNumeral?]
  | cons c rest ih =>
    have here := digit?_of_isDigit (digits c (by simp))
    rw [continueNumeral?, here, Nat.ofDigitChars_cons]
    exact ih (fun later member => digits later (List.mem_cons_of_mem _ member)) _

theorem isDigit_of_mem_numeral {value : Nat} {c : Char} (member : c ∈ numeral value) :
    c.isDigit = true :=
  Nat.isDigit_of_mem_toDigits (by decide) (by decide) member

theorem digits?_numeral (value : Nat) : digits? (numeral value) = some value := by
  have digits : ∀ c ∈ numeral value, c.isDigit = true := fun _ member => isDigit_of_mem_numeral member
  have read := continueNumeral?_digits digits 0
  rw [numeral, Nat.ofDigitChars_ten_toDigits] at read
  unfold digits?
  split
  · rename_i nothing
    exact absurd nothing Nat.toDigits_ne_nil
  · exact read

theorem integer?_integerText (value : Int) : integer? (integerText value).toList = some value := by
  unfold integerText
  rw [String.toList_ofList]
  split
  · rename_i negative
    have back : -(value.natAbs : Int) = value := by omega
    rw [integer?, digits?_numeral]
    exact congrArg some back
  · rename_i natural
    have first : ∀ c, (numeral value.natAbs).head? = some c → c.isDigit = true :=
      fun c head => isDigit_of_mem_numeral (List.mem_of_head? head)
    have read : integer? (numeral value.natAbs) =
        (digits? (numeral value.natAbs)).map Int.ofNat := by
      unfold integer?
      split
      · rename_i signed
        rw [signed] at first
        exact absurd (first '-' rfl) (by decide)
      · rename_i signed
        rw [signed] at first
        exact absurd (first '+' rfl) (by decide)
      · rfl
    have back : Int.ofNat value.natAbs = value := by
      rw [Int.ofNat_eq_natCast]
      omega
    rw [read, digits?_numeral, Option.map_some, back]

theorem int32OfInt?_toInt (value : Int32) : int32OfInt? value.toInt = some value := by
  have lower := value.le_toInt
  have upper := value.toInt_lt
  have within : -2147483648 ≤ value.toInt ∧ value.toInt ≤ 2147483647 := by omega
  rw [int32OfInt?, if_pos within, Int32.ofInt_toInt]

/-- An integer of 32 bits is read back from its numeral. -/
theorem int32?_integerText (value : Int32) : int32? (integerText value.toInt) = some value := by
  rw [int32?, integer?_integerText, Option.bind_some, int32OfInt?_toInt]

/-- Different integers of 32 bits have different numerals. -/
theorem int32_of_integerText {left right : Int32}
    (same : integerText left.toInt = integerText right.toInt) : left = right := by
  have read := congrArg int32? same
  rw [int32?_integerText, int32?_integerText] at read
  exact Option.some.inj read

/-- The characters of a numeral are digits and signs. -/
theorem visible_integerText {value : Int} {c : Char} (member : c ∈ (integerText value).toList) :
    0x2D ≤ c.toNat ∧ c.toNat ≤ 0x39 := by
  unfold integerText at member
  rw [String.toList_ofList] at member
  have digits (member : c ∈ numeral value.natAbs) : 0x2D ≤ c.toNat ∧ c.toNat ≤ 0x39 := by
    have bounds := toNat_of_isDigit (isDigit_of_mem_numeral member)
    omega
  split at member
  · rcases List.mem_cons.mp member with rfl | member
    · decide
    · exact digits member
  · exact digits member

theorem trimmed_of_visible {text : List Char} (visible : ∀ c ∈ text, isBlank c = false) :
    trimmed text = text := by
  have kept {text : List Char} (visible : ∀ c ∈ text, isBlank c = false) :
      text.dropWhile isBlank = text := by
    cases text with
    | nil => rfl
    | cons c rest => simp [visible c]
  rw [trimmed, kept visible, kept fun c member => visible c (List.mem_reverse.mp member),
    List.reverse_reverse]

theorem trim_integerText (value : Int) : trim (integerText value) = integerText value := by
  rw [trim, trimmed_of_visible, String.ofList_toList]
  intro c member
  have bounds := visible_integerText member
  exact isBlank_of_lt (by omega) (by omega)

theorem isEmpty_integerText (value : Int) : (integerText value).isEmpty = false := by
  cases empty : (integerText value).isEmpty with
  | false => rfl
  | true =>
    have read := integer?_integerText value
    rw [String.isEmpty_iff.mp empty] at read
    cases read

/-! ### The one numeral of a number -/

variable {value : Nat} {digits : List Char}

/-- The digits, without a needless zero in front, stand for the number. -/
structure IsNumeral (value : Nat) (digits : List Char) : Prop where
  nonempty : digits ≠ []
  decimal : ∀ c ∈ digits, c.isDigit = true
  shortest : digits.head? = some '0' → digits = ['0']
  worth : Nat.ofDigitChars 10 digits 0 = value

theorem digitChar_of_isDigit {c : Char} (isDigit : c.isDigit = true) :
    ∃ digit < 10, c = Nat.digitChar digit ∧ c.toNat - '0'.toNat = digit := by
  obtain ⟨lower, upper⟩ := toNat_of_isDigit isDigit
  refine ⟨c.toNat - 48, by omega, Char.toNat_inj.mp ?_, rfl⟩
  rw [Nat.toNat_digitChar_of_lt_ten (by omega)]
  omega

theorem numeral_snoc {front : Nat} (positive : 0 < front) {digit : Nat} (small : digit < 10) :
    numeral (10 * front + digit) = numeral front ++ [Nat.digitChar digit] := by
  have tens : (10 * front + digit) / 10 = front := by omega
  have ones : (10 * front + digit) % 10 = digit := by omega
  rw [numeral, Nat.toDigits_of_base_le (by decide) (by omega), tens, ones, numeral]

theorem numeral_small {digit : Nat} (small : digit < 10) : numeral digit = [Nat.digitChar digit] :=
  Nat.toDigits_of_lt_base small

theorem ofDigitChars_numeral (value : Nat) : Nat.ofDigitChars 10 (numeral value) 0 = value :=
  Nat.ofDigitChars_ten_toDigits

theorem numeral_ne_nil (value : Nat) : numeral value ≠ [] :=
  Nat.toDigits_ne_nil

theorem isNumeral_numeral (value : Nat) : IsNumeral value (numeral value) := by
  refine ⟨numeral_ne_nil value, fun c => isDigit_of_mem_numeral, ?_, ofDigitChars_numeral value⟩
  induction value using Nat.strongRecOn with
  | ind value ih =>
    intro zero
    by_cases small : value < 10
    · rw [numeral_small small] at zero ⊢
      simpa using zero
    · have positive : 0 < value / 10 := by omega
      have split := numeral_snoc positive (Nat.mod_lt value (by decide : 0 < 10))
      rw [Nat.div_add_mod] at split
      rw [split, List.head?_append_of_ne_nil _ (numeral_ne_nil _)] at zero
      have front := ih (value / 10) (by omega) zero
      have nothing := ofDigitChars_numeral (value / 10)
      rw [front] at nothing
      exact absurd nothing.symm (Nat.ne_of_gt positive)

/-- A number has one numeral. -/
theorem isNumeral_iff : IsNumeral value digits ↔ digits = numeral value := by
  refine ⟨fun isNumeral => ?_, fun same => same ▸ isNumeral_numeral value⟩
  induction digits using List.reverseRecOn generalizing value with
  | nil => exact absurd rfl isNumeral.nonempty
  | append_singleton front c ih =>
    obtain ⟨digit, small, isChar, ones⟩ := digitChar_of_isDigit (isNumeral.decimal c (by simp))
    have worth := isNumeral.worth
    rw [Nat.ofDigitChars_append, Nat.ofDigitChars_cons, Nat.ofDigitChars_nil, ones] at worth
    rcases eq_or_ne front [] with rfl | more
    · rw [← worth, Nat.ofDigitChars_nil, Nat.mul_zero, Nat.zero_add, numeral_small small, isChar]
      rfl
    · have lead : front.head? ≠ some '0' := by
        intro zero
        have whole := isNumeral.shortest (by rw [List.head?_append_of_ne_nil _ more, zero])
        have lengths := congrArg List.length whole
        have longer := List.length_pos_iff.mpr more
        simp only [List.length_append, List.length_singleton] at lengths
        omega
      have before := ih ⟨more, fun d member => isNumeral.decimal d (List.mem_append_left _ member),
        fun zero => absurd zero lead, rfl⟩
      have positive : 0 < Nat.ofDigitChars 10 front 0 := by
        refine Nat.pos_of_ne_zero fun zero => lead ?_
        rw [before, zero]
        rfl
      rw [← worth, numeral_snoc positive small, ← before, isChar]

end Caseflow.Text

namespace Caseflow.Template

/-- A text without a dollar sign has no references. -/
theorem hasOpening_of_no_dollar {text : List Char} (plain : '$' ∉ text) : hasOpening text = false := by
  induction text with
  | nil => rfl
  | cons c rest ih =>
    have later := ih fun member => plain (List.mem_cons_of_mem _ member)
    unfold hasOpening
    split
    · rename_i nothing
      cases nothing
    · rename_i opening
      cases opening
      exact absurd (List.mem_cons_self ..) plain
    · rename_i same
      cases same
      exact later

/-- A numeral has no references. -/
theorem hasOpening_integerText (value : Int) :
    hasOpening (Text.integerText value).toList = false := by
  refine hasOpening_of_no_dollar fun member => ?_
  have bounds := Text.visible_integerText member
  exact absurd bounds.1 (by decide)

end Caseflow.Template
