/-
Decimal numerals.

Natural numbers written with decimal digits, and read back.  Numerals of more than
`Numeral.maxDigits` digits are refused in both directions.

Main statements:
* `Numeral.value_digits` — a number is read back from its digits;
* `Numeral.isDigit_of_mem_digits` — a numeral holds digits only;
* `Numeral.digits_ne_nil` — a numeral is not empty;
* `Numeral.digits_head` — a numeral of more than one digit does not begin with zero.
-/

namespace ReleaseNotes
namespace Numeral

/-- The most digits that a numeral may have to be converted. -/
def maxDigits : Nat := 4300

/-- The character of a digit. -/
def digit (d : Nat) : Char := Char.ofNat (48 + d % 10)

/-- The value of a digit's character. -/
def digitValue (c : Char) : Nat := c.toNat - 48

/-- The digits of a number, put in front of the characters that follow them. -/
def digitsBefore (n : Nat) (rest : List Char) : List Char :=
  if n < 10 then digit n :: rest else digitsBefore (n / 10) (digit n :: rest)

/-- The digits of a number, the most significant first. -/
def digits (n : Nat) : List Char := digitsBefore n []

/-- The number that a list of digits stands for. -/
def value (cs : List Char) : Nat := cs.foldl (fun v c => 10 * v + digitValue c) 0

/-- The numeral of a number. -/
def print (n : Nat) : String := String.ofList (digits n)

/-- The numeral of an integer: a minus sign stands before the digits of a negative number. -/
def printInt : Int → String
  | .ofNat n => print n
  | .negSucc n => "-" ++ print (n + 1)

/-! ### Laws -/

theorem digit_cases (d : Nat) : digit d ∈ ['0', '1', '2', '3', '4', '5', '6', '7', '8', '9'] := by
  have h : d % 10 < 10 := Nat.mod_lt _ (by decide)
  unfold digit
  generalize d % 10 = k at h
  revert k
  decide

theorem digitValue_digit (d : Nat) : digitValue (digit d) = d % 10 := by
  have h : d % 10 < 10 := Nat.mod_lt _ (by decide)
  unfold digit
  generalize d % 10 = k at h
  revert k
  decide

theorem isDigit_digit (d : Nat) : (digit d).isDigit = true := by
  have h := digit_cases d
  simp only [List.mem_cons, List.not_mem_nil, or_false] at h
  rcases h with h | h | h | h | h | h | h | h | h | h <;> rw [h] <;> rfl

theorem digitsBefore_eq (n : Nat) (rest : List Char) : digitsBefore n rest = digits n ++ rest := by
  have aux : ∀ n rest, digitsBefore n rest = digitsBefore n [] ++ rest := by
    intro n
    induction n using Nat.strongRecOn with
    | ind n ih =>
      intro rest
      by_cases h : n < 10
      · rw [digitsBefore, if_pos h, digitsBefore, if_pos h]
        rfl
      · have step : ∀ r, digitsBefore n r = digitsBefore (n / 10) (digit n :: r) := by
          intro r
          rw [digitsBefore, if_neg h]
        rw [step, step, ih (n / 10) (by omega) (digit n :: rest),
          ih (n / 10) (by omega) [digit n]]
        simp
  exact aux n rest

theorem digits_of_lt {n : Nat} (h : n < 10) : digits n = [digit n] := by
  rw [digits, digitsBefore, if_pos h]

theorem digits_of_ge {n : Nat} (h : 10 ≤ n) : digits n = digits (n / 10) ++ [digit n] := by
  rw [digits, digitsBefore, if_neg (by omega), digitsBefore_eq]

theorem value_append_singleton (cs : List Char) (c : Char) :
    value (cs ++ [c]) = 10 * value cs + digitValue c := by
  simp [value, List.foldl_append]

/-- A number is read back from its digits. -/
@[simp] theorem value_digits (n : Nat) : value (digits n) = n := by
  induction n using Nat.strongRecOn with
  | ind n ih =>
    by_cases h : n < 10
    · rw [digits_of_lt h]
      simp [value, digitValue_digit]
      omega
    · rw [digits_of_ge (by omega), value_append_singleton, ih (n / 10) (by omega), digitValue_digit]
      omega

/-- A numeral holds digits only. -/
theorem isDigit_of_mem_digits {n : Nat} {c : Char} (h : c ∈ digits n) : c.isDigit = true := by
  induction n using Nat.strongRecOn with
  | ind n ih =>
    by_cases hn : n < 10
    · rw [digits_of_lt hn, List.mem_singleton] at h
      exact h ▸ isDigit_digit n
    · rw [digits_of_ge (by omega), List.mem_append, List.mem_singleton] at h
      rcases h with h | rfl
      · exact ih (n / 10) (by omega) h
      · exact isDigit_digit n

/-- A numeral is not empty. -/
theorem digits_ne_nil (n : Nat) : digits n ≠ [] := by
  by_cases h : n < 10
  · simp [digits_of_lt h]
  · simp [digits_of_ge (by omega : 10 ≤ n)]

/-- A numeral of more than one digit does not begin with zero. -/
theorem digits_head {n : Nat} (h : 0 < n) : (digits n).head? ≠ some '0' := by
  induction n using Nat.strongRecOn with
  | ind n ih =>
    by_cases hn : n < 10
    · rw [digits_of_lt hn]
      intro hc
      have hd : digit n = '0' := by simpa using hc
      have := congrArg digitValue hd
      rw [digitValue_digit] at this
      have h0 : digitValue '0' = 0 := rfl
      omega
    · rw [digits_of_ge (by omega), List.head?_append]
      have := ih (n / 10) (by omega) (by omega)
      cases hd : (digits (n / 10)).head? with
      | none => exact absurd (List.head?_eq_none_iff.1 hd) (digits_ne_nil _)
      | some c => rw [hd] at this; simpa using this

end Numeral
end ReleaseNotes
