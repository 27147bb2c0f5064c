import Spreadsheet.Decimal.Basic
import Spreadsheet.Decimal.Numeral
import Spreadsheet.Proofs.Decimal.Nearest
import Spreadsheet.Proofs.Text.Runs

/-! A decimal that has been written is read as what it stands for. -/

namespace Spreadsheet.Decimal

variable {places digits : Nat}

/-- Powers of ten multiply by adding their exponents. -/
theorem tenTo_add (left right : Nat) : tenTo (left + right) = tenTo left * tenTo right :=
  Nat.pow_add 10 left right

/-- One more power of ten is ten times as much. -/
theorem tenTo_succ (exponent : Nat) : tenTo (exponent + 1) = tenTo exponent * 10 :=
  tenTo_add exponent 1

section Digits

/-- The last digits are as many as are asked for. -/
theorem length_lastDigits (count digits : Nat) : (lastDigits count digits).length = count := by
  induction count generalizing digits with
  | zero => rfl
  | succ count ih => rw [lastDigits, List.length_append, ih, List.length_singleton]

/-- The last digits of a number are digits. -/
theorem isDigit_lastDigits (count digits : Nat) :
    ∀ char ∈ lastDigits count digits, char.isDigit = true := by
  induction count generalizing digits with
  | zero => exact fun _ member => nomatch member
  | succ count ih =>
    intro char member
    rcases List.mem_append.mp member with earlier | last
    · exact ih _ char earlier
    · rw [List.mem_singleton.mp last, Nat.isDigit_digitChar]
      exact decide_eq_true (Nat.mod_lt _ (by decide))

/-- The digits of the integer part and of the places are those of the whole number. -/
theorem ofDigitChars_lastDigits (count digits : Nat) :
    Nat.ofDigitChars 10 (Nat.toDigits 10 (digits / tenTo count) ++ lastDigits count digits) 0 =
      digits := by
  -- The last place is taken off the end, and the number without it has one place less.
  induction count generalizing digits with
  | zero =>
    show Nat.ofDigitChars 10 (Nat.toDigits 10 (digits / 1) ++ []) 0 = digits
    rw [Nat.div_one, List.append_nil, Nat.ofDigitChars_ten_toDigits]
  | succ count ih =>
    have quotient : digits / tenTo (count + 1) = digits / 10 / tenTo count := by
      rw [tenTo_succ, Nat.mul_comm, Nat.div_div_eq_div_mul]
    have small : digits % 10 < 10 := Nat.mod_lt _ (by decide)
    rw [quotient, lastDigits, ← List.append_assoc, Nat.ofDigitChars_append, ih,
      Nat.ofDigitChars_cons_digitChar_of_lt_ten small, Nat.ofDigitChars_nil]
    exact Nat.div_add_mod digits 10

end Digits

section Trimming

/-- Trimming takes off zeros, and nothing else. -/
theorem exists_dropped (places digits : Nat) : ∃ dropped,
    places = (trimPlaces places digits).places + dropped ∧
      digits = (trimPlaces places digits).digits * tenTo dropped := by
  -- One place at a time is dropped, until none is left or the last digit is no zero.
  induction places generalizing digits with
  | zero => exact ⟨0, rfl, (Nat.mul_one digits).symm⟩
  | succ places ih =>
    unfold trimPlaces
    split
    · rename_i zero
      obtain ⟨dropped, fewer, same⟩ := ih (digits / 10)
      refine ⟨dropped + 1, congrArg (· + 1) fewer, ?_⟩
      rw [tenTo_succ, ← Nat.mul_assoc, ← same]
      exact (Nat.div_mul_cancel (Nat.dvd_of_mod_eq_zero zero)).symm
    · exact ⟨0, rfl, (Nat.mul_one digits).symm⟩

end Trimming

section Reading

variable {decimal : Decimal}

/-- A decimal is written with digits and a point. -/
theorem isDigit_of_mem_chars {char : Char} (member : char ∈ decimal.chars) :
    char.isDigit = true ∨ char = '.' := by
  have whole : ∀ char ∈ Nat.toDigits 10 (decimal.digits / tenTo decimal.places),
      char.isDigit = true := fun char member =>
    Nat.isDigit_of_mem_toDigits (by decide) (by decide) member
  unfold chars at member
  dsimp only at member
  -- Without places there is no point.
  split at member
  · exact .inl (whole char member)
  · rcases List.mem_append.mp member with before | behind
    · exact .inl (whole char before)
    · rcases List.mem_cons.mp behind with point | place
      · exact .inr point
      · exact .inl (isDigit_lastDigits _ _ char place)

/-- A decimal starts with a digit. -/
theorem exists_chars_eq_cons (decimal : Decimal) :
    ∃ first rest, decimal.chars = first :: rest ∧ first.isDigit = true := by
  have nonempty : Nat.toDigits 10 (decimal.digits / tenTo decimal.places) ≠ [] :=
    Nat.toDigits_ne_nil
  obtain ⟨first, rest, whole⟩ := List.exists_cons_of_ne_nil nonempty
  have digit : first.isDigit = true :=
    Nat.isDigit_of_mem_toDigits (by decide) (by decide) (whole ▸ List.mem_cons_self)
  unfold chars
  dsimp only
  rw [whole]
  split
  · exact ⟨first, rest, rfl, digit⟩
  · exact ⟨first, _, rfl, digit⟩

variable {whole fraction : List Char}

/-- Digits alone are read as the number that they are. -/
theorem Numeral.read_digits (nonempty : whole ≠ [])
    (numeric : ∀ char ∈ whole, char.isDigit = true) :
    Numeral.read whole = some ⟨Nat.ofDigitChars 10 whole 0, 0⟩ := by
  have run := Text.takeWhile_append_stop numeric (by simp : ∀ next ∈ ([] : List Char).head?, _)
  have rest := Text.dropWhile_append_stop numeric (by simp : ∀ next ∈ ([] : List Char).head?, _)
  rw [List.append_nil] at run rest
  unfold Numeral.read
  simp [run, rest, nonempty, readExponent]

/-- Digits with a point among them are read as the number without it, and its places. -/
theorem Numeral.read_point (nonempty : whole ≠ [])
    (numeric : ∀ char ∈ whole, char.isDigit = true)
    (numericToo : ∀ char ∈ fraction, char.isDigit = true) :
    Numeral.read (whole ++ '.' :: fraction) =
      some ⟨Nat.ofDigitChars 10 (whole ++ fraction) 0, -fraction.length⟩ := by
  -- The point ends the first run of digits, and the end of the text the second one.
  have point : ∀ next ∈ ('.' :: fraction).head?, next.isDigit = false := by
    simp [show Char.isDigit '.' = false from rfl]
  have run := Text.takeWhile_append_stop numeric point
  have rest := Text.dropWhile_append_stop numeric point
  have runToo := Text.takeWhile_append_stop numericToo
    (by simp : ∀ next ∈ ([] : List Char).head?, _)
  have restToo := Text.dropWhile_append_stop numericToo
    (by simp : ∀ next ∈ ([] : List Char).head?, _)
  rw [List.append_nil] at runToo restToo
  unfold Numeral.read
  simp [run, rest, runToo, restToo, nonempty, readExponent]

/-- A written decimal is read as its digits with its places. -/
theorem read_chars (decimal : Decimal) :
    Numeral.read decimal.chars = some ⟨decimal.digits, -decimal.places⟩ := by
  obtain ⟨digits, places⟩ := decimal
  have numeric : ∀ char ∈ Nat.toDigits 10 (digits / tenTo places), char.isDigit = true :=
    fun char member => Nat.isDigit_of_mem_toDigits (by decide) (by decide) member
  have total := ofDigitChars_lastDigits places digits
  cases places with
  | zero =>
    -- Without places there is no point.
    rw [lastDigits, List.append_nil] at total
    show Numeral.read (Nat.toDigits 10 (digits / tenTo 0)) = _
    rw [Numeral.read_digits Nat.toDigits_ne_nil numeric, total]
    rfl
  | succ count =>
    show Numeral.read (Nat.toDigits 10 _ ++ '.' :: lastDigits (count + 1) digits) = _
    rw [Numeral.read_point Nat.toDigits_ne_nil numeric (isDigit_lastDigits _ _), total,
      length_lastDigits]

/-- The nearest double to a numeral with places is the one to its ratio. -/
theorem bits_of_places (digits places : Nat) :
    Numeral.bits ⟨digits, -places⟩ = Binary.nearestBits digits (tenTo places) := by
  -- An exponent of nought multiplies by one, and one below it divides.
  cases places with
  | zero =>
    have one : tenTo 0 = 1 := rfl
    have nought : (0 : Int) ≤ -((0 : Nat) : Int) := le_rfl
    rw [Numeral.bits, if_pos nought]
    simp only [Int.natCast_zero, Int.neg_zero, Int.toNat_zero, one, Nat.mul_one]
  | succ count =>
    have negative : ¬ (0 : Int) ≤ -((count + 1 : Nat) : Int) := by omega
    rw [Numeral.bits, if_neg negative]
    simp only [Int.neg_neg, Int.toNat_natCast]

/-- A text that starts with a digit has no sign. -/
theorem takeSign_of_isDigit {first : Char} (digit : first.isDigit = true) (rest : List Char) :
    takeSign (first :: rest) = (false, first :: rest) := by
  unfold takeSign
  split
  · rename_i same
    rw [(List.cons.inj same).1] at digit
    exact absurd digit (by decide)
  · rename_i same
    rw [(List.cons.inj same).1] at digit
    exact absurd digit (by decide)
  · rfl

/-- A decimal that is written with a sign or without one is read as the double nearest to it. -/
theorem readNumber_chars (negative : Bool) (decimal : Decimal) :
    readNumber (if negative then '-' :: decimal.chars else decimal.chars) =
      some (Binary.ofMagnitude negative
        (Binary.nearestBits decimal.digits (tenTo decimal.places))) := by
  obtain ⟨first, rest, starts, digit⟩ := decimal.exists_chars_eq_cons
  have sign : takeSign (if negative then '-' :: decimal.chars else decimal.chars) =
      (negative, decimal.chars) := by
    cases negative
    · rw [starts]
      exact takeSign_of_isDigit digit rest
    · rfl
  rw [readNumber, sign]
  simp only [read_chars, bits_of_places]

end Reading

end Spreadsheet.Decimal
