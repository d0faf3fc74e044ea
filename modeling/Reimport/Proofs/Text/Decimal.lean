import Reimport.Text.Decimal

/-!
# Reading numerals back

A numeral is written with decimal digits alone and without a leading zero, so reading
it gives the number back (`integer?_decimal`).  Everything is an induction on the
digits, least significant one last, as `decimalNat` puts them.
-/
namespace Reimport.Text

section Digits
variable {n : Nat}

theorem isDigit_digit (h : n < 10) : (digit n).isDigit = true := by
  have all : ∀ m ∈ List.range 10, (digit m).isDigit = true := by decide
  exact all n (List.mem_range.2 h)

theorem digitValue?_digit (h : n < 10) : digitValue? (digit n) = some n := by
  have all : ∀ m ∈ List.range 10, digitValue? (digit m) = some m := by decide
  exact all n (List.mem_range.2 h)

theorem isNonzeroDigit_digit (h : n < 10) (nonzero : n ≠ 0) :
    isNonzeroDigit (digit n) = true := by
  have all : ∀ m ∈ List.range 10, m ≠ 0 → isNonzeroDigit (digit m) = true := by decide
  exact all n (List.mem_range.2 h) nonzero

end Digits

theorem ne_of_isDigit {c d : Char} (hc : c.isDigit = true) (hd : d.isDigit = false) : c ≠ d := by
  rintro rfl
  rw [hc] at hd
  cases hd

theorem isDigit_of_mem_decimalNat {n : Nat} {c : Char} (h : c ∈ decimalNat n) :
    c.isDigit = true := by
  fun_induction decimalNat n with
  | case1 n hn =>
    rw [List.mem_singleton.1 h]
    exact isDigit_digit hn
  | case2 n hn ih =>
    rcases List.mem_append.1 h with h | h
    · exact ih h
    · rw [List.mem_singleton.1 h]
      exact isDigit_digit (Nat.mod_lt n (by decide))

/-- A numeral begins with a digit, which is zero for zero alone. -/
theorem decimalNat_eq_cons (n : Nat) :
    ∃ c rest, decimalNat n = c :: rest ∧ (n ≠ 0 → isNonzeroDigit c = true) := by
  fun_induction decimalNat n with
  | case1 n hn => exact ⟨digit n, [], rfl, isNonzeroDigit_digit hn⟩
  | case2 n hn ih =>
    obtain ⟨c, rest, he, hc⟩ := ih
    exact ⟨c, rest ++ [digit (n % 10)], by rw [he, List.cons_append], fun _ => hc (by omega)⟩

theorem ofDecimalDigits_append_digit (digits : Text) {n : Nat} (h : n < 10) :
    ofDecimalDigits (digits ++ [digit n]) = ofDecimalDigits digits * 10 + n := by
  have last : [digit n].filterMap digitValue? = [n] := by
    rw [List.filterMap_cons_some (digitValue?_digit h), List.filterMap_nil]
  rw [ofDecimalDigits, List.filterMap_append, last, ofDigits, List.foldl_append]
  rfl

theorem ofDecimalDigits_decimalNat (n : Nat) : ofDecimalDigits (decimalNat n) = n := by
  fun_induction decimalNat n with
  | case1 n hn =>
    rw [← List.nil_append [digit n], ofDecimalDigits_append_digit [] hn]
    exact Nat.zero_add n
  | case2 n hn ih =>
    rw [ofDecimalDigits_append_digit _ (Nat.mod_lt n (by decide)), ih]
    omega

theorem isDigit_of_mem_decimalPadded {width n : Nat} {c : Char} (h : c ∈ decimalPadded width n) :
    c.isDigit = true := by
  rcases List.mem_append.1 h with h | h
  · rw [List.eq_of_mem_replicate h]
    decide
  · exact isDigit_of_mem_decimalNat h

/-- Zeros in front of a numeral do not count, so a padded one denotes its number too. -/
theorem ofDecimalDigits_decimalPadded (width n : Nat) :
    ofDecimalDigits (decimalPadded width n) = n := by
  rw [decimalPadded]
  generalize width - (decimalNat n).length = count
  induction count with
  | zero => exact ofDecimalDigits_decimalNat n
  | succ count ih =>
    rw [List.replicate_succ, List.cons_append]
    exact ih

/-- A numeral is written with digits and at most a minus sign. -/
theorem isDigit_of_mem_decimal {n : Int} {c : Char} (h : c ∈ decimal n) :
    c.isDigit = true ∨ c = '-' := by
  cases n with
  | ofNat n => exact .inl (isDigit_of_mem_decimalNat h)
  | negSucc n =>
    rcases List.mem_cons.1 h with h | h
    · exact .inr h
    · exact .inl (isDigit_of_mem_decimalNat h)

end Reimport.Text
