import BuildScheduler.Text.Digits

/-!
# Numbers in decimal digits

The decimal digits of a number are digits, they have its value, and only zero begins with a zero.
Zeros before them do not count, and zeros after them count as powers of ten.
-/

namespace BuildScheduler.Text

theorem isDigit_eq (c : Char) : isDigit c = c.isDigit := rfl

theorem isDigit_of_mem_toDigits {n : Nat} {c : Char} (h : c ∈ Nat.toDigits 10 n) :
    isDigit c = true := by
  rw [isDigit_eq]
  exact Nat.isDigit_of_mem_toDigits (by decide) (by decide) h

theorem natural_toDigits (n : Nat) : natural (Nat.toDigits 10 n) = n :=
  Nat.ofDigitChars_toDigits (by decide) (by decide)

theorem natural_append (ds es : List Char) :
    natural (ds ++ es) = es.foldl (fun n c => 10 * n + digitValue c) (natural ds) :=
  List.foldl_append

theorem head?_toDigits_eq_zero {n : Nat} (h : (Nat.toDigits 10 n).head? = some '0') : n = 0 := by
  induction n using Nat.strongRecOn with
  | ind n ih =>
      by_cases hn : n < 10
      · rw [Nat.toDigits_of_lt_base hn] at h
        have hzero : ∀ m < 10, [Nat.digitChar m].head? = some '0' → m = 0 := by decide
        exact hzero n hn h
      · have hdigits := Nat.toDigits_of_base_le (b := 10) (by decide) (Nat.le_of_not_lt hn)
        have hpos : 0 < (Nat.toDigits 10 (n / 10)).length := Nat.length_toDigits_pos
        have hhead : (Nat.toDigits 10 (n / 10)).head? = some '0' := by
          rw [hdigits] at h
          cases hd : Nat.toDigits 10 (n / 10) with
          | nil =>
              rw [hd] at hpos
              cases hpos
          | cons first rest =>
              rw [hd] at h
              exact h
        have htenth := ih (n / 10) (by omega) hhead
        omega

theorem length_toDigits_le {n width : Nat} (hw : 0 < width) (h : n < Nat.pow 10 width) :
    (Nat.toDigits 10 n).length ≤ width :=
  (Nat.length_toDigits_le_iff (by decide) hw).2 h

end BuildScheduler.Text
