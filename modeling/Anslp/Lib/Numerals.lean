import Mathlib.Algebra.Group.Int.Defs
import Mathlib.Algebra.Group.Nat.Defs
import Mathlib.Data.Nat.Basic
import Mathlib.Data.List.Basic
import Mathlib.Data.List.TakeWhile
import Mathlib.Tactic.Common

/-!
# Decimal numerals

How the C library prints integers ({lit}`%u`, {lit}`%d`) and reads them back
({lit}`atoi`, {lit}`strtoul`, {lit}`strtoimax`), on texts as lists of
characters.  A {lit}`long` has 64 bits, an {lit}`int` has 32.

Main results:

- Theorem {lit}`strtoimax_printInt`: the scanner reads a printed integer and
  stops behind it.
- Theorem {lit}`nul_not_mem_of_strtoulEnd`: what {lit}`strtoul` reads to its end has no
  NUL in it.
- Theorems {lit}`atoi_printInt`, {lit}`toUInt32_atoi_printNat`,
  {lit}`strToUint16_printNat` and {lit}`strtoul_printNat`: each reader inverts
  its printer.

Current gaps:

- None for the functions as the program calls them.
-/

namespace Numerals

/-- A text, character by character. -/
abbrev Text := List Char

/-! ## Printing -/

/-- {lit}`%u` and {lit}`%lu`. -/
def printNat (n : Nat) : Text :=
  Nat.toDigits 10 n

/-- {lit}`%d`. -/
def printInt : Int → Text
  | .ofNat n => printNat n
  | .negSucc n => '-' :: printNat (n + 1)

/-! ## Reading -/

/-- {lit}`isspace` in the C locale. -/
def isSpace (c : Char) : Bool :=
  c == ' ' || (9 ≤ c.toNat && c.toNat ≤ 13)

/-- An optional sign: whether it is a minus, and what follows it. -/
def splitSign : Text → Bool × Text
  | [] => (false, [])
  | c :: cs => if c = '-' then (true, cs) else if c = '+' then (false, cs) else (false, c :: cs)

/-- The value of a digit, letters counting from ten. -/
def digitValue (c : Char) : Nat :=
  if c.isDigit then c.toNat - '0'.toNat else c.toLower.toNat - 'a'.toNat + 10

/-- The digits of a base up to sixteen. -/
def isDigitOf (base : Nat) (c : Char) : Bool :=
  (c.isDigit || ('a' ≤ c.toLower && c.toLower ≤ 'f')) && digitValue c < base

/-- The value of a run of digits, the most significant one first. -/
def digitsValue (base : Nat) (ds : List Char) : Nat :=
  ds.foldl (fun n c => base * n + digitValue c) 0

/-- The value of a signed run of digits. -/
def signedValue (negative : Bool) (n : Nat) : Int :=
  if negative then -(n : Int) else n

/-- {lit}`strtoimax (s, &end, 10)`: the value, out of range ones clamped, and
the text at {lit}`end`, which is the whole text when there are no digits. -/
def strtoimax (s : Text) : Int × Text :=
  let signed := splitSign (s.dropWhile isSpace)
  let digits := signed.2.takeWhile (isDigitOf 10)
  if digits = [] then (0, s)
  else
    (max (-2 ^ 63) (min (2 ^ 63 - 1) (signedValue signed.1 (digitsValue 10 digits))),
      signed.2.dropWhile (isDigitOf 10))

/-- {lit}`atoi`: {lit}`(int) strtol (s, NULL, 10)`. -/
def atoi (s : Text) : Int32 :=
  Int32.ofInt (strtoimax s).1

/-- The base that {lit}`strtoul` with base zero reads off the prefix, and the
text behind the prefix. -/
def splitBase : Text → Nat × Text
  | '0' :: x :: c :: cs =>
    if (x = 'x' ∨ x = 'X') ∧ isDigitOf 16 c then (16, c :: cs) else (8, '0' :: x :: c :: cs)
  | '0' :: cs => (8, '0' :: cs)
  | cs => (10, cs)

/-- {lit}`strtoul (s, NULL, 0)`: too large values are clamped, a minus negates
in the arithmetic of {lit}`unsigned long`. -/
def strtoul (s : Text) : UInt64 :=
  let signed := splitSign (s.dropWhile isSpace)
  let based := splitBase signed.2
  let n := digitsValue based.1 (based.2.takeWhile (isDigitOf based.1))
  if n < 2 ^ 64 then if signed.1 then -UInt64.ofNat n else UInt64.ofNat n
  else UInt64.ofNat (2 ^ 64 - 1)

/-- The text at {lit}`end` of {lit}`strtoul (s, &end, 0)`, which is the whole text when
there are no digits. -/
def strtoulEnd (s : Text) : Text :=
  let based := splitBase (splitSign (s.dropWhile isSpace)).2
  if based.2.takeWhile (isDigitOf based.1) = [] then s
  else based.2.dropWhile (isDigitOf based.1)

/-- The character that ends a C string. -/
abbrev nul : Char :=
  Char.ofNat 0

/-- {lit}`c_str`: the text up to its first NUL. -/
def cString (s : Text) : Text :=
  s.takeWhile fun c => c ≠ nul

/-- The text is one number of 16 bits and nothing behind it. -/
def strToUint16 (s : Text) : Option UInt16 :=
  let scanned := strtoimax s
  if scanned.1 < 0 ∨ scanned.1 > 65535 ∨ scanned.2 = s ∨ scanned.2 ≠ [] then none
  else some (UInt16.ofNat scanned.1.toNat)

/-! ## Printed digits -/

theorem printNat_ne_nil (n : Nat) : printNat n ≠ [] :=
  Nat.toDigits_ne_nil

theorem isDigit_of_mem_printNat {n : Nat} {c : Char} (h : c ∈ printNat n) : c.isDigit :=
  Nat.isDigit_of_mem_toDigits (by decide) (by decide) h

theorem digitValue_of_isDigit {c : Char} (h : c.isDigit) :
    digitValue c = c.toNat - '0'.toNat :=
  if_pos h

theorem isDigitOf_ten_of_isDigit {c : Char} (h : c.isDigit) : isDigitOf 10 c := by
  have hbound : c.toNat ≤ 57 := by
    simp only [Char.isDigit, Bool.and_eq_true, decide_eq_true_eq] at h
    exact h.2
  have hvalue : digitValue c < 10 := by
    rw [digitValue_of_isDigit h]
    have hzero : '0'.toNat = 48 := rfl
    omega
  simp [isDigitOf, h, hvalue]

theorem not_isSpace_of_isDigit {c : Char} (h : c.isDigit) : isSpace c = false := by
  have hbound : 48 ≤ c.toNat := by
    simp only [Char.isDigit, Bool.and_eq_true, decide_eq_true_eq] at h
    exact h.1
  have hspace : c ≠ ' ' := by
    rintro rfl
    exact absurd h (by decide)
  simp only [isSpace, beq_eq_false_iff_ne.mpr hspace, Bool.false_or, Bool.and_eq_false_iff,
    decide_eq_false_iff_not]
  omega

theorem digitsValue_printNat (n : Nat) : digitsValue 10 (printNat n) = n := by
  have hfold : digitsValue 10 (printNat n) = Nat.ofDigitChars 10 (printNat n) 0 := by
    rw [digitsValue, Nat.ofDigitChars_eq_foldl]
    apply List.foldl_ext
    intro m c hc
    rw [digitValue_of_isDigit (isDigit_of_mem_printNat hc)]
  rw [hfold]
  exact Nat.ofDigitChars_toDigits (by decide) (by decide)

theorem takeWhile_printNat (n : Nat) : (printNat n).takeWhile (isDigitOf 10) = printNat n := by
  apply List.takeWhile_eq_self_iff.mpr
  intro c hc
  exact isDigitOf_ten_of_isDigit (isDigit_of_mem_printNat hc)

theorem dropWhile_printNat (n : Nat) : (printNat n).dropWhile (isDigitOf 10) = [] := by
  apply List.dropWhile_eq_nil_iff.mpr
  intro c hc
  exact isDigitOf_ten_of_isDigit (isDigit_of_mem_printNat hc)

/-- A printed number starts with a digit. -/
theorem printNat_eq_cons (n : Nat) : ∃ c cs, printNat n = c :: cs ∧ c.isDigit := by
  cases h : printNat n with
  | nil => exact absurd h (printNat_ne_nil n)
  | cons c cs =>
    refine ⟨c, cs, rfl, isDigit_of_mem_printNat (n := n) ?_⟩
    rw [h]
    exact List.mem_cons_self

/-- The sign and the number behind it, as the printer writes them. -/
theorem splitSign_printNat (n : Nat) :
    splitSign ((printNat n).dropWhile isSpace) = (false, printNat n) := by
  rcases printNat_eq_cons n with ⟨c, cs, hn, hc⟩
  have hminus : c ≠ '-' := by
    rintro rfl
    exact absurd hc (by decide)
  have hplus : c ≠ '+' := by
    rintro rfl
    exact absurd hc (by decide)
  rw [hn, List.dropWhile_cons_of_neg (by simp [not_isSpace_of_isDigit hc])]
  simp [splitSign, hminus, hplus]

theorem splitSign_neg (cs : Text) :
    splitSign (('-' :: cs).dropWhile isSpace) = (true, cs) :=
  rfl

/-! ## Reading what was printed -/

theorem strtoimax_printInt {i : Int} (hmin : -2 ^ 63 ≤ i) (hmax : i < 2 ^ 63) :
    strtoimax (printInt i) = (i, []) := by
  cases i with
  | ofNat n =>
    have hclamp : max (-2 ^ 63) (min (2 ^ 63 - 1) (n : Int)) = n := by
      have hnat : (n : Int) < 2 ^ 63 := hmax
      omega
    simp only [strtoimax, printInt, splitSign_printNat, takeWhile_printNat, dropWhile_printNat,
      printNat_ne_nil, digitsValue_printNat, signedValue, hclamp, Bool.false_eq_true, if_false]
    rfl
  | negSucc n =>
    have hneg : -((n + 1 : Nat) : Int) = Int.negSucc n := rfl
    have hclamp : max (-2 ^ 63) (min (2 ^ 63 - 1) (-((n + 1 : Nat) : Int))) = Int.negSucc n := by
      omega
    simp only [strtoimax, printInt, splitSign_neg, takeWhile_printNat, dropWhile_printNat,
      printNat_ne_nil, digitsValue_printNat, signedValue, hclamp, if_true, if_false]

theorem strtoimax_printNat {n : Nat} (h : n < 2 ^ 63) : strtoimax (printNat n) = ((n : Int), []) :=
  strtoimax_printInt (i := n) (by omega) (by omega)

/-- {lit}`atoi` inverts {lit}`%d` on an {lit}`int`. -/
@[simp]
theorem atoi_printInt (x : Int32) : atoi (printInt x.toInt) = x := by
  have hmin : -2 ^ 31 ≤ x.toInt := Int32.le_toInt x
  have hmax : x.toInt < 2 ^ 31 := Int32.toInt_lt x
  rw [atoi, strtoimax_printInt (by omega) (by omega)]
  exact Int32.ofInt_toInt x

theorem atoi_printNat {n : Nat} (h : n < 2 ^ 63) : atoi (printNat n) = Int32.ofNat n := by
  rw [atoi, strtoimax_printNat h]
  exact Int32.ofInt_eq_ofNat

/-- {lit}`atoi` loses nothing of a printed word of 32 bits: the cast back
undoes the wrap of the {lit}`int`. -/
@[simp]
theorem toUInt32_atoi_printNat (x : UInt32) : (atoi (printNat x.toNat)).toUInt32 = x := by
  have hx : x.toNat < 2 ^ 32 := x.toNat_lt
  rw [atoi_printNat (by omega)]
  exact UInt32.ofNat_toNat

@[simp]
theorem strToUint16_printNat (x : UInt16) : strToUint16 (printNat x.toNat) = some x := by
  have hx : x.toNat < 2 ^ 16 := x.toNat_lt
  have hnil : ([] : Text) ≠ printNat x.toNat := (printNat_ne_nil x.toNat).symm
  have hscan := strtoimax_printNat (show x.toNat < 2 ^ 63 by omega)
  simp only [strToUint16, hscan]
  rw [if_neg]
  · simp
  · simp only [hnil, ne_eq, not_true_eq_false, or_false, not_or]
    omega

/-- The only printed number with a leading zero is zero. -/
theorem head_printNat_ne_zero {n : Nat} (hn : n ≠ 0) : ∀ cs, printNat n ≠ '0' :: cs := by
  induction n using Nat.strongRecOn with
  | ind n ih =>
    intro cs h
    rw [printNat, Nat.toDigits_eq_if (by decide)] at h
    by_cases hsmall : n < 10
    · rw [if_pos hsmall] at h
      have hdigit : n.digitChar = '0' := (List.cons.inj h).1
      have hvalue := Nat.toNat_digitChar_sub_48_of_lt_ten hsmall
      rw [hdigit] at hvalue
      exact hn hvalue.symm
    · rw [if_neg hsmall] at h
      have hdiv : n / 10 ≠ 0 := by omega
      rcases printNat_eq_cons (n / 10) with ⟨c, ds, hds, -⟩
      have hhead : c = '0' := by
        rw [show Nat.toDigits 10 (n / 10) = c :: ds from hds] at h
        exact (List.cons.inj h).1
      subst hhead
      exact ih (n / 10) (by omega) hdiv ds hds

theorem splitBase_printNat (n : Nat) :
    splitBase (printNat n) = (10, printNat n) ∨ n = 0 := by
  by_cases hn : n = 0
  · exact .inr hn
  · left
    rcases printNat_eq_cons n with ⟨c, cs, h, -⟩
    have hc : c ≠ '0' := by
      rintro rfl
      exact head_printNat_ne_zero hn cs h
    rw [h]
    unfold splitBase
    split <;> simp_all

/-- {lit}`strtoul` with base zero inverts {lit}`%u`: what was printed has no
prefix of another base. -/
@[simp]
theorem strtoul_printNat {n : Nat} (h : n < 2 ^ 64) : strtoul (printNat n) = UInt64.ofNat n := by
  rcases splitBase_printNat n with hbase | rfl
  · simp only [strtoul, splitSign_printNat, hbase, takeWhile_printNat, digitsValue_printNat,
      if_pos h, Bool.false_eq_true, if_false]
  · decide

/-- {lit}`strtoul` reads a printed number to its end. -/
@[simp]
theorem strtoulEnd_printNat (n : Nat) : strtoulEnd (printNat n) = [] := by
  rcases splitBase_printNat n with hbase | rfl
  · simp only [strtoulEnd, splitSign_printNat, hbase, takeWhile_printNat, dropWhile_printNat,
      printNat_ne_nil, if_false]
  · decide

example : strtoul "0x1F".toList = 31 ∧ strtoul "017".toList = 15 := by
  decide

/-! ## What is read to its end -/

/-- A sign is not a NUL. -/
theorem nul_mem_splitSign {s : Text} (h : nul ∈ s) : nul ∈ (splitSign s).2 := by
  cases s with
  | nil => exact h
  | cons c cs =>
      simp only [splitSign]
      split_ifs with hminus hplus
      · exact List.mem_of_ne_of_mem (by rw [hminus]; decide) h
      · exact List.mem_of_ne_of_mem (by rw [hplus]; decide) h
      · exact h

/-- The prefix of a base has no NUL. -/
theorem nul_mem_splitBase {s : Text} (h : nul ∈ s) : nul ∈ (splitBase s).2 := by
  unfold splitBase
  split
  · rename_i x c cs
    split_ifs with hhex
    · have hx : nul ≠ x := by rcases hhex.1 with rfl | rfl <;> decide
      exact List.mem_of_ne_of_mem hx (List.mem_of_ne_of_mem (by decide) h)
    · exact h
  · exact h
  · exact h

/-- A NUL is neither a space nor a digit. -/
theorem nul_mem_dropWhile {p : Char → Bool} (hp : p (nul) = false) {s : Text}
    (h : nul ∈ s) : nul ∈ s.dropWhile p := by
  rw [← List.takeWhile_append_dropWhile (p := p) (l := s), List.mem_append] at h
  rcases h with htaken | hleft
  · rw [List.mem_takeWhile_imp htaken] at hp
    cases hp
  · exact hleft

/-- A text that {lit}`strtoul` reads to its end has no NUL in it. -/
theorem nul_not_mem_of_strtoulEnd {s : Text} (h : strtoulEnd s = []) : nul ∉ s := by
  intro hmem
  have hbased := nul_mem_splitBase (nul_mem_splitSign (nul_mem_dropWhile (p := isSpace) rfl hmem))
  have hleft := nul_mem_dropWhile
    (p := isDigitOf (splitBase (splitSign (s.dropWhile isSpace)).2).1) rfl hbased
  simp only [strtoulEnd] at h
  split_ifs at h
  · rw [h] at hmem
    cases hmem
  · rw [h] at hleft
    cases hleft

/-- A text without a NUL is its own C string. -/
theorem cString_eq_self {s : Text} (h : nul ∉ s) : cString s = s := by
  apply List.takeWhile_eq_self_iff.mpr
  intro c hc
  simpa using fun hnul : c = nul => h (hnul ▸ hc)

end Numerals
