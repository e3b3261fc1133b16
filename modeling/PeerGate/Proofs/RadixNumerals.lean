import Mathlib.Tactic.IntervalCases
import Mathlib.Tactic.Ring
import Mathlib.Data.Nat.Digits.Defs
import Mathlib.Data.List.Forall2
import PeerGate.Proofs.Numerals

/-!
Numerals in a radix up to 16, and the two readers of a process status record.

A digit of value `d` is the character `Nat.digitChar d` writes for it, or its capital
(`IsDigit`), and a numeral is one or more digits, valued by `Nat.ofDigits` (`IsNumeral`). Over
these the readers' rules are two grammars:

* `BaseZeroNumeral`: what `strtoul` with base 0 reads as a whole token: `0x` or `0X` before
  hexadecimal digits, `0` before octal digits, `0` alone, or decimal digits that do not start
  with `0`.
* `MaskNumeral`: hexadecimal digits, after an optional `0x` or `0X`.

Main statement: `reads_exactly_whole_numerals`: an id is read exactly from a token of the first
grammar whose value fits in 32 bits, and a mask exactly from a token of the second whose value
fits in 64 bits. Every partial numeral is refused, a prefix without digits, a sign, a digit out
of its radix or a second prefix alike, since none of them is a token of the grammar.
-/

namespace PeerGate.Numeral

/-! ### Digits -/

/-- `c` is a digit of value `d` in the radix: the character `Nat.digitChar` writes for `d`, or
its capital, with `d` below the radix. -/
def IsDigit (radix : Nat) (c : Char) (d : Nat) : Prop :=
  d < radix ∧ (c = Nat.digitChar d ∨ c = (Nat.digitChar d).toUpper)

/-- `cs` is one or more digits of the radix, most significant first, and `v` is their value. -/
def IsNumeral (radix : Nat) (cs : List Char) (v : Nat) : Prop :=
  cs ≠ [] ∧ ∃ ds, List.Forall₂ (IsDigit radix) cs ds ∧ v = Nat.ofDigits radix ds.reverse

theorem toNat_digitChar {d : Nat} (hd : d < 16) :
    (Nat.digitChar d).toNat = if d < 10 then 48 + d else 87 + d := by
  interval_cases d <;> rfl

theorem toNat_toUpper_digitChar {d : Nat} (hd : d < 16) :
    (Nat.digitChar d).toUpper.toNat = if d < 10 then 48 + d else 55 + d := by
  interval_cases d <;> rfl

/-- Digits by their codes: `0` to `9` from 48, `a` to `f` from 97 and `A` to `F` from 65. -/
theorem isDigit_iff_toNat {radix d : Nat} {c : Char} (hr : radix ≤ 16) :
    IsDigit radix c d ↔ d < radix ∧
      (d < 10 ∧ c.toNat = 48 + d ∨ 10 ≤ d ∧ (c.toNat = 87 + d ∨ c.toNat = 55 + d)) := by
  unfold IsDigit
  refine and_congr_right fun hd => ?_
  rw [← Char.toNat_inj, ← Char.toNat_inj, toNat_digitChar (by omega),
    toNat_toUpper_digitChar (by omega)]
  split_ifs <;> omega

/-- **The value of a character is that of the digit it is**, in every radix up to 16. -/
theorem digitValue_eq_some_iff {radix d : Nat} {c : Char} (hr : radix ≤ 16) :
    digitValue radix c = some d ↔ IsDigit radix c d := by
  have hnat : c.toNat = c.val.toNat := rfl
  rw [isDigit_iff_toNat hr]
  unfold digitValue
  simp only [Char.le_def, UInt32.le_iff_toNat_le]
  split_ifs <;> simp_all <;> omega

/-- A leading digit `d` before `ds` adds `d` times the radix to the power of their number. -/
theorem ofDigits_reverse_cons (radix acc d : Nat) (ds : List Nat) :
    Nat.ofDigits radix ds.reverse + (acc * radix + d) * radix ^ ds.length =
      Nat.ofDigits radix (d :: ds).reverse + acc * radix ^ (ds.length + 1) := by
  rw [List.reverse_cons, Nat.ofDigits_append, Nat.ofDigits_singleton, List.length_reverse]
  ring

/-- Digits read after `acc` are digits of the radix, and their value is added to `acc` shifted
past them. -/
theorem digitsFrom_eq_some_iff {radix acc n : Nat} {cs : List Char} (hr : radix ≤ 16) :
    digitsFrom radix acc cs = some n ↔ ∃ ds, List.Forall₂ (IsDigit radix) cs ds ∧
      n = Nat.ofDigits radix ds.reverse + acc * radix ^ cs.length := by
  induction cs generalizing acc with
  | nil => simp [digitsFrom, List.forall₂_nil_left_iff, eq_comm]
  | cons c cs ih =>
    simp only [digitsFrom, Option.bind_eq_some_iff, ih, digitValue_eq_some_iff hr,
      List.forall₂_cons_left_iff, List.length_cons]
    constructor
    · rintro ⟨d, hd, ds, hds, rfl⟩
      refine ⟨d :: ds, ⟨d, ds, hd, hds, rfl⟩, ?_⟩
      rw [hds.length_eq, ofDigits_reverse_cons]
    · rintro ⟨_, ⟨d, ds, hd, hds, rfl⟩, rfl⟩
      refine ⟨d, hd, ds, hds, ?_⟩
      rw [hds.length_eq, ofDigits_reverse_cons]

/-- **A run of digits has a value exactly when it is a numeral of the radix.** -/
theorem digitsValue_eq_some_iff {radix n : Nat} {cs : List Char} (hr : radix ≤ 16) :
    digitsValue radix cs = some n ↔ IsNumeral radix cs n := by
  cases cs with
  | nil => simp [digitsValue, IsNumeral]
  | cons c cs =>
    rw [digitsValue_of_ne_nil (List.cons_ne_nil c cs), digitsFrom_eq_some_iff hr]
    simp [IsNumeral]

/-- `x` and `X` are no digits in a radix up to 16. -/
theorem not_isDigit_of_prefix {radix d : Nat} {x : Char} (hr : radix ≤ 16)
    (hx : x = 'x' ∨ x = 'X') : ¬ IsDigit radix x d := by
  rw [isDigit_iff_toNat hr]
  rcases hx with rfl | rfl <;> simp <;> omega

/-- Every character of a numeral is a digit of its radix. -/
theorem IsNumeral.exists_isDigit {radix v : Nat} {cs : List Char} {c : Char}
    (h : IsNumeral radix cs v) (hc : c ∈ cs) : ∃ d, IsDigit radix c d := by
  obtain ⟨-, ds, hds, -⟩ := h
  induction hds with
  | nil => cases hc
  | cons hd _ ih =>
    rcases List.mem_cons.1 hc with rfl | hc
    · exact ⟨_, hd⟩
    · exact ih hc

/-- A numeral holds no `x` or `X`: a second prefix, or a prefix where none is read, is no
numeral. -/
theorem IsNumeral.not_prefix {radix v : Nat} {cs : List Char} {c : Char} (hr : radix ≤ 16)
    (h : IsNumeral radix cs v) (hc : c ∈ cs) : ¬ (c = 'x' ∨ c = 'X') := fun hx =>
  let ⟨_, hd⟩ := h.exists_isDigit hc
  not_isDigit_of_prefix hr hx hd

/-- `0` alone is the numeral of zero, in every radix. -/
theorem isNumeral_zero_iff {radix n : Nat} (hr : radix ≤ 16) (hr0 : 0 < radix) :
    IsNumeral radix ['0'] n ↔ n = 0 := by
  rw [← digitsValue_eq_some_iff hr]
  simp [digitsValue, digitsFrom, digitValue, Option.filter_some, hr0, eq_comm]

/-! ### Ids -/

/-- The whole numerals `strtoul` reads with base 0, and their values: `0x` or `0X` before one or
more hexadecimal digits, `0` before one or more octal digits, `0` alone, or decimal digits that
do not start with `0`. There is no sign, and nothing follows the digits. -/
inductive BaseZeroNumeral : List Char → Nat → Prop
  | hex {x : Char} {cs : List Char} {v : Nat} :
      (x = 'x' ∨ x = 'X') → IsNumeral 16 cs v → BaseZeroNumeral ('0' :: x :: cs) v
  | octal {cs : List Char} {v : Nat} : IsNumeral 8 cs v → BaseZeroNumeral ('0' :: cs) v
  | zero : BaseZeroNumeral ['0'] 0
  | decimal {c : Char} {cs : List Char} {v : Nat} :
      c ≠ '0' → IsNumeral 10 (c :: cs) v → BaseZeroNumeral (c :: cs) v

theorem idDigits_hex {x : Char} {cs : List Char} (hx : x = 'x' ∨ x = 'X') :
    idDigits ('0' :: x :: cs) = (cs, 16) := by
  rcases hx with rfl | rfl <;> rfl

theorem idDigits_octal {x : Char} {cs : List Char} (hx : ¬ (x = 'x' ∨ x = 'X')) :
    idDigits ('0' :: x :: cs) = (x :: cs, 8) := by
  unfold idDigits
  split <;> simp_all

theorem idDigits_decimal {c : Char} {cs : List Char} (hc : c ≠ '0') :
    idDigits (c :: cs) = (c :: cs, 10) := by
  unfold idDigits
  split <;> simp_all

/-- Every numeral of the grammar is read in the radix its prefix chooses. -/
theorem isNumeral_idDigits {tok : List Char} {n : Nat} (h : BaseZeroNumeral tok n) :
    IsNumeral (idDigits tok).2 (idDigits tok).1 n := by
  cases h with
  | hex hx hnum => rwa [idDigits_hex hx]
  | @octal cs v hnum =>
    -- the first octal digit is neither `x` nor `X`, so no hexadecimal prefix is read
    obtain ⟨c, cs, rfl⟩ := List.exists_cons_of_ne_nil hnum.1
    have hx : ¬ (c = 'x' ∨ c = 'X') := hnum.not_prefix (by decide) List.mem_cons_self
    rwa [idDigits_octal hx]
  | zero => exact (isNumeral_zero_iff (by decide) (by decide)).2 rfl
  | decimal hc hnum => rwa [idDigits_decimal hc]

/-- Every token read in the radix its prefix chooses is a numeral of the grammar. -/
theorem baseZeroNumeral_of_isNumeral {tok : List Char} {n : Nat}
    (h : IsNumeral (idDigits tok).2 (idDigits tok).1 n) : BaseZeroNumeral tok n := by
  rcases tok with _ | ⟨c, cs⟩
  · exact absurd rfl h.1
  by_cases hc : c = '0'
  · subst hc
    rcases cs with _ | ⟨x, cs⟩
    · -- `0` alone is read as decimal, with the value zero
      obtain rfl := (isNumeral_zero_iff (by decide) (by decide)).1 h
      exact .zero
    by_cases hx : x = 'x' ∨ x = 'X'
    · rw [idDigits_hex hx] at h
      exact .hex hx h
    · rw [idDigits_octal hx] at h
      exact .octal h
  · rw [idDigits_decimal hc] at h
    exact .decimal hc h

theorem idDigits_radix_le (tok : List Char) : (idDigits tok).2 ≤ 16 := by
  unfold idDigits
  split <;> simp

/-- A value comes through a conversion that keeps exactly the values below a bound when it is
below the bound. -/
theorem map_bind_eq_some_iff {α : Type} {f : Nat → Option α} {g : α → Nat} {bound n : Nat}
    {x : Option Nat} (hf : ∀ v, (f v).map g = if v < bound then some v else none) :
    (x.bind f).map g = some n ↔ x = some n ∧ n < bound := by
  cases x with
  | none => simp
  | some v =>
    rw [Option.bind_some, hf]
    split_ifs with hv
    · simp only [Option.some.injEq]
      constructor
      · rintro rfl
        exact ⟨rfl, hv⟩
      · rintro ⟨rfl, -⟩
        rfl
    · simp only [Option.some.injEq, false_iff, not_and]
      omega

theorem map_toNat_toWord32 (v : Nat) :
    (toWord32? v).map UInt32.toNat = if v < UInt32.size then some v else none := by
  unfold toWord32?
  split_ifs with hv
  · simp [Nat.mod_eq_of_lt hv]
  · rfl

theorem map_toNat_toWord64 (v : Nat) :
    (toWord64? v).map UInt64.toNat = if v < UInt64.size then some v else none := by
  unfold toWord64?
  split_ifs with hv
  · simp [Nat.mod_eq_of_lt hv]
  · rfl

theorem readId_eq (tok : List Char) :
    readId tok = (digitsValue (idDigits tok).2 (idDigits tok).1).bind toWord32? := rfl

/-- **An id is read exactly from a whole base-0 numeral below `2 ^ 32`.** -/
theorem readId_eq_some_iff {tok : List Char} {n : Nat} :
    (readId tok).map UInt32.toNat = some n ↔ BaseZeroNumeral tok n ∧ n < UInt32.size := by
  rw [readId_eq, map_bind_eq_some_iff map_toNat_toWord32,
    digitsValue_eq_some_iff (idDigits_radix_le tok)]
  exact and_congr_left' ⟨baseZeroNumeral_of_isNumeral, isNumeral_idDigits⟩

/-! ### Masks -/

/-- The numerals of a capability mask: one or more hexadecimal digits, after an optional `0x`
or `0X`. -/
inductive MaskNumeral : List Char → Nat → Prop
  | bare {cs : List Char} {v : Nat} : IsNumeral 16 cs v → MaskNumeral cs v
  | prefixed {x : Char} {cs : List Char} {v : Nat} :
      (x = 'x' ∨ x = 'X') → IsNumeral 16 cs v → MaskNumeral ('0' :: x :: cs) v

/-- A mask is read from its digits after the prefix, and from the whole token without one. -/
theorem maskNumeral_iff {tok : List Char} {n : Nat} :
    MaskNumeral tok n ↔ IsNumeral 16 (capsDigits tok) n := by
  constructor
  · rintro (hnum | ⟨hx, hnum⟩)
    · -- a numeral holds no `x`, so it has no prefix to strip
      rwa [capsDigits_of_forall fun c hc => not_or.1 (hnum.not_prefix (by decide) hc)]
    · rcases hx with rfl | rfl <;> exact hnum
  · intro h
    unfold capsDigits at h
    split at h
    · exact .prefixed (.inl rfl) h
    · exact .prefixed (.inr rfl) h
    · exact .bare h

/-- **A mask is read exactly from hexadecimal digits below `2 ^ 64`, after an optional
prefix.** -/
theorem readCaps_eq_some_iff {tok : List Char} {n : Nat} :
    (readCaps tok).map UInt64.toNat = some n ↔ MaskNumeral tok n ∧ n < UInt64.size := by
  rw [readCaps, map_bind_eq_some_iff map_toNat_toWord64, digitsValue_eq_some_iff (by decide),
    maskNumeral_iff]

/-! ### Both readers -/

/-- **Ids and masks are read from whole numerals only.** An id is read, with value `n`, exactly
when the token is a base-0 numeral of value `n` below `2 ^ 32`; a mask exactly when the token
is hexadecimal digits of value `n` below `2 ^ 64` after an optional `0x` or `0X`. -/
theorem reads_exactly_whole_numerals (tok : List Char) (n : Nat) :
    ((readId tok).map UInt32.toNat = some n ↔ BaseZeroNumeral tok n ∧ n < UInt32.size) ∧
      ((readCaps tok).map UInt64.toNat = some n ↔ MaskNumeral tok n ∧ n < UInt64.size) :=
  ⟨readId_eq_some_iff, readCaps_eq_some_iff⟩

example : (readId ['0', '1', '0']).map UInt32.toNat = some 8 ∧ readId ['0', '9'] = none ∧
    readId ['0', 'x', '0', 'x', '1'] = none := by
  decide

end PeerGate.Numeral
