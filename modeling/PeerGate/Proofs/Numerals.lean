import Mathlib.Tactic.IntervalCases
import PeerGate.Numeral

/-!
Numerals written by `Nat.toDigits` and read back.

The readers of `PeerGate.Numeral` take digits most significant first (`digitsFrom`), and
`Nat.toDigits` writes them that way, with no leading zero. So a number written in a radix up to
16 reads back as itself (`digitsFrom_toDigits`), also after leading zeros (`digitsFrom_zeros`).
For the two readers of a process status record this gives:

* `readId_toDigits`: an id written in decimal is read back, never as octal or hexadecimal,
  since the decimal form of a number starts with `0` only when it is `0` itself
  (`toDigits_ten_head`).
* `readCaps_hexWord`: a mask written as sixteen lowercase hexadecimal digits (`hexWord`) is
  read back, over all 64 bits.
-/

namespace PeerGate.Numeral

/-! ### Digits -/

/-- A digit below the radix is written as a character of that value. -/
theorem digitValue_digitChar {radix d : Nat} (hd : d < radix) (hr : radix ≤ 16) :
    digitValue radix (Nat.digitChar d) = some d := by
  have h16 : d < 16 := Nat.lt_of_lt_of_le hd hr
  interval_cases d <;> simp [digitValue, Nat.digitChar, hd]

theorem digitsFrom_append (radix acc : Nat) (xs ys : List Char) :
    digitsFrom radix acc (xs ++ ys) = (digitsFrom radix acc xs).bind fun a => digitsFrom radix a ys := by
  induction xs generalizing acc with
  | nil => rfl
  | cons c cs ih =>
    simp only [List.cons_append, digitsFrom]
    cases digitValue radix c with
    | none => rfl
    | some d => exact ih _

theorem digitsValue_of_ne_nil {radix : Nat} {cs : List Char} (h : cs ≠ []) :
    digitsValue radix cs = digitsFrom radix 0 cs := by
  cases cs with
  | nil => exact absurd rfl h
  | cons c cs => rfl

/-- **A number written in a radix up to 16 reads back as itself.** -/
theorem digitsFrom_toDigits {b : Nat} (hb : 1 < b) (hb16 : b ≤ 16) (n : Nat) :
    digitsFrom b 0 (Nat.toDigits b n) = some n := by
  induction n using Nat.base_induction b hb with
  | single m hm =>
    rw [Nat.toDigits_of_lt_base hm]
    simp [digitsFrom, digitValue_digitChar hm hb16]
  | digit m k hk hm ih =>
    -- the last digit is written after the digits of the rest
    rw [← Nat.toDigits_append_toDigits hb hm hk, digitsFrom_append, ih, Nat.toDigits_of_lt_base hk]
    simp [digitsFrom, digitValue_digitChar hk hb16, Nat.mul_comm]

/-- Leading zeros add nothing to a value read from zero. -/
theorem digitsFrom_zeros {radix : Nat} (hr : 0 < radix) (k : Nat) (cs : List Char) :
    digitsFrom radix 0 (List.replicate k '0' ++ cs) = digitsFrom radix 0 cs := by
  have hzero : digitValue radix '0' = some 0 := by
    simp [digitValue, hr]
  induction k with
  | zero => rfl
  | succ k ih => simp [List.replicate_succ, digitsFrom, hzero, ih]

/-- The decimal form of a positive number does not start with `0`. -/
theorem toDigits_ten_head {n : Nat} (hn : 0 < n) : ∃ c cs, Nat.toDigits 10 n = c :: cs ∧ c ≠ '0' := by
  induction n using Nat.base_induction 10 (by decide) with
  | single m hm =>
    refine ⟨Nat.digitChar m, [], Nat.toDigits_of_lt_base hm, ?_⟩
    interval_cases m <;> simp [Nat.digitChar] at hn ⊢
  | digit m k hk hm ih =>
    obtain ⟨c, cs, hcs, hc⟩ := ih hm
    refine ⟨c, cs ++ Nat.toDigits 10 k, ?_, hc⟩
    rw [← Nat.toDigits_append_toDigits (by decide) hm hk, hcs, List.cons_append]

/-! ### Ids and masks -/

/-- **An id written in decimal reads back as itself.** -/
theorem readId_toDigits (n : UInt32) : readId (Nat.toDigits 10 n.toNat) = some n := by
  have hval : digitsValue 10 (Nat.toDigits 10 n.toNat) = some n.toNat := by
    rw [digitsValue_of_ne_nil Nat.toDigits_ne_nil, digitsFrom_toDigits (by decide) (by decide)]
  have hword : toWord32? n.toNat = some n := by
    simp [toWord32?, n.toNat_lt_size]
  -- the digits are read as decimal: only `0` itself starts with `0`, and alone it stays decimal
  have hdec : idDigits (Nat.toDigits 10 n.toNat) = (Nat.toDigits 10 n.toNat, 10) := by
    rcases Nat.eq_zero_or_pos n.toNat with h0 | hpos
    · rw [h0, Nat.toDigits_zero]
      rfl
    · obtain ⟨c, cs, hcs, hc⟩ := toDigits_ten_head hpos
      rw [hcs]
      unfold idDigits
      split <;> simp_all
  simp [readId, hdec, hval, hword]

/-- A 64-bit word as sixteen lowercase hexadecimal digits, zero-padded on the left. -/
def hexWord (w : UInt64) : List Char :=
  List.replicate (16 - (Nat.toDigits 16 w.toNat).length) '0' ++ Nat.toDigits 16 w.toNat

/-- The digits a number is written with are digits of its radix. -/
theorem mem_toDigits {b : Nat} (hb : 1 < b) {c : Char} {n : Nat} (h : c ∈ Nat.toDigits b n) :
    ∃ d < b, c = Nat.digitChar d := by
  induction n using Nat.base_induction b hb with
  | single m hm =>
    rw [Nat.toDigits_of_lt_base hm, List.mem_singleton] at h
    exact ⟨m, hm, h⟩
  | digit m k hk hm ih =>
    rw [← Nat.toDigits_append_toDigits hb hm hk, List.mem_append] at h
    rcases h with h | h
    · exact ih h
    · rw [Nat.toDigits_of_lt_base hk, List.mem_singleton] at h
      exact ⟨k, hk, h⟩

/-- The characters of a written mask are hexadecimal digits, the padding zeros included. -/
theorem mem_hexWord {w : UInt64} {c : Char} (h : c ∈ hexWord w) : ∃ d < 16, c = Nat.digitChar d := by
  rcases List.mem_append.1 h with hz | hd
  · exact ⟨0, by decide, List.eq_of_mem_replicate hz⟩
  · exact mem_toDigits (by decide) hd

/-- A token with no `x` or `X` has no prefix to strip. -/
theorem capsDigits_of_forall {cs : List Char} (h : ∀ c ∈ cs, c ≠ 'x' ∧ c ≠ 'X') :
    capsDigits cs = cs := by
  unfold capsDigits
  split
  · exact absurd rfl (h 'x' (by simp)).1
  · exact absurd rfl (h 'X' (by simp)).2
  · rfl

/-- **A mask written as sixteen hexadecimal digits reads back as itself**, over all 64 bits. -/
theorem readCaps_hexWord (w : UInt64) : readCaps (hexWord w) = some w := by
  -- every character is a padding zero or a digit, never the `x` of a prefix
  have hcaps : capsDigits (hexWord w) = hexWord w := by
    refine capsDigits_of_forall fun c hc => ?_
    obtain ⟨d, hd, rfl⟩ := mem_hexWord hc
    interval_cases d <;> decide
  have hval : digitsValue 16 (hexWord w) = some w.toNat := by
    rw [digitsValue_of_ne_nil (by simp [hexWord]), hexWord, digitsFrom_zeros (by decide),
      digitsFrom_toDigits (by decide) (by decide)]
  simp [readCaps, hcaps, hval, toWord64?, w.toNat_lt_size]

/-! ### Decimal numerals -/

/-- The value of a character read as a decimal digit: its distance from `0`, when it is one. -/
theorem digitValue_ten (c : Char) :
    digitValue 10 c = if c.isDigit then some (c.toNat - 48) else none := by
  have hnat : c.toNat = c.val.toNat := rfl
  unfold digitValue Char.isDigit
  simp only [Char.le_def, UInt32.le_iff_toNat_le, Bool.and_eq_true, decide_eq_true_eq]
  -- the letters `a` to `f` and `A` to `F` have values from 10 on and are no decimal digits
  split_ifs <;> simp_all
  omega

/-- Decimal digits read after `acc` give their value, and anything else gives none. -/
theorem digitsFrom_ten_eq_some {acc n : Nat} {cs : List Char} :
    digitsFrom 10 acc cs = some n ↔ (∀ c ∈ cs, c.isDigit = true) ∧ n = Nat.ofDigitChars 10 cs acc := by
  induction cs generalizing acc with
  | nil =>
    simp only [digitsFrom, Option.some.injEq, List.not_mem_nil, IsEmpty.forall_iff, implies_true,
      true_and, Nat.ofDigitChars_nil]
    exact eq_comm
  | cons c cs ih =>
    rw [digitsFrom, digitValue_ten]
    by_cases hc : c.isDigit = true
    · simp [hc, ih, Nat.ofDigitChars_cons, Nat.mul_comm]
    · simp [hc]

/-- A run of digits has a decimal value exactly when it is not empty and all decimal digits. -/
theorem digitsValue_ten_eq_some {n : Nat} {cs : List Char} :
    digitsValue 10 cs = some n ↔
      cs ≠ [] ∧ (∀ c ∈ cs, c.isDigit = true) ∧ n = Nat.ofDigitChars 10 cs 0 := by
  cases cs with
  | nil => simp [digitsValue]
  | cons c cs => simp only [digitsValue_of_ne_nil (List.cons_ne_nil c cs), digitsFrom_ten_eq_some,
      ne_eq, reduceCtorEq, not_false_eq_true, true_and]

/-- A signed decimal numeral and the integer it stands for: an optional `+` or `-`, then one or
more ASCII digits, of any number. -/
inductive SignedDecimal : List Char → Int → Prop
  | plain {ds : List Char} : ds ≠ [] → (∀ c ∈ ds, c.isDigit = true) →
      SignedDecimal ds (Nat.ofDigitChars 10 ds 0)
  | plus {ds : List Char} : ds ≠ [] → (∀ c ∈ ds, c.isDigit = true) →
      SignedDecimal ('+' :: ds) (Nat.ofDigitChars 10 ds 0)
  | minus {ds : List Char} : ds ≠ [] → (∀ c ∈ ds, c.isDigit = true) →
      SignedDecimal ('-' :: ds) (-(Nat.ofDigitChars 10 ds 0 : Int))

/-- A numeral that starts with a sign has its digits after the sign. -/
theorem signedDecimal_sign {sign : Char} (hs : sign.isDigit = false) {ds : List Char} {z : Int} :
    SignedDecimal (sign :: ds) z ↔
      (sign = '+' ∧ ∃ n, digitsValue 10 ds = some n ∧ z = n) ∨
        (sign = '-' ∧ ∃ n, digitsValue 10 ds = some n ∧ z = -(n : Int)) := by
  constructor
  · rintro (⟨-, hd⟩ | ⟨hne, hd⟩ | ⟨hne, hd⟩)
    · rw [hd sign (by simp)] at hs
      cases hs
    · exact .inl ⟨rfl, _, digitsValue_ten_eq_some.2 ⟨hne, hd, rfl⟩, rfl⟩
    · exact .inr ⟨rfl, _, digitsValue_ten_eq_some.2 ⟨hne, hd, rfl⟩, rfl⟩
  · rintro (⟨rfl, n, hn, rfl⟩ | ⟨rfl, n, hn, rfl⟩)
    · obtain ⟨hne, hd, rfl⟩ := digitsValue_ten_eq_some.1 hn
      exact .plus hne hd
    · obtain ⟨hne, hd, rfl⟩ := digitsValue_ten_eq_some.1 hn
      exact .minus hne hd

/-- A value read as an integer is kept when it fits in 64 bits. -/
theorem map_filter_inI64_eq_some {x : Option Nat} {f : Nat → Int} {z : Int} :
    (x.map f).filter inI64 = some z ↔ (∃ n, x = some n ∧ z = f n) ∧ inI64 z = true := by
  cases x with
  | none => simp
  | some n =>
    simp only [Option.map_some, Option.filter_some, Option.ite_none_right_eq_some,
      Option.some.injEq]
    grind

/-- **The 64-bit reader reads exactly the signed decimal numerals within 64 bits.** -/
theorem readI64_eq_some_iff {cs : List Char} {z : Int} :
    readI64 cs = some z ↔ SignedDecimal cs z ∧ inI64 z = true := by
  unfold readI64
  split
  · rw [map_filter_inI64_eq_some, signedDecimal_sign (by decide)]
    simp
  · rw [map_filter_inI64_eq_some, signedDecimal_sign (by decide)]
    simp
  · rename_i hplus hminus
    -- without a sign the whole text is the digits
    have hplain : SignedDecimal cs z ↔ ∃ n, digitsValue 10 cs = some n ∧ z = n := by
      constructor
      · rintro (⟨hne, hd⟩ | ⟨-, -⟩ | ⟨-, -⟩)
        · exact ⟨_, digitsValue_ten_eq_some.2 ⟨hne, hd, rfl⟩, rfl⟩
        · exact absurd rfl (hplus _)
        · exact absurd rfl (hminus _)
      · rintro ⟨n, hn, rfl⟩
        obtain ⟨hne, hd, rfl⟩ := digitsValue_ten_eq_some.1 hn
        exact .plain hne hd
    rw [map_filter_inI64_eq_some, hplain]
    rfl

end PeerGate.Numeral
