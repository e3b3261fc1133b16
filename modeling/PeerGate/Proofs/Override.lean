import PeerGate.Service
import PeerGate.Proofs.Numerals

/-!
Overriding the own credential's lifetime from outside.

An override value is trimmed of blanks and read as a signed decimal 64-bit integer
(`Numeral.readI64`, characterised by `Numeral.readI64_eq_some_iff`). A value from 0 on sets the
lifetime, capped at `maxSelfIdleSec`; a negative value, or text that is no numeral, leaves the
settings as they are. Values larger than the cap are meant to be capped, but the reader's 64 bits
get in the way: a numeral of `2 ^ 63` or more overflows the reader and is ignored like a negative
one, so the lifetime keeps its old value instead of becoming 3600 seconds.

* `SelfSettings.overrideSec?_of_signedDecimal`, `SelfSettings.overrideSec?_eq_none`: the lifetime
  an override text sets, and when it sets none.
* `Config.validate_selfCred`: a checked configuration has checked own-credential settings.
* `SelfSettings.applyOverride_sets_capped_lifetime`: **the override sets `min n 3600` for a
  numeral of `n` within 64 bits and changes nothing otherwise; checked settings stay checked, so
  a service built from a checked configuration keeps its own credential at most an hour.**
* `SelfSettings.applyOverride_ignores_beyond_i64`: a numeral of `2 ^ 63`, which is to be capped,
  leaves the default lifetime of 30 seconds in place.
-/

namespace PeerGate

namespace SelfSettings

open Numeral

/-- A numeral of `n` within 64 bits sets `n` seconds, capped at the longest lifetime. -/
theorem overrideSec?_of_signedDecimal {raw : String} {n : Nat}
    (h : SignedDecimal (Text.trimList raw.toList) n) (hn : n < 9223372036854775808) :
    overrideSec? raw = some (min n maxSelfIdleSec.toNat).toUInt64 := by
  have hread : readI64 (Text.trimList raw.toList) = some n :=
    readI64_eq_some_iff.2 ⟨h, by simp [inI64]; omega⟩
  simp [overrideSec?, hread]

/-- A text that is no numeral of a number within 64 bits sets nothing. -/
theorem overrideSec?_eq_none {raw : String}
    (h : ∀ n : Nat, n < 9223372036854775808 → ¬ SignedDecimal (Text.trimList raw.toList) n) :
    overrideSec? raw = none := by
  unfold overrideSec?
  split
  · rename_i v hv
    obtain ⟨hsigned, hin⟩ := readI64_eq_some_iff.1 hv
    split
    · -- a value from 0 on is a natural number within 64 bits, which `h` rules out
      rename_i hpos
      have hv' : v = (v.toNat : Int) := (Int.toNat_of_nonneg hpos).symm
      have hlt : v.toNat < 9223372036854775808 := by simp [inI64] at hin; omega
      exact absurd (hv' ▸ hsigned) (h v.toNat hlt)
    · rfl
  · rfl

end SelfSettings

namespace Config

/-- A checked configuration has checked own-credential settings. -/
theorem validate_selfCred {c : Config} (h : c.validate = .ok ()) :
    c.selfCred.validate = .ok () := by
  simp only [validate, bind, Except.bind] at h
  split at h
  · cases h
  · split at h
    · cases h
    · split at h
      · cases h
      · rename_i u hs
        cases u
        exact hs

end Config

namespace SelfSettings

open Numeral

/-- **The override sets a capped lifetime, or nothing.** For a value whose trimmed text is a
signed decimal numeral of a number `n` within 64 bits, the lifetime becomes `min n 3600`; for any
other value, and for none, the settings stay as they are. Checked settings stay checked, so a
service built from a checked configuration keeps its own credential at most an hour. -/
theorem applyOverride_sets_capped_lifetime (s : SelfSettings) (v : String) :
    (∀ n : Nat, SignedDecimal (Text.trimList v.toList) n → n < 9223372036854775808 →
      s.applyOverride (some v) = { s with idleSec := (min n maxSelfIdleSec.toNat).toUInt64 }) ∧
    ((∀ n : Nat, n < 9223372036854775808 → ¬ SignedDecimal (Text.trimList v.toList) n) →
      s.applyOverride (some v) = s) ∧
    s.applyOverride none = s ∧
    (∀ value, s.validate = .ok () → (s.applyOverride value).validate = .ok ()) ∧
    (∀ (G : Globs) (cfg : Config) value accounts selfPid (st : AccessState G),
      cfg.validate = .ok () → AccessState.build G cfg value accounts selfPid = .ok st →
        st.selfCred.lifeMs ≤ 3600 * 1000) := by
  -- checked settings live at most `maxSelfIdleSec`, before and after an override
  have hchecked : ∀ (s : SelfSettings) value, s.validate = .ok () →
      (s.applyOverride value).idleSec ≤ maxSelfIdleSec := by
    intro s value hs
    unfold validate at hs
    split at hs
    · exact applyOverride_le s value ‹_›
    · cases hs
  refine ⟨fun n hn hlt => ?_, fun h => ?_, applyOverride_none s, fun value hs => ?_, ?_⟩
  · simp [applyOverride, overrideSec?_of_signedDecimal hn hlt]
  · simp [applyOverride, overrideSec?_eq_none h]
  · simp [validate, hchecked s value hs]
  · intro G cfg value accounts selfPid st hcfg hbuild
    simp only [AccessState.build, bind, Except.bind] at hbuild
    split at hbuild
    · cases hbuild
    · cases hbuild
      have hle := hchecked cfg.selfCred value (Config.validate_selfCred hcfg)
      rw [UInt64.le_iff_toNat_le] at hle
      simp only [Config.withOverride]
      simp [maxSelfIdleSec] at hle
      omega

/-- **Values beyond the 64-bit integers are not capped.** A numeral of `2 ^ 63`, one past the
64-bit integers, overflows the reader: the lifetime stays at its default of 30 seconds instead of
being capped at 3600. -/
theorem applyOverride_ignores_beyond_i64 :
    ¬ ∀ (s : SelfSettings) (v : String) (n : Nat), SignedDecimal (Text.trimList v.toList) n →
      s.applyOverride (some v) = { s with idleSec := (min n maxSelfIdleSec.toNat).toUInt64 } := by
  intro h
  have hnum : SignedDecimal (Text.trimList "9223372036854775808".toList) 9223372036854775808 := by
    have hdigits : SignedDecimal "9223372036854775808".toList 9223372036854775808 :=
      SignedDecimal.plain (by simp) (by simp [Char.isDigit])
    have htrim : Text.trimList "9223372036854775808".toList = "9223372036854775808".toList := by
      decide
    rw [htrim]
    exact hdigits
  have hset := h {} "9223372036854775808" 9223372036854775808 hnum
  have hkept : ({} : SelfSettings).applyOverride (some "9223372036854775808") = {} := by decide
  rw [hkept] at hset
  have hne : ({} : SelfSettings) ≠ { ({} : SelfSettings) with
      idleSec := (min 9223372036854775808 maxSelfIdleSec.toNat).toUInt64 } := by decide
  exact hne hset

end SelfSettings

end PeerGate
