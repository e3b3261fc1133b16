/-!
Numerals: reading unsigned and signed integers from text, and writing a word in fixed-width
hexadecimal.

Four readers are in use, each with its own rule.

* `readId`: an account id in a process status record, read as C's `strtoul` with base 0 reads
  it: `0x` or `0X` before hexadecimal digits, a `0` before octal digits, otherwise decimal; the
  whole token must be digits and the value must fit in 32 bits.
* `readCaps`: a capability mask, hexadecimal with an optional `0x` or `0X`, fitting in 64 bits.
* `readU32`: a decimal 32-bit word with an optional `+`.
* `readI64`: a decimal 64-bit signed integer with an optional `+` or `-`.

`digitsValue` is the value of a run of digits, and `digitsValue_cons` says how one more leading
digit adds to it. `hex16` writes a 64-bit word as `0x` and sixteen lowercase digits.
-/

namespace PeerGate.Numeral

/-- The value of a digit in a radix up to 16: `0` to `9`, then `a` to `f` in either case. -/
def digitValue (radix : Nat) (c : Char) : Option Nat :=
  let v :=
    if '0' ≤ c ∧ c ≤ '9' then some (c.toNat - '0'.toNat)
    else if 'a' ≤ c ∧ c ≤ 'f' then some (c.toNat - 'a'.toNat + 10)
    else if 'A' ≤ c ∧ c ≤ 'F' then some (c.toNat - 'A'.toNat + 10)
    else none
  v.filter (· < radix)

/-- The value of digits read after an accumulated value `acc`, most significant first. -/
def digitsFrom (radix : Nat) (acc : Nat) : List Char → Option Nat
  | [] => some acc
  | c :: cs => (digitValue radix c).bind fun d => digitsFrom radix (acc * radix + d) cs

/-- The value of a nonempty run of digits in the radix; `none` if the run is empty or holds a
character that is no digit of the radix. -/
def digitsValue (radix : Nat) : List Char → Option Nat
  | [] => none
  | cs => digitsFrom radix 0 cs

theorem digitsValue_cons (radix : Nat) (c : Char) (cs : List Char) :
    digitsValue radix (c :: cs) = (digitValue radix c).bind fun d => digitsFrom radix d cs := by
  simp [digitsValue, digitsFrom]

/-- A value as a 32-bit word, if it fits. -/
def toWord32? (n : Nat) : Option UInt32 :=
  if n < UInt32.size then some n.toUInt32 else none

/-- A value as a 64-bit word, if it fits. -/
def toWord64? (n : Nat) : Option UInt64 :=
  if n < UInt64.size then some n.toUInt64 else none

/-- The digits of a token and their radix, as `strtoul` with base 0 chooses them. -/
def idDigits : List Char → List Char × Nat
  | '0' :: 'x' :: rest => (rest, 16)
  | '0' :: 'X' :: rest => (rest, 16)
  | '0' :: d :: rest => (d :: rest, 8)
  | tok => (tok, 10)

/-- An account id: a whole `strtoul` base-0 numeral below `2 ^ 32`, without sign. -/
def readId (tok : List Char) : Option UInt32 :=
  let (digits, radix) := idDigits tok
  (digitsValue radix digits).bind toWord32?

/-- The hexadecimal digits of a capability mask, without its optional prefix. -/
def capsDigits : List Char → List Char
  | '0' :: 'x' :: rest => rest
  | '0' :: 'X' :: rest => rest
  | tok => tok

/-- A capability mask: hexadecimal digits, after an optional `0x` or `0X`, below `2 ^ 64`. -/
def readCaps (tok : List Char) : Option UInt64 :=
  (digitsValue 16 (capsDigits tok)).bind toWord64?

/-- A decimal 32-bit word with an optional `+`. -/
def readU32 : List Char → Option UInt32
  | '+' :: rest => (digitsValue 10 rest).bind toWord32?
  | cs => (digitsValue 10 cs).bind toWord32?

/-- The signed integers that fit in 64 bits. -/
def inI64 (v : Int) : Bool :=
  -9223372036854775808 ≤ v && v < 9223372036854775808

/-- A decimal 64-bit signed integer with an optional `+` or `-`. -/
def readI64 (cs : List Char) : Option Int :=
  let v : Option Int :=
    match cs with
    | '+' :: rest => (digitsValue 10 rest).map Int.ofNat
    | '-' :: rest => (digitsValue 10 rest).map fun n => -Int.ofNat n
    | _ => (digitsValue 10 cs).map Int.ofNat
  v.filter inI64

/-- A 64-bit word as `0x` and sixteen lowercase hexadecimal digits. -/
def hex16 (w : UInt64) : String :=
  let ds := Nat.toDigits 16 w.toNat
  "0x" ++ String.ofList (List.replicate (16 - ds.length) '0' ++ ds)

end PeerGate.Numeral
