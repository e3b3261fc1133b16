import PeerGate.Text.GraphemeExtend
import PeerGate.Text.Printable

/-!
Quoted text, as error messages show names, arguments and patterns.

The text stands between double quotes. The NUL, tab, carriage return and line feed are written
`\0`, `\t`, `\r` and `\n`; the double quote and the backslash get a backslash before them. A
character that extends the grapheme before it, or that is not printable, is written `\u{h}` with
`h` its code point in lowercase hexadecimal without leading zeros. Every other character, ASCII or
not, stands for itself.

* `escapeChar`: the written form of one character; `escapeChar_plain` says when a character stands
  for itself.
* `quote`: the whole text; `quote_plain` for a text of characters that stand for themselves.
-/

namespace PeerGate.Text

/-- Lowercase hexadecimal digits of a number, without leading zeros. -/
def hexDigits (n : Nat) : List Char :=
  Nat.toDigits 16 n

/-- The written form of one character inside quoted text. -/
def escapeChar (c : Char) : List Char :=
  if c == '\x00' then ['\\', '0']
  else if c == '\t' then ['\\', 't']
  else if c == '\r' then ['\\', 'r']
  else if c == '\n' then ['\\', 'n']
  else if c == '\\' then ['\\', '\\']
  else if c == '"' then ['\\', '"']
  else if isGraphemeExtend c || !isPrintable c then
    ['\\', 'u', '\x7b'] ++ hexDigits c.toNat ++ ['\x7d']
  else [c]

/-- Text between double quotes, with the escapes of `escapeChar`. -/
def quote (s : String) : String :=
  "\"" ++ String.ofList (s.toList.flatMap escapeChar) ++ "\""

/-- A character that is printable, extends nothing and is neither a quote nor a backslash stands
for itself. -/
theorem escapeChar_plain {c : Char} (hp : isPrintable c = true)
    (hg : isGraphemeExtend c = false) (hq : c ≠ '"') (hb : c ≠ '\\') :
    escapeChar c = [c] := by
  have h0 : c ≠ '\x00' := by
    rintro rfl
    exact absurd hp (by decide)
  have ht : c ≠ '\t' := by
    rintro rfl
    exact absurd hp (by decide)
  have hr : c ≠ '\r' := by
    rintro rfl
    exact absurd hp (by decide)
  have hn : c ≠ '\n' := by
    rintro rfl
    exact absurd hp (by decide)
  simp [escapeChar, h0, ht, hr, hn, hb, hq, hp, hg]

theorem flatMap_escapeChar_plain (cs : List Char)
    (h : ∀ c ∈ cs, isPrintable c = true ∧ isGraphemeExtend c = false ∧ c ≠ '"' ∧ c ≠ '\\') :
    cs.flatMap escapeChar = cs := by
  induction cs with
  | nil => rfl
  | cons c cs ih =>
    obtain ⟨hp, hg, hq, hb⟩ := h c List.mem_cons_self
    rw [List.flatMap_cons, escapeChar_plain hp hg hq hb,
      ih (fun d hd => h d (List.mem_cons_of_mem _ hd))]
    rfl

theorem quote_plain (s : String)
    (h : ∀ c ∈ s.toList, isPrintable c = true ∧ isGraphemeExtend c = false ∧ c ≠ '"' ∧
      c ≠ '\\') :
    quote s = "\"" ++ s ++ "\"" := by
  simp [quote, flatMap_escapeChar_plain _ h]

end PeerGate.Text
