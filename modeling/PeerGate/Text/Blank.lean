/-!
Blank characters.

Two classes of blank are in use, and they differ. Process status records and account lines are
split at ASCII blanks: space, tab, line feed, form feed and carriage return, but not the vertical
tab. Policy texts, configuration values and account ids are trimmed of Unicode `White_Space`,
which holds the ASCII blanks, the vertical tab, the next-line control, the no-break spaces and the
other spaces of the general punctuation block.

* `isAsciiBlank`, `isBlank`: the two classes, with `isBlank_of_isAsciiBlank`.
* `dropBlanks`, `trimList`, `trim`: blanks removed at the front, at both ends of a list, and at
  both ends of a string; `dropBlanks_head` says what the first remaining character is not.
-/

namespace PeerGate.Text

/-- The ASCII blanks: space, tab, line feed, form feed and carriage return. The vertical tab is
not one of them. -/
def isAsciiBlank (c : Char) : Bool :=
  c == ' ' || c == '\t' || c == '\n' || c == '\x0c' || c == '\r'

/-- The Unicode `White_Space` property: the controls from tab to carriage return, space, next
line, no-break space, the Ogham space mark, the spaces from en quad to hair space, the line and
paragraph separators, the narrow no-break space, the medium mathematical space and the
ideographic space. -/
def isBlank (c : Char) : Bool :=
  let n := c.toNat
  (0x09 ≤ n && n ≤ 0x0D) || n == 0x20 || n == 0x85 || n == 0xA0 || n == 0x1680 ||
    (0x2000 ≤ n && n ≤ 0x200A) || n == 0x2028 || n == 0x2029 || n == 0x202F ||
    n == 0x205F || n == 0x3000

theorem isBlank_of_isAsciiBlank {c : Char} (h : isAsciiBlank c = true) : isBlank c = true := by
  simp only [isAsciiBlank, Bool.or_eq_true, beq_iff_eq] at h
  rcases h with (((h | h) | h) | h) | h <;> subst h <;> decide

/-- The list without its leading blanks. -/
def dropBlanks (cs : List Char) : List Char :=
  cs.dropWhile isBlank

/-- The list without blanks at either end. -/
def trimList (cs : List Char) : List Char :=
  (dropBlanks (dropBlanks cs).reverse).reverse

/-- The string without `White_Space` at either end. -/
def trim (s : String) : String :=
  String.ofList (trimList s.toList)

theorem dropBlanks_head {cs : List Char} {c : Char} {rest : List Char}
    (h : dropBlanks cs = c :: rest) : isBlank c = false := by
  unfold dropBlanks at h
  induction cs with
  | nil => simp at h
  | cons d ds ih =>
    rw [List.dropWhile_cons] at h
    split at h
    · exact ih h
    · rename_i hd
      injection h with hc
      subst hc
      simpa using hd

end PeerGate.Text
