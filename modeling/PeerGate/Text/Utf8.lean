/-!
UTF-8: the byte length of text, and reading bytes that may not be UTF-8.

Reading is lossy: each well-formed sequence gives its character, and each maximal part of a
sequence that cannot be completed gives one replacement character U+FFFD. A maximal part is a lead
byte with the continuation bytes that still fit it; the byte that breaks the sequence starts the
next one. Lead bytes `C2` to `DF` take one continuation byte, `E0` to `EF` two and `F0` to `F4`
three, where the first continuation after `E0`, `ED`, `F0` and `F4` is narrowed so that no
overlong form, surrogate or value above U+10FFFF is read. A byte order mark is an ordinary
character.

* `byteLength`: the number of bytes a list of characters takes; `byteLength_append`, and
  `utf8ByteSize_ofList`: it is the size of the string they make.
* `decodeStep`, `decodeLossy`: one character, and the whole text; `decodeLossy_ascii` reads a byte
  below `0x80` as itself.
* `isWellFormed`: bytes that are UTF-8 throughout, so that reading them loses nothing.
-/

namespace PeerGate.Text

/-- The number of bytes the characters take in UTF-8. -/
def byteLength : List Char → Nat
  | [] => 0
  | c :: cs => c.utf8Size + byteLength cs

theorem byteLength_cons (c : Char) (cs : List Char) :
    byteLength (c :: cs) = c.utf8Size + byteLength cs := rfl

theorem byteLength_append (a b : List Char) :
    byteLength (a ++ b) = byteLength a + byteLength b := by
  induction a with
  | nil => simp [byteLength]
  | cons c cs ih => rw [List.cons_append, byteLength_cons, byteLength_cons, ih, Nat.add_assoc]

/-- The byte length of characters is the size of the string they make. -/
theorem utf8ByteSize_ofList (cs : List Char) : (String.ofList cs).utf8ByteSize = byteLength cs := by
  induction cs with
  | nil => rfl
  | cons c cs ih =>
    rw [String.ofList_cons, String.utf8ByteSize_append, String.utf8ByteSize_singleton, ih,
      byteLength_cons]

/-- A continuation byte: `80` to `BF`. -/
def isContinuation (x : UInt8) : Bool :=
  0x80 ≤ x && x ≤ 0xBF

/-- The payload bits of a continuation byte. -/
def payload (x : UInt8) : Nat :=
  x.toNat % 64

/-- The replacement character. -/
def replacement : Char :=
  '�'

/-- The range the first continuation byte must lie in after a three- or four-byte lead. -/
def firstRange (lead : UInt8) : UInt8 × UInt8 :=
  if lead = 0xE0 then (0xA0, 0xBF)
  else if lead = 0xED then (0x80, 0x9F)
  else if lead = 0xF0 then (0x90, 0xBF)
  else if lead = 0xF4 then (0x80, 0x8F)
  else (0x80, 0xBF)

/-- One character read from a lead byte and the bytes after it, with the bytes that remain. -/
def decodeStep (b : UInt8) (rest : List UInt8) : Char × List UInt8 :=
  if b < 0x80 then (Char.ofNat b.toNat, rest)
  else if 0xC2 ≤ b ∧ b ≤ 0xDF then
    match rest with
    | x :: r =>
      if isContinuation x then (Char.ofNat ((b.toNat % 32) * 64 + payload x), r)
      else (replacement, rest)
    | [] => (replacement, rest)
  else if 0xE0 ≤ b ∧ b ≤ 0xEF then
    match rest with
    | x :: r =>
      if (firstRange b).1 ≤ x ∧ x ≤ (firstRange b).2 then
        match r with
        | y :: r' =>
          if isContinuation y then
            (Char.ofNat ((b.toNat % 16) * 4096 + payload x * 64 + payload y), r')
          else (replacement, r)
        | [] => (replacement, r)
      else (replacement, rest)
    | [] => (replacement, rest)
  else if 0xF0 ≤ b ∧ b ≤ 0xF4 then
    match rest with
    | x :: r =>
      if (firstRange b).1 ≤ x ∧ x ≤ (firstRange b).2 then
        match r with
        | y :: r' =>
          if isContinuation y then
            match r' with
            | z :: r'' =>
              if isContinuation z then
                (Char.ofNat ((b.toNat % 8) * 262144 + payload x * 4096 + payload y * 64 +
                  payload z), r'')
              else (replacement, r')
            | [] => (replacement, r')
          else (replacement, r)
        | [] => (replacement, r)
      else (replacement, rest)
    | [] => (replacement, rest)
  else (replacement, rest)

theorem decodeStep_length_le (b : UInt8) (rest : List UInt8) :
    (decodeStep b rest).2.length ≤ rest.length := by
  unfold decodeStep
  repeat' split
  all_goals (simp <;> omega)

/-- The characters of bytes read as UTF-8, with a replacement character for each maximal part of a
sequence that cannot be completed. -/
def decodeLossy : List UInt8 → List Char
  | [] => []
  | b :: rest =>
    have := decodeStep_length_le b rest
    (decodeStep b rest).1 :: decodeLossy (decodeStep b rest).2
termination_by bs => bs.length

theorem decodeLossy_ascii (b : UInt8) (rest : List UInt8) (h : b < 0x80) :
    decodeLossy (b :: rest) = Char.ofNat b.toNat :: decodeLossy rest := by
  rw [decodeLossy]
  simp [decodeStep, h]

/-- Whether bytes are well-formed UTF-8: writing the characters read from them gives the bytes
back. A sequence read as a replacement character is written as the three bytes of U+FFFD, which
are not the bytes read unless they were those three, and those read as U+FFFD itself. -/
def isWellFormed (bytes : List UInt8) : Bool :=
  (String.ofList (decodeLossy bytes)).toUTF8.toList == bytes

end PeerGate.Text
