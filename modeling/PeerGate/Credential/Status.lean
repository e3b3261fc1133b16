import PeerGate.Credential
import PeerGate.Numeral
import PeerGate.Text.Blank

/-!
Reading a credential from a process status record.

A status record is text of `Key:<tab>values` lines. Lines are split at line feeds only. A line's
key is what comes before its first colon, after leading ASCII blanks; a line whose first colon
comes after an ASCII blank, or that has no colon, has no key. Keys compare without regard to ASCII
case. Of the four keys that matter, only the first line of each counts, even when its value cannot
be read:

* `Uid` and `Gid` give four ids; the second is the effective one. Any other number of values
  leaves the id unread.
* `Groups` gives the supplementary groups; values that are no id are skipped.
* `CapEff` gives the capability mask, which must be the only value.

Values are separated by ASCII blanks, ids are read by `Numeral.readId` and the mask by
`Numeral.readCaps`. A record without a readable user id fails with `noUsableUid`, then one without
a readable group id with `noUsableGid`.

The lines are read in one pass that keeps the keys seen as bits of a byte (`Scan.seen`): a line
sets the first key not yet seen that it has, and the pass stops once all four are seen.

* `Scan.line`, `Scan.lines`: one line, and the pass.
* `Credential.ofStatus`: the reader.
-/

namespace PeerGate

open Text

/-- Why a status record gave no credential. -/
inductive StatusFault where
  /-- No first `Uid` line with four values whose second is an id. -/
  | noUsableUid
  /-- No first `Gid` line with four values whose second is an id. -/
  | noUsableGid
deriving DecidableEq, Repr

namespace StatusFault

/-- The message of a fault. -/
def message : StatusFault → String
  | noUsableUid => "no usable Uid line"
  | noUsableGid => "no usable Gid line"

end StatusFault

namespace Status

/-- Words separated by ASCII blanks, with the word being read kept reversed in `cur`. -/
def wordsFrom : List Char → List Char → List (List Char)
  | [], cur => if cur.isEmpty then [] else [cur.reverse]
  | c :: cs, cur =>
    if isAsciiBlank c then
      if cur.isEmpty then wordsFrom cs [] else cur.reverse :: wordsFrom cs []
    else wordsFrom cs (c :: cur)

/-- The words of a text: its maximal runs of characters that are not ASCII blanks. -/
def words (cs : List Char) : List (List Char) :=
  wordsFrom cs []

/-- The key and the values of a line: after leading ASCII blanks, the text up to the first
character that is a colon or an ASCII blank, if that character is a colon. -/
def splitKey (line : List Char) : Option (List Char × List Char) :=
  match (line.dropWhile isAsciiBlank).span (fun c => c != ':' && !isAsciiBlank c) with
  | (key, ':' :: values) => some (key, values)
  | _ => none

/-- Two keys are the same when they differ at most in the case of ASCII letters. -/
def sameKey (a b : List Char) : Bool :=
  a.map Char.toLower == b.map Char.toLower

/-- The effective id of an `Uid` or `Gid` line: the second of exactly four values. -/
def effectiveId (values : List Char) : Option UInt32 :=
  match words values with
  | [_, eff, _, _] => Numeral.readId eff
  | _ => none

/-- The mask of a `CapEff` line: its only value. -/
def capsOf (values : List Char) : Option UInt64 :=
  match words values with
  | [tok] => Numeral.readCaps tok
  | _ => none

/-- The bit of the `Uid` key in the mask of keys seen. -/
def keyUid : UInt8 := 0x01

/-- The bit of the `Gid` key. -/
def keyGid : UInt8 := 0x02

/-- The bit of the `Groups` key. -/
def keyGroups : UInt8 := 0x04

/-- The bit of the `CapEff` key. -/
def keyCapEff : UInt8 := 0x08

/-- The bits of all four keys. -/
def keyAll : UInt8 := keyUid ||| keyGid ||| keyGroups ||| keyCapEff

/-- What a pass over the lines of a record has found so far: the keys seen, as bits, and what
each gave. -/
structure Scan where
  seen : UInt8 := 0
  euid : Option UInt32 := none
  egid : Option UInt32 := none
  groups : Option (List UInt32) := none
  caps : Option UInt64 := none

namespace Scan

/-- One line: it gives its values to the first of the four keys, in the order `Uid`, `Gid`,
`Groups`, `CapEff`, that is its own key and has not been seen. -/
def line (st : Scan) (line : List Char) : Scan :=
  match splitKey line with
  | none => st
  | some (key, values) =>
    if st.seen &&& keyUid == 0 && sameKey key "Uid".toList then
      { st with seen := st.seen ||| keyUid, euid := effectiveId values }
    else if st.seen &&& keyGid == 0 && sameKey key "Gid".toList then
      { st with seen := st.seen ||| keyGid, egid := effectiveId values }
    else if st.seen &&& keyGroups == 0 && sameKey key "Groups".toList then
      { st with seen := st.seen ||| keyGroups,
                groups := some ((words values).filterMap Numeral.readId) }
    else if st.seen &&& keyCapEff == 0 && sameKey key "CapEff".toList then
      { st with seen := st.seen ||| keyCapEff, caps := capsOf values }
    else st

/-- The lines in order, stopping before the first line read once all four keys are seen. -/
def lines (st : Scan) : List (List Char) → Scan
  | [] => st
  | l :: rest => if st.seen &&& keyAll == keyAll then st else (st.line l).lines rest

end Scan

end Status

open Status in
/-- The credential a status record gives, or why it gives none. -/
def Credential.ofStatus (text : String) : Except StatusFault Credential :=
  let st := Scan.lines {} (text.toList.splitOn '\n')
  match st.euid, st.egid with
  | some u, some g => .ok { euid := u, egid := g, groups := st.groups, caps := st.caps }
  | none, _ => .error .noUsableUid
  | some _, none => .error .noUsableGid

end PeerGate
