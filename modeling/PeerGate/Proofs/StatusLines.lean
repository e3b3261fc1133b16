import Mathlib.Data.List.TakeDrop
import Mathlib.Data.List.TakeWhile
import PeerGate.Credential.Status

/-!
The one pass over a status record reads each key from its first line.

`Credential.ofStatus` reads the lines once, keeping the keys seen as bits of a byte; a line gives
its values only to a key not yet seen, and the pass stops once all four keys are seen. Without the
pass, the reading is: for each key, the values of the first line with that key
(`Status.firstValue`), whatever the lines after it say (`Credential.fromFirstLines`).

The pass keeps one invariant. After the lines `done`, its state is what the first lines of `done`
give (`Scan.ofLines`), its mask holding exactly the keys that some line of `done` has. One line
keeps it (`Scan.line_ofLines`); stopping keeps it, since no later line changes a first line once
all four keys have one (`Scan.ofLines_append_of_full`); so the whole pass does
(`Scan.lines_ofLines`).

A line's key is found by `splitKey`; `splitKey_eq_some_iff` states its rule without the scan: the
text after the leading ASCII blanks and before a colon, with neither a colon nor a blank in it.

* `Credential.ofStatus_eq_fromFirstLines`: **the pass reads what each key's first line says**;
  a later line neither overrides nor rescues a first line, and stopping early loses nothing.
-/

namespace PeerGate

namespace Status

open Text

/-! ### Each key from its first line -/

/-- A line has key `k` and values `v` exactly when it is ASCII blanks, then `k`, a colon and `v`,
where `k` holds neither a colon nor an ASCII blank. -/
theorem splitKey_eq_some_iff {line k v : List Char} :
    splitKey line = some (k, v) ↔
      ∃ blanks, line = blanks ++ k ++ ':' :: v ∧ (∀ c ∈ blanks, isAsciiBlank c = true) ∧
        ∀ c ∈ k, c ≠ ':' ∧ isAsciiBlank c = false := by
  have hcolon : isAsciiBlank ':' = false := by decide
  constructor
  · intro h
    unfold splitKey at h
    rw [List.span_eq_takeWhile_dropWhile] at h
    split at h
    · rename_i key values hkv
      obtain ⟨rfl, rfl⟩ : key = k ∧ values = v := by simpa using h
      simp only [Prod.mk.injEq] at hkv
      refine ⟨line.takeWhile isAsciiBlank, ?_, fun c hc => List.mem_takeWhile_imp hc, ?_⟩
      · rw [List.append_assoc, ← hkv.1, ← hkv.2, List.takeWhile_append_dropWhile,
          List.takeWhile_append_dropWhile]
      · intro c hc
        have := List.mem_takeWhile_imp (hkv.1 ▸ hc)
        simpa using this
    · cases h
  · rintro ⟨blanks, rfl, hb, hk⟩
    have hdrop : (blanks ++ k ++ ':' :: v).dropWhile isAsciiBlank = k ++ ':' :: v := by
      rw [List.append_assoc, List.dropWhile_append_of_pos hb]
      cases k with
      | nil => simp [hcolon]
      | cons d ds => simp [(hk d (by simp)).2]
    have hall : ∀ c ∈ k, (c != ':' && !isAsciiBlank c) = true := by
      intro c hc
      simp [(hk c hc).1, (hk c hc).2]
    unfold splitKey
    rw [hdrop, List.span_eq_takeWhile_dropWhile, List.takeWhile_append_of_pos hall,
      List.dropWhile_append_of_pos hall]
    simp
/-- The values of a line, if its key is `key`. -/
def lineValue (key : String) (line : List Char) : Option (List Char) :=
  match splitKey line with
  | some (k, v) => if sameKey k key.toList then some v else none
  | none => none

/-- The values of the first line with the given key. -/
def firstValue (key : String) (lines : List (List Char)) : Option (List Char) :=
  lines.findSome? (lineValue key)

theorem firstValue_nil (key : String) : firstValue key [] = none := rfl

/-- The first line with a key among `done ++ more` is in `done` if `done` has one. -/
theorem firstValue_append (key : String) (done more : List (List Char)) :
    firstValue key (done ++ more) = (firstValue key done).or (firstValue key more) := by
  simp only [firstValue, List.findSome?_append]

theorem firstValue_singleton (key : String) (line : List Char) :
    firstValue key [line] = lineValue key line := by
  simp only [firstValue, List.findSome?_cons, List.findSome?_nil]
  cases lineValue key line <;> rfl

/-- Keys that are the same as one key are the same as each other: a key is at most one of the
four names. -/
theorem sameKey_eq_false {k a b : List Char} (ha : sameKey k a = true)
    (hab : a.map Char.toLower ≠ b.map Char.toLower) : sameKey k b = false := by
  simp only [sameKey, beq_iff_eq] at ha ⊢
  rw [ha]
  simpa using hab

/-! ### The mask of keys seen -/

/-- The mask with the bits of the keys seen. -/
def mask (uid gid groups capEff : Bool) : UInt8 :=
  (if uid then keyUid else 0) ||| (if gid then keyGid else 0) |||
    (if groups then keyGroups else 0) ||| (if capEff then keyCapEff else 0)

section Mask

variable (u g gr c : Bool)

@[simp] theorem mask_and_keyUid : (mask u g gr c &&& keyUid == 0) = !u := by
  cases u <;> cases g <;> cases gr <;> cases c <;> rfl

@[simp] theorem mask_and_keyGid : (mask u g gr c &&& keyGid == 0) = !g := by
  cases u <;> cases g <;> cases gr <;> cases c <;> rfl

@[simp] theorem mask_and_keyGroups : (mask u g gr c &&& keyGroups == 0) = !gr := by
  cases u <;> cases g <;> cases gr <;> cases c <;> rfl

@[simp] theorem mask_and_keyCapEff : (mask u g gr c &&& keyCapEff == 0) = !c := by
  cases u <;> cases g <;> cases gr <;> cases c <;> rfl

@[simp] theorem mask_and_keyAll : (mask u g gr c &&& keyAll == keyAll) = (u && g && gr && c) := by
  cases u <;> cases g <;> cases gr <;> cases c <;> rfl

@[simp] theorem mask_or_keyUid : mask u g gr c ||| keyUid = mask true g gr c := by
  cases u <;> cases g <;> cases gr <;> cases c <;> rfl

@[simp] theorem mask_or_keyGid : mask u g gr c ||| keyGid = mask u true gr c := by
  cases u <;> cases g <;> cases gr <;> cases c <;> rfl

@[simp] theorem mask_or_keyGroups : mask u g gr c ||| keyGroups = mask u g true c := by
  cases u <;> cases g <;> cases gr <;> cases c <;> rfl

@[simp] theorem mask_or_keyCapEff : mask u g gr c ||| keyCapEff = mask u g gr true := by
  cases u <;> cases g <;> cases gr <;> cases c <;> rfl

end Mask

/-! ### The invariant of the pass -/

namespace Scan

/-- The state of the pass when the first lines of the four keys have the values `u`, `g`, `gr`
and `c`, or there is none. -/
def ofFirst (u g gr c : Option (List Char)) : Scan where
  seen := mask u.isSome g.isSome gr.isSome c.isSome
  euid := u.bind effectiveId
  egid := g.bind effectiveId
  groups := gr.map fun v => (words v).filterMap Numeral.readId
  caps := c.bind capsOf

/-- The state of the pass after the lines `done`, read as their first lines give it. -/
def ofLines (done : List (List Char)) : Scan :=
  ofFirst (firstValue "Uid" done) (firstValue "Gid" done) (firstValue "Groups" done)
    (firstValue "CapEff" done)

theorem ofLines_nil : ofLines [] = {} := rfl

/-- One line, in a state given by first lines: the line becomes the first line of its key if
that key has none yet. -/
theorem line_ofFirst (u g gr c : Option (List Char)) (l : List Char) :
    (ofFirst u g gr c).line l =
      ofFirst (u.or (lineValue "Uid" l)) (g.or (lineValue "Gid" l))
        (gr.or (lineValue "Groups" l)) (c.or (lineValue "CapEff" l)) := by
  unfold line lineValue
  cases hl : splitKey l with
  | none => simp
  | some kv =>
    obtain ⟨k, v⟩ := kv
    -- the key of the line is one of the four names at most, so each case fixes all four tests;
    -- the names stay unevaluated, as the tests spell them
    by_cases hu : sameKey k "Uid".toList = true
    · have hg := sameKey_eq_false (b := "Gid".toList) hu (by decide)
      have hgr := sameKey_eq_false (b := "Groups".toList) hu (by decide)
      have hc := sameKey_eq_false (b := "CapEff".toList) hu (by decide)
      cases u <;> simp [ofFirst, hu, hg, hgr, hc, -String.reduceToList]
    by_cases hg : sameKey k "Gid".toList = true
    · have hgr := sameKey_eq_false (b := "Groups".toList) hg (by decide)
      have hc := sameKey_eq_false (b := "CapEff".toList) hg (by decide)
      cases g <;> simp [ofFirst, hu, hg, hgr, hc, -String.reduceToList]
    by_cases hgr : sameKey k "Groups".toList = true
    · have hc := sameKey_eq_false (b := "CapEff".toList) hgr (by decide)
      cases gr <;> simp [ofFirst, hu, hg, hgr, hc, -String.reduceToList]
    by_cases hc : sameKey k "CapEff".toList = true
    · cases c <;> simp [ofFirst, hu, hg, hgr, hc, -String.reduceToList]
    simp [ofFirst, hu, hg, hgr, hc, -String.reduceToList]

/-- **One line keeps the invariant.** -/
theorem line_ofLines (done : List (List Char)) (l : List Char) :
    (ofLines done).line l = ofLines (done ++ [l]) := by
  simp only [ofLines, line_ofFirst, firstValue_append, firstValue_singleton]

/-- Once all four keys have a first line, later lines change none of them. -/
theorem ofLines_append_of_full {done : List (List Char)}
    (hall : ((ofLines done).seen &&& keyAll == keyAll) = true) (more : List (List Char)) :
    ofLines (done ++ more) = ofLines done := by
  simp only [ofLines, ofFirst, mask_and_keyAll, Bool.and_eq_true, Option.isSome_iff_exists] at hall
  obtain ⟨⟨⟨⟨u, hu⟩, ⟨g, hg⟩⟩, ⟨gr, hgr⟩⟩, ⟨c, hc⟩⟩ := hall
  simp only [ofLines, firstValue_append, hu, hg, hgr, hc, Option.some_or]

/-- **The pass keeps the invariant**: from the state of the lines `done`, the pass over the
lines `rest` ends in the state of `done ++ rest`, whether it stops early or not. -/
theorem lines_ofLines (done rest : List (List Char)) :
    (ofLines done).lines rest = ofLines (done ++ rest) := by
  induction rest generalizing done with
  | nil => simp [lines]
  | cons l rest ih =>
    unfold lines
    split
    · rename_i hall
      exact (ofLines_append_of_full hall (l :: rest)).symm
    · rw [line_ofLines, ih]
      simp

end Scan

end Status

open Status in
/-- The credential a status record gives read without the pass: each key from the first line
that has it, the user id before the group id when either is missing. -/
def Credential.fromFirstLines (text : String) : Except StatusFault Credential :=
  let lines := text.toList.splitOn '\n'
  let euid := (firstValue "Uid" lines).bind effectiveId
  let egid := (firstValue "Gid" lines).bind effectiveId
  let groups := (firstValue "Groups" lines).map fun v => (words v).filterMap Numeral.readId
  let caps := (firstValue "CapEff" lines).bind capsOf
  match euid, egid with
  | some u, some g => .ok { euid := u, egid := g, groups := groups, caps := caps }
  | none, _ => .error .noUsableUid
  | some _, none => .error .noUsableGid

open Status in
/-- **The pass reads what each key's first line says**, a line's key being what stands after its
leading ASCII blanks and before a colon, with no colon or ASCII blank in it. -/
theorem Credential.ofStatus_eq_fromFirstLines (text : String) :
    Credential.ofStatus text = Credential.fromFirstLines text ∧
      ∀ line k v, splitKey line = some (k, v) ↔
        ∃ blanks, line = blanks ++ k ++ ':' :: v ∧ (∀ c ∈ blanks, Text.isAsciiBlank c = true) ∧
          ∀ c ∈ k, c ≠ ':' ∧ Text.isAsciiBlank c = false := by
  refine ⟨?_, fun line k v => splitKey_eq_some_iff⟩
  have hpass :
      Scan.lines {} (text.toList.splitOn '\n') = Scan.ofLines (text.toList.splitOn '\n') := by
    rw [← Scan.ofLines_nil, Scan.lines_ofLines, List.nil_append]
  unfold Credential.ofStatus Credential.fromFirstLines
  rw [hpass]
  rfl

/-- A malformed first `Uid` line is not rescued by a good one after it. -/
example :
    (Credential.ofStatus "Uid:\tx\tx\tx\tx\nUid:\t2\t2\t2\t2\nGid:\t3\t3\t3\t3\n").toOption = none := by
  decide

end PeerGate
