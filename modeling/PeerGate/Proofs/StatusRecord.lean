import PeerGate.Proofs.StatusLines
import PeerGate.Proofs.Numerals

/-!
A process status record as the kernel writes it reads back as its credential.

The kernel writes the `Uid` and `Gid` lines with four ids each in decimal, tab-separated (real,
effective, saved, filesystem), the `Groups` line with the supplementary groups in decimal,
separated by single spaces, and the `CapEff` line with the effective mask as sixteen lowercase
hexadecimal digits (`idLine`, `groupsLine`, `capsLine`). Between and around them stand lines with
other keys, or with none. The reader finds in such a record exactly what was written:

* `readsKey`: a line whose key, compared without regard to ASCII case, is one of the four the
  reader reads; a line with no key, or with any other, is passed over
  (`lineValue_of_readsKey_false`, `firstValue_filter_readsKey`).
* `splitOn_lines`: a text of lines ended by line feeds is split back into its lines and an empty
  last one.
* `words_intercalate`: tokens separated by single blanks are split back into the tokens.
* `Credential.ofStatus_record`: **the record reads back as the credential it was written from**;
  the groups are absent exactly when the `Groups` line is, and present in order otherwise, also
  when there are none; the mask is absent exactly when the `CapEff` line is.
-/

namespace PeerGate

namespace Status

open Text

/-! ### Records as the kernel writes them -/

/-- The line of an id key: the key, a colon, and four ids in decimal, each after a tab: real,
effective, saved and filesystem. -/
def idLine (key : String) (real eff saved fs : UInt32) : String :=
  key ++ ":\t" ++ toString real ++ "\t" ++ toString eff ++ "\t" ++ toString saved ++ "\t" ++
    toString fs

/-- The `Groups` line: the groups in decimal, separated by single spaces. -/
def groupsLine (gs : List UInt32) : String :=
  "Groups:\t" ++ " ".intercalate (gs.map toString)

/-- The `CapEff` line: the mask as sixteen lowercase hexadecimal digits. -/
def capsLine (w : UInt64) : String :=
  "CapEff:\t" ++ String.ofList (Numeral.hexWord w)

/-- A line whose key is one of the four the reader reads. -/
def readsKey (line : List Char) : Bool :=
  match splitKey line with
  | some (k, _) => ["Uid", "Gid", "Groups", "CapEff"].any fun name => sameKey k name.toList
  | none => false

/-! ### Lines and words -/

/-- A text of lines, each ended by a line feed, splits into the lines and an empty last one. -/
theorem splitOn_lines (ls : List String) (h : ∀ l ∈ ls, '\n' ∉ l.toList) :
    (String.join (ls.map (· ++ "\n"))).toList.splitOn '\n' = ls.map String.toList ++ [[]] := by
  induction ls with
  | nil => rfl
  | cons l ls ih =>
    have hl : '\n' ∉ l.toList := h l (by simp)
    have hrest := ih fun l' hl' => h l' (by simp [hl'])
    simp only [List.map_cons, String.toList_join, List.flatMap_cons, String.toList_append] at hrest ⊢
    rw [show (l.toList ++ "\n".toList) ++ List.flatMap String.toList (ls.map (· ++ "\n")) =
        l.toList ++ '\n' :: List.flatMap String.toList (ls.map (· ++ "\n")) by simp,
      List.splitOn_append_cons_self_of_not_mem hl, hrest, List.cons_append]

/-- Words end at blanks and nowhere else. -/
theorem wordsFrom_append {t : List Char} (ht : ∀ c ∈ t, isAsciiBlank c = false)
    (rest cur : List Char) : wordsFrom (t ++ rest) cur = wordsFrom rest (t.reverse ++ cur) := by
  induction t generalizing cur with
  | nil => rfl
  | cons c cs ih =>
    have hc : isAsciiBlank c = false := ht c (by simp)
    rw [List.cons_append, wordsFrom, if_neg (by simp [hc]), ih (fun d hd => ht d (by simp [hd]))]
    simp

theorem words_cons_blank {b : Char} (hb : isAsciiBlank b = true) (cs : List Char) :
    words (b :: cs) = words cs := by
  simp [words, wordsFrom, hb]

/-- **Tokens separated by single blanks are split back into the tokens.** -/
theorem words_intercalate {b : Char} (hb : isAsciiBlank b = true) {ts : List (List Char)}
    (hts : ∀ t ∈ ts, t ≠ [] ∧ ∀ c ∈ t, isAsciiBlank c = false) :
    words ([b].intercalate ts) = ts := by
  induction ts with
  | nil => rfl
  | cons t ts ih =>
    obtain ⟨hne, hblank⟩ := hts t (by simp)
    have hrev : t.reverse.isEmpty = false := by simpa using hne
    cases ts with
    | nil =>
      simp only [List.intercalate_singleton, words]
      rw [← List.append_nil t, wordsFrom_append hblank, List.append_nil, wordsFrom, hrev]
      simp
    | cons t' ts' =>
      rw [List.intercalate_cons_cons, words, List.append_assoc, wordsFrom_append hblank,
        List.singleton_append, wordsFrom, if_pos hb, List.append_nil, hrev]
      simp only [Bool.false_eq_true, if_false, List.reverse_reverse, List.cons.injEq, true_and]
      exact ih fun u hu => hts u (List.mem_cons_of_mem _ hu)

/-- The decimal forms of words are tokens: not empty, and without blanks. -/
theorem decimal_tokens (ns : List UInt32) :
    ∀ t ∈ ns.map (fun n => Nat.toDigits 10 n.toNat), t ≠ [] ∧ ∀ c ∈ t, isAsciiBlank c = false := by
  intro t ht
  obtain ⟨n, -, rfl⟩ := List.mem_map.1 ht
  refine ⟨Nat.toDigits_ne_nil, fun c hc => ?_⟩
  have hd : c.isDigit = true := Nat.isDigit_of_mem_toDigits (by decide) (by decide) hc
  simp only [Char.isDigit, Bool.and_eq_true, decide_eq_true_eq] at hd
  simp only [isAsciiBlank, Bool.or_eq_false_iff, beq_eq_false_iff_ne]
  refine ⟨⟨⟨⟨?_, ?_⟩, ?_⟩, ?_⟩, ?_⟩ <;> rintro rfl <;> simp at hd

theorem toList_toString (n : UInt32) : (toString n).toList = Nat.toDigits 10 n.toNat :=
  Nat.toList_repr

/-! ### Keys -/

theorem sameKey_self (k : List Char) : sameKey k k = true := by
  simp [sameKey]

/-- The values of a line under a name, when the line starts with a key. -/
theorem lineValue_keyed {k : List Char} (hk : ∀ c ∈ k, c ≠ ':' ∧ isAsciiBlank c = false)
    (name : String) (v : List Char) :
    lineValue name (k ++ ':' :: v) = if sameKey k name.toList then some v else none := by
  have hsplit : splitKey (k ++ ':' :: v) = some (k, v) :=
    splitKey_eq_some_iff.2 ⟨[], by simp, by simp, hk⟩
  simp only [lineValue, hsplit]

/-- A line without one of the four keys gives no value to any of them. -/
theorem lineValue_of_readsKey_false {line : List Char} (h : readsKey line = false) {name : String}
    (hname : name ∈ ["Uid", "Gid", "Groups", "CapEff"]) : lineValue name line = none := by
  unfold readsKey at h
  unfold lineValue
  split
  · rename_i k v hkv
    rw [hkv] at h
    simp only [List.any_eq_false] at h
    rw [if_neg (by simpa using h name hname)]
  · rfl

/-- Passing over the lines without one of the four keys changes no first line of them. -/
theorem firstValue_filter_readsKey (name : String) (hname : name ∈ ["Uid", "Gid", "Groups", "CapEff"])
    (ls : List (List Char)) : firstValue name (ls.filter readsKey) = firstValue name ls := by
  induction ls with
  | nil => rfl
  | cons l ls ih =>
    by_cases hl : readsKey l = true
    · simp only [List.filter_cons, hl, if_true, firstValue, List.findSome?_cons] at ih ⊢
      rw [ih]
    · simp only [List.filter_cons, hl, Bool.false_eq_true, if_false, firstValue,
        List.findSome?_cons] at ih ⊢
      rw [lineValue_of_readsKey_false (by simpa using hl) hname, ih]

/-! ### The lines of a record -/

/-- The values of an id line: four decimal ids, each after a tab. -/
def idValues (real eff saved fs : UInt32) : List Char :=
  '\t' :: ['\t'].intercalate ([real, eff, saved, fs].map fun n => Nat.toDigits 10 n.toNat)

/-- The values of a `Groups` line: decimal groups separated by single spaces, after a tab. -/
def groupsValues (gs : List UInt32) : List Char :=
  '\t' :: [' '].intercalate (gs.map fun n => Nat.toDigits 10 n.toNat)

theorem idLine_toList (key : String) (real eff saved fs : UInt32) :
    (idLine key real eff saved fs).toList = key.toList ++ ':' :: idValues real eff saved fs := by
  simp [idLine, idValues, toList_toString, List.intercalate_cons_cons]

theorem groupsLine_toList (gs : List UInt32) :
    (groupsLine gs).toList = "Groups".toList ++ ':' :: groupsValues gs := by
  simp [groupsLine, groupsValues, toList_toString, List.map_map, Function.comp_def]

theorem capsLine_toList (w : UInt64) :
    (capsLine w).toList = "CapEff".toList ++ ':' :: '\t' :: Numeral.hexWord w := by
  simp [capsLine]

/-- The effective id of an id line is its second id. -/
theorem effectiveId_idValues (real eff saved fs : UInt32) :
    effectiveId (idValues real eff saved fs) = some eff := by
  have hwords : words (idValues real eff saved fs) =
      [real, eff, saved, fs].map fun n => Nat.toDigits 10 n.toNat := by
    rw [idValues, words_cons_blank (by decide), words_intercalate (by decide) (decimal_tokens _)]
  simp only [effectiveId, hwords, List.map_cons, List.map_nil, Numeral.readId_toDigits]

/-- The groups of a `Groups` line are read back in order, none when there are none. -/
theorem groups_of_groupsValues (gs : List UInt32) :
    (words (groupsValues gs)).filterMap Numeral.readId = gs := by
  rw [groupsValues, words_cons_blank (by decide), words_intercalate (by decide) (decimal_tokens gs),
    List.filterMap_map]
  -- each group's digits read back as the group
  have hread : (Numeral.readId ∘ fun n : UInt32 => Nat.toDigits 10 n.toNat) = some :=
    funext Numeral.readId_toDigits
  rw [hread, List.filterMap_some]

/-- The mask of a `CapEff` line is read back. -/
theorem capsOf_hexWord (w : UInt64) : capsOf ('\t' :: Numeral.hexWord w) = some w := by
  have htoken : ∀ c ∈ Numeral.hexWord w, isAsciiBlank c = false := by
    intro c hc
    obtain ⟨d, hd, rfl⟩ := Numeral.mem_hexWord hc
    interval_cases d <;> decide
  have hwords : words ('\t' :: Numeral.hexWord w) = [Numeral.hexWord w] := by
    have hone : [' '].intercalate [Numeral.hexWord w] = Numeral.hexWord w := by simp
    rw [words_cons_blank (by decide), ← hone, words_intercalate (by decide) ?_, hone]
    intro t ht
    rw [List.mem_singleton] at ht
    subst ht
    exact ⟨by simp [Numeral.hexWord], htoken⟩
  simp only [capsOf, hwords, Numeral.readCaps_hexWord]

/-- The lines of a record: `Uid`, `Gid`, then the `Groups` line if there are groups and the
`CapEff` line if there is a mask. -/
def recordLines (real euid saved fs real' egid saved' fs' : UInt32) (groups : Option (List UInt32))
    (caps : Option UInt64) : List String :=
  [idLine "Uid" real euid saved fs, idLine "Gid" real' egid saved' fs'] ++
    (groups.map groupsLine).toList ++ (caps.map capsLine).toList

/-- In the lines of a record, the first line of each key is the record's line of that key. -/
theorem firstValue_recordLines (real euid saved fs real' egid saved' fs' : UInt32)
    (groups : Option (List UInt32)) (caps : Option UInt64) :
    let lines := (recordLines real euid saved fs real' egid saved' fs' groups caps).map String.toList
    firstValue "Uid" lines = some (idValues real euid saved fs) ∧
      firstValue "Gid" lines = some (idValues real' egid saved' fs') ∧
      firstValue "Groups" lines = groups.map groupsValues ∧
      firstValue "CapEff" lines = caps.map fun w => '\t' :: Numeral.hexWord w := by
  have hU : ∀ c ∈ "Uid".toList, c ≠ ':' ∧ isAsciiBlank c = false := by simp [isAsciiBlank]
  have hG : ∀ c ∈ "Gid".toList, c ≠ ':' ∧ isAsciiBlank c = false := by simp [isAsciiBlank]
  have hGr : ∀ c ∈ "Groups".toList, c ≠ ':' ∧ isAsciiBlank c = false := by simp [isAsciiBlank]
  have hC : ∀ c ∈ "CapEff".toList, c ≠ ':' ∧ isAsciiBlank c = false := by simp [isAsciiBlank]
  -- each key is at most one of the four names; these are the pairs a search passes by
  have hdiff : sameKey "Uid".toList "Gid".toList = false ∧ sameKey "Uid".toList "Groups".toList = false ∧
      sameKey "Uid".toList "CapEff".toList = false ∧ sameKey "Gid".toList "Groups".toList = false ∧
      sameKey "Gid".toList "CapEff".toList = false ∧ sameKey "Groups".toList "CapEff".toList = false ∧
      sameKey "CapEff".toList "Groups".toList = false := by
    decide
  cases groups <;> cases caps <;>
    simp [recordLines, firstValue, idLine_toList, groupsLine_toList, capsLine_toList,
      lineValue_keyed hU, lineValue_keyed hG, lineValue_keyed hGr, lineValue_keyed hC, sameKey_self,
      hdiff, -String.reduceToList]

end Status

open Status in
/-- **A status record as the kernel writes it reads back as its credential.** The record holds
the `Uid` and `Gid` lines, then optionally the `Groups` line and the `CapEff` line, with any
lines inserted around them whose key is none of the four (`readsKey` false: no key, or another
one); each line is ended by a line feed. The reader gives the effective ids, the groups exactly
when the `Groups` line is there (in order, and empty when it lists none), and the mask exactly
when the `CapEff` line is there. -/
theorem Credential.ofStatus_record (real euid saved fs real' egid saved' fs' : UInt32)
    (groups : Option (List UInt32)) (caps : Option UInt64) (lines : List String)
    (hlines : ∀ l ∈ lines, '\n' ∉ l.toList)
    (hrecord : lines.filter (fun l => readsKey l.toList) =
      [idLine "Uid" real euid saved fs, idLine "Gid" real' egid saved' fs'] ++
        (groups.map groupsLine).toList ++ (caps.map capsLine).toList) :
    Credential.ofStatus (String.join (lines.map (· ++ "\n"))) =
      .ok { euid := euid, egid := egid, groups := groups, caps := caps } := by
  -- the lines read are the given ones and an empty last one; the first line of each of the four
  -- keys among them is the record's own
  have hfirst : ∀ name ∈ ["Uid", "Gid", "Groups", "CapEff"],
      firstValue name (lines.map String.toList ++ [[]]) = firstValue name
        ((recordLines real euid saved fs real' egid saved' fs' groups caps).map String.toList) := by
    intro name hname
    have hnone : lineValue name [] = none := rfl
    rw [firstValue_append, firstValue_singleton, hnone, Option.or_none,
      ← firstValue_filter_readsKey name hname, List.filter_map, Function.comp_def, hrecord,
      recordLines]
  have hpass : Scan.lines {} (lines.map String.toList ++ [[]]) =
      Scan.ofLines (lines.map String.toList ++ [[]]) := by
    rw [← Scan.ofLines_nil, Scan.lines_ofLines, List.nil_append]
  obtain ⟨hu, hg, hgr, hc⟩ := firstValue_recordLines real euid saved fs real' egid saved' fs' groups caps
  unfold Credential.ofStatus
  rw [splitOn_lines lines hlines, hpass]
  simp only [Scan.ofLines, Scan.ofFirst, hfirst _ (by simp : "Uid" ∈ _),
    hfirst _ (by simp : "Gid" ∈ _), hfirst _ (by simp : "Groups" ∈ _),
    hfirst _ (by simp : "CapEff" ∈ _), hu, hg, hgr, hc, Option.bind_some, effectiveId_idValues,
    Option.map_map]
  cases groups <;> cases caps <;> simp [groups_of_groupsValues, capsOf_hexWord]

open Status in
/-- A record with other lines around the four, a line with a blank before its colon among them,
and an empty group list. -/
theorem Credential.ofStatus_record_daemon :
    let lines := ["Name:\tdaemon", "State:\tS (sleeping)", idLine "Uid" 0 1000 0 1000,
      "Uid :\t5\t5\t5\t5", idLine "Gid" 0 100 0 100, "", groupsLine [], "CapPrm:\t0",
      capsLine 0x3fffffffff, "GroupsX:\t7"]
    ((∀ l ∈ lines, '\n' ∉ l.toList) ∧
      lines.filter (fun l => readsKey l.toList) =
        [idLine "Uid" 0 1000 0 1000, idLine "Gid" 0 100 0 100] ++
          ((some []).map groupsLine).toList ++ ((some 0x3fffffffff).map capsLine).toList) ∧
    Credential.ofStatus (String.join (lines.map (· ++ "\n"))) =
      .ok { euid := 1000, egid := 100, groups := some [], caps := some 0x3fffffffff } := by
  intro lines
  have hlines : ∀ l ∈ lines, '\n' ∉ l.toList := by decide
  have hrecord : lines.filter (fun l => readsKey l.toList) =
      [idLine "Uid" 0 1000 0 1000, idLine "Gid" 0 100 0 100] ++
        ((some []).map groupsLine).toList ++ ((some 0x3fffffffff).map capsLine).toList := by
    decide
  exact ⟨⟨hlines, hrecord⟩, Credential.ofStatus_record 0 1000 0 1000 0 100 0 100 (some []) (some 0x3fffffffff)
    lines hlines hrecord⟩

end PeerGate
