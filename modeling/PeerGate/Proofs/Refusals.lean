import PeerGate.Proofs.Compiling
import PeerGate.Proofs.Boundaries

/-!
A policy text is refused by its reader or not at all.

Compiling a policy text reads it, then compiles the conditions of its rules, where an argument
that is no glob pattern is refused at offset 0. The reader already refuses every such argument,
at the offset where it stands, so the second stage never refuses what the first accepted.

* `Policy.compile_of_parse_error`: a refusal of the reader is the refusal of compiling;
  `Grammar.parse_compiles` gives the other half, that an accepted text compiles.
* `checkActions_ne_badPattern`: the faults of an action table are of the table, never of a
  pattern.
* `byteLength_pos`: a non-empty prefix takes at least one byte, so a fault in the body of a text
  is never at offset 0.
* `compile_refuses_as_parse`: **the rules of an accepted text always compile; compiling fails
  exactly when reading does, with the reader's refusal; and the offset-0 refusal of a pattern is
  never what compiling gives.**
-/

namespace PeerGate

open Text

namespace Policy

variable {G : Globs} {spec : String} {actions : List ActionSpec} {accounts : Accounts}

theorem compile_of_parse_error {e : SpecError}
    (h : Grammar.parse G spec actions accounts = .error e) :
    compile G spec actions accounts = .error e := by
  simp [compile, h, bind, Except.bind]

end Policy

namespace Grammar

/-- No fault of an action table is the refusal of a pattern. -/
lemma checkActions_ne_badPattern (earlier actions : List ActionSpec) (p msg : String) :
    checkActions.go earlier actions ≠ .error (.compile 0 (.badPattern p msg)) := by
  fun_induction checkActions.go earlier actions with
  | case1 =>
    intro h
    cases h
  | case2 | case3 | case4 | case5 =>
    -- an id 0, an arity above 1, a bad name, a clash: each a fault of its own kind
    intro h
    cases h
  | case6 _ _ _ _ _ _ _ ih => exact ih

end Grammar

/-- A non-empty list of characters takes at least one byte. -/
lemma byteLength_pos {cs : List Char} (h : cs ≠ []) : 0 < byteLength cs := by
  obtain ⟨c, rest, rfl⟩ := List.exists_cons_of_ne_nil h
  rw [byteLength_cons]
  have := c.utf8Size_pos
  omega

/-- **A policy text is refused by its reader or not at all.** The rules of every text the reader
accepts compile, so compiling a text fails exactly when reading it does, with the reader's own
refusal; in particular compiling never gives the refusal of a pattern at offset 0 that compiling
a rule can raise. -/
theorem compile_refuses_as_parse (G : Globs) (spec : String) (actions : List ActionSpec)
    (accounts : Accounts) :
    (∀ rs, Grammar.parse G spec actions accounts = .ok rs →
      ∃ p, Policy.ofRules G rs = .ok p) ∧
    (∀ e, Policy.compile G spec actions accounts = .error e ↔
      Grammar.parse G spec actions accounts = .error e) ∧
    (∀ p f, Policy.compile G spec actions accounts ≠
      .error (.compile 0 (.badPattern p f))) := by
  have hok : ∀ rs, Grammar.parse G spec actions accounts = .ok rs →
      ∃ p, Policy.ofRules G rs = .ok p :=
    fun _ h => (Grammar.parse_compiles h).imp fun _ hp => hp.1
  have herr : ∀ e, Policy.compile G spec actions accounts = .error e ↔
      Grammar.parse G spec actions accounts = .error e := by
    intro e
    refine ⟨fun h => ?_, Policy.compile_of_parse_error⟩
    cases hp : Grammar.parse G spec actions accounts with
    | error e' =>
      rw [Policy.compile_of_parse_error hp] at h
      cases h
      rfl
    | ok rs =>
      -- an accepted text compiles, so compiling it cannot have failed
      obtain ⟨q, -, hq⟩ := Grammar.parse_compiles hp
      rw [hq] at h
      cases h
  refine ⟨hok, herr, fun p f h => ?_⟩
  rcases Grammar.parse_error_cases ((herr _).1 h)
    with hc | ⟨v, hv⟩ | ⟨pre, r, g, -, hpre, he⟩
  · exact Grammar.checkActions_ne_badPattern [] actions p f hc
  · cases hv
  · -- a fault in the body stands after at least the version's `;`
    have hpos := byteLength_pos hpre
    simp only [SpecError.compile.injEq] at he
    omega

end PeerGate
