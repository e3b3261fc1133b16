import PeerGate.Proofs.Locality
import PeerGate.Proofs.Compiling
import PeerGate.Policy.Glob

/-!
Appending rules to a policy.

A policy text of version `1` is its rules, each after a `;`. Joining two such texts with a `;`
appends the rules of the second to those of the first: the reader never looks past a rule's end
in a way that tells the end of the text from a `;` (`rules_append`), and every rule opens its own
levels of nesting. The last rule that applies decides, so the appended rules decide first, and
the first text's rules decide only what the appended ones leave to the default.

* `parse_versionOne`: a text of version `1` is its action table, then its rule loop.
* `parse_append`: the rules of the joined text are the rules of the first, then of the second.
* `Policy.ofRules_append`, `verdict_append`: compiling and deciding, rule list by rule list.
* `Policy.appended_rules_override`: **appending rules lets the later rules override the earlier
  ones, and does nothing else.**
-/

namespace PeerGate

variable {G : Globs}

namespace Grammar

open Text

/-- A text of version `1`: the action table is checked, then the rules after the first `;` are
read. -/
lemma parse_versionOne (A : String) (actions : List ActionSpec) (accounts : Accounts) :
    parse G ("1;" ++ A) actions accounts = (checkActions actions).bind fun _ =>
      rules ⟨byteLength ("1;" ++ A).toList, actions, accounts, G⟩ A.toList #[] := by
  have hcs : ("1;" ++ A).toList = '1' :: ';' :: A.toList := by simp
  have hspan : ('1' :: ';' :: A.toList).span (· != ';') = (['1'], ';' :: A.toList) := rfl
  have htrim : trimList ['1'] = ['1'] := rfl
  simp only [parse, hcs, hspan, htrim]
  rfl

/-- **Joined texts read as their rules, one list after the other.** Two texts of version `1`
whose rules are read with one action table and accounts, joined by a `;`, read as the rules of
the first followed by those of the second. -/
theorem parse_append {A B : String} {actions : List ActionSpec} {accounts : Accounts}
    {L M : List (Rule String)} (hA : parse G ("1;" ++ A) actions accounts = .ok L)
    (hB : parse G ("1;" ++ B) actions accounts = .ok M) :
    parse G ("1;" ++ A ++ ";" ++ B) actions accounts = .ok (L ++ M) := by
  rw [parse_versionOne] at hA hB
  cases hT : checkActions actions with
  | error e =>
    rw [hT] at hA
    cases hA
  | ok u =>
    rw [hT] at hA hB
    simp only [Except.bind] at hA hB
    have hjoin : ("1;" ++ A ++ ";" ++ B) = "1;" ++ (A ++ ";" ++ B) := by
      simp only [String.append_assoc]
    have hbody : (A ++ ";" ++ B).toList = A.toList ++ ';' :: B.toList := by simp
    rw [hjoin, parse_versionOne, hT]
    simp only [Except.bind]
    rw [hbody]
    -- the first text's rules with the `;` and the second text after them, then the second
    -- text's rules after the first's, both at the joined text's length
    have h1 := rules_append _ (stops_semi B.toList) (byteLength ("1;" ++ (A ++ ";" ++ B)).toList)
      A.toList #[] hA #[]
    have h2 := rules_append _ stops_nil (byteLength ("1;" ++ (A ++ ";" ++ B)).toList)
      B.toList #[] hB L.toArray
    rw [Array.empty_append, Array.empty_append] at h1
    rw [List.append_nil, Array.append_empty] at h2
    rw [Env.withSize] at h1 h2
    rw [h1, rules_of_semi _ (dropBlanks_cons (by decide) B.toList), h2, rules_of_nil _ rfl]
    simp

end Grammar

namespace Policy

lemma ofRules_append {L M : List (Rule String)} {P Q : Policy G} (hL : ofRules G L = .ok P)
    (hM : ofRules G M = .ok Q) : ofRules G (L ++ M) = .ok ⟨P.rules ++ Q.rules⟩ := by
  simp only [ofRules, bind, Except.bind, pure, Except.pure] at hL hM ⊢
  split at hL
  · cases hL
  · rename_i ps hps
    split at hM
    · cases hM
    · rename_i qs hqs
      cases hL
      cases hM
      rw [List.mapM_append, hps, hqs]
      rfl

end Policy

/-- Rules appended to a policy decide after its own: the joined policy decides as the appended
rules do with the policy's decision as default. -/
theorem verdict_append (P Q : Policy G) (cred : Option Credential) (action : UInt32)
    (arg : Option String) (default : Access) :
    verdict (some ⟨P.rules ++ Q.rules⟩) cred action arg default =
      verdict (some Q) cred action arg (verdict (some P) cred action arg default) := by
  cases hroot : cred.any Credential.isRoot with
  | true => simp [verdict, hroot]
  | false =>
    rw [verdict_some _ _ _ _ _ hroot, verdict_some _ _ _ _ _ hroot, verdict_some _ _ _ _ _ hroot,
      List.foldl_append]

/-- **Appending rules lets the later rules override the earlier ones, and does nothing else.**
Two texts of version `1` whose rules are read with one action table and accounts, joined by a
`;`: the joined text reads as the rules of the first followed by those of the second, the three
texts compile, the joined policy being the first's rules followed by the second's, and it decides
every request as the second decides it with the first's decision as default. -/
theorem Policy.appended_rules_override {A B : String} {actions : List ActionSpec}
    {accounts : Accounts} {L M : List (Rule String)}
    (hA : Grammar.parse G ("1;" ++ A) actions accounts = .ok L)
    (hB : Grammar.parse G ("1;" ++ B) actions accounts = .ok M) :
    Grammar.parse G ("1;" ++ A ++ ";" ++ B) actions accounts = .ok (L ++ M) ∧
      ∃ P Q, Policy.compile G ("1;" ++ A) actions accounts = .ok P ∧
        Policy.compile G ("1;" ++ B) actions accounts = .ok Q ∧
        Policy.compile G ("1;" ++ A ++ ";" ++ B) actions accounts = .ok ⟨P.rules ++ Q.rules⟩ ∧
        ∀ cred action arg default,
          verdict (some ⟨P.rules ++ Q.rules⟩) cred action arg default =
            verdict (some Q) cred action arg (verdict (some P) cred action arg default) := by
  have hAB := Grammar.parse_append hA hB
  obtain ⟨P, hP, hcP⟩ := Grammar.parse_compiles hA
  obtain ⟨Q, hQ, hcQ⟩ := Grammar.parse_compiles hB
  refine ⟨hAB, P, Q, hcP, hcQ, ?_, verdict_append P Q⟩
  simp only [Policy.compile, bind, Except.bind, hAB, Policy.ofRules_append hP hQ]

/-- A rule that denies everyone, then one that allows everyone. -/
theorem Policy.appended_rules_override_stars :
    Grammar.parse Glob.library ("1;" ++ "*=deny") [] .baseSystem = .ok [⟨none, .deny⟩] ∧
    Grammar.parse Glob.library ("1;" ++ "*") [] .baseSystem = .ok [⟨none, .allow⟩] ∧
    (Grammar.parse Glob.library ("1;" ++ "*=deny" ++ ";" ++ "*") [] .baseSystem =
        .ok ([⟨none, .deny⟩] ++ [⟨none, .allow⟩]) ∧
      ∃ P Q, Policy.compile Glob.library ("1;" ++ "*=deny") [] .baseSystem = .ok P ∧
        Policy.compile Glob.library ("1;" ++ "*") [] .baseSystem = .ok Q ∧
        Policy.compile Glob.library ("1;" ++ "*=deny" ++ ";" ++ "*") [] .baseSystem =
          .ok ⟨P.rules ++ Q.rules⟩ ∧
        ∀ cred action arg default,
          verdict (some ⟨P.rules ++ Q.rules⟩) cred action arg default =
            verdict (some Q) cred action arg (verdict (some P) cred action arg default)) := by
  have hA :
      Grammar.parse Glob.library ("1;" ++ "*=deny") [] .baseSystem = .ok [⟨none, .deny⟩] := by
    rw [Grammar.parse_versionOne]
    exact Grammar.rules_of_rule_end _ (by decide) rfl rfl rfl
  have hB : Grammar.parse Glob.library ("1;" ++ "*") [] .baseSystem = .ok [⟨none, .allow⟩] := by
    rw [Grammar.parse_versionOne]
    exact Grammar.rules_of_rule_end _ (by decide) rfl rfl rfl
  exact ⟨hA, hB, Policy.appended_rules_override hA hB⟩

end PeerGate
