import PeerGate.Policy.Decision
import PeerGate.Policy.Glob

/-!
What a decision sees of a credential.

A policy looks at a requester's effective user id and at the groups it belongs to, its effective
group together with its supplementary groups, and at nothing else: not at the capability mask,
and not at the order in which the groups are listed or how often each appears.

* `hasGroup_congr`, `admitsUser_congr`, `admitsGroup_congr`, `holds_congr`, `applies_congr`: each
  test gives the same answer for two credentials with the same effective user and the same
  groups.
* `verdict_eq_of_same_standing`: so does the decision, under any policy, for any request and
  default.
-/

namespace PeerGate

variable {G : Globs}

/-- Two credentials with the same groups are in the same groups. -/
theorem hasGroup_congr {c₁ c₂ : Credential}
    (hg : ∀ g, g ∈ c₁.egid :: c₁.groupList ↔ g ∈ c₂.egid :: c₂.groupList)
    (g : UInt32) :
    c₁.hasGroup g = c₂.hasGroup g := by
  apply Bool.eq_iff_iff.mpr
  rw [Credential.hasGroup_iff, Credential.hasGroup_iff]
  exact hg g

theorem admitsUser_congr {c₁ c₂ : Credential} (hu : c₁.euid = c₂.euid) (s : IdSpec) :
    s.admitsUser (some c₁) = s.admitsUser (some c₂) := by
  cases s with
  | any => rfl
  | exact u => simp only [IdSpec.admitsUser, hu]

theorem admitsGroup_congr {c₁ c₂ : Credential}
    (hg : ∀ g, g ∈ c₁.egid :: c₁.groupList ↔ g ∈ c₂.egid :: c₂.groupList)
    (s : IdSpec) :
    s.admitsGroup (some c₁) = s.admitsGroup (some c₂) := by
  cases s with
  | any => rfl
  | exact g => simp only [IdSpec.admitsGroup, hasGroup_congr hg g]

/-- A condition holds for one credential exactly when it holds for another with the same
effective user and the same groups. -/
theorem holds_congr {c₁ c₂ : Credential} (hu : c₁.euid = c₂.euid)
    (hg : ∀ g, g ∈ c₁.egid :: c₁.groupList ↔ g ∈ c₂.egid :: c₂.groupList)
    (action : UInt32) (arg : Option String) (e : Expr (Pattern G)) :
    e.holds (some c₁) action arg = e.holds (some c₂) action arg := by
  induction e with
  | identity u g =>
    simp only [Expr.holds, admitsUser_congr hu u, admitsGroup_congr hg g]
  | custom want pat => rfl
  | not e ih => simp only [Expr.holds, ih]
  | and l r il ir => simp only [Expr.holds, il, ir]
  | or l r il ir => simp only [Expr.holds, il, ir]

theorem applies_congr {c₁ c₂ : Credential} (hu : c₁.euid = c₂.euid)
    (hg : ∀ g, g ∈ c₁.egid :: c₁.groupList ↔ g ∈ c₂.egid :: c₂.groupList)
    (action : UInt32) (arg : Option String) (r : Rule (Pattern G)) :
    r.applies (some c₁) action arg = r.applies (some c₂) action arg := by
  unfold Rule.applies
  cases r.cond with
  | none => rfl
  | some e => exact holds_congr hu hg action arg e

/-- **Decisions see only the user and the groups.** Two credentials with the same effective user
id and the same set of groups, the effective group counted in, get the same decision from any
policy, for any action, argument and default. -/
theorem verdict_eq_of_same_standing (policy : Option (Policy G)) {c₁ c₂ : Credential}
    (hu : c₁.euid = c₂.euid)
    (hg : ∀ g, g ∈ c₁.egid :: c₁.groupList ↔ g ∈ c₂.egid :: c₂.groupList)
    (action : UInt32) (arg : Option String) (default : Access) :
    verdict policy (some c₁) action arg default =
      verdict policy (some c₂) action arg default := by
  have hroot : c₁.isRoot = c₂.isRoot := by simp only [Credential.isRoot, hu]
  have hstep : (fun acc (r : Rule (Pattern G)) => if r.applies (some c₁) action arg then r.access
      else acc) = (fun acc r => if r.applies (some c₂) action arg then r.access else acc) := by
    funext acc r
    rw [applies_congr hu hg action arg r]
  simp only [verdict, Option.any_some, hroot, hstep]

/-- Two credentials that list their groups differently, with capability masks that differ, under
a policy whose rule asks for group 9. -/
theorem verdict_same_standing_listing :
    ((⟨5, 7, some [7, 9, 9], some 1⟩ : Credential).euid =
      (⟨5, 9, some [7], none⟩ : Credential).euid) ∧
    (∀ g, g ∈ (⟨5, 7, some [7, 9, 9], some 1⟩ : Credential).egid ::
        (⟨5, 7, some [7, 9, 9], some 1⟩ : Credential).groupList ↔
      g ∈ (⟨5, 9, some [7], none⟩ : Credential).egid ::
        (⟨5, 9, some [7], none⟩ : Credential).groupList) ∧
    verdict (G := Glob.library) (some ⟨[⟨some (.identity .any (.exact 9)), .allow⟩]⟩)
        (some ⟨5, 7, some [7, 9, 9], some 1⟩) 3 none .deny =
      verdict (G := Glob.library) (some ⟨[⟨some (.identity .any (.exact 9)), .allow⟩]⟩)
        (some ⟨5, 9, some [7], none⟩) 3 none .deny := by
  have hg : ∀ g, g ∈ (⟨5, 7, some [7, 9, 9], some 1⟩ : Credential).egid ::
        (⟨5, 7, some [7, 9, 9], some 1⟩ : Credential).groupList ↔
      g ∈ (⟨5, 9, some [7], none⟩ : Credential).egid ::
        (⟨5, 9, some [7], none⟩ : Credential).groupList := by
    intro g
    simp only [Credential.groupList, Option.getD_some, List.mem_cons, List.not_mem_nil,
      or_false]
    constructor
    · rintro (h | h | h | h) <;> simp [h]
    · rintro (h | h) <;> simp [h]
  have hu : (⟨5, 7, some [7, 9, 9], some 1⟩ : Credential).euid =
      (⟨5, 9, some [7], none⟩ : Credential).euid := rfl
  exact ⟨hu, hg, verdict_eq_of_same_standing _ hu hg 3 none .deny⟩

end PeerGate
