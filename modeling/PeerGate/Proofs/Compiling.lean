import PeerGate.Proofs.Reading
import PeerGate.Policy.Decision

/-!
Every policy text the reader accepts compiles.

The reader checks each custom argument with the glob compiler as it reads it, and refuses the text
when the argument is no pattern; the conditions it builds from the tests it reads are made of
`not`, `and` and `or` alone. So compiling the rules of an accepted text cannot fail.

* `Expr.Compiles`: a condition whose arguments all compile; it is kept by `not`, `and` and `or`
  and holds of every test `callExpr` gives (`callExpr_compiles`). `Rule.Compiles`: a rule whose
  condition, if any, compiles.
* `Reading.Gives`: every value a reading gives has a property; `Giving` bundles it for the six
  reading functions, by induction on the levels left (`giving`).
* `parse_compiles`: **an accepted text compiles**.
-/

namespace PeerGate

variable {G : Globs}

namespace Expr

/-- A condition whose custom arguments are all patterns: compiling it succeeds. -/
def Compiles (G : Globs) (e : Expr String) : Prop := ∃ p, e.compile G = .ok p

lemma compiles_identity (u g : IdSpec) : (identity u g : Expr String).Compiles G :=
  ⟨identity u g, rfl⟩

lemma Compiles.not {e : Expr String} (h : e.Compiles G) : (not e).Compiles G := by
  obtain ⟨p, hp⟩ := h
  exact ⟨.not p, by simp [compile, hp, bind, Except.bind, pure, Except.pure]⟩

lemma Compiles.and {l r : Expr String} (hl : l.Compiles G) (hr : r.Compiles G) :
    (and l r).Compiles G := by
  obtain ⟨p, hp⟩ := hl
  obtain ⟨q, hq⟩ := hr
  exact ⟨.and p q, by simp [compile, hp, hq, bind, Except.bind, pure, Except.pure]⟩

lemma Compiles.or {l r : Expr String} (hl : l.Compiles G) (hr : r.Compiles G) :
    (or l r).Compiles G := by
  obtain ⟨p, hp⟩ := hl
  obtain ⟨q, hq⟩ := hr
  exact ⟨.or p q, by simp [compile, hp, hq, bind, Except.bind, pure, Except.pure]⟩

end Expr

/-- A rule whose condition, if any, compiles. -/
def Rule.Compiles (G : Globs) (r : Rule String) : Prop := ∃ q, r.compile G = .ok q

namespace Grammar

open Text

/-! ### What a reading gives -/

section Gives

variable {s : List Char} {β γ : Type} {P : β → Prop}

/-- Every value the reading gives has the property `P`. -/
def Reading.Gives (x : Reading s β) (P : β → Prop) : Prop :=
  ∀ b t, x.out = .ok (b, t) → P b

lemma Reading.gives_error (err : SpecError) : Reading.Gives (.error err : Reading s β) P := by
  intro b t h
  cases h

lemma Reading.gives_ok {b : β} (t : Tail s) (h : P b) : Reading.Gives (.ok (b, t)) P := by
  intro b' t' hb
  simp only [Reading.out, Except.ok.injEq, Prod.mk.injEq] at hb
  rw [← hb.1]
  exact h

@[simp] lemma Reading.gives_widen {t : List Char} (x : Reading t β) (h : t.length ≤ s.length) :
    (x.widen h).Gives P ↔ x.Gives P := by
  simp only [Reading.Gives, Reading.out_widen]

lemma Reading.gives_next {x : Reading s γ} {k : γ → (t : List Char) → Reading t β}
    (h : ∀ c t, x.out = .ok (c, t) → (k c t).Gives P) : (x.next k).Gives P := by
  intro b t hb
  obtain ⟨c, u, hx, hk⟩ := Reading.out_next_eq_ok hb
  exact h c u hx b t hk

lemma Reading.gives_map {x : Reading s γ} {f : γ → β}
    (h : ∀ c t, x.out = .ok (c, t) → P (f c)) : (x.map f).Gives P := by
  intro b t hb
  obtain ⟨c, hx, rfl⟩ := Reading.out_map_eq_ok hb
  exact h c t hx

end Gives

/-! ### Each reading function, from those it calls -/

section Steps

variable (env : Env)

/-- A call reads an identity test, or a custom test whose argument the glob compiler took. -/
lemma callExpr_compiles {nameAt argAt : List Char} {name : String} {a : Option String}
    {x : Expr String} (h : callExpr env nameAt argAt name a = .ok x) : x.Compiles env.glob := by
  unfold callExpr at h
  split at h
  · -- `user(u)` and `user(u:g)`
    split at h
    · cases h
    · simp only [bind, Except.bind, pure, Except.pure] at h
      split at h
      · cases h
      · split at h
        · split at h
          · cases h
          · cases h
            exact Expr.compiles_identity _ _
        · cases h
          exact Expr.compiles_identity _ _
  · -- `group(g)`
    split at h
    · cases h
    · simp only [bind, Except.bind, pure, Except.pure] at h
      split at h
      · cases h
      · cases h
        exact Expr.compiles_identity _ _
  · -- an action of the table
    split at h
    · cases h
    · split at h
      · cases h
      · cases h
      · cases h
        exact ⟨.custom _ none, rfl⟩
      · split at h
        · rename_i pat hpat
          cases h
          simp only [Expr.Compiles, Expr.compile, hpat]
          exact ⟨_, rfl⟩
        · cases h

lemma call_compiles (s : List Char) : (call env s).Gives (Expr.Compiles env.glob) := by
  unfold call
  refine Reading.gives_next fun name t₁ _ => Reading.gives_next fun _ t₂ _ => ?_
  rw [Reading.gives_widen]
  refine Reading.gives_next fun a t₄ _ => Reading.gives_next fun _ t₅ _ => ?_
  split
  · exact Reading.gives_error _
  · rename_i x hx
    exact Reading.gives_ok _ (callExpr_compiles env hx)

lemma expr_compiles_zero (s : List Char) : (expr env 0 s).Gives (Expr.Compiles env.glob) := by
  rw [expr]
  exact Reading.gives_error _

lemma expr_compiles_succ {r : Nat} (ha : ∀ s, (andExpr env r s).Gives (Expr.Compiles env.glob))
    (ho : ∀ left s, left.Compiles env.glob → (orTail env r left s).Gives (Expr.Compiles env.glob)) (s : List Char) :
    (expr env (r + 1) s).Gives (Expr.Compiles env.glob) := by
  rw [expr]
  exact Reading.gives_next fun left t hl => ho left t (ha s left t hl)

lemma orTail_compiles_zero {left : Expr String} (hl : left.Compiles env.glob) (s : List Char) :
    (orTail env 0 left s).Gives (Expr.Compiles env.glob) := by
  rw [orTail]
  split
  · exact Reading.gives_ok _ hl
  · exact Reading.gives_error _

lemma orTail_compiles_succ {r : Nat} (ha : ∀ s, (andExpr env r s).Gives (Expr.Compiles env.glob))
    (ho : ∀ left s, left.Compiles env.glob → (orTail env r left s).Gives (Expr.Compiles env.glob))
    {left : Expr String} (hl : left.Compiles env.glob) (s : List Char) :
    (orTail env (r + 1) left s).Gives (Expr.Compiles env.glob) := by
  rw [orTail]
  split
  · exact Reading.gives_ok _ hl
  · rw [Reading.gives_widen]
    exact Reading.gives_next fun right u hr => ho _ u (hl.or (ha _ right u hr))

lemma andExpr_compiles {room : Nat} (hu : ∀ s, (unary env room s).Gives (Expr.Compiles env.glob))
    (ht : ∀ left s, left.Compiles env.glob → (andTail env room left s).Gives (Expr.Compiles env.glob))
    (s : List Char) : (andExpr env room s).Gives (Expr.Compiles env.glob) := by
  rw [andExpr]
  exact Reading.gives_next fun left t hl => ht left t (hu s left t hl)

lemma andTail_compiles_zero {left : Expr String} (hl : left.Compiles env.glob) (s : List Char) :
    (andTail env 0 left s).Gives (Expr.Compiles env.glob) := by
  rw [andTail]
  split
  · exact Reading.gives_ok _ hl
  · exact Reading.gives_error _

lemma andTail_compiles_succ {r : Nat} (hu : ∀ s, (unary env r s).Gives (Expr.Compiles env.glob))
    (ht : ∀ left s, left.Compiles env.glob → (andTail env r left s).Gives (Expr.Compiles env.glob))
    {left : Expr String} (hl : left.Compiles env.glob) (s : List Char) :
    (andTail env (r + 1) left s).Gives (Expr.Compiles env.glob) := by
  rw [andTail]
  split
  · exact Reading.gives_ok _ hl
  · rw [Reading.gives_widen]
    exact Reading.gives_next fun right u hr => ht _ u (hl.and (hu _ right u hr))

lemma unary_compiles_zero {s : List Char} (hp : (primary env 0 s).Gives (Expr.Compiles env.glob)) :
    (unary env 0 s).Gives (Expr.Compiles env.glob) := by
  rw [unary]
  split
  · exact Reading.gives_error _
  · exact hp

lemma unary_compiles_succ {r : Nat} (hu : ∀ s, (unary env r s).Gives (Expr.Compiles env.glob))
    {s : List Char} (hp : (primary env (r + 1) s).Gives (Expr.Compiles env.glob)) :
    (unary env (r + 1) s).Gives (Expr.Compiles env.glob) := by
  rw [unary]
  split
  · rw [Reading.gives_widen]
    exact Reading.gives_map fun e t he => (hu _ e t he).not
  · exact hp

lemma primary_compiles {room : Nat} (he : ∀ s, (expr env room s).Gives (Expr.Compiles env.glob))
    (s : List Char) : (primary env room s).Gives (Expr.Compiles env.glob) := by
  rw [primary]
  split
  · rw [Reading.gives_widen]
    exact Reading.gives_next fun inner u hi => Reading.gives_map fun _ _ _ => he _ inner u hi
  · exact Reading.gives_ok _ (Expr.compiles_identity _ _)
  · split
    · rw [Reading.gives_widen]
      exact call_compiles env _
    · exact Reading.gives_error _
  · exact Reading.gives_error _

end Steps

/-! ### All reading functions at once -/

/-- Each reading function with `room` levels left gives only conditions that compile, a chain
when its left part does. -/
structure Giving (env : Env) (room : Nat) : Prop where
  expr_c : ∀ s, (expr env room s).Gives (Expr.Compiles env.glob)
  orTail_c : ∀ left s, left.Compiles env.glob → (orTail env room left s).Gives (Expr.Compiles env.glob)
  andExpr_c : ∀ s, (andExpr env room s).Gives (Expr.Compiles env.glob)
  andTail_c : ∀ left s, left.Compiles env.glob → (andTail env room left s).Gives (Expr.Compiles env.glob)
  unary_c : ∀ s, (unary env room s).Gives (Expr.Compiles env.glob)
  primary_c : ∀ s, (primary env room s).Gives (Expr.Compiles env.glob)

variable (env : Env)

lemma giving_zero : Giving env 0 := by
  have hprimary := primary_compiles env (expr_compiles_zero env)
  have hunary : ∀ s, (unary env 0 s).Gives (Expr.Compiles env.glob) :=
    fun s => unary_compiles_zero env (hprimary s)
  have handTail : ∀ left s, left.Compiles env.glob → (andTail env 0 left s).Gives (Expr.Compiles env.glob) :=
    fun _ s hl => andTail_compiles_zero env hl s
  exact ⟨expr_compiles_zero env, fun _ s hl => orTail_compiles_zero env hl s,
    andExpr_compiles env hunary handTail, handTail, hunary, hprimary⟩

/-- From `r` levels left to one more: the functions in the order in which they call one another
at the same number of levels. -/
lemma Giving.succ {r : Nat} (h : Giving env r) : Giving env (r + 1) := by
  have hexpr := expr_compiles_succ env h.andExpr_c h.orTail_c
  have hprimary := primary_compiles env hexpr
  have hunary : ∀ s, (unary env (r + 1) s).Gives (Expr.Compiles env.glob) :=
    fun s => unary_compiles_succ env h.unary_c (hprimary s)
  have handTail : ∀ left s, left.Compiles env.glob → (andTail env (r + 1) left s).Gives (Expr.Compiles env.glob) :=
    fun _ s hl => andTail_compiles_succ env h.unary_c h.andTail_c hl s
  exact ⟨hexpr, fun _ s hl => orTail_compiles_succ env h.andExpr_c h.orTail_c hl s,
    andExpr_compiles env hunary handTail, handTail, hunary, hprimary⟩

theorem giving (room : Nat) : Giving env room := by
  induction room with
  | zero => exact giving_zero env
  | succ r ih => exact ih.succ env

/-! ### Rules and policies -/

section Rules

lemma rule_compiles {s : List Char} {r : Rule String} {t : List Char}
    (h : (rule env s).out = .ok (r, t)) : r.Compiles env.glob := by
  unfold rule at h
  split at h
  · -- a lone `*` has no condition
    rw [Reading.out_widen] at h
    obtain ⟨a, -, rfl⟩ := Reading.out_map_eq_ok h
    exact ⟨⟨none, a⟩, rfl⟩
  · obtain ⟨e, u, hexpr, hacc⟩ := Reading.out_next_eq_ok h
    obtain ⟨a, -, rfl⟩ := Reading.out_map_eq_ok hacc
    obtain ⟨p, hp⟩ := (giving env maxDepth).expr_c s e u hexpr
    exact ⟨⟨some p, a⟩, by simp [Rule.compile, hp, bind, Except.bind, pure, Except.pure]⟩

/-- A rule the loop has read joins rules that compile. -/
lemma push_compiles {acc : Array (Rule String)} {s : List Char} {r : Rule String}
    {t : Tail s} (hr : rule env s = .ok (r, t)) (hacc : ∀ r ∈ acc.toList, r.Compiles env.glob) :
    ∀ r' ∈ (acc.push r).toList, r'.Compiles env.glob := by
  have hnew := rule_compiles env (show (rule env s).out = .ok (r, t.1) by rw [hr]; rfl)
  intro r' hr'
  rw [Array.toList_push, List.mem_append, List.mem_singleton] at hr'
  rcases hr' with hr' | rfl
  · exact hacc r' hr'
  · exact hnew

/-- The rule loop adds only rules it has read. -/
lemma rules_compile (s : List Char) (acc : Array (Rule String)) :
    ∀ {rs : List (Rule String)}, rules env s acc = .ok rs →
      (∀ r ∈ acc.toList, r.Compiles env.glob) → ∀ r ∈ rs, r.Compiles env.glob := by
  fun_induction rules env s acc with
  | case1 s acc hs =>
    intro rs h hacc
    cases h
    exact hacc
  | case2 s acc more hs ih => exact ih
  | case3 s acc d more hd hs err hr =>
    intro rs h
    cases h
  | case4 s acc d more hd hs r t hr ht =>
    intro rs h hacc
    cases h
    exact push_compiles env hr hacc
  | case5 s acc d more hd hs r t hr more' ht ih =>
    intro rs h hacc
    exact ih h (push_compiles env hr hacc)
  | case6 s acc d more hd hs r t hr d' more' hd' ht =>
    intro rs h
    cases h

end Rules

end Grammar

namespace Policy

lemma ofRules_ok {rs : List (Rule String)} (h : ∀ r ∈ rs, r.Compiles G) :
    ∃ p, ofRules G rs = .ok p := by
  -- the rules compile one by one
  have hmap : ∃ qs, rs.mapM (Rule.compile G) = .ok qs := by
    induction rs with
    | nil => exact ⟨[], rfl⟩
    | cons r rs ih =>
      obtain ⟨q, hq⟩ := h r (List.mem_cons_self ..)
      obtain ⟨qs, hqs⟩ := ih fun r' hr' => h r' (List.mem_cons_of_mem r hr')
      exact ⟨q :: qs, by simp [List.mapM_cons, hq, hqs, bind, Except.bind, pure, Except.pure]⟩
  obtain ⟨qs, hqs⟩ := hmap
  exact ⟨⟨qs⟩, by simp [ofRules, hqs, bind, Except.bind, pure, Except.pure]⟩

end Policy

/-- **An accepted text compiles.** The rules the reader gives have only patterns for arguments,
so the policy of a text the reader accepts is always built. -/
theorem Grammar.parse_compiles {spec : String} {actions : List ActionSpec} {accounts : Accounts}
    {rs : List (Rule String)} (h : Grammar.parse G spec actions accounts = .ok rs) :
    ∃ p, Policy.ofRules G rs = .ok p ∧ Policy.compile G spec actions accounts = .ok p := by
  have hrules : ∀ r ∈ rs, r.Compiles G := by
    unfold Grammar.parse at h
    cases hc : Grammar.checkActions actions with
    | error err =>
      rw [hc] at h
      cases h
    | ok u =>
      rw [hc] at h
      simp only [bind, Except.bind] at h
      split at h
      · cases h
      · split at h
        · cases h
          simp
        · exact Grammar.rules_compile _ _ _ h (by simp)
  obtain ⟨p, hp⟩ := Policy.ofRules_ok hrules
  refine ⟨p, hp, ?_⟩
  simp only [Policy.compile, bind, Except.bind, h, hp]

end PeerGate
