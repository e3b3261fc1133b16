import PeerGate.Proofs.RoundTrip

/-!
How deep the conditions of a parsed policy are.

The reader grants `Grammar.maxDepth` levels of nesting: each `!`, each bracket, each rule's
condition and each further operand of `&` or `|` takes one, and a construct gives its levels back
when it is closed. A left operand is closed before its operator is read, so the levels bound the
negations and right operands on a path (`Expr.rightHeight`), and not the height of the tree.

* `Reading.Within`: every condition a reading gives has right height at most `n`.
* `Bounded`, `bounded`: the bound of each reading function at each number of levels left, by
  induction on that number, each function from the bounds of those it calls.
* `parse_rightHeight_lt`: **every condition of a parsed policy has right height below
  `maxDepth`**.
* `parse_height_exceeds_maxDepth`: the height itself is not bounded so: 255 negations under two
  `&` read back as a condition of height 257.
-/

namespace PeerGate

namespace Expr

variable {α : Type}

/-- The most `not` nodes and right operands on a path from the root to a test. -/
def rightHeight : Expr α → Nat
  | identity _ _ => 0
  | custom _ _ => 0
  | not e => e.rightHeight + 1
  | and l r => max l.rightHeight (r.rightHeight + 1)
  | or l r => max l.rightHeight (r.rightHeight + 1)

end Expr

namespace Grammar

open Text

/-! ### Bounds on what a reading gives -/

section Within

variable {s : List Char} {β : Type} {n : Nat}

/-- Every condition the reading gives has right height at most `n`. -/
def Reading.Within (n : Nat) (x : Reading s (Expr String)) : Prop :=
  ∀ e t, x.out = .ok (e, t) → e.rightHeight ≤ n

lemma Reading.within_error (err : SpecError) :
    Reading.Within n (.error err : Reading s (Expr String)) := by
  intro e t h
  cases h

lemma Reading.within_ok {e : Expr String} (t : Tail s) (h : e.rightHeight ≤ n) :
    Reading.Within n (.ok (e, t) : Reading s (Expr String)) := by
  intro e' t' he
  simp only [Reading.out, Except.ok.injEq, Prod.mk.injEq] at he
  rw [← he.1]
  exact h

lemma Reading.Within.mono {x : Reading s (Expr String)} {m : Nat} (h : x.Within m) (hmn : m ≤ n) :
    x.Within n :=
  fun e t he => Nat.le_trans (h e t he) hmn

@[simp] lemma Reading.within_widen {t : List Char} (x : Reading t (Expr String))
    (h : t.length ≤ s.length) : (x.widen h).Within n ↔ x.Within n := by
  simp only [Reading.Within, Reading.out_widen]

lemma Reading.within_next {x : Reading s β}
    {k : β → (t : List Char) → Reading t (Expr String)}
    (h : ∀ b t, x.out = .ok (b, t) → (k b t).Within n) : (x.next k).Within n := by
  intro e t he
  obtain ⟨b, u, hx, hk⟩ := Reading.out_next_eq_ok he
  exact h b u hx e t hk

lemma Reading.within_map {x : Reading s β} {f : β → Expr String}
    (h : ∀ b t, x.out = .ok (b, t) → (f b).rightHeight ≤ n) : (x.map f).Within n := by
  intro e t he
  obtain ⟨b, hx, rfl⟩ := Reading.out_map_eq_ok he
  exact h b t hx

end Within

/-! ### Each reading function, from the bounds of those it calls -/

section Steps

variable (env : Env) {s : List Char} {left : Expr String}

/-- A call reads a test: an identity test or a custom one. -/
lemma callExpr_rightHeight {nameAt argAt : List Char} {name : String} {a : Option String}
    {x : Expr String} (h : callExpr env nameAt argAt name a = .ok x) : x.rightHeight = 0 := by
  unfold callExpr at h
  split at h
  · -- `user(u)` and `user(u:g)`
    split at h
    · cases h
    · simp only [bind, Except.bind, pure, Except.pure] at h
      split at h
      · cases h
      · split at h
        · split at h
          · cases h
          · cases h
            rfl
        · cases h
          rfl
  · -- `group(g)`
    split at h
    · cases h
    · simp only [bind, Except.bind, pure, Except.pure] at h
      split at h
      · cases h
      · cases h
        rfl
  · -- an action of the table
    split at h
    · cases h
    · split at h
      · cases h
      · cases h
      · cases h
        rfl
      · split at h
        · cases h
          rfl
        · cases h

lemma call_within (s : List Char) : (call env s).Within 0 := by
  unfold call
  refine Reading.within_next fun name t₁ _ => Reading.within_next fun _ t₂ _ => ?_
  rw [Reading.within_widen]
  refine Reading.within_next fun a t₄ _ => Reading.within_next fun _ t₅ _ => ?_
  split
  · exact Reading.within_error _
  · rename_i x hx
    exact Reading.within_ok _ (Nat.le_of_eq (callExpr_rightHeight env hx))

lemma expr_within_zero (s : List Char) : (expr env 0 s).Within 0 := by
  rw [expr]
  exact Reading.within_error _

/-- An expression reads its `&` chain and its `|` operands with one level less. -/
lemma expr_within {r : Nat} (ha : ∀ s, (andExpr env r s).Within r)
    (ho : ∀ left s, (orTail env r left s).Within (max left.rightHeight r)) (s : List Char) :
    (expr env (r + 1) s).Within r := by
  rw [expr]
  refine Reading.within_next fun left t hl => (ho left t).mono ?_
  have := ha s left t hl
  omega

lemma orTail_within_zero (left : Expr String) (s : List Char) :
    (orTail env 0 left s).Within left.rightHeight := by
  rw [orTail]
  split
  · exact Reading.within_ok _ (Nat.le_refl _)
  · exact Reading.within_error _

/-- A further `|` operand is read with one level less; the chain goes on with the `or` as its
left part. -/
lemma orTail_within_succ {r : Nat} (ha : ∀ s, (andExpr env r s).Within r)
    (ho : ∀ left s, (orTail env r left s).Within (max left.rightHeight r))
    (left : Expr String) (s : List Char) :
    (orTail env (r + 1) left s).Within (max left.rightHeight (r + 1)) := by
  rw [orTail]
  split
  · exact Reading.within_ok _ (Nat.le_max_left _ _)
  · rw [Reading.within_widen]
    refine Reading.within_next fun right u hr => (ho (.or left right) u).mono ?_
    have := ha _ right u hr
    simp only [Expr.rightHeight]
    omega

lemma andExpr_within {room : Nat} (hu : ∀ s, (unary env room s).Within room)
    (ht : ∀ left s, (andTail env room left s).Within (max left.rightHeight room))
    (s : List Char) :
    (andExpr env room s).Within room := by
  rw [andExpr]
  refine Reading.within_next fun left t hl => (ht left t).mono ?_
  have := hu s left t hl
  omega

lemma andTail_within_zero (left : Expr String) (s : List Char) :
    (andTail env 0 left s).Within left.rightHeight := by
  rw [andTail]
  split
  · exact Reading.within_ok _ (Nat.le_refl _)
  · exact Reading.within_error _

lemma andTail_within_succ {r : Nat} (hu : ∀ s, (unary env r s).Within r)
    (ht : ∀ left s, (andTail env r left s).Within (max left.rightHeight r))
    (left : Expr String) (s : List Char) :
    (andTail env (r + 1) left s).Within (max left.rightHeight (r + 1)) := by
  rw [andTail]
  split
  · exact Reading.within_ok _ (Nat.le_max_left _ _)
  · rw [Reading.within_widen]
    refine Reading.within_next fun right u hr => (ht (.and left right) u).mono ?_
    have := hu _ right u hr
    simp only [Expr.rightHeight]
    omega

lemma unary_within_zero {s : List Char} (hp : (primary env 0 s).Within 0) :
    (unary env 0 s).Within 0 := by
  rw [unary]
  split
  · exact Reading.within_error _
  · exact hp

/-- A negation is read with one level less than the expression it stands in. -/
lemma unary_within_succ {r : Nat} (hu : ∀ s, (unary env r s).Within r) {s : List Char}
    (hp : (primary env (r + 1) s).Within (r + 1)) : (unary env (r + 1) s).Within (r + 1) := by
  rw [unary]
  split
  · rw [Reading.within_widen]
    refine Reading.within_map fun e t he => ?_
    have := hu _ e t he
    simp only [Expr.rightHeight]
    omega
  · exact hp

/-- A bracket reads an expression with the same levels; the expression takes one itself. -/
lemma primary_within {room : Nat} (he : ∀ s, (expr env room s).Within (room - 1))
    (s : List Char) : (primary env room s).Within room := by
  rw [primary]
  split
  · rw [Reading.within_widen]
    refine Reading.within_next fun inner u hi => Reading.within_map fun _ _ _ => ?_
    have := he _ inner u hi
    omega
  · apply Reading.within_ok
    exact Nat.zero_le _
  · split
    · rw [Reading.within_widen]
      exact (call_within env _).mono (Nat.zero_le _)
    · exact Reading.within_error _
  · exact Reading.within_error _

end Steps

/-! ### All reading functions at once -/

/-- The bound of each reading function with `room` levels left: an expression's conditions have
right height below `room`, a chain's at most its left part's or `room`. -/
structure Bounded (env : Env) (room : Nat) : Prop where
  expr_le : ∀ s, (expr env room s).Within (room - 1)
  orTail_le : ∀ left s, (orTail env room left s).Within (max left.rightHeight room)
  andExpr_le : ∀ s, (andExpr env room s).Within room
  andTail_le : ∀ left s, (andTail env room left s).Within (max left.rightHeight room)
  unary_le : ∀ s, (unary env room s).Within room
  primary_le : ∀ s, (primary env room s).Within room

variable (env : Env)

lemma bounded_zero : Bounded env 0 := by
  have hprimary : ∀ s, (primary env 0 s).Within 0 := primary_within env (expr_within_zero env)
  have hunary : ∀ s, (unary env 0 s).Within 0 := fun s => unary_within_zero env (hprimary s)
  have handTail : ∀ left s, (andTail env 0 left s).Within (max left.rightHeight 0) := by
    intro left s
    simpa using andTail_within_zero env left s
  refine ⟨expr_within_zero env, ?_, andExpr_within env hunary handTail, handTail, hunary,
    hprimary⟩
  intro left s
  simpa using orTail_within_zero env left s

/-- From the bounds with `r` levels left to those with one more: the functions in the order in
which they call one another at the same number of levels. -/
lemma Bounded.succ {r : Nat} (h : Bounded env r) : Bounded env (r + 1) := by
  have hexpr : ∀ s, (expr env (r + 1) s).Within (r + 1 - 1) :=
    expr_within env h.andExpr_le h.orTail_le
  have hprimary : ∀ s, (primary env (r + 1) s).Within (r + 1) := primary_within env hexpr
  have hunary : ∀ s, (unary env (r + 1) s).Within (r + 1) :=
    fun s => unary_within_succ env h.unary_le (hprimary s)
  have handTail := andTail_within_succ env h.unary_le h.andTail_le
  exact ⟨hexpr, orTail_within_succ env h.andExpr_le h.orTail_le,
    andExpr_within env hunary handTail, handTail, hunary, hprimary⟩

theorem bounded (room : Nat) : Bounded env room := by
  induction room with
  | zero => exact bounded_zero env
  | succ r ih => exact ih.succ env

/-! ### Rules and policies -/

section Rules

lemma rule_rightHeight_lt {s : List Char} {r : Rule String} {t : List Char}
    (h : (rule env s).out = .ok (r, t)) : ∀ e, r.cond = some e → e.rightHeight < maxDepth := by
  intro e he
  unfold rule at h
  split at h
  · -- a lone `*` has no condition
    rw [Reading.out_widen] at h
    obtain ⟨a, -, rfl⟩ := Reading.out_map_eq_ok h
    cases he
  · obtain ⟨e', u, hexpr, hacc⟩ := Reading.out_next_eq_ok h
    obtain ⟨a, -, rfl⟩ := Reading.out_map_eq_ok hacc
    obtain rfl : e' = e := Option.some.inj he
    have := (bounded env maxDepth).expr_le s e' u hexpr
    unfold maxDepth at this ⊢
    omega

/-- A rule the loop has read joins rules whose conditions keep the bound. -/
lemma push_rightHeight_lt {acc : Array (Rule String)} {s : List Char} {r : Rule String}
    {t : Tail s} (hr : rule env s = .ok (r, t))
    (hacc : ∀ r ∈ acc.toList, ∀ e, r.cond = some e → e.rightHeight < maxDepth) :
    ∀ r' ∈ (acc.push r).toList, ∀ e, r'.cond = some e → e.rightHeight < maxDepth := by
  have hnew := rule_rightHeight_lt env (show (rule env s).out = .ok (r, t.1) by rw [hr]; rfl)
  intro r' hr'
  rw [Array.toList_push, List.mem_append, List.mem_singleton] at hr'
  rcases hr' with hr' | rfl
  · exact hacc r' hr'
  · exact hnew

/-- The rule loop adds only rules it has read. -/
lemma rules_rightHeight_lt (s : List Char) (acc : Array (Rule String)) :
    ∀ {rs : List (Rule String)}, rules env s acc = .ok rs →
      (∀ r ∈ acc.toList, ∀ e, r.cond = some e → e.rightHeight < maxDepth) →
      ∀ r ∈ rs, ∀ e, r.cond = some e → e.rightHeight < maxDepth := by
  fun_induction rules env s acc with
  | case1 s acc hs =>
      intro rs h hacc
      cases h
      exact hacc
  | case2 s acc more hs ih => exact ih
  | case3 s acc d more hd hs err hr =>
      intro rs h
      cases h
  | case4 s acc d more hd hs r t hr ht =>
      intro rs h hacc
      cases h
      exact push_rightHeight_lt env hr hacc
  | case5 s acc d more hd hs r t hr more' ht ih =>
      intro rs h hacc
      exact ih h (push_rightHeight_lt env hr hacc)
  | case6 s acc d more hd hs r t hr d' more' hd' ht =>
      intro rs h
      cases h

/-- **The levels bound the right height.** Every condition of a parsed policy has fewer than
`maxDepth` negations and right operands on any path from its root. -/
theorem parse_rightHeight_lt {G : Globs} {spec : String} {actions : List ActionSpec}
    {accounts : Accounts} {rs : List (Rule String)} (h : parse G spec actions accounts = .ok rs) :
    ∀ r ∈ rs, ∀ e, r.cond = some e → e.rightHeight < maxDepth := by
  unfold parse at h
  cases hc : checkActions actions with
  | error err =>
      rw [hc] at h
      cases h
  | ok u =>
      rw [hc] at h
      simp only [bind, Except.bind] at h
      split at h
      · cases h
      · split at h
        · cases h
          simp
        · exact rules_rightHeight_lt _ _ _ h (by simp)

end Rules

/-! ### The height is not bounded by the levels -/

section Tall

variable (u g : IdSpec) {G : Globs}

@[simp] lemma need_nots (lvl n : Nat) : need lvl (Expr.not^[n] (.identity u g)) = n := by
  induction n generalizing lvl with
  | zero => rfl
  | succ n ih => rw [Function.iterate_succ_apply', need, ih]

@[simp] lemma andLen_nots (n : Nat) : (Expr.not^[n] (.identity u g : Expr String)).andLen = 0 := by
  cases n with
  | zero => rfl
  | succ n =>
      rw [Function.iterate_succ_apply']
      rfl

lemma fits_nots (actions : List ActionSpec) (n : Nat) :
    Fits G actions (Expr.not^[n] (.identity u g)) := by
  induction n with
  | zero => trivial
  | succ n ih =>
      rw [Function.iterate_succ_apply']
      exact ih

@[simp] lemma height_nots (n : Nat) : (Expr.not^[n] (.identity u g : Expr String)).height = n := by
  induction n with
  | zero => rfl
  | succ n ih => rw [Function.iterate_succ_apply', Expr.height, ih]

/-- `n` negations of an identity test under two `&`, written out, read back while
`n < maxDepth`. -/
lemma parse_nots_and (n : Nat) (hn : n < maxDepth) (accounts : Accounts) :
    parse G (policyText [] [⟨some (.and (.and (Expr.not^[n] (.identity u g)) (.identity u g))
        (.identity u g)), .allow⟩]) [] accounts =
      .ok [⟨some (.and (.and (Expr.not^[n] (.identity u g)) (.identity u g)) (.identity u g)),
        .allow⟩] := by
  refine parse_policyText_of_fits [] accounts _ rfl ?_
  intro r hr e he
  rw [List.mem_singleton] at hr
  subst hr
  obtain rfl := Option.some.inj he
  refine ⟨?_, ⟨fits_nots u g [] n, trivial⟩, trivial⟩
  simp [need, Expr.andLen]
  unfold maxDepth at hn ⊢
  omega

/-- A parsed condition can be taller than `maxDepth`: the text `1;`, then 255 `!`, then
`user(*:*)&user(*:*)&user(*:*)=allow` parses to a condition of height 257. -/
theorem parse_height_exceeds_maxDepth :
    ∃ rs, parse Glob.library
        (policyText [] [⟨some (.and (.and (Expr.not^[255] (.identity .any .any))
          (.identity .any .any)) (.identity .any .any)), .allow⟩]) [] (.tables [] []) = .ok rs ∧
      ∃ r ∈ rs, ∃ e, r.cond = some e ∧ maxDepth < e.height := by
  refine ⟨_, parse_nots_and .any .any 255 (by decide) _, _, List.mem_singleton_self _, _, rfl,
    ?_⟩
  simp only [Expr.height, height_nots]
  decide

/-- The same condition keeps to the bound on right height: its right height is 255. -/
theorem parse_rightHeight_lt_nots :
    parse Glob.library (policyText [] [⟨some (.and (.and (Expr.not^[255] (.identity .any .any))
        (.identity .any .any)) (.identity .any .any)), .allow⟩]) [] (.tables [] []) =
      .ok [⟨some (.and (.and (Expr.not^[255] (.identity .any .any)) (.identity .any .any))
        (.identity .any .any)), .allow⟩] ∧
    ∀ r ∈ [(⟨some (.and (.and (Expr.not^[255] (.identity .any .any)) (.identity .any .any))
        (.identity .any .any)), .allow⟩ : Rule String)],
      ∀ e, r.cond = some e → e.rightHeight < maxDepth :=
  ⟨parse_nots_and .any .any 255 (by decide) _,
    parse_rightHeight_lt (parse_nots_and .any .any 255 (by decide) (.tables [] [])
      (G := Glob.library))⟩

end Tall

end Grammar

end PeerGate
