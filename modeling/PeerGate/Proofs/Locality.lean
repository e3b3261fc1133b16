import PeerGate.Proofs.Reading

/-!
The reader never looks past the end of a rule.

What follows the text a reading function is given does not change what the function reads, when
it is nothing or starts with `;`: the function gives the same value, with what follows after the
same rest. Nor does the length of the whole text, on which only the places that faults name
depend. Each lookahead of the reader stops at a `;` as it stops at the end of the text: blanks, a
lone `*`, the optional `=` and its word, the `&` and `|` of a chain, names, bare arguments, which
end at a `;`, and quoted ones, which read on to their closing quote.

* `Env.withSize`: the same action table and accounts, for a text of another length.
* `Reading.Extends`: what one reading gives, another gives with `more` after the rest.
* `Stops`: what may follow, nothing or a `;`; scanning stops there (`dropBlanks_append_stops`,
  `eat?_append`, `loneStar?_append`, `arg_extends`).
* `Extending`: the six expression readers at once, by induction on the levels left (`extending`);
  then `access_extends` and `rule_extends`.
* `rules_append`: **the rule loop reads rules one by one**: the rules of a text are read alike
  when a `;` and more rules follow, and the loop goes on after them.
-/

namespace PeerGate.Grammar

open Text

/-- The action table and accounts of `env`, for a text of byte length `n`. -/
def Env.withSize (env : Env) (n : Nat) : Env := { env with size := n }

@[simp] lemma Env.withSize_actions (env : Env) (n : Nat) :
    (env.withSize n).actions = env.actions := rfl

@[simp] lemma Env.withSize_accounts (env : Env) (n : Nat) :
    (env.withSize n).accounts = env.accounts := rfl

/-- What follows the text a reading ends in: nothing, or a `;`. -/
def Stops (more : List Char) : Prop := ∀ c ∈ more.head?, c = ';'

lemma stops_nil : Stops [] := by
  intro c hc
  cases hc

lemma stops_semi (B : List Char) : Stops (';' :: B) := by
  intro c hc
  cases hc
  rfl

lemma Stops.cases {more : List Char} (hm : Stops more) : more = [] ∨ ∃ B, more = ';' :: B := by
  cases more with
  | nil => exact .inl rfl
  | cons c B =>
    obtain rfl : c = ';' := hm c rfl
    exact .inr ⟨B, rfl⟩

section Extends

variable {s s' : List Char} {β γ : Type} {more : List Char}

/-- Whatever the reading `x` of a text gives, the reading `y` of the text followed by `more` gives
as well, with `more` after the same rest. -/
def Reading.Extends (x : Reading s β) (y : Reading s' β) (more : List Char) : Prop :=
  ∀ b t, x.out = .ok (b, t) → y.out = .ok (b, t ++ more)

lemma Reading.Extends.next {x : Reading s β} {y : Reading s' β}
    {k : β → (t : List Char) → Reading t γ} {k' : β → (t : List Char) → Reading t γ}
    (hxy : x.Extends y more)
    (hk : ∀ b t, x.out = .ok (b, t) → (k b t).Extends (k' b (t ++ more)) more) :
    (x.next k).Extends (y.next k') more := by
  intro c v h
  obtain ⟨b, t, hx, hkb⟩ := Reading.out_next_eq_ok h
  rw [Reading.out_next_of_ok (hxy b t hx)]
  exact hk b t hx c v hkb

lemma Reading.Extends.map {x : Reading s β} {y : Reading s' β} (hxy : x.Extends y more)
    (f : β → γ) : (x.map f).Extends (y.map f) more := by
  intro c v h
  obtain ⟨b, hx, rfl⟩ := Reading.out_map_eq_ok h
  rw [Reading.out_map, hxy b v hx]
  rfl

@[simp] lemma Reading.extends_widen {t t' : List Char} {x : Reading t β} {y : Reading t' β}
    (h : t.length ≤ s.length) (h' : t'.length ≤ s'.length) :
    (x.widen h).Extends (y.widen h') more ↔ x.Extends y more := by
  simp only [Reading.Extends, Reading.out_widen]

lemma Reading.extends_error (e : SpecError) (y : Reading s' β) :
    Reading.Extends (.error e : Reading s β) y more := by
  intro b t h
  cases h

end Extends

section Tails

variable {s s' more : List Char} {x : Option (Tail s)} {x' : Option (Tail s')}

lemma Tail.none_of_map (h : x'.map Subtype.val = x.map (·.1 ++ more)) (hx : x = none) :
    x' = none := by
  rw [hx] at h
  simpa using h

lemma Tail.some_of_map (h : x'.map Subtype.val = x.map (·.1 ++ more)) {t : Tail s}
    (hx : x = some t) : ∃ t', x' = some t' ∧ t'.1 = t.1 ++ more := by
  rw [hx] at h
  cases x' with
  | none => cases h
  | some t' => exact ⟨t', rfl, Option.some.inj h⟩

end Tails

/-! ### Scanning stops at a `;` -/

section Scan

variable {more : List Char} (hm : Stops more)
include hm

lemma takeWhile_append_stops {p : Char → Bool} (hp : p ';' = false) (l : List Char) :
    (l ++ more).takeWhile p = l.takeWhile p := by
  induction l with
  | nil =>
    rcases hm.cases with rfl | ⟨B, rfl⟩
    · rfl
    · simp [hp]
  | cons c l ih =>
    rw [List.cons_append, List.takeWhile_cons, List.takeWhile_cons, ih]

lemma dropWhile_append_stops {p : Char → Bool} (hp : p ';' = false) (l : List Char) :
    (l ++ more).dropWhile p = l.dropWhile p ++ more := by
  induction l with
  | nil =>
    rcases hm.cases with rfl | ⟨B, rfl⟩
    · rfl
    · simp [hp]
  | cons c l ih =>
    rw [List.cons_append, List.dropWhile_cons, List.dropWhile_cons]
    split
    · exact ih
    · rfl

lemma dropBlanks_append_stops (s : List Char) : dropBlanks (s ++ more) = dropBlanks s ++ more :=
  dropWhile_append_stops hm (by decide) s

end Scan

/-! ### Characters, names and arguments -/

section Words

variable {more : List Char} (hm : Stops more)

lemma eat?_val (c : Char) (s : List Char) :
    (eat? c s).map Subtype.val =
      if (dropBlanks s).head? = some c then some (dropBlanks s).tail else none := by
  unfold eat?
  split
  · rename_i d rest h
    simp only [h, List.head?_cons, Option.some.injEq, List.tail_cons]
    by_cases hd : d = c <;> simp [hd]
  · rename_i h
    simp [h]

include hm

lemma eat?_append {c : Char} (hc : c ≠ ';') (s : List Char) :
    (eat? c (s ++ more)).map Subtype.val = (eat? c s).map (·.1 ++ more) := by
  have hmap : (eat? c s).map (·.1 ++ more) = ((eat? c s).map Subtype.val).map (· ++ more) := by
    rw [Option.map_map]
    rfl
  rw [hmap, eat?_val, eat?_val, dropBlanks_append_stops hm]
  cases hd : dropBlanks s with
  | nil =>
    rcases hm.cases with rfl | ⟨B, rfl⟩
    · simp
    · simp [Ne.symm hc]
  | cons d rest =>
    by_cases hdc : d = c <;> simp [hdc]

lemma eat?_append_none {c : Char} (hc : c ≠ ';') {s : List Char} (h : eat? c s = none) :
    eat? c (s ++ more) = none :=
  Tail.none_of_map (eat?_append hm hc s) h

lemma eat?_append_some {c : Char} (hc : c ≠ ';') {s : List Char} {t : Tail s}
    (h : eat? c s = some t) : ∃ t', eat? c (s ++ more) = some t' ∧ t'.1 = t.1 ++ more :=
  Tail.some_of_map (eat?_append hm hc s) h

lemma expect_extends (env env' : Env) {c : Char} (hc : c ≠ ';') (s : List Char) :
    (expect env c s).Extends (expect env' c (s ++ more)) more := by
  intro u t h
  unfold expect at h ⊢
  cases he : eat? c s with
  | none =>
    rw [he] at h
    cases h
  | some t₀ =>
    rw [he] at h
    obtain ⟨t', he', ht'⟩ := eat?_append_some hm hc he
    rw [he']
    simp only [Reading.out, Except.ok.injEq, Prod.mk.injEq] at h ⊢
    exact ⟨h.1, by rw [ht', h.2]⟩

lemma ident_extends (env env' : Env) (s : List Char) :
    (ident env s).Extends (ident env' (s ++ more)) more := by
  intro n t h
  unfold ident at h
  split at h
  · rename_i c rest hd
    split at h
    · rename_i hc
      simp only [Reading.out, Except.ok.injEq, Prod.mk.injEq] at h
      obtain ⟨rfl, rfl⟩ := h
      have hd' : dropBlanks (s ++ more) = c :: (rest ++ more) := by
        rw [dropBlanks_append_stops hm, hd, List.cons_append]
      unfold ident
      split
      · rename_i c' rest' hd''
        rw [hd'] at hd''
        obtain ⟨rfl, rfl⟩ := List.cons.inj hd''
        rw [if_pos hc]
        simp only [Reading.out, ← List.cons_append,
          takeWhile_append_stops hm (p := identChar) (by decide),
          dropWhile_append_stops hm (p := identChar) (by decide)]
      · rename_i hnil
        rw [hd'] at hnil
        cases hnil
    · cases h
  · cases h

end Words

section Args
variable {more : List Char}

lemma quotedFrom_extends (env env' : Env) (quote : Char) (start start' acc : List Char)
    (s : List Char) :
    (quotedFrom env quote start acc s).Extends
      (quotedFrom env' quote start' acc (s ++ more)) more := by
  fun_induction quotedFrom env quote start acc s with
  | case1 acc => exact Reading.extends_error _ _
  | case2 acc => exact Reading.extends_error _ _
  | case3 acc c rest ih =>
    rw [List.cons_append, List.cons_append, quotedFrom.eq_3, Reading.extends_widen]
    exact ih
  | case4 acc rest h1 h2 =>
    -- the closing quote; it is no backslash, since the text does not end in one
    have hq : quote ≠ '\\' := by
      intro hq
      cases rest with
      | nil => exact h1 hq rfl
      | cons d r => exact h2 d r hq rfl
    rw [List.cons_append, quotedFrom.eq_4 env' quote start' acc quote (rest ++ more)
      (fun h => absurd h hq) (fun _ _ h => absurd h hq), if_pos rfl]
    intro b t h
    simp only [Reading.out, Except.ok.injEq, Prod.mk.injEq] at h ⊢
    rw [← h.1, ← h.2]
    exact ⟨rfl, rfl⟩
  | case5 acc c rest h1 h2 hq ih =>
    have hc : c ≠ '\\' := by
      intro hc
      cases rest with
      | nil => exact h1 hc rfl
      | cons d r => exact h2 d r hc rfl
    rw [List.cons_append, quotedFrom.eq_4 env' quote start' acc c (rest ++ more)
      (fun h => absurd h hc) (fun _ _ h => absurd h hc), if_neg hq, Reading.extends_widen]
    exact ih

variable (hm : Stops more)
include hm

omit hm in
/-- A bare argument, as `arg` reads it at a character that opens no other kind. -/
lemma arg_other (env : Env) {c : Char} (h1 : c ≠ ')') (h2 : c ≠ '\'') (h3 : c ≠ '"')
    (rest : List Char) :
    (arg env (c :: rest)).out =
      if ((c :: rest).takeWhile fun d => !endsBare d).isEmpty then
        .error (env.unexpected .argument (c :: rest))
      else .ok (some (String.ofList ((c :: rest).takeWhile fun d => !endsBare d)),
        (c :: rest).dropWhile fun d => !endsBare d) := by
  rw [arg.eq_def]
  simp only
  split <;> rfl

omit hm in
lemma arg_single (env : Env) (rest : List Char) :
    (arg env ('\'' :: rest)).out = ((quotedFrom env '\'' rest [] rest).map some).out := by
  rw [arg.eq_def]
  exact Reading.out_widen _ _

omit hm in
lemma arg_double (env : Env) (rest : List Char) :
    (arg env ('"' :: rest)).out = ((quotedFrom env '"' rest [] rest).map some).out := by
  rw [arg.eq_def]
  exact Reading.out_widen _ _

lemma arg_extends (env env' : Env) (s : List Char) :
    (arg env s).Extends (arg env' (s ++ more)) more := by
  intro a t h
  cases s with
  | nil =>
    rw [arg.eq_def] at h
    cases h
  | cons c rest =>
    rw [List.cons_append]
    by_cases h1 : c = ')'
    · subst h1
      rw [arg_close] at h ⊢
      simp only [Except.ok.injEq, Prod.mk.injEq] at h ⊢
      rw [← h.1, ← h.2]
      exact ⟨rfl, rfl⟩
    by_cases h2 : c = '\''
    · subst h2
      rw [arg_single] at h ⊢
      exact (quotedFrom_extends env env' '\'' rest (rest ++ more) [] rest).map some a t h
    by_cases h3 : c = '"'
    · subst h3
      rw [arg_double] at h ⊢
      exact (quotedFrom_extends env env' '"' rest (rest ++ more) [] rest).map some a t h
    -- a bare argument stops at the `;` as it stops at the end
    have htake := takeWhile_append_stops hm (p := fun d => !endsBare d) (by decide) (c :: rest)
    have hdrop := dropWhile_append_stops hm (p := fun d => !endsBare d) (by decide) (c :: rest)
    rw [arg_other env h1 h2 h3] at h
    rw [arg_other env' h1 h2 h3, ← List.cons_append, htake, hdrop]
    split at h
    · cases h
    · rw [if_neg (by assumption)]
      simp only [Except.ok.injEq, Prod.mk.injEq] at h ⊢
      rw [← h.1, ← h.2]
      exact ⟨rfl, rfl⟩

end Args

/-! ### Tests of a call -/

section Calls

/-- An id is read alike wherever it stands and whatever the length of the text: only its faults
name a place. -/
lemma identity_withSize {env : Env} {argAt : List Char} {kind : IdKind} {s : String}
    {v : IdSpec} (h : identity env argAt kind s = .ok v) (n : Nat) (argAt' : List Char) :
    identity (env.withSize n) argAt' kind s = .ok v := by
  unfold identity at h ⊢
  by_cases h1 : s = "*"
  · rw [if_pos h1] at h ⊢
    exact h
  rw [if_neg h1] at h ⊢
  by_cases h2 : s.isEmpty = true
  · rw [if_pos h2] at h
    cases h
  rw [if_neg h2] at h ⊢
  by_cases h3 : s.toList.all Char.isDigit = true
  · rw [if_pos h3] at h ⊢
    split at h
    · exact h
    · cases h
  · rw [if_neg h3] at h ⊢
    dsimp only [Env.withSize] at h ⊢
    split at h
    · exact h
    · cases h

lemma callExpr_withSize {env : Env} {nameAt argAt : List Char} {name : String}
    {a : Option String} {x : Expr String} (h : callExpr env nameAt argAt name a = .ok x) (n : Nat)
    (nameAt' argAt' : List Char) : callExpr (env.withSize n) nameAt' argAt' name a = .ok x := by
  unfold callExpr at h ⊢
  split at h
  · cases a with
    | none => cases h
    | some a =>
      simp only [bind, Except.bind, pure, Except.pure] at h ⊢
      cases hu : identity env argAt .user (String.ofList (a.toList.span (· != ':')).1) with
      | error e =>
        rw [hu] at h
        cases h
      | ok uid =>
        rw [hu] at h
        rw [identity_withSize hu n argAt']
        dsimp only at h ⊢
        split at h
        · split at h
          · cases h
          · rename_i gid hg
            rw [identity_withSize hg n argAt']
            exact h
        · exact h
  · cases a with
    | none => cases h
    | some a =>
      simp only [bind, Except.bind, pure, Except.pure] at h ⊢
      split at h
      · cases h
      · rename_i gid hg
        rw [identity_withSize hg n argAt']
        exact h
  · dsimp only [Env.withSize] at h ⊢
    split at h
    · cases h
    · split at h
      · cases h
      · cases h
      · exact h
      · split at h
        · exact h
        · cases h

variable {more : List Char} (hm : Stops more)
include hm

lemma call_extends (env : Env) (n : Nat) (s : List Char) :
    (call env s).Extends (call (env.withSize n) (s ++ more)) more := by
  unfold call
  refine (ident_extends hm env _ s).next fun name t₁ _ => ?_
  refine (expect_extends hm env _ (by decide) t₁).next fun _ t₂ _ => ?_
  rw [Reading.extends_widen]
  have hskip : (skip (t₂ ++ more)).1 = (skip t₂).1 ++ more := dropBlanks_append_stops hm t₂
  rw [hskip]
  refine (arg_extends hm env _ _).next fun a t₄ _ => ?_
  refine (expect_extends hm env _ (by decide) t₄).next fun _ t₅ _ => ?_
  intro x t h
  split at h
  · cases h
  · rename_i x' hx
    rw [callExpr_withSize hx n (s ++ more) ((skip t₂).1 ++ more)]
    simp only [Reading.out, Except.ok.injEq, Prod.mk.injEq] at h ⊢
    rw [← h.1, ← h.2]
    exact ⟨rfl, rfl⟩

end Calls

/-! ### Expressions -/

section Primary

variable (env : Env) (room : Nat) {s rest : List Char}

/-- A primary expression at a `(`, after blanks: the expression inside and its closing
bracket. -/
lemma primary_out_paren (h : (skip s).1 = '(' :: rest) :
    (primary env room s).out =
      ((expr env room rest).next fun inner u => (expect env ')' u).map fun _ => inner).out := by
  rw [primary]
  split
  · rename_i rest' h'
    rw [h] at h'
    obtain ⟨-, rfl⟩ := List.cons.inj h'
    rw [Reading.out_widen]
  · rename_i rest' h'
    rw [h] at h'
    cases h'
  · rename_i c rest' hc _ h'
    rw [h] at h'
    obtain ⟨rfl, -⟩ := List.cons.inj h'
    exact (hc rfl).elim
  · rename_i h'
    rw [h] at h'
    cases h'

lemma primary_out_star (h : (skip s).1 = '*' :: rest) :
    (primary env room s).out = .ok (.identity .any .any, rest) := by
  rw [primary]
  split
  · rename_i rest' h'
    rw [h] at h'
    cases h'
  · rename_i rest' h'
    rw [h] at h'
    obtain ⟨-, rfl⟩ := List.cons.inj h'
    rfl
  · rename_i c rest' _ hc h'
    rw [h] at h'
    obtain ⟨rfl, -⟩ := List.cons.inj h'
    exact (hc rfl).elim
  · rename_i h'
    rw [h] at h'
    cases h'

lemma primary_out_call {c : Char} (hc : identStart c = true) (h : (skip s).1 = c :: rest) :
    (primary env room s).out = (call env (c :: rest)).out := by
  rw [primary]
  split
  · rename_i rest' h'
    rw [h] at h'
    obtain ⟨rfl, -⟩ := List.cons.inj h'
    cases hc
  · rename_i rest' h'
    rw [h] at h'
    obtain ⟨rfl, -⟩ := List.cons.inj h'
    cases hc
  · rename_i d rest' _ _ h'
    rw [h] at h'
    obtain ⟨rfl, rfl⟩ := List.cons.inj h'
    rw [if_pos hc, Reading.out_widen, h]
  · rename_i h'
    rw [h] at h'
    cases h'

end Primary

section Steps

variable (env : Env) (n : Nat) {more : List Char} (hm : Stops more)
include hm

omit hm in
lemma expr_extends_zero (s : List Char) :
    (expr env 0 s).Extends (expr (env.withSize n) 0 (s ++ more)) more := by
  rw [expr]
  exact Reading.extends_error _ _

omit hm in
lemma expr_extends_succ {r : Nat}
    (ha : ∀ s, (andExpr env r s).Extends (andExpr (env.withSize n) r (s ++ more)) more)
    (ho : ∀ left s, (orTail env r left s).Extends (orTail (env.withSize n) r left (s ++ more)) more)
    (s : List Char) :
    (expr env (r + 1) s).Extends (expr (env.withSize n) (r + 1) (s ++ more)) more := by
  rw [expr, expr]
  exact (ha s).next fun left t _ => ho left t

/-- A chain that stops where the text stops also stops where a `;` follows. -/
lemma stop_extends {left : Expr String} (s : List Char) :
    Reading.Extends (.ok (left, skip s) : Reading s (Expr String))
      (.ok (left, skip (s ++ more)) : Reading (s ++ more) (Expr String)) more := by
  intro b t h
  simp only [Reading.out, Except.ok.injEq, Prod.mk.injEq] at h ⊢
  rw [← h.1, ← h.2]
  exact ⟨rfl, dropBlanks_append_stops hm s⟩

lemma orTail_extends_zero (left : Expr String) (s : List Char) :
    (orTail env 0 left s).Extends (orTail (env.withSize n) 0 left (s ++ more)) more := by
  rw [orTail, orTail]
  cases he : eat? '|' s with
  | none =>
    rw [eat?_append_none hm (by decide) he]
    exact stop_extends hm s
  | some t => exact Reading.extends_error _ _

lemma orTail_extends_succ {r : Nat}
    (ha : ∀ s, (andExpr env r s).Extends (andExpr (env.withSize n) r (s ++ more)) more)
    (ho : ∀ left s, (orTail env r left s).Extends (orTail (env.withSize n) r left (s ++ more)) more)
    (left : Expr String) (s : List Char) :
    (orTail env (r + 1) left s).Extends
      (orTail (env.withSize n) (r + 1) left (s ++ more)) more := by
  rw [orTail, orTail]
  cases he : eat? '|' s with
  | none =>
    rw [eat?_append_none hm (by decide) he]
    exact stop_extends hm s
  | some t =>
    obtain ⟨t', he', ht'⟩ := eat?_append_some hm (by decide) he
    rw [he']
    dsimp only
    rw [Reading.extends_widen, ht']
    exact (ha t.1).next fun right u _ => ho _ u

omit hm in
lemma andExpr_extends {room : Nat}
    (hu : ∀ s, (unary env room s).Extends (unary (env.withSize n) room (s ++ more)) more)
    (ht : ∀ left s,
      (andTail env room left s).Extends (andTail (env.withSize n) room left (s ++ more)) more)
    (s : List Char) :
    (andExpr env room s).Extends (andExpr (env.withSize n) room (s ++ more)) more := by
  rw [andExpr, andExpr]
  exact (hu s).next fun left t _ => ht left t

lemma andTail_extends_zero (left : Expr String) (s : List Char) :
    (andTail env 0 left s).Extends (andTail (env.withSize n) 0 left (s ++ more)) more := by
  rw [andTail, andTail]
  cases he : eat? '&' s with
  | none =>
    rw [eat?_append_none hm (by decide) he]
    exact stop_extends hm s
  | some t => exact Reading.extends_error _ _

lemma andTail_extends_succ {r : Nat}
    (hu : ∀ s, (unary env r s).Extends (unary (env.withSize n) r (s ++ more)) more)
    (ht : ∀ left s,
      (andTail env r left s).Extends (andTail (env.withSize n) r left (s ++ more)) more)
    (left : Expr String) (s : List Char) :
    (andTail env (r + 1) left s).Extends
      (andTail (env.withSize n) (r + 1) left (s ++ more)) more := by
  rw [andTail, andTail]
  cases he : eat? '&' s with
  | none =>
    rw [eat?_append_none hm (by decide) he]
    exact stop_extends hm s
  | some t =>
    obtain ⟨t', he', ht'⟩ := eat?_append_some hm (by decide) he
    rw [he']
    dsimp only
    rw [Reading.extends_widen, ht']
    exact (hu t.1).next fun right u _ => ht _ u

lemma unary_extends_zero {s : List Char}
    (hp : (primary env 0 s).Extends (primary (env.withSize n) 0 (s ++ more)) more) :
    (unary env 0 s).Extends (unary (env.withSize n) 0 (s ++ more)) more := by
  rw [unary, unary]
  cases he : eat? '!' s with
  | none =>
    rw [eat?_append_none hm (by decide) he]
    exact hp
  | some t => exact Reading.extends_error _ _

lemma unary_extends_succ {r : Nat}
    (hu : ∀ s, (unary env r s).Extends (unary (env.withSize n) r (s ++ more)) more)
    {s : List Char}
    (hp : (primary env (r + 1) s).Extends (primary (env.withSize n) (r + 1) (s ++ more)) more) :
    (unary env (r + 1) s).Extends (unary (env.withSize n) (r + 1) (s ++ more)) more := by
  rw [unary, unary]
  cases he : eat? '!' s with
  | none =>
    rw [eat?_append_none hm (by decide) he]
    exact hp
  | some t =>
    obtain ⟨t', he', ht'⟩ := eat?_append_some hm (by decide) he
    rw [he']
    dsimp only
    rw [Reading.extends_widen, ht']
    exact (hu t.1).map Expr.not

lemma primary_extends {room : Nat}
    (he : ∀ s, (expr env room s).Extends (expr (env.withSize n) room (s ++ more)) more)
    (s : List Char) :
    (primary env room s).Extends (primary (env.withSize n) room (s ++ more)) more := by
  intro e t h
  have hskip : ∀ {d : Char} {rest : List Char}, (skip s).1 = d :: rest →
      (skip (s ++ more)).1 = d :: (rest ++ more) := by
    intro d rest hd
    show dropBlanks (s ++ more) = _
    rw [dropBlanks_append_stops hm, ← List.cons_append]
    exact congrArg (· ++ more) hd
  rw [primary] at h
  split at h
  · -- a bracket: the expression inside, then `)`
    rename_i rest hd
    rw [Reading.out_widen] at h
    rw [primary_out_paren _ _ (hskip hd)]
    exact ((he rest).next fun inner u _ =>
      (expect_extends hm env _ (by decide) u).map fun _ => inner) e t h
  · -- a lone `*` inside an expression
    rename_i rest hd
    rw [primary_out_star _ _ (hskip hd)]
    simp only [Reading.out, Except.ok.injEq, Prod.mk.injEq] at h ⊢
    rw [← h.1, ← h.2]
    exact ⟨rfl, rfl⟩
  · -- a call
    rename_i c rest _ _ hd
    split at h
    · rename_i hc
      rw [Reading.out_widen, hd] at h
      rw [primary_out_call _ _ hc (hskip hd)]
      exact call_extends hm env n (c :: rest) e t h
    · cases h
  · cases h

end Steps

/-- Each reading function with `room` levels left reads a text followed by `more` as it reads
the text. -/
structure Extending (env : Env) (n : Nat) (more : List Char) (room : Nat) : Prop where
  expr_ext : ∀ s, (expr env room s).Extends (expr (env.withSize n) room (s ++ more)) more
  orTail_ext : ∀ left s,
    (orTail env room left s).Extends (orTail (env.withSize n) room left (s ++ more)) more
  andExpr_ext : ∀ s, (andExpr env room s).Extends (andExpr (env.withSize n) room (s ++ more)) more
  andTail_ext : ∀ left s,
    (andTail env room left s).Extends (andTail (env.withSize n) room left (s ++ more)) more
  unary_ext : ∀ s, (unary env room s).Extends (unary (env.withSize n) room (s ++ more)) more
  primary_ext : ∀ s, (primary env room s).Extends (primary (env.withSize n) room (s ++ more)) more

section Induction

variable (env : Env) (n : Nat) {more : List Char} (hm : Stops more)
include hm

lemma extending_zero : Extending env n more 0 := by
  have hprimary := primary_extends env n hm (expr_extends_zero env n)
  have hunary : ∀ s, (unary env 0 s).Extends (unary (env.withSize n) 0 (s ++ more)) more :=
    fun s => unary_extends_zero env n hm (hprimary s)
  have handTail := andTail_extends_zero env n hm
  exact ⟨expr_extends_zero env n, orTail_extends_zero env n hm,
    andExpr_extends env n hunary handTail, handTail, hunary, hprimary⟩

/-- From `r` levels left to one more: the functions in the order in which they call one another
at the same number of levels. -/
lemma Extending.succ {r : Nat} (h : Extending env n more r) : Extending env n more (r + 1) := by
  have hexpr := expr_extends_succ env n h.andExpr_ext h.orTail_ext
  have hprimary := primary_extends env n hm hexpr
  have hunary : ∀ s, (unary env (r + 1) s).Extends
      (unary (env.withSize n) (r + 1) (s ++ more)) more :=
    fun s => unary_extends_succ env n hm h.unary_ext (hprimary s)
  have handTail := andTail_extends_succ env n hm h.unary_ext h.andTail_ext
  exact ⟨hexpr, orTail_extends_succ env n hm h.andExpr_ext h.orTail_ext,
    andExpr_extends env n hunary handTail, handTail, hunary, hprimary⟩

theorem extending (room : Nat) : Extending env n more room := by
  induction room with
  | zero => exact extending_zero env n hm
  | succ r ih => exact ih.succ env n hm

end Induction

/-! ### Rules -/

/-- What follows a `*` if it is a lone `*`: the end, a `;` or a `=`. -/
def starEnd : List Char → Option (List Char)
  | [] => some []
  | ';' :: l => some (';' :: l)
  | '=' :: l => some ('=' :: l)
  | _ => none

lemma loneStar?_val (s : List Char) :
    (loneStar? s).map Subtype.val = (eat? '*' s).bind fun t => starEnd (dropBlanks t.1) := by
  unfold loneStar?
  cases eat? '*' s with
  | none => rfl
  | some t =>
    simp only [Option.bind_some]
    split
    · rename_i h
      simp [h, starEnd]
    · rename_i l h
      simp [h, starEnd]
    · rename_i l h
      simp [h, starEnd]
    · rename_i h1 h2 h3
      cases hd : dropBlanks t.1 with
      | nil => exact absurd hd h1
      | cons d l =>
        by_cases hd1 : d = ';'
        · subst hd1
          exact absurd hd (h2 l)
        by_cases hd2 : d = '='
        · subst hd2
          exact absurd hd (h3 l)
        simp [starEnd, hd1, hd2]

section Rules

variable {more : List Char} (hm : Stops more)
include hm

lemma starEnd_append (l : List Char) : starEnd (l ++ more) = (starEnd l).map (· ++ more) := by
  cases l with
  | nil =>
    rcases hm.cases with rfl | ⟨B, rfl⟩ <;> rfl
  | cons d l =>
    by_cases hd1 : d = ';'
    · subst hd1
      rfl
    by_cases hd2 : d = '='
    · subst hd2
      rfl
    simp [starEnd, hd1, hd2]

lemma loneStar?_append (s : List Char) :
    (loneStar? (s ++ more)).map Subtype.val = (loneStar? s).map (·.1 ++ more) := by
  have hmap :
      (loneStar? s).map (·.1 ++ more) = ((loneStar? s).map Subtype.val).map (· ++ more) := by
    rw [Option.map_map]
    rfl
  rw [hmap, loneStar?_val, loneStar?_val]
  cases he : eat? '*' s with
  | none =>
    rw [eat?_append_none hm (by decide) he]
    rfl
  | some t =>
    obtain ⟨t', he', ht'⟩ := eat?_append_some hm (by decide) he
    rw [he', Option.bind_some, Option.bind_some, ht', dropBlanks_append_stops hm,
      starEnd_append hm]

lemma access_extends (env : Env) (n : Nat) (s : List Char) :
    (access env s).Extends (access (env.withSize n) (s ++ more)) more := by
  unfold access
  cases he : eat? '=' s with
  | none =>
    rw [eat?_append_none hm (by decide) he]
    intro a t h
    simp only [Reading.out, Except.ok.injEq, Prod.mk.injEq] at h ⊢
    rw [← h.1, ← h.2]
    exact ⟨rfl, dropBlanks_append_stops hm s⟩
  | some t =>
    obtain ⟨t', he', ht'⟩ := eat?_append_some hm (by decide) he
    rw [he']
    dsimp only
    intro a v h
    cases hi : ident env t.1 with
    | error e =>
      rw [hi] at h
      cases h
    | ok wu =>
      obtain ⟨word, u⟩ := wu
      have hi' := ident_extends hm env (env.withSize n) t.1 word u.1 (by rw [hi]; rfl)
      rw [← ht'] at hi'
      obtain ⟨u', hu', hu'v⟩ := Reading.eq_ok_of_out hi'
      rw [hi] at h
      rw [hu']
      dsimp only at h ⊢
      split at h
      · simp only [Reading.out, Except.ok.injEq, Prod.mk.injEq] at h ⊢
        rw [← h.1, ← h.2, hu'v]
        exact ⟨rfl, rfl⟩
      · cases h

lemma rule_extends (env : Env) (n : Nat) (s : List Char) :
    (rule env s).Extends (rule (env.withSize n) (s ++ more)) more := by
  unfold rule
  cases hl : loneStar? s with
  | none =>
    rw [Tail.none_of_map (loneStar?_append hm s) hl]
    exact ((extending env n hm maxDepth).expr_ext s).next fun e t _ =>
      (access_extends hm env n t).map _
  | some t =>
    obtain ⟨t', hl', ht'⟩ := Tail.some_of_map (loneStar?_append hm s) hl
    rw [hl']
    dsimp only
    rw [Reading.extends_widen, ht']
    exact (access_extends hm env n t.1).map _

end Rules

/-! ### The rule loop -/

section Loop

variable (env : Env) {s rest : List Char} {acc : Array (Rule String)}

lemma rules_of_nil (h : dropBlanks s = []) : rules env s acc = .ok acc.toList := by
  rw [rules]
  split
  · rfl
  · rename_i rest h'
    rw [h] at h'
    cases h'
  · rename_i c rest _ h'
    rw [h] at h'
    cases h'

lemma rules_of_semi (h : dropBlanks s = ';' :: rest) : rules env s acc = rules env rest acc := by
  rw [rules]
  split
  · rename_i h'
    rw [h] at h'
    cases h'
  · rename_i rest' h'
    rw [h] at h'
    obtain ⟨-, rfl⟩ := List.cons.inj h'
    rfl
  · rename_i c rest' hc h'
    rw [h] at h'
    obtain ⟨rfl, -⟩ := List.cons.inj h'
    exact (hc rfl).elim

lemma rules_of_rule {c : Char} (hc : c ≠ ';') (h : dropBlanks s = c :: rest) {r : Rule String}
    {t : Tail (c :: rest)} (hr : rule env (c :: rest) = .ok (r, t)) {rest' : List Char}
    (ht : dropBlanks t.1 = ';' :: rest') : rules env s acc = rules env rest' (acc.push r) := by
  rw [rules]
  split
  · rename_i h'
    rw [h] at h'
    cases h'
  · rename_i rest' h'
    rw [h] at h'
    obtain ⟨rfl, -⟩ := List.cons.inj h'
    exact (hc rfl).elim
  · rename_i c' rest'' _ h'
    rw [h] at h'
    obtain ⟨rfl, rfl⟩ := List.cons.inj h'
    rw [hr]
    dsimp only
    split
    · rename_i h''
      rw [ht] at h''
      cases h''
    · rename_i m h''
      rw [ht] at h''
      obtain ⟨-, rfl⟩ := List.cons.inj h''
      rfl
    · rename_i d m hd h''
      rw [ht] at h''
      obtain ⟨rfl, -⟩ := List.cons.inj h''
      exact (hd rfl).elim

lemma rules_of_rule_end {c : Char} (hc : c ≠ ';') (h : dropBlanks s = c :: rest)
    {r : Rule String} {t : Tail (c :: rest)} (hr : rule env (c :: rest) = .ok (r, t))
    (ht : dropBlanks t.1 = []) : rules env s acc = .ok (acc.push r).toList := by
  rw [rules]
  split
  · rename_i h'
    rw [h] at h'
    cases h'
  · rename_i rest' h'
    rw [h] at h'
    obtain ⟨rfl, -⟩ := List.cons.inj h'
    exact (hc rfl).elim
  · rename_i c' rest'' _ h'
    rw [h] at h'
    obtain ⟨rfl, rfl⟩ := List.cons.inj h'
    rw [hr]
    dsimp only
    split
    · rfl
    · rename_i m h''
      rw [ht] at h''
      cases h''
    · rename_i d m hd h''
      rw [ht] at h''
      cases h''

variable {more : List Char} (hm : Stops more)
include hm

/-- The loop at a text that, after blanks, is what follows: it goes on there. -/
lemma rules_of_stops {s : List Char} (h : dropBlanks s = more) :
    rules env s acc = rules env more acc := by
  rcases hm.cases with rfl | ⟨B, rfl⟩
  · rw [rules_of_nil env h, rules_of_nil env rfl]
  · rw [rules_of_semi env h, rules_of_semi env (dropBlanks_cons (by decide) B)]

/-- A rule whose rest, after blanks, is what follows. -/
lemma rules_of_rule_stops {c : Char} (hc : c ≠ ';') (h : dropBlanks s = c :: rest)
    {r : Rule String} {t : Tail (c :: rest)} (hr : rule env (c :: rest) = .ok (r, t))
    (ht : dropBlanks t.1 = more) : rules env s acc = rules env more (acc.push r) := by
  rcases hm.cases with rfl | ⟨B, rfl⟩
  · rw [rules_of_rule_end env hc h hr ht, rules_of_nil env rfl]
  · rw [rules_of_rule env hc h hr ht, rules_of_semi env (dropBlanks_cons (by decide) B)]

lemma dropBlanks_append_cons {s rest : List Char} {c : Char} (h : dropBlanks s = c :: rest) :
    dropBlanks (s ++ more) = c :: (rest ++ more) := by
  rw [dropBlanks_append_stops hm, h, List.cons_append]

/-- A rule the loop reads is read alike when more follows. -/
lemma rule_append (n : Nat) {s : List Char} {r : Rule String} {t : Tail s}
    (h : rule env s = .ok (r, t)) :
    ∃ t' : Tail (s ++ more), rule (env.withSize n) (s ++ more) = .ok (r, t') ∧ t'.1 = t.1 ++ more :=
  Reading.eq_ok_of_out (rule_extends hm env n s r t.1 (by rw [h]; rfl))

/-- **The rule loop reads rules one by one.** Whatever follows a text the loop reads, when it is
nothing or starts with `;`, the loop reads the same rules and goes on there, also for a text of
another length and after more rules. -/
theorem rules_append (n : Nat) (s : List Char) (acc₀ : Array (Rule String))
    {L : List (Rule String)} (h : rules env s acc₀ = .ok L) (acc : Array (Rule String)) :
    rules (env.withSize n) (s ++ more) (acc ++ acc₀) =
      rules (env.withSize n) more (acc ++ L.toArray) := by
  revert h acc L
  fun_induction rules env s acc₀ with
  | case1 s acc₀ hs =>
    intro L h acc
    cases h
    rw [Array.toArray_toList]
    exact rules_of_stops _ hm (by rw [dropBlanks_append_stops hm, hs, List.nil_append])
  | case2 s acc₀ rest hs ih =>
    intro L h acc
    rw [rules_of_semi _ (by rw [dropBlanks_append_stops hm, hs, List.cons_append])]
    exact ih h acc
  | case3 s acc₀ c rest hc hs e hr =>
    intro L h
    cases h
  | case4 s acc₀ c rest hc hs r t hr ht =>
    intro L h acc
    cases h
    obtain ⟨t', hr', ht'⟩ := rule_append env hm n hr
    rw [Array.toArray_toList, Array.append_push]
    exact rules_of_rule_stops _ hm hc (dropBlanks_append_cons hm hs) hr'
      (by rw [ht', dropBlanks_append_stops hm, ht, List.nil_append])
  | case5 s acc₀ c rest hc hs r t hr rest' ht ih =>
    intro L h acc
    obtain ⟨t', hr', ht'⟩ := rule_append env hm n hr
    rw [rules_of_rule _ hc (dropBlanks_append_cons hm hs) hr'
      (by rw [ht', dropBlanks_append_stops hm, ht, List.cons_append]), ← Array.append_push]
    exact ih h acc
  | case6 s acc₀ c rest hc hs r t hr d rest' hd ht =>
    intro L h
    cases h

end Loop

end PeerGate.Grammar
