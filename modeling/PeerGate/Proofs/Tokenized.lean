import PeerGate.Proofs.Respacing
import PeerGate.Policy.Glob

/-!
A policy text that is read is a sequence of tokens.

Each reading function, run on a text, leaves a rest; when that rest reads as tokens from the place
after what was read, the whole text reads as tokens from the place before (`Reading.Tokens`).
So the relation `Respaced` holds between every text that is read and the text itself: blanks may
be added around each of its tokens and each bare argument written quoted.

* `Tokenized`: a text that reads as tokens from a place.
* `ident_tokens`, `arg_tokens`, `call_tokens`, `Tokening` (the six expression readers, by
  induction on the levels left), `access_tokens`, `rule_tokens`, `rules_tokens`.
* `parse_tokenized`: a text that is read reads as tokens from its start.
* `parse_respaced`: **blanks and quotes around the tokens of a policy text do not change its
  rules.**
-/

namespace PeerGate.Grammar

open Text

/-- The text `s` reads as tokens from place `p`. -/
def Tokenized (p : Place) (s : List Char) : Prop :=
  Respaced p s s

/-- Blanks before a text that reads as tokens. -/
theorem Tokenized.of_dropBlanks {p : Place} {s : List Char} (h : Tokenized p (dropBlanks s)) :
    Tokenized p s := by
  induction s with
  | nil => exact h
  | cons c s ih =>
    cases hc : isBlank c with
    | false => rwa [dropBlanks_cons hc] at h
    | true =>
      rw [dropBlanks_blank hc] at h
      exact .blank hc (ih h)

theorem Tokenized.blanks {p : Place} {b s : List Char} (hb : ∀ c ∈ b, isBlank c = true)
    (h : Tokenized p s) : Tokenized p (b ++ s) := by
  induction b with
  | nil => exact h
  | cons c b ih =>
    rw [List.forall_mem_cons] at hb
    exact .blank hb.1 (ih hb.2)

section Tokens

variable {s : List Char} {β γ : Type}

/-- Whenever the reading `x` of `s` leaves a rest of which `R` holds, `s` reads as tokens from
place `p`. -/
def Reading.Tokens (x : Reading s β) (p : Place) (R : List Char → Prop) : Prop :=
  ∀ b t, x.out = .ok (b, t) → R t → Tokenized p s

lemma Reading.Tokens.next {p q : Place} {R : List Char → Prop} {x : Reading s β}
    {k : β → (t : List Char) → Reading t γ} (hx : x.Tokens p (Tokenized q))
    (hk : ∀ b t, x.out = .ok (b, t) → (k b t).Tokens q R) : (x.next k).Tokens p R := by
  intro c u h hu
  obtain ⟨b, t, hxo, hko⟩ := Reading.out_next_eq_ok h
  exact hx b t hxo (hk b t hxo c u hko hu)

lemma Reading.Tokens.map {p : Place} {R : List Char → Prop} {x : Reading s β}
    (hx : x.Tokens p R) (f : β → γ) : (x.map f).Tokens p R := by
  intro c u h hu
  obtain ⟨b, hxo, -⟩ := Reading.out_map_eq_ok h
  exact hx b u hxo hu

lemma Reading.tokens_error {p : Place} {R : List Char → Prop} (e : SpecError) :
    Reading.Tokens (.error e : Reading s β) p R := by
  intro b t h
  cases h

/-- A text reads as tokens when it starts with a token of one character and the rest does. -/
lemma tokenized_of_eat? {p q : Place} {c : Char} (hm : p.mark c = some q) {t : Tail s}
    (he : eat? c s = some t) (ht : Tokenized q t.1) : Tokenized p s :=
  Tokenized.of_dropBlanks (by rw [dropBlanks_of_eat? he]; exact .mark hm ht)

/-- A reading after a token of one character. -/
lemma Reading.Tokens.widen_eat? {p q : Place} {c : Char} (hm : p.mark c = some q) {t : Tail s}
    (he : eat? c s = some t) {R : List Char → Prop} {x : Reading t.1 β} (hx : x.Tokens q R) :
    (x.widen t.2).Tokens p R := by
  intro b u h hu
  rw [Reading.out_widen] at h
  exact tokenized_of_eat? hm he (hx b u h hu)

/-- A reading after the blanks. -/
lemma Reading.Tokens.widen_skip {p : Place} {R : List Char → Prop} {x : Reading (skip s).1 β}
    (hx : x.Tokens p R) : (x.widen (skip s).2).Tokens p R := by
  intro b u h hu
  rw [Reading.out_widen] at h
  exact Tokenized.of_dropBlanks (hx b u h hu)

end Tokens

/-! ### Tokens -/

section Words

variable {s : List Char}

lemma expect_tokens (env : Env) {p q : Place} {c : Char} (hm : p.mark c = some q) :
    (expect env c s).Tokens p (Tokenized q) := by
  intro u t h ht
  unfold expect at h
  cases he : eat? c s with
  | none =>
    rw [he] at h
    cases h
  | some t₀ =>
    rw [he] at h
    simp only [Reading.out, Except.ok.injEq, Prod.mk.injEq] at h
    obtain ⟨-, rfl⟩ := h
    exact tokenized_of_eat? hm he ht

lemma ident_tokens (env : Env) : (ident env s).Tokens .rules (Tokenized .name) := by
  intro w t hw ht
  obtain ⟨name, hn, hr, hd, -⟩ := dropBlanks_of_ident hw
  exact Tokenized.of_dropBlanks (by rw [hd]; exact .name hn hr ht)

/-- What a quoted argument reads: a quoted body up to its closing quote. -/
lemma quotedBody_of_quotedFrom {env : Env} {q : Char} {start acc : List Char}
    {v : String} {t : List Char} (h : (quotedFrom env q start acc s).out = .ok (v, t)) :
    ∃ body, QuotedBody q body ∧ s = body ++ q :: t := by
  fun_induction quotedFrom env q start acc s generalizing v with
  | case1 acc => cases h
  | case2 acc => cases h
  | case3 acc c rest ih =>
    rw [Reading.out_widen] at h
    obtain ⟨body, hb, rfl⟩ := ih h
    exact ⟨'\\' :: c :: body, .escaped hb, rfl⟩
  | case4 acc rest h1 h2 =>
    simp only [Reading.out, Except.ok.injEq, Prod.mk.injEq] at h
    obtain ⟨-, rfl⟩ := h
    exact ⟨[], .nil, rfl⟩
  | case5 acc c rest h1 h2 hcq ih =>
    -- a character of the body: no backslash, since the escaped case comes first
    have hc : c ≠ '\\' := by
      intro hc
      cases rest with
      | nil => exact h1 hc rfl
      | cons d r => exact h2 d r hc rfl
    rw [Reading.out_widen] at h
    obtain ⟨body, hb, rfl⟩ := ih h
    exact ⟨c :: body, .plain hcq hc hb, rfl⟩

/-- A text that starts with a bare argument, read as the longest run of characters that do not
end one. -/
lemma tokenized_bare (hne : s.takeWhile (fun d => !endsBare d) ≠ [])
    (ht : Tokenized .close (s.dropWhile fun d => !endsBare d)) : Tokenized .arg s := by
  have hbare : ∀ d ∈ s.takeWhile (fun d => !endsBare d), endsBare d = false := by
    intro d hd
    simpa using List.all_eq_true.1 List.all_takeWhile d hd
  have hend : ∀ d ∈ (s.dropWhile fun d => !endsBare d).head?, endsBare d = true := by
    intro d hd
    have hnot := List.head?_dropWhile_not (fun d => !endsBare d) s
    rw [hd] at hnot
    simpa using hnot
  have htok := Respaced.bare hne hbare hend (.inl rfl) ht
  rwa [List.takeWhile_append_dropWhile] at htok

lemma arg_tokens (env : Env) (hs : Lead s) : (arg env s).Tokens .arg (Tokenized .close) := by
  intro a t ha ht
  cases s with
  | nil =>
    rw [arg.eq_def] at ha
    cases ha
  | cons c rest =>
    by_cases h1 : c = ')'
    · -- no argument: the `)` is left for the call
      subst h1
      rw [arg_close] at ha
      simp only [Except.ok.injEq, Prod.mk.injEq] at ha
      obtain ⟨-, rfl⟩ := ha
      obtain ⟨r', hr', hrest⟩ :=
        ht.mark_inv (by decide : Place.close.mark ')' = some .rules) (lead_cons (by decide) _)
      obtain rfl := (List.cons.inj hr').2
      exact .mark (by decide) hrest
    have hquote : ∀ q, IsQuote q → c = q → Tokenized .arg (c :: rest) := by
      rintro q hq rfl
      rw [arg_quote env hq] at ha
      obtain ⟨v, hv, -⟩ := Reading.out_map_eq_ok ha
      obtain ⟨body, hb, rfl⟩ := quotedBody_of_quotedFrom hv
      exact .quoted hq hb ht
    by_cases h2 : c = '\''
    · exact hquote _ (.inl rfl) h2
    by_cases h3 : c = '"'
    · exact hquote _ (.inr rfl) h3
    -- a bare argument: the longest run of characters that do not end one
    rw [arg_other env h1 h2 h3] at ha
    split at ha
    · cases ha
    · rename_i hne
      simp only [Except.ok.injEq, Prod.mk.injEq] at ha
      obtain ⟨-, rfl⟩ := ha
      exact tokenized_bare (by simpa using hne) ht

lemma call_tokens (env : Env) : (call env s).Tokens .rules (Tokenized .rules) := by
  unfold call
  refine (ident_tokens env).next fun name t₁ _ => ?_
  refine (expect_tokens env (by decide : Place.name.mark '(' = some .arg)).next fun _ t₂ _ => ?_
  refine Reading.Tokens.widen_skip ?_
  refine (arg_tokens env (lead_dropBlanks t₂)).next fun a t₄ _ => ?_
  refine (expect_tokens env (by decide : Place.close.mark ')' = some .rules)).next
    fun _ t₅ _ => ?_
  intro x t hx ht
  split at hx
  · cases hx
  · simp only [Reading.out, Except.ok.injEq, Prod.mk.injEq] at hx
    obtain ⟨-, rfl⟩ := hx
    exact ht

end Words

/-! ### Expressions -/

section Steps

variable (env : Env)

lemma stop_tokens {left : Expr String} (s : List Char) :
    Reading.Tokens (.ok (left, skip s) : Reading s (Expr String)) .rules (Tokenized .rules) := by
  intro b t hx ht
  simp only [Reading.out, Except.ok.injEq, Prod.mk.injEq] at hx
  obtain ⟨-, rfl⟩ := hx
  exact Tokenized.of_dropBlanks ht

lemma expr_tokens_zero (s : List Char) : (expr env 0 s).Tokens .rules (Tokenized .rules) := by
  rw [expr]
  exact Reading.tokens_error _

lemma expr_tokens_succ {r : Nat} (ha : ∀ s, (andExpr env r s).Tokens .rules (Tokenized .rules))
    (ho : ∀ left s, (orTail env r left s).Tokens .rules (Tokenized .rules)) (s : List Char) :
    (expr env (r + 1) s).Tokens .rules (Tokenized .rules) := by
  rw [expr]
  exact (ha s).next fun left t _ => ho left t

lemma orTail_tokens_zero (left : Expr String) (s : List Char) :
    (orTail env 0 left s).Tokens .rules (Tokenized .rules) := by
  rw [orTail]
  cases he : eat? '|' s with
  | none => exact stop_tokens s
  | some t => exact Reading.tokens_error _

lemma orTail_tokens_succ {r : Nat} (ha : ∀ s, (andExpr env r s).Tokens .rules (Tokenized .rules))
    (ho : ∀ left s, (orTail env r left s).Tokens .rules (Tokenized .rules))
    (left : Expr String) (s : List Char) :
    (orTail env (r + 1) left s).Tokens .rules (Tokenized .rules) := by
  rw [orTail]
  cases he : eat? '|' s with
  | none => exact stop_tokens s
  | some t =>
    exact Reading.Tokens.widen_eat? (by decide : Place.rules.mark '|' = some .rules) he
      ((ha t.1).next fun right u _ => ho _ u)

lemma andExpr_tokens {room : Nat} (hu : ∀ s, (unary env room s).Tokens .rules (Tokenized .rules))
    (ht : ∀ left s, (andTail env room left s).Tokens .rules (Tokenized .rules)) (s : List Char) :
    (andExpr env room s).Tokens .rules (Tokenized .rules) := by
  rw [andExpr]
  exact (hu s).next fun left t _ => ht left t

lemma andTail_tokens_zero (left : Expr String) (s : List Char) :
    (andTail env 0 left s).Tokens .rules (Tokenized .rules) := by
  rw [andTail]
  cases he : eat? '&' s with
  | none => exact stop_tokens s
  | some t => exact Reading.tokens_error _

lemma andTail_tokens_succ {r : Nat} (hu : ∀ s, (unary env r s).Tokens .rules (Tokenized .rules))
    (ht : ∀ left s, (andTail env r left s).Tokens .rules (Tokenized .rules))
    (left : Expr String) (s : List Char) :
    (andTail env (r + 1) left s).Tokens .rules (Tokenized .rules) := by
  rw [andTail]
  cases he : eat? '&' s with
  | none => exact stop_tokens s
  | some t =>
    exact Reading.Tokens.widen_eat? (by decide : Place.rules.mark '&' = some .rules) he
      ((hu t.1).next fun right v _ => ht _ v)

lemma unary_tokens_zero {s : List Char} (hp : (primary env 0 s).Tokens .rules (Tokenized .rules)) :
    (unary env 0 s).Tokens .rules (Tokenized .rules) := by
  rw [unary]
  cases he : eat? '!' s with
  | none => exact hp
  | some t => exact Reading.tokens_error _

lemma unary_tokens_succ {r : Nat} (hu : ∀ s, (unary env r s).Tokens .rules (Tokenized .rules))
    {s : List Char} (hp : (primary env (r + 1) s).Tokens .rules (Tokenized .rules)) :
    (unary env (r + 1) s).Tokens .rules (Tokenized .rules) := by
  rw [unary]
  cases he : eat? '!' s with
  | none => exact hp
  | some t =>
    exact Reading.Tokens.widen_eat? (by decide : Place.rules.mark '!' = some .rules) he
      ((hu t.1).map Expr.not)

lemma primary_tokens {room : Nat}
    (he : ∀ s, (expr env room s).Tokens .rules (Tokenized .rules)) (s : List Char) :
    (primary env room s).Tokens .rules (Tokenized .rules) := by
  intro e t hp ht
  apply Tokenized.of_dropBlanks
  rw [primary] at hp
  split at hp
  · -- a bracket: the expression inside, then `)`
    rename_i rest hs
    rw [Reading.out_widen] at hp
    show Tokenized .rules (skip s).1
    rw [hs]
    exact .mark (by decide) (((he rest).next fun inner u _ =>
      (expect_tokens env (by decide : Place.rules.mark ')' = some .rules)).map fun _ => inner)
        e t hp ht)
  · -- a lone `*` inside an expression
    rename_i rest hs
    simp only [Reading.out, Except.ok.injEq, Prod.mk.injEq] at hp
    obtain ⟨-, rfl⟩ := hp
    show Tokenized .rules (skip s).1
    rw [hs]
    exact .mark (by decide) ht
  · -- a call
    rename_i c rest _ _ hs
    split at hp
    · rw [Reading.out_widen] at hp
      exact call_tokens env e t hp ht
    · cases hp
  · cases hp

end Steps

/-- Each expression reader with `room` levels left reads only texts of tokens. -/
structure Tokening (env : Env) (room : Nat) : Prop where
  expr_t : ∀ s, (expr env room s).Tokens .rules (Tokenized .rules)
  orTail_t : ∀ left s, (orTail env room left s).Tokens .rules (Tokenized .rules)
  andExpr_t : ∀ s, (andExpr env room s).Tokens .rules (Tokenized .rules)
  andTail_t : ∀ left s, (andTail env room left s).Tokens .rules (Tokenized .rules)
  unary_t : ∀ s, (unary env room s).Tokens .rules (Tokenized .rules)
  primary_t : ∀ s, (primary env room s).Tokens .rules (Tokenized .rules)

section Induction

variable (env : Env)

lemma tokening_zero : Tokening env 0 := by
  have hprimary := primary_tokens env (expr_tokens_zero env)
  have hunary : ∀ s, (unary env 0 s).Tokens .rules (Tokenized .rules) :=
    fun s => unary_tokens_zero env (hprimary s)
  have handTail := andTail_tokens_zero env
  exact ⟨expr_tokens_zero env, orTail_tokens_zero env, andExpr_tokens env hunary handTail,
    handTail, hunary, hprimary⟩

/-- From `r` levels left to one more, in the order in which the readers call one another. -/
lemma Tokening.succ {r : Nat} (h : Tokening env r) : Tokening env (r + 1) := by
  have hexpr := expr_tokens_succ env h.andExpr_t h.orTail_t
  have hprimary := primary_tokens env hexpr
  have hunary : ∀ s, (unary env (r + 1) s).Tokens .rules (Tokenized .rules) :=
    fun s => unary_tokens_succ env h.unary_t (hprimary s)
  have handTail := andTail_tokens_succ env h.unary_t h.andTail_t
  exact ⟨hexpr, orTail_tokens_succ env h.andExpr_t h.orTail_t,
    andExpr_tokens env hunary handTail, handTail, hunary, hprimary⟩

theorem tokening (room : Nat) : Tokening env room := by
  induction room with
  | zero => exact tokening_zero env
  | succ r ih => exact ih.succ env

end Induction

/-! ### Rules -/

section Rules

variable {s : List Char}

/-- After a rule, the text reads as tokens both among the rules and after a word. -/
def RuleRest (t : List Char) : Prop :=
  Tokenized .rules t ∧ Tokenized .name t

lemma loneStar?_tokens {t : Tail s} (hl : loneStar? s = some t) (ht : Tokenized .rules t.1) :
    Tokenized .rules s := by
  have hv := loneStar?_val s
  rw [hl, Option.map_some] at hv
  cases he : eat? '*' s with
  | none =>
    rw [he] at hv
    cases hv
  | some t₀ =>
    rw [he, Option.bind_some] at hv
    rw [eq_of_starEnd hv.symm] at ht
    exact tokenized_of_eat? (by decide) he (Tokenized.of_dropBlanks ht)

lemma access_tokens (env : Env) : (access env s).Tokens .rules RuleRest := by
  intro a v ha hv
  unfold access at ha
  cases he : eat? '=' s with
  | none =>
    rw [he] at ha
    simp only [Reading.out, Except.ok.injEq, Prod.mk.injEq] at ha
    obtain ⟨-, rfl⟩ := ha
    exact Tokenized.of_dropBlanks hv.1
  | some t =>
    rw [he] at ha
    dsimp only at ha
    cases hi : ident env t.1 with
    | error e =>
      rw [hi] at ha
      cases ha
    | ok wu =>
      obtain ⟨word, u⟩ := wu
      rw [hi] at ha
      dsimp only at ha
      split at ha
      · simp only [Reading.out, Except.ok.injEq, Prod.mk.injEq] at ha
        obtain ⟨-, rfl⟩ := ha
        -- the word after `=`, then the rest after a word
        have hword := ident_tokens env word u.1 (by rw [hi]; rfl) hv.2
        exact tokenized_of_eat? (by decide : Place.rules.mark '=' = some .rules) he hword
      · cases ha

lemma rule_tokens (env : Env) : (rule env s).Tokens .rules RuleRest := by
  unfold rule
  cases hl : loneStar? s with
  | none =>
    exact ((tokening env maxDepth).expr_t s).next fun e t _ => (access_tokens env).map _
  | some t =>
    dsimp only
    intro r v h hv
    rw [Reading.out_widen] at h
    obtain ⟨a, ha, -⟩ := Reading.out_map_eq_ok h
    exact loneStar?_tokens hl (access_tokens env a v ha hv)

/-- The end of the text after a rule. -/
lemma ruleRest_of_nil {t : List Char} (ht : dropBlanks t = []) : RuleRest t :=
  ⟨Tokenized.of_dropBlanks (by rw [ht]; exact .done _),
    Tokenized.of_dropBlanks (by rw [ht]; exact .done _)⟩

/-- The `;` after a rule, and more rules. -/
lemma ruleRest_of_semi {t more : List Char} (ht : dropBlanks t = ';' :: more)
    (hmore : Tokenized .rules more) : RuleRest t := by
  have hsemi : Tokenized .rules (';' :: more) := .mark (by decide) hmore
  exact ⟨Tokenized.of_dropBlanks (by rw [ht]; exact hsemi),
    Tokenized.of_dropBlanks (by rw [ht]; exact .leave (by decide) (by decide) hsemi)⟩

/-- **The rules the loop reads are a text of tokens.** -/
theorem rules_tokens (env : Env) {acc : Array (Rule String)} {L : List (Rule String)}
    (h : rules env s acc = .ok L) : Tokenized .rules s := by
  revert L
  fun_induction rules env s acc with
  | case1 s acc hs =>
    intro L _
    exact Tokenized.of_dropBlanks (by rw [hs]; exact .done _)
  | case2 s acc rest hs ih =>
    intro L h
    exact Tokenized.of_dropBlanks (by rw [hs]; exact .mark (by decide) (ih h))
  | case3 s acc c rest hc hs e hr =>
    intro L h
    cases h
  | case4 s acc c rest hc hs r t hr ht =>
    intro L _
    have hrule := rule_tokens env r t.1 (by rw [hr]; rfl) (ruleRest_of_nil ht)
    exact Tokenized.of_dropBlanks (by rw [hs]; exact hrule)
  | case5 s acc c rest hc hs r t hr more ht ih =>
    intro L h
    have hrule := rule_tokens env r t.1 (by rw [hr]; rfl) (ruleRest_of_semi ht (ih h))
    exact Tokenized.of_dropBlanks (by rw [hs]; exact hrule)
  | case6 s acc c rest hc hs r t hr d more hd ht =>
    intro L h
    cases h

end Rules

/-! ### The whole text -/

/-- A version part that trims to `1` is `1` with blanks around it. -/
theorem eq_of_trimList_eq_one {l : List Char} (h : trimList l = ['1']) :
    ∃ b₁ b₂, (∀ c ∈ b₁, isBlank c = true) ∧ (∀ c ∈ b₂, isBlank c = true) ∧
      l = b₁ ++ '1' :: b₂ := by
  have hm : dropBlanks (dropBlanks l).reverse = ['1'] := by
    rw [trimList] at h
    simpa using congrArg List.reverse h
  have hblank : ∀ m : List Char, ∀ c ∈ m.takeWhile isBlank, isBlank c = true :=
    fun m => List.all_eq_true.1 List.all_takeWhile
  refine ⟨l.takeWhile isBlank, ((dropBlanks l).reverse.takeWhile isBlank).reverse,
    hblank l, fun c hc => hblank _ c (List.mem_reverse.1 hc), ?_⟩
  -- the blanks before the `1`, and those after it read backwards
  have hrev : (dropBlanks l).reverse = (dropBlanks l).reverse.takeWhile isBlank ++ ['1'] := by
    rw [← hm]
    exact List.takeWhile_append_dropWhile.symm
  have hafter : dropBlanks l = '1' :: ((dropBlanks l).reverse.takeWhile isBlank).reverse := by
    simpa using congrArg List.reverse hrev
  calc l = l.takeWhile isBlank ++ dropBlanks l := List.takeWhile_append_dropWhile.symm
    _ = _ := congrArg (l.takeWhile isBlank ++ ·) hafter

/-- A text whose version part trims to `1`, followed by what may follow a version. -/
lemma tokenized_version {l : List Char} (hv : trimList (l.takeWhile (· != ';')) = ['1'])
    (hrest : Tokenized .versionEnd (l.dropWhile (· != ';'))) : Tokenized .version l := by
  obtain ⟨b₁, b₂, hb₁, hb₂, hver⟩ := eq_of_trimList_eq_one hv
  have hall : l.takeWhile (· != ';') ++ l.dropWhile (· != ';') = l :=
    List.takeWhile_append_dropWhile
  rw [hver, List.append_assoc, List.cons_append] at hall
  rw [← hall]
  exact Tokenized.blanks hb₁ (.mark (by decide) (Tokenized.blanks hb₂ hrest))

/-- After the version part: nothing, or the first `;` and a text of rules. -/
lemma tokenized_versionEnd {l : List Char}
    (hbody : ∀ d body, l.dropWhile (· != ';') = d :: body → Tokenized .rules body) :
    Tokenized .versionEnd (l.dropWhile (· != ';')) := by
  have hnot := List.head?_dropWhile_not (· != ';') l
  cases hl : l.dropWhile (· != ';') with
  | nil => exact .done _
  | cons d body =>
    rw [hl] at hnot
    have hd : d = ';' := by simpa using hnot
    subst hd
    exact .mark (by decide) (hbody _ body hl)

/-- **A text that is read is a text of tokens.** -/
theorem parse_tokenized {G : Globs} {spec : String} {actions : List ActionSpec}
    {accounts : Accounts} {es : List (Rule String)} (h : parse G spec actions accounts = .ok es) :
    Tokenized .version spec.toList := by
  unfold parse at h
  cases hc : checkActions actions with
  | error err =>
    rw [hc] at h
    cases h
  | ok u =>
    rw [hc] at h
    simp only [bind, Except.bind, List.span_eq_takeWhile_dropWhile] at h
    split at h
    · cases h
    · rename_i hv
      refine tokenized_version (Classical.not_not.1 hv) (tokenized_versionEnd ?_)
      -- the rules after the first `;` are what the loop reads
      intro d body hbody
      rw [hbody] at h
      exact rules_tokens _ h

/-- **Blanks and quotes around the tokens of a policy text do not change its rules.** A policy
text that is read is a text of tokens, so blanks may be added before or after each of them and
each bare argument written quoted; every text so obtained reads as the same rules. -/
theorem parse_respaced {G : Globs} {spec : String} {actions : List ActionSpec}
    {accounts : Accounts} {es : List (Rule String)} (h : parse G spec actions accounts = .ok es) :
    Respaced .version spec.toList spec.toList ∧
      ∀ spec' : String, Respaced .version spec.toList spec'.toList →
        parse G spec' actions accounts = .ok es :=
  ⟨parse_tokenized h, fun _ hr => parse_of_respaced h hr⟩

/-- A call with a bare argument and a word after `=`: the rules are read, so every respacing of
the text reads the same. -/
theorem parse_respaced_call :
    parse Glob.library "1;a(x)=deny" [⟨"a", 1, 1⟩] (.tables [] []) =
        .ok [⟨some (.custom 1 (some "x")), .deny⟩] ∧
      Respaced .version "1;a(x)=deny".toList "1;a(x)=deny".toList ∧
      ∀ spec' : String, Respaced .version "1;a(x)=deny".toList spec'.toList →
        parse Glob.library spec' [⟨"a", 1, 1⟩] (.tables [] []) =
          .ok [⟨some (.custom 1 (some "x")), .deny⟩] := by
  have h : parse Glob.library "1;a(x)=deny" [⟨"a", 1, 1⟩] (.tables [] []) =
      .ok [⟨some (.custom 1 (some "x")), .deny⟩] := by
    decide +kernel
  exact ⟨h, parse_respaced h⟩

end PeerGate.Grammar
