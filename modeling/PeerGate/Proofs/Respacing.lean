import Mathlib.Data.List.TakeDrop
import PeerGate.Proofs.Spacing

/-!
Blanks between tokens, and quotes around bare arguments, do not change what a policy text reads.

Each reading function is run on two texts related by `Respaced`: whatever it reads from the first,
it reads from the second, and the rests are related again from the place after what was read.
The length of the whole text differs between the two, and only the places that faults name depend
on it (`callExpr_withSize`).

* `Reading.Respaces`: what one reading gives, another gives with related rests.
* `eat?_respaced`, `ident_respaced`, `arg_respaced`, `call_respaced`: one token or a call.
* `Respacing`: the six expression readers at once, by induction on the levels left
  (`respacing`); then `loneStar?_respaced`, `access_respaced` and `rule_respaced`.
* `rules_respaced`, `parse_of_respaced`: **a respaced text reads as the text does.**
-/

namespace PeerGate.Grammar

open Text

section Respaces

variable {s s' : List Char} {β γ : Type}

/-- Whatever the reading `x` of a text gives, the reading `y` of another text gives as well, with
rests related by `R`. -/
def Reading.Respaces (x : Reading s β) (y : Reading s' β) (R : List Char → List Char → Prop) :
    Prop :=
  ∀ b t, x.out = .ok (b, t) → ∃ t', y.out = .ok (b, t') ∧ R t t'

lemma Reading.Respaces.next {R S : List Char → List Char → Prop} {x : Reading s β}
    {y : Reading s' β} {k : β → (t : List Char) → Reading t γ}
    {k' : β → (t : List Char) → Reading t γ} (hxy : x.Respaces y R)
    (hk : ∀ b t t', x.out = .ok (b, t) → R t t' → (k b t).Respaces (k' b t') S) :
    (x.next k).Respaces (y.next k') S := by
  intro c v h
  obtain ⟨b, t, hx, hkb⟩ := Reading.out_next_eq_ok h
  obtain ⟨t', hy, ht⟩ := hxy b t hx
  rw [Reading.out_next_of_ok hy]
  exact hk b t t' hx ht c v hkb

lemma Reading.Respaces.map {R : List Char → List Char → Prop} {x : Reading s β}
    {y : Reading s' β} (hxy : x.Respaces y R) (f : β → γ) :
    (x.map f).Respaces (y.map f) R := by
  intro c v h
  obtain ⟨b, hx, rfl⟩ := Reading.out_map_eq_ok h
  obtain ⟨t', hy, ht⟩ := hxy b v hx
  exact ⟨t', by rw [Reading.out_map, hy]; rfl, ht⟩

@[simp] lemma Reading.respaces_widen {R : List Char → List Char → Prop} {t t' : List Char}
    {x : Reading t β} {y : Reading t' β} (h : t.length ≤ s.length)
    (h' : t'.length ≤ s'.length) :
    (x.widen h).Respaces (y.widen h') R ↔ x.Respaces y R := by
  simp only [Reading.Respaces, Reading.out_widen]

lemma Reading.respaces_error {R : List Char → List Char → Prop} (e : SpecError)
    (y : Reading s' β) : Reading.Respaces (.error e : Reading s β) y R := by
  intro b t h
  cases h

end Respaces

/-! ### Tokens -/

section Tokens

variable {p q : Place} {c : Char} {s s' : List Char}

lemma dropBlanks_of_eat? {t : Tail s} (h : eat? c s = some t) : dropBlanks s = c :: t.1 := by
  unfold eat? at h
  split at h
  · rename_i d rest hd
    split at h
    · rename_i hdc
      cases h
      subst hdc
      exact hd
    · cases h
  · cases h

lemma eat?_of_dropBlanks {r : List Char} (h : dropBlanks s = c :: r) :
    ∃ t, eat? c s = some t ∧ t.1 = r := by
  unfold eat?
  split
  · rename_i d rest hd
    rw [h] at hd
    obtain ⟨rfl, rfl⟩ := List.cons.inj hd
    exact ⟨_, if_pos rfl, rfl⟩
  · rename_i hd
    rw [h] at hd
    cases hd

/-- A token of one character is eaten from both texts. -/
lemma eat?_respaced (hm : p.mark c = some q) (h : Respaced p s s') {t : Tail s}
    (he : eat? c s = some t) : ∃ t', eat? c s' = some t' ∧ Respaced q t.1 t'.1 := by
  have hd := h.dropBlanks
  rw [dropBlanks_of_eat? he] at hd
  obtain ⟨r', hr', hrel⟩ := hd.mark_inv hm (lead_dropBlanks s')
  obtain ⟨t', he', ht'⟩ := eat?_of_dropBlanks hr'
  exact ⟨t', he', ht' ▸ hrel⟩

/-- A character missing after the blanks of one text is missing from the other. -/
lemma eat?_respaced_none (hp : p ≠ .arg) (h : Respaced p s s') (he : eat? c s = none) :
    eat? c s' = none := by
  have hhead := h.dropBlanks.head?_eq hp (lead_dropBlanks s) (lead_dropBlanks s')
  have hv := eat?_val c s
  rw [he, Option.map_none] at hv
  apply eat?_eq_none
  rw [hhead]
  intro hc
  rw [if_pos hc] at hv
  cases hv

/-- Past the blanks, the second text starts as the first one does, and the two are related
there. -/
lemma dropBlanks_respaced_cons (hp : p ≠ .arg) (h : Respaced p s s') {rest : List Char}
    (hd : dropBlanks s = c :: rest) :
    ∃ rest', dropBlanks s' = c :: rest' ∧ Respaced p (c :: rest) (c :: rest') := by
  have hrel := h.dropBlanks
  have hhead := hrel.head?_eq hp (lead_dropBlanks s) (lead_dropBlanks s')
  rw [hd] at hhead
  obtain ⟨rest', hs'⟩ := List.head?_eq_some_iff.1 hhead
  rw [hd, hs'] at hrel
  exact ⟨rest', hs', hrel⟩

lemma dropBlanks_respaced_nil (hp : p ≠ .arg) (h : Respaced p s s') (hd : dropBlanks s = []) :
    dropBlanks s' = [] := by
  have hhead := h.dropBlanks.head?_eq hp (lead_dropBlanks s) (lead_dropBlanks s')
  rw [hd] at hhead
  exact List.head?_eq_none_iff.1 hhead

lemma expect_respaced (env env' : Env) (hm : p.mark c = some q) (h : Respaced p s s') :
    (expect env c s).Respaces (expect env' c s') (Respaced q) := by
  intro u t hx
  unfold expect at hx ⊢
  cases he : eat? c s with
  | none =>
    rw [he] at hx
    cases hx
  | some t₀ =>
    rw [he] at hx
    obtain ⟨t', he', ht'⟩ := eat?_respaced hm h he
    rw [he']
    simp only [Reading.out, Except.ok.injEq, Prod.mk.injEq] at hx ⊢
    obtain ⟨-, rfl⟩ := hx
    exact ⟨t'.1, ⟨trivial, rfl⟩, ht'⟩

/-- What `ident` reads: a name after blanks, up to the first character that cannot continue
it. -/
lemma dropBlanks_of_ident {env : Env} {w : String} {t : List Char}
    (h : (ident env s).out = .ok (w, t)) :
    ∃ name, isIdent name = true ∧ (∀ c ∈ t.head?, identChar c = false) ∧
      dropBlanks s = name ++ t ∧ w = String.ofList name := by
  unfold ident at h
  split at h
  · rename_i c rest hd
    split at h
    · rename_i hc
      simp only [Reading.out, Except.ok.injEq, Prod.mk.injEq] at h
      obtain ⟨rfl, rfl⟩ := h
      refine ⟨(c :: rest).takeWhile identChar, ?_, ?_, ?_, rfl⟩
      · rw [List.takeWhile_cons, if_pos (identChar_of_identStart hc)]
        simp only [isIdent, hc, Bool.true_and, List.all_takeWhile]
      · intro d hd
        have hnot := List.head?_dropWhile_not identChar (c :: rest)
        rw [hd] at hnot
        exact hnot
      · rw [hd, List.takeWhile_append_dropWhile]
    · cases h
  · cases h

/-- A name after blanks is read up to the first character that cannot continue it. -/
lemma ident_of_dropBlanks (env : Env) {name rest : List Char} (hd : dropBlanks s = name ++ rest)
    (hn : isIdent name = true) (hr : ∀ c ∈ rest.head?, identChar c = false) :
    (ident env s).out = .ok (String.ofList name, rest) := by
  obtain ⟨c, cs, rfl, hc⟩ := isIdent_head hn
  have htake := takeWhile_append_stop (identChar_of_isIdent hn) hr
  have hdrop := dropWhile_append_stop (identChar_of_isIdent hn) hr
  unfold ident
  split
  · rename_i d ds h
    rw [hd, List.cons_append] at h
    obtain ⟨rfl, rfl⟩ := List.cons.inj h
    rw [if_pos hc]
    simp only [Reading.out, ← List.cons_append, htake, hdrop]
  · rename_i h
    rw [hd] at h
    cases h

lemma ident_respaced (env env' : Env) (h : Respaced .rules s s') :
    (ident env s).Respaces (ident env' s') (Respaced .name) := by
  intro w t hw
  obtain ⟨name, hn, hr, hd, rfl⟩ := dropBlanks_of_ident hw
  have hrel := h.dropBlanks
  rw [hd] at hrel
  obtain ⟨t', hd', ht⟩ := hrel.name_inv hn hr (lead_dropBlanks s')
  -- the second name stops too: at an added blank, or where the first one stops
  have hr' : ∀ c ∈ t'.head?, identChar c = false := by
    intro c hc
    rcases ht.head_cases (by decide) c hc with hb | hc'
    · exact identChar_of_isBlank hb
    · exact hr c hc'
  exact ⟨t', ident_of_dropBlanks env' hd' hn hr', ht⟩

end Tokens

/-! ### Arguments -/

section Args

lemma isQuote_ne_backslash {q : Char} (hq : IsQuote q) : q ≠ '\\' := by
  rcases hq with rfl | rfl <;> decide

/-- A quoted body is read whole to its closing quote, whatever follows it and wherever it
stands. -/
lemma quotedFrom_body {q : Char} (hq : q ≠ '\\') {body : List Char} (hb : QuotedBody q body)
    (acc : List Char) :
    ∃ v, ∀ env start rest,
      (quotedFrom env q start acc (body ++ q :: rest)).out = .ok (v, rest) := by
  induction hb generalizing acc with
  | nil =>
    refine ⟨String.ofList acc.reverse, fun env start rest => ?_⟩
    rw [List.nil_append, quotedFrom.eq_4 env q start acc q rest (fun h => absurd h hq)
      (fun _ _ h => absurd h hq), if_pos rfl]
    rfl
  | @plain c cs hcq hcb _ ih =>
    obtain ⟨v, hv⟩ := ih (c :: acc)
    refine ⟨v, fun env start rest => ?_⟩
    rw [List.cons_append, quotedFrom.eq_4 env q start acc c _ (fun h => absurd h hcb)
      (fun _ _ h => absurd h hcb), if_neg hcq, Reading.out_widen, hv]
  | @escaped c cs _ ih =>
    obtain ⟨v, hv⟩ := ih (c :: acc)
    refine ⟨v, fun env start rest => ?_⟩
    rw [List.cons_append, List.cons_append, quotedFrom.eq_3, Reading.out_widen, hv]

lemma arg_quote (env : Env) {q : Char} (hq : IsQuote q) (rest : List Char) :
    (arg env (q :: rest)).out = ((quotedFrom env q rest [] rest).map some).out := by
  rcases hq with rfl | rfl
  · exact arg_single env rest
  · exact arg_double env rest

/-- A bare argument written quoted reads as itself. -/
lemma arg_quoteArg (env : Env) {q : Char} (hq : IsQuote q) (t rest : List Char) :
    (arg env (quoteArg q t ++ rest)).out = .ok (some (String.ofList t), rest) := by
  rw [quoteArg, List.cons_append, List.append_assoc, List.singleton_append, arg_quote env hq,
    Reading.out_map, quotedFrom_escape env (isQuote_ne_backslash hq)]
  rfl

/-- An argument, bare, quoted or written quoted, reads alike from both texts; the `)` of a call
without one is left for the call to read. -/
lemma arg_respaced (env env' : Env) {s s' : List Char} (h : Respaced .arg s s') (hs : Lead s)
    (hs' : Lead s') : (arg env s).Respaces (arg env' s') (Respaced .close) := by
  intro a t ha
  cases h with
  | done =>
    rw [arg.eq_def] at ha
    cases ha
  | blank hc => exact (hs.not_blank hc).elim
  | insert hc => exact (hs'.not_blank hc).elim
  | @mark _ q c r r' hm hr =>
    obtain ⟨rfl, rfl⟩ := Place.mark_arg hm
    rw [arg_close] at ha
    simp only [Except.ok.injEq, Prod.mk.injEq] at ha
    obtain ⟨rfl, rfl⟩ := ha
    exact ⟨_, arg_close env' r', .mark (by decide) hr⟩
  | @bare tok tok' r r' hne ht hend hq hr =>
    rw [arg_bare env hne ht hend] at ha
    simp only [Except.ok.injEq, Prod.mk.injEq] at ha
    obtain ⟨rfl, rfl⟩ := ha
    rcases hq with rfl | ⟨q, hq, rfl⟩
    · -- kept bare: an added blank ends it as well
      have hend' : ∀ c ∈ r'.head?, endsBare c = true := by
        intro c hc
        rcases hr.head_cases (by decide) c hc with hb | hc'
        · exact endsBare_of_isBlank hb
        · exact hend c hc'
      exact ⟨_, arg_bare env' hne ht hend', hr⟩
    · exact ⟨_, arg_quoteArg env' hq _ _, hr⟩
  | @quoted q body r r' hq hb hr =>
    obtain ⟨v, hv⟩ := quotedFrom_body (isQuote_ne_backslash hq) hb []
    rw [arg_quote env hq, Reading.out_map, hv] at ha
    simp only [Except.map, Except.ok.injEq, Prod.mk.injEq] at ha
    obtain ⟨rfl, rfl⟩ := ha
    refine ⟨r', ?_, hr⟩
    rw [arg_quote env' hq, Reading.out_map, hv]
    rfl

end Args

/-- A call reads alike from both texts, at any length of the second. -/
lemma call_respaced (env : Env) (n : Nat) {s s' : List Char} (h : Respaced .rules s s') :
    (call env s).Respaces (call (env.withSize n) s') (Respaced .rules) := by
  unfold call
  refine (ident_respaced env _ h).next fun name t₁ t₁' _ h₁ => ?_
  refine (expect_respaced env _ (by decide : Place.name.mark '(' = some .arg) h₁).next
    fun _ t₂ t₂' _ h₂ => ?_
  rw [Reading.respaces_widen]
  refine (arg_respaced env _ h₂.dropBlanks (lead_dropBlanks _) (lead_dropBlanks _)).next
    fun a t₄ t₄' _ h₄ => ?_
  refine (expect_respaced env _ (by decide : Place.close.mark ')' = some .rules) h₄).next
    fun _ t₅ t₅' _ h₅ => ?_
  intro x t hx
  split at hx
  · cases hx
  · rename_i x' hx'
    rw [callExpr_withSize hx' n s' (skip t₂').1]
    simp only [Reading.out, Except.ok.injEq, Prod.mk.injEq] at hx ⊢
    obtain ⟨rfl, rfl⟩ := hx
    exact ⟨t₅', ⟨rfl, rfl⟩, h₅⟩

/-! ### Expressions -/

section Steps

variable (env : Env) (n : Nat)

lemma expr_respaced_zero {s s' : List Char} (_h : Respaced .rules s s') :
    (expr env 0 s).Respaces (expr (env.withSize n) 0 s') (Respaced .rules) := by
  rw [expr]
  exact Reading.respaces_error _ _

lemma expr_respaced_succ {r : Nat}
    (ha : ∀ {s s'}, Respaced .rules s s' →
      (andExpr env r s).Respaces (andExpr (env.withSize n) r s') (Respaced .rules))
    (ho : ∀ left {s s'}, Respaced .rules s s' →
      (orTail env r left s).Respaces (orTail (env.withSize n) r left s') (Respaced .rules))
    {s s' : List Char} (h : Respaced .rules s s') :
    (expr env (r + 1) s).Respaces (expr (env.withSize n) (r + 1) s') (Respaced .rules) := by
  rw [expr, expr]
  exact (ha h).next fun left _ _ _ ht => ho left ht

/-- A chain that stops stops on both texts, after the blanks. -/
lemma stop_respaced {left : Expr String} {s s' : List Char} (h : Respaced .rules s s') :
    Reading.Respaces (.ok (left, skip s) : Reading s (Expr String))
      (.ok (left, skip s') : Reading s' (Expr String)) (Respaced .rules) := by
  intro b t hx
  simp only [Reading.out, Except.ok.injEq, Prod.mk.injEq] at hx
  obtain ⟨rfl, rfl⟩ := hx
  exact ⟨_, rfl, h.dropBlanks⟩

lemma orTail_respaced_zero (left : Expr String) {s s' : List Char} (h : Respaced .rules s s') :
    (orTail env 0 left s).Respaces (orTail (env.withSize n) 0 left s') (Respaced .rules) := by
  rw [orTail, orTail]
  cases he : eat? '|' s with
  | none =>
    rw [eat?_respaced_none (by decide) h he]
    exact stop_respaced h
  | some t => exact Reading.respaces_error _ _

lemma orTail_respaced_succ {r : Nat}
    (ha : ∀ {s s'}, Respaced .rules s s' →
      (andExpr env r s).Respaces (andExpr (env.withSize n) r s') (Respaced .rules))
    (ho : ∀ left {s s'}, Respaced .rules s s' →
      (orTail env r left s).Respaces (orTail (env.withSize n) r left s') (Respaced .rules))
    (left : Expr String) {s s' : List Char} (h : Respaced .rules s s') :
    (orTail env (r + 1) left s).Respaces (orTail (env.withSize n) (r + 1) left s')
      (Respaced .rules) := by
  rw [orTail, orTail]
  cases he : eat? '|' s with
  | none =>
    rw [eat?_respaced_none (by decide) h he]
    exact stop_respaced h
  | some t =>
    obtain ⟨t', he', ht'⟩ := eat?_respaced (by decide : Place.rules.mark '|' = some .rules) h he
    rw [he']
    dsimp only
    rw [Reading.respaces_widen]
    exact (ha ht').next fun right _ _ _ hu => ho _ hu

lemma andExpr_respaced {room : Nat}
    (hu : ∀ {s s'}, Respaced .rules s s' →
      (unary env room s).Respaces (unary (env.withSize n) room s') (Respaced .rules))
    (ht : ∀ left {s s'}, Respaced .rules s s' →
      (andTail env room left s).Respaces (andTail (env.withSize n) room left s') (Respaced .rules))
    {s s' : List Char} (h : Respaced .rules s s') :
    (andExpr env room s).Respaces (andExpr (env.withSize n) room s') (Respaced .rules) := by
  rw [andExpr, andExpr]
  exact (hu h).next fun left _ _ _ hl => ht left hl

lemma andTail_respaced_zero (left : Expr String) {s s' : List Char} (h : Respaced .rules s s') :
    (andTail env 0 left s).Respaces (andTail (env.withSize n) 0 left s') (Respaced .rules) := by
  rw [andTail, andTail]
  cases he : eat? '&' s with
  | none =>
    rw [eat?_respaced_none (by decide) h he]
    exact stop_respaced h
  | some t => exact Reading.respaces_error _ _

lemma andTail_respaced_succ {r : Nat}
    (hu : ∀ {s s'}, Respaced .rules s s' →
      (unary env r s).Respaces (unary (env.withSize n) r s') (Respaced .rules))
    (ht : ∀ left {s s'}, Respaced .rules s s' →
      (andTail env r left s).Respaces (andTail (env.withSize n) r left s') (Respaced .rules))
    (left : Expr String) {s s' : List Char} (h : Respaced .rules s s') :
    (andTail env (r + 1) left s).Respaces (andTail (env.withSize n) (r + 1) left s')
      (Respaced .rules) := by
  rw [andTail, andTail]
  cases he : eat? '&' s with
  | none =>
    rw [eat?_respaced_none (by decide) h he]
    exact stop_respaced h
  | some t =>
    obtain ⟨t', he', ht'⟩ := eat?_respaced (by decide : Place.rules.mark '&' = some .rules) h he
    rw [he']
    dsimp only
    rw [Reading.respaces_widen]
    exact (hu ht').next fun right _ _ _ hl => ht _ hl

lemma unary_respaced_zero {s s' : List Char} (h : Respaced .rules s s')
    (hp : (primary env 0 s).Respaces (primary (env.withSize n) 0 s') (Respaced .rules)) :
    (unary env 0 s).Respaces (unary (env.withSize n) 0 s') (Respaced .rules) := by
  rw [unary, unary]
  cases he : eat? '!' s with
  | none =>
    rw [eat?_respaced_none (by decide) h he]
    exact hp
  | some t => exact Reading.respaces_error _ _

lemma unary_respaced_succ {r : Nat}
    (hu : ∀ {s s'}, Respaced .rules s s' →
      (unary env r s).Respaces (unary (env.withSize n) r s') (Respaced .rules))
    {s s' : List Char} (h : Respaced .rules s s')
    (hp : (primary env (r + 1) s).Respaces (primary (env.withSize n) (r + 1) s')
      (Respaced .rules)) :
    (unary env (r + 1) s).Respaces (unary (env.withSize n) (r + 1) s') (Respaced .rules) := by
  rw [unary, unary]
  cases he : eat? '!' s with
  | none =>
    rw [eat?_respaced_none (by decide) h he]
    exact hp
  | some t =>
    obtain ⟨t', he', ht'⟩ := eat?_respaced (by decide : Place.rules.mark '!' = some .rules) h he
    rw [he']
    dsimp only
    rw [Reading.respaces_widen]
    exact (hu ht').map Expr.not

lemma primary_respaced {room : Nat}
    (he : ∀ {s s'}, Respaced .rules s s' →
      (expr env room s).Respaces (expr (env.withSize n) room s') (Respaced .rules))
    {s s' : List Char} (h : Respaced .rules s s') :
    (primary env room s).Respaces (primary (env.withSize n) room s') (Respaced .rules) := by
  intro e t hp
  have hd : Respaced .rules (skip s).1 (skip s').1 := h.dropBlanks
  have hlead : Lead (skip s').1 := lead_dropBlanks s'
  rw [primary] at hp
  split at hp
  · -- a bracket: the expression inside, then `)`
    rename_i rest hs
    rw [Reading.out_widen] at hp
    rw [hs] at hd
    obtain ⟨rest', hs', hrest⟩ :=
      hd.mark_inv (by decide : Place.rules.mark '(' = some .rules) hlead
    rw [primary_out_paren _ _ hs']
    exact ((he hrest).next fun inner _ _ _ hu =>
      (expect_respaced env _ (by decide) hu).map fun _ => inner) e t hp
  · -- a lone `*` inside an expression
    rename_i rest hs
    rw [hs] at hd
    obtain ⟨rest', hs', hrest⟩ :=
      hd.mark_inv (by decide : Place.rules.mark '*' = some .rules) hlead
    rw [primary_out_star _ _ hs']
    simp only [Reading.out, Except.ok.injEq, Prod.mk.injEq] at hp ⊢
    obtain ⟨rfl, rfl⟩ := hp
    exact ⟨rest', ⟨rfl, rfl⟩, hrest⟩
  · -- a call: both texts start with the same letter
    rename_i c rest _ _ hs
    split at hp
    · rename_i hc
      rw [Reading.out_widen, hs] at hp
      obtain ⟨rest', hs', hrel⟩ := dropBlanks_respaced_cons (by decide) h hs
      rw [primary_out_call _ _ hc hs']
      exact call_respaced env n hrel e t hp
    · cases hp
  · cases hp

end Steps

/-- Each expression reader with `room` levels left reads alike from related texts. -/
structure Respacing (env : Env) (n : Nat) (room : Nat) : Prop where
  expr_r : ∀ {s s'}, Respaced .rules s s' →
    (expr env room s).Respaces (expr (env.withSize n) room s') (Respaced .rules)
  orTail_r : ∀ left {s s'}, Respaced .rules s s' →
    (orTail env room left s).Respaces (orTail (env.withSize n) room left s') (Respaced .rules)
  andExpr_r : ∀ {s s'}, Respaced .rules s s' →
    (andExpr env room s).Respaces (andExpr (env.withSize n) room s') (Respaced .rules)
  andTail_r : ∀ left {s s'}, Respaced .rules s s' →
    (andTail env room left s).Respaces (andTail (env.withSize n) room left s') (Respaced .rules)
  unary_r : ∀ {s s'}, Respaced .rules s s' →
    (unary env room s).Respaces (unary (env.withSize n) room s') (Respaced .rules)
  primary_r : ∀ {s s'}, Respaced .rules s s' →
    (primary env room s).Respaces (primary (env.withSize n) room s') (Respaced .rules)

section Induction

variable (env : Env) (n : Nat)

lemma respacing_zero : Respacing env n 0 := by
  have hprimary := fun {s s' : List Char} (h : Respaced .rules s s') =>
    primary_respaced env n (expr_respaced_zero env n) h
  have hunary := fun {s s' : List Char} (h : Respaced .rules s s') =>
    unary_respaced_zero env n h (hprimary h)
  have handTail := andTail_respaced_zero env n
  exact ⟨expr_respaced_zero env n, orTail_respaced_zero env n,
    andExpr_respaced env n hunary handTail, handTail, hunary, hprimary⟩

/-- From `r` levels left to one more, in the order in which the readers call one another. -/
lemma Respacing.succ {r : Nat} (h : Respacing env n r) : Respacing env n (r + 1) := by
  have hexpr : ∀ {s s' : List Char}, Respaced .rules s s' →
      (expr env (r + 1) s).Respaces (expr (env.withSize n) (r + 1) s') (Respaced .rules) :=
    expr_respaced_succ env n h.andExpr_r h.orTail_r
  have hprimary := fun {s s' : List Char} (hs : Respaced .rules s s') =>
    primary_respaced env n hexpr hs
  have hunary := fun {s s' : List Char} (hs : Respaced .rules s s') =>
    unary_respaced_succ env n h.unary_r hs (hprimary hs)
  have handTail := andTail_respaced_succ env n h.unary_r h.andTail_r
  exact ⟨hexpr, orTail_respaced_succ env n h.andExpr_r h.orTail_r,
    andExpr_respaced env n hunary handTail, handTail, hunary, hprimary⟩

theorem respacing (room : Nat) : Respacing env n room := by
  induction room with
  | zero => exact respacing_zero env n
  | succ r ih => exact ih.succ env n

end Induction

/-! ### Rules -/

section Rules

variable {s s' : List Char}

/-- Whether a `*` is lone depends only on what comes next. -/
lemma starEnd_of_head? {l l' : List Char} (h : l'.head? = l.head?) :
    starEnd l' = (starEnd l).map fun _ => l' := by
  cases l with
  | nil =>
    rw [List.head?_eq_none_iff.1 h]
    rfl
  | cons d m =>
    obtain ⟨m', rfl⟩ := List.head?_eq_some_iff.1 h
    by_cases h1 : d = ';'
    · subst h1
      rfl
    by_cases h2 : d = '='
    · subst h2
      rfl
    simp [starEnd, h1, h2]

lemma eq_of_starEnd {l x : List Char} (h : starEnd l = some x) : x = l := by
  have hl : starEnd l = (starEnd l).map fun _ => l := starEnd_of_head? rfl
  rw [h, Option.map_some] at hl
  exact Option.some.inj hl

/-- The blanks after a `*` and what follows them, on both texts. -/
lemma starEnd_respaced {t t' : List Char} (ht : Respaced .rules t t') :
    starEnd (dropBlanks t') = (starEnd (dropBlanks t)).map fun _ => dropBlanks t' :=
  starEnd_of_head? (ht.dropBlanks.head?_eq (by decide) (lead_dropBlanks t) (lead_dropBlanks t'))

lemma loneStar?_respaced (h : Respaced .rules s s') {t : Tail s} (hl : loneStar? s = some t) :
    ∃ t', loneStar? s' = some t' ∧ Respaced .rules t.1 t'.1 := by
  have hv := loneStar?_val s
  rw [hl, Option.map_some] at hv
  cases he : eat? '*' s with
  | none =>
    rw [he] at hv
    cases hv
  | some t₀ =>
    rw [he, Option.bind_some] at hv
    obtain ⟨t₀', he', ht₀⟩ :=
      eat?_respaced (by decide : Place.rules.mark '*' = some .rules) h he
    have hv' := loneStar?_val s'
    rw [he', Option.bind_some, starEnd_respaced ht₀, ← hv, Option.map_some] at hv'
    obtain ⟨t', hl', ht'⟩ := Option.map_eq_some_iff.1 hv'
    refine ⟨t', hl', ?_⟩
    rw [ht', eq_of_starEnd hv.symm]
    exact ht₀.dropBlanks

lemma loneStar?_respaced_none (h : Respaced .rules s s') (hl : loneStar? s = none) :
    loneStar? s' = none := by
  have hv := loneStar?_val s
  rw [hl, Option.map_none] at hv
  have hv' := loneStar?_val s'
  cases he : eat? '*' s with
  | none =>
    rw [eat?_respaced_none (by decide) h he, Option.bind_none] at hv'
    exact Option.map_eq_none_iff.1 hv'
  | some t₀ =>
    rw [he, Option.bind_some] at hv
    obtain ⟨t₀', he', ht₀⟩ :=
      eat?_respaced (by decide : Place.rules.mark '*' = some .rules) h he
    rw [he', Option.bind_some, starEnd_respaced ht₀, ← hv, Option.map_none] at hv'
    exact Option.map_eq_none_iff.1 hv'

/-- Where a rule ends: among the rules, or after the word of its `=`. -/
def RuleEnd (t t' : List Char) : Prop :=
  Respaced .rules t t' ∨ Respaced .name t t'

/-- At the `;` or the end after a rule, both texts are among the rules again. -/
lemma RuleEnd.dropBlanks {t t' : List Char} (h : RuleEnd t t')
    (hne : ∀ c ∈ (dropBlanks t).head?, c ≠ '(') :
    Respaced .rules (dropBlanks t) (dropBlanks t') := by
  rcases h with h | h
  · exact h.dropBlanks
  · exact h.dropBlanks.rules_of_name (lead_dropBlanks t) (lead_dropBlanks t') hne

lemma access_respaced (env : Env) (n : Nat) (h : Respaced .rules s s') :
    (access env s).Respaces (access (env.withSize n) s') RuleEnd := by
  intro a v ha
  unfold access at ha ⊢
  cases he : eat? '=' s with
  | none =>
    rw [he] at ha
    rw [eat?_respaced_none (by decide) h he]
    simp only [Reading.out, Except.ok.injEq, Prod.mk.injEq] at ha ⊢
    obtain ⟨rfl, rfl⟩ := ha
    exact ⟨_, ⟨rfl, rfl⟩, .inl h.dropBlanks⟩
  | some t =>
    rw [he] at ha
    obtain ⟨t', he', ht'⟩ := eat?_respaced (by decide : Place.rules.mark '=' = some .rules) h he
    rw [he']
    dsimp only at ha ⊢
    cases hi : ident env t.1 with
    | error e =>
      rw [hi] at ha
      cases ha
    | ok wu =>
      obtain ⟨word, u⟩ := wu
      rw [hi] at ha
      -- the word after `=` is read alike, and a rule ends after it
      obtain ⟨u', hi', hu⟩ := ident_respaced env (env.withSize n) ht' word u.1 (by rw [hi]; rfl)
      obtain ⟨u'', hu'', rfl⟩ := Reading.eq_ok_of_out hi'
      rw [hu'']
      dsimp only at ha ⊢
      split at ha
      · simp only [Reading.out, Except.ok.injEq, Prod.mk.injEq] at ha ⊢
        obtain ⟨rfl, rfl⟩ := ha
        exact ⟨_, ⟨rfl, rfl⟩, .inr hu⟩
      · cases ha

lemma rule_respaced (env : Env) (n : Nat) (h : Respaced .rules s s') :
    (rule env s).Respaces (rule (env.withSize n) s') RuleEnd := by
  unfold rule
  cases hl : loneStar? s with
  | none =>
    rw [loneStar?_respaced_none h hl]
    exact ((respacing env n maxDepth).expr_r h).next fun e _ _ _ ht =>
      (access_respaced env n ht).map _
  | some t =>
    obtain ⟨t', hl', ht'⟩ := loneStar?_respaced h hl
    rw [hl']
    dsimp only
    rw [Reading.respaces_widen]
    exact (access_respaced env n ht').map _

/-- A rule the loop reads after the blanks of one text, it reads after the blanks of the
other. -/
lemma rule_respaced_at (env : Env) (n : Nat) (h : Respaced .rules s s') {c : Char}
    {rest : List Char} (hs : dropBlanks s = c :: rest) {r : Rule String} {t : Tail (c :: rest)}
    (hr : rule env (c :: rest) = .ok (r, t)) :
    ∃ rest', ∃ t' : Tail (c :: rest'), dropBlanks s' = c :: rest' ∧
      rule (env.withSize n) (c :: rest') = .ok (r, t') ∧ RuleEnd t.1 t'.1 := by
  obtain ⟨rest', hs', hrel⟩ := dropBlanks_respaced_cons (by decide) h hs
  obtain ⟨t', ht', hend⟩ := rule_respaced env n hrel r t.1 (by rw [hr]; rfl)
  obtain ⟨t'', hr', rfl⟩ := Reading.eq_ok_of_out ht'
  exact ⟨rest', t'', hs', hr', hend⟩

/-- The end of the text after a rule, on both texts. -/
lemma RuleEnd.eq_nil {t t' : List Char} (h : RuleEnd t t') (ht : Text.dropBlanks t = []) :
    Text.dropBlanks t' = [] := by
  have hrel := h.dropBlanks (by rw [ht]; intro c hc; cases hc)
  rw [ht] at hrel
  exact List.head?_eq_none_iff.1
    (hrel.head?_eq (by decide) (by intro c hc; cases hc) (lead_dropBlanks _))

/-- The `;` after a rule, on both texts, with the rules after it related. -/
lemma RuleEnd.semi {t t' more : List Char} (h : RuleEnd t t')
    (ht : Text.dropBlanks t = ';' :: more) :
    ∃ more', Text.dropBlanks t' = ';' :: more' ∧ Respaced .rules more more' := by
  have hrel := h.dropBlanks (by rw [ht]; intro c hc; cases hc; decide)
  rw [ht] at hrel
  exact hrel.mark_inv (by decide : Place.rules.mark ';' = some .rules) (lead_dropBlanks _)

end Rules

/-! ### The rule loop and the whole text -/

section Loop

variable (env : Env) (n : Nat)

/-- **The rule loop reads the same rules from a respaced text**, at any length of it. -/
theorem rules_respaced {s s' : List Char} (h : Respaced .rules s s') {acc : Array (Rule String)}
    {L : List (Rule String)} (hr : rules env s acc = .ok L) :
    rules (env.withSize n) s' acc = .ok L := by
  revert s' L
  fun_induction rules env s acc with
  | case1 s acc hs =>
    intro s' h L hr
    cases hr
    exact rules_of_nil _ (dropBlanks_respaced_nil (by decide) h hs)
  | case2 s acc rest hs ih =>
    intro s' h L hr
    have hd := h.dropBlanks
    rw [hs] at hd
    obtain ⟨rest', hs', hrest⟩ :=
      hd.mark_inv (by decide : Place.rules.mark ';' = some .rules) (lead_dropBlanks s')
    rw [rules_of_semi _ hs']
    exact ih hrest hr
  | case3 s acc c rest hc hs e hrule =>
    intro s' h L hr
    cases hr
  | case4 s acc c rest hc hs r t hrule ht =>
    intro s' h L hr
    cases hr
    obtain ⟨rest', t', hs', hrule', hend⟩ := rule_respaced_at env n h hs hrule
    exact rules_of_rule_end _ hc hs' hrule' (hend.eq_nil ht)
  | case5 s acc c rest hc hs r t hrule more ht ih =>
    intro s' h L hr
    obtain ⟨rest', t', hs', hrule', hend⟩ := rule_respaced_at env n h hs hrule
    obtain ⟨more', ht', hmore⟩ := hend.semi ht
    rw [rules_of_rule _ hc hs' hrule' ht']
    exact ih hmore hr
  | case6 s acc c rest hc hs r t hrule d more hd ht =>
    intro s' h L hr
    cases hr

end Loop

/-- **A respaced text reads as the text does.** Blanks added before or after the tokens of a
policy text that is read, and bare arguments written quoted, give the same rules. -/
theorem parse_of_respaced {G : Globs} {spec spec' : String} {actions : List ActionSpec}
    {accounts : Accounts} {es : List (Rule String)} (h : parse G spec actions accounts = .ok es)
    (hr : Respaced .version spec.toList spec'.toList) :
    parse G spec' actions accounts = .ok es := by
  unfold parse at h ⊢
  cases hc : checkActions actions with
  | error err =>
    rw [hc] at h
    cases h
  | ok u =>
    rw [hc] at h
    simp only [bind, Except.bind, List.span_eq_takeWhile_dropWhile] at h ⊢
    split at h
    · cases h
    · rename_i hv
      have hv1 : trimList (spec.toList.takeWhile (· != ';')) = ['1'] := Classical.not_not.1 hv
      obtain ⟨hv', hrest⟩ := hr.version hv1
      rw [if_neg (Classical.not_not.2 hv')]
      rcases hrest with ⟨h1, h2⟩ | ⟨body, body', h1, h2, hbody⟩
      · rw [h1] at h
        rw [h2]
        exact h
      · rw [h1] at h
        rw [h2]
        exact rules_respaced _ (byteLength spec'.toList) hbody h

end PeerGate.Grammar
