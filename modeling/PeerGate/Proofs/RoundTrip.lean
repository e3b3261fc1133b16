import Mathlib.Data.List.Nodup
import Mathlib.Data.List.TakeDrop
import PeerGate.Proofs.Keys
import PeerGate.Proofs.Reading
import PeerGate.Policy.Glob

/-!
Writing rules as a policy text, and reading the text back.

`write` puts a condition into words with as few brackets as the grammar allows: `!` binds
tighter than `&`, `&` tighter than `|`, and both operators group to the left, so a bracket
stands only around an `&` or `|` under a `!`, around the right operand of an operator of its
own kind, and around an `|` under an `&`. An identity test is written `user(U:G)` with decimal
ids or `*`, and a custom test `name()` or `name('arg')`, with a backslash before each backslash
and each quote of the argument. `policyText` writes version `1` and the rules, `*` for a rule
without a condition, each followed by `=allow` or `=deny`, joined by `;`.

Reading takes levels of nesting as it goes (`Grammar.maxDepth` at most); `need` is what the
written form of a condition takes, at each of the three binding levels. A condition with `n`
operators needs at most `2 * n` levels (`need_le_ops`), so 127 operators always fit.

* `TableOk`, `tableOk_of_checkActions`: what an accepted action table promises.
* `Fits`: custom tests that name actions of the table with the right number of arguments.
* `read_write`: **reading a written condition**, at each binding level, gives it back.
* `parse_policyText_of_fits`: a policy text of rules that fit reads back to the rules.
* `parse_policyText`: **the round trip**, for rules whose conditions have at most 127 operators.
-/

namespace PeerGate

namespace Expr

variable {α : Type}

/-- The number of `not`, `and` and `or` nodes. -/
def ops : Expr α → Nat
  | identity _ _ => 0
  | custom _ _ => 0
  | not e => e.ops + 1
  | and l r => l.ops + r.ops + 1
  | or l r => l.ops + r.ops + 1

/-- The operands after the first of the `&` chain at the top of a condition. -/
def andLen : Expr α → Nat
  | and l _ => l.andLen + 1
  | _ => 0

/-- The operands after the first of the `|` chain at the top of a condition. -/
def orLen : Expr α → Nat
  | or l _ => l.orLen + 1
  | _ => 0

lemma andLen_le_ops (e : Expr α) : e.andLen ≤ e.ops := by
  induction e with
  | and l r ihl _ =>
      simp only [andLen, ops]
      omega
  | _ => simp [andLen]

lemma orLen_le_ops (e : Expr α) : e.orLen ≤ e.ops := by
  induction e with
  | or l r ihl _ =>
      simp only [orLen, ops]
      omega
  | _ => simp [orLen]

end Expr

namespace Grammar

open Text

/-! ### Action tables -/

/-- What an accepted action table promises: every action takes at most one argument and is named
by an identifier other than `user` and `group`, and no two actions share an id or a name. -/
structure TableOk (actions : List ActionSpec) : Prop where
  arity_le : ∀ a ∈ actions, a.arity ≤ 1
  ident : ∀ a ∈ actions, isIdent a.name.toList = true
  not_user : ∀ a ∈ actions, a.name ≠ "user"
  not_group : ∀ a ∈ actions, a.name ≠ "group"
  ids : (actions.map (·.id)).Nodup
  names : (actions.map (·.name)).Nodup

/-- The check of a table, from `earlier` on: each action passes, and no id or name comes
twice. -/
lemma checkActions_go_ok (rest earlier : List ActionSpec) (hid : (earlier.map (·.id)).Nodup)
    (hname : (earlier.map (·.name)).Nodup) (h : checkActions.go earlier rest = .ok ()) :
    (∀ a ∈ rest, a.arity ≤ 1 ∧ isIdent a.name.toList = true ∧ a.name ≠ "user" ∧
      a.name ≠ "group") ∧
    ((earlier ++ rest).map (·.id)).Nodup ∧ ((earlier ++ rest).map (·.name)).Nodup := by
  induction rest generalizing earlier with
  | nil => simpa using ⟨hid, hname⟩
  | cons a rest ih =>
      rw [checkActions.go] at h
      by_cases h0 : a.id = 0
      · rw [if_pos h0] at h
        cases h
      rw [if_neg h0] at h
      by_cases h1 : a.arity > 1
      · rw [if_pos h1] at h
        cases h
      rw [if_neg h1] at h
      by_cases h2 : (!isIdent a.name.toList || a.name = "user" || a.name = "group") = true
      · rw [if_pos h2] at h
        cases h
      rw [if_neg h2] at h
      split at h
      · cases h
      · rename_i hfind
        -- no earlier action shares the new one's id or name
        have hfresh : ∀ b ∈ earlier, b.id ≠ a.id ∧ b.name ≠ a.name := by
          intro b hb
          simpa [not_or] using List.find?_eq_none.1 hfind b hb
        have hid' := nodup_map_append_singleton (·.id) hid fun b hb => (hfresh b hb).1
        have hname' := nodup_map_append_singleton (·.name) hname fun b hb => (hfresh b hb).2
        obtain ⟨hall, hids, hnames⟩ := ih (earlier ++ [a]) hid' hname' h
        simp only [Bool.or_eq_true, Bool.not_eq_true', decide_eq_true_eq, not_or] at h2
        refine ⟨?_, by simpa using hids, by simpa using hnames⟩
        intro b hb
        rcases List.mem_cons.1 hb with rfl | hb
        · refine ⟨UInt8.not_lt.1 h1, ?_, h2.1.2, h2.2⟩
          simpa using h2.1.1
        · exact hall b hb

theorem tableOk_of_checkActions {actions : List ActionSpec} (h : checkActions actions = .ok ()) :
    TableOk actions := by
  obtain ⟨hall, hids, hnames⟩ := checkActions_go_ok actions [] (by simp) (by simp) h
  exact ⟨fun a ha => (hall a ha).1, fun a ha => (hall a ha).2.1, fun a ha => (hall a ha).2.2.1,
    fun a ha => (hall a ha).2.2.2, by simpa using hids, by simpa using hnames⟩

/-- In an accepted table, the action found by a name is the one of that name. -/
lemma TableOk.find?_name {actions : List ActionSpec} (ht : TableOk actions) {a : ActionSpec}
    (ha : a ∈ actions) : actions.find? (·.name == a.name) = some a :=
  find?_key (·.name) ht.names ha

lemma TableOk.find?_id {actions : List ActionSpec} (ht : TableOk actions) {a : ActionSpec}
    (ha : a ∈ actions) : actions.find? (·.id == a.id) = some a :=
  find?_key (·.id) ht.ids ha

/-! ### Written conditions -/

/-- How an id of an identity test is written: `*` for any, else its decimal digits. -/
def idText : IdSpec → List Char
  | .any => ['*']
  | .exact n => Nat.toDigits 10 n.toNat

/-- The name a table gives an action id, empty if the table has no such action. -/
def actionName (actions : List ActionSpec) (id : UInt32) : List Char :=
  match actions.find? (·.id == id) with
  | some a => a.name.toList
  | none => []

/-- Text in brackets when `b` holds. -/
def bracket (b : Bool) (s : List Char) : List Char :=
  if b then '(' :: s ++ [')'] else s

/-- A condition written at a binding level: 0 where an `|` may stand bare, 1 where an `&` may,
and 2 where only a `!` or a test may. -/
def write (actions : List ActionSpec) : Nat → Expr String → List Char
  | _, .identity u g => ['u', 's', 'e', 'r', '('] ++ idText u ++ ':' :: idText g ++ [')']
  | _, .custom a none => actionName actions a ++ ['(', ')']
  | _, .custom a (some p) =>
      actionName actions a ++ '(' :: '\'' :: escape '\'' p.toList ++ ['\'', ')']
  | _, .not e => '!' :: write actions 2 e
  | lvl, .and l r => bracket (1 < lvl) (write actions 1 l ++ '&' :: write actions 2 r)
  | lvl, .or l r => bracket (0 < lvl) (write actions 0 l ++ '|' :: write actions 1 r)

/-- The levels of nesting that reading a condition written at a binding level takes: a `!`
holds one level while its operand is read, a bracket one for the expression inside, and the
`i`-th further operand of a chain `i` levels while it is read. -/
def need : Nat → Expr String → Nat
  | _, .identity _ _ => 0
  | _, .custom _ _ => 0
  | _, .not e => need 2 e + 1
  | lvl, .and l r => max (need 1 l) (l.andLen + 1 + need 2 r) + if 1 < lvl then 1 else 0
  | lvl, .or l r => max (need 0 l) (l.orLen + 1 + need 1 r) + if 0 < lvl then 1 else 0

/-- **Two levels per operator** are enough to read a written condition. -/
theorem need_le_ops (e : Expr String) (lvl : Nat) : need lvl e ≤ 2 * e.ops := by
  induction e generalizing lvl with
  | identity u g => simp [need]
  | custom a p => simp [need]
  | not e ih =>
      have := ih 2
      simp only [need, Expr.ops]
      omega
  | and l r ihl ihr =>
      have h1 := ihl 1
      have h2 := ihr 2
      have hl := Expr.andLen_le_ops l
      simp only [need, Expr.ops]
      split <;> omega
  | or l r ihl ihr =>
      have h1 := ihl 0
      have h2 := ihr 1
      have hl := Expr.orLen_le_ops l
      simp only [need, Expr.ops]
      split <;> omega

lemma andLen_le_need (e : Expr String) : e.andLen ≤ need 1 e := by
  cases e with
  | and l r =>
      simp only [Expr.andLen, need]
      omega
  | _ => simp [Expr.andLen]

lemma orLen_le_need (e : Expr String) : e.orLen ≤ need 0 e := by
  cases e with
  | or l r =>
      simp only [Expr.orLen, need]
      omega
  | _ => simp [Expr.orLen]

/-- The custom tests of a condition fit an action table: each carries the id of an action of the
table that takes an argument exactly when the test has one, and each argument is a glob
pattern. -/
def Fits (G : Globs) (actions : List ActionSpec) : Expr String → Prop
  | .identity _ _ => True
  | .custom a p =>
      (∃ spec ∈ actions, spec.id = a ∧ (spec.arity = 0 ↔ p = none)) ∧
      ∀ q, p = some q → ∃ pat, Pattern.compile? G q = .ok pat
  | .not e => Fits G actions e
  | .and l r => Fits G actions l ∧ Fits G actions r
  | .or l r => Fits G actions l ∧ Fits G actions r

/-! ### Reading tests back -/

section Tests

variable {env : Env} {c : Char}

/-- The characters of a written id: `*` and decimal digits. -/
lemma toNat_of_idText {u : IdSpec} (hc : c ∈ idText u) : 42 ≤ c.toNat ∧ c.toNat ≤ 57 := by
  cases u with
  | any =>
      simp only [idText, List.mem_singleton] at hc
      subst hc
      decide
  | exact n =>
      have h := Nat.isDigit_of_mem_toDigits (by decide) (by decide) hc
      simp only [Char.isDigit, Bool.and_eq_true, decide_eq_true_eq, UInt32.le_iff_toNat_le] at h
      exact ⟨Nat.le_trans (by decide) h.1, Nat.le_trans h.2 (by decide)⟩

lemma endsBare_of_toNat (h1 : 42 ≤ c.toNat) (h2 : c.toNat ≤ 58) : endsBare c = false := by
  simp [endsBare, isBlank, ← Char.toNat_inj]
  omega

lemma idText_ne_nil (u : IdSpec) : idText u ≠ [] := by
  cases u with
  | any => simp [idText]
  | exact n => exact Nat.toDigits_ne_nil

lemma identity_idText (at_ : List Char) (kind : IdKind) (u : IdSpec) :
    identity env at_ kind (String.ofList (idText u)) = .ok u := by
  cases u with
  | any => exact identity_star env at_ kind
  | exact n => exact identity_digits env at_ kind n

/-- A test written as a call is read by `call`. -/
lemma unary_call {name : List Char} (hn : isIdent name = true) (room : Nat) (after : List Char) :
    (unary env room (name ++ '(' :: after)).out = (call env (name ++ '(' :: after)).out := by
  obtain ⟨c, cs, rfl⟩ : ∃ c cs, name = c :: cs := by
    cases name with
    | nil => cases hn
    | cons c cs => exact ⟨c, cs, rfl⟩
  have hc : identStart c = true := by
    simp only [isIdent, Bool.and_eq_true] at hn
    exact hn.1
  have hrange := toNat_of_identChar (identChar_of_identStart hc)
  have hb : isBlank c = false := isBlank_of_identChar (identChar_of_identStart hc)
  have hbang : (dropBlanks (c :: cs ++ '(' :: after)).head? ≠ some '!' := by
    rw [List.cons_append, dropBlanks_cons hb]
    simp only [List.head?_cons, ne_eq, Option.some.injEq, ← Char.toNat_inj]
    simp
    omega
  rw [unary_eq_primary env (eat?_eq_none hbang), List.cons_append, primary_call env hc]

lemma callExpr_user (at_ at_' : List Char) (u g : IdSpec) :
    callExpr env at_ at_' "user" (some (String.ofList (idText u ++ ':' :: idText g))) =
      .ok (.identity u g) := by
  have hne : ∀ d ∈ idText u, (d != ':') = true := by
    intro d hd
    have := toNat_of_idText hd
    simp only [bne_iff_ne, ne_eq, ← Char.toNat_inj]
    simp
    omega
  have hspan : (idText u ++ ':' :: idText g).span (· != ':') = (idText u, ':' :: idText g) := by
    rw [List.span_eq_takeWhile_dropWhile, takeWhile_append_stop hne (by simp),
      dropWhile_append_stop hne (by simp)]
  unfold callExpr
  split
  · simp only [String.toList_ofList, hspan, identity_idText]
    rfl
  · rename_i h
    exact absurd h (by decide)
  · rename_i h _
    exact absurd rfl h

lemma callExpr_custom_none {at_ at_' : List Char} {spec : ActionSpec} (hu : spec.name ≠ "user")
    (hg : spec.name ≠ "group") (hf : env.actions.find? (·.name == spec.name) = some spec)
    (h0 : spec.arity = 0) :
    callExpr env at_ at_' spec.name none = .ok (.custom spec.id none) := by
  unfold callExpr
  split
  · rename_i h
    exact absurd h hu
  · rename_i h
    exact absurd h hg
  · rw [hf]
    dsimp only
    rw [h0]
    rfl

lemma callExpr_custom_some {at_ at_' : List Char} {spec : ActionSpec} {q : String}
    {pat : Option (Pattern env.glob)} (hu : spec.name ≠ "user") (hg : spec.name ≠ "group")
    (hf : env.actions.find? (·.name == spec.name) = some spec) (h1 : spec.arity = 1)
    (hq : Pattern.compile? env.glob q = .ok pat) :
    callExpr env at_ at_' spec.name (some q) = .ok (.custom spec.id (some q)) := by
  unfold callExpr
  split
  · rename_i h
    exact absurd h hu
  · rename_i h
    exact absurd h hg
  · rw [hf]
    dsimp only
    rw [h1]
    simp [hq]

/-- An identity test is read back from `user(U:G)`. -/
lemma unary_identity (room : Nat) (u g : IdSpec) (rest : List Char) :
    (unary env room (write env.actions 2 (.identity u g) ++ rest)).out =
      .ok (.identity u g, rest) := by
  have hchars : ∀ d ∈ idText u ++ ':' :: idText g, endsBare d = false := by
    intro d hd
    rcases List.mem_append.1 hd with hd | hd
    · obtain ⟨h1, h2⟩ := toNat_of_idText hd
      exact endsBare_of_toNat h1 (by omega)
    · rcases List.mem_cons.1 hd with rfl | hd
      · decide
      · obtain ⟨h1, h2⟩ := toNat_of_idText hd
        exact endsBare_of_toNat h1 (by omega)
  -- the argument starts at once, with `*` or a digit
  have hfront : dropBlanks (idText u ++ ':' :: idText g ++ ')' :: rest) =
      idText u ++ ':' :: idText g ++ ')' :: rest := by
    obtain ⟨d, ds, hd⟩ : ∃ d ds, idText u = d :: ds := by
      cases h : idText u with
      | nil => exact absurd h (idText_ne_nil u)
      | cons d ds => exact ⟨d, ds, rfl⟩
    obtain ⟨h1, h2⟩ := toNat_of_idText (hd ▸ List.mem_cons_self : d ∈ idText u)
    rw [hd, List.cons_append, List.cons_append]
    exact dropBlanks_cons (by simp [isBlank]; omega) _
  have htext : write env.actions 2 (.identity u g) ++ rest =
      ['u', 's', 'e', 'r'] ++ '(' :: (idText u ++ ':' :: idText g ++ ')' :: rest) := by
    simp [write]
  rw [htext, unary_call (by decide)]
  exact call_of env (ident_append env (by decide) (by simp; decide)) hfront
    (arg_bare env (by simp) hchars (by simp [endsBare])) (callExpr_user _ _ u g)

/-- A custom test is read back from `name()` or `name('arg')`, when it fits the table. -/
lemma unary_custom (ht : TableOk env.actions) (room : Nat) {a : UInt32} {p : Option String}
    (hfit : Fits env.glob env.actions (.custom a p)) (rest : List Char) :
    (unary env room (write env.actions 2 (.custom a p) ++ rest)).out = .ok (.custom a p, rest) := by
  obtain ⟨⟨spec, hspec, rfl, harity⟩, hpat⟩ := hfit
  have hname : actionName env.actions spec.id = spec.name.toList := by
    simp only [actionName, ht.find?_id hspec]
  have hident := ht.ident spec hspec
  have hu := ht.not_user spec hspec
  have hg := ht.not_group spec hspec
  have hf := ht.find?_name hspec
  cases p with
  | none =>
      have h0 : spec.arity = 0 := harity.2 rfl
      have htext : write env.actions 2 (.custom spec.id none) ++ rest =
          spec.name.toList ++ '(' :: ')' :: rest := by
        simp [write, hname]
      rw [htext, unary_call hident]
      refine call_of env (ident_append env hident (by simp; decide)) (dropBlanks_cons (by decide) _)
        (arg_close env rest) ?_
      rw [String.ofList_toList]
      exact callExpr_custom_none hu hg hf h0
  | some q =>
      -- an action with an argument takes exactly one
      have h1 : spec.arity = 1 := by
        have hle := UInt8.le_iff_toNat_le.1 (ht.arity_le spec hspec)
        have hne : spec.arity.toNat ≠ 0 := fun h => by
          simpa using harity.1 (UInt8.toNat_inj.1 h)
        apply UInt8.toNat_inj.1
        simp only [UInt8.reduceToNat] at hle ⊢
        omega
      obtain ⟨pat, hq⟩ := hpat q rfl
      have htext : write env.actions 2 (.custom spec.id (some q)) ++ rest =
          spec.name.toList ++ '(' :: '\'' :: (escape '\'' q.toList ++ '\'' :: ')' :: rest) := by
        simp [write, hname]
      rw [htext, unary_call hident]
      refine call_of env (ident_append env hident (by simp; decide)) (dropBlanks_cons (by decide) _)
        (arg_quoted env q.toList (')' :: rest)) ?_
      rw [String.ofList_toList, String.ofList_toList]
      exact callExpr_custom_some hu hg hf h1 hq

end Tests

/-! ### Reading conditions back -/

section Conditions

variable (env : Env)

/-- A condition written at level 2 is read back by `unary`, whatever text follows it. -/
def ReadsUnary (e : Expr String) : Prop :=
  ∀ room rest, need 2 e ≤ room →
    (unary env room (write env.actions 2 e ++ rest)).out = .ok (e, rest)

/-- A condition written at level 1 is read by `andExpr` to the end of its `&` chain, one level
of nesting going to each further operand. -/
def ReadsAnd (e : Expr String) : Prop :=
  ∀ k rest, need 1 e ≤ k + e.andLen →
    (andExpr env (k + e.andLen) (write env.actions 1 e ++ rest)).out = (andTail env k e rest).out

/-- A condition written at level 0 is read by `expr` to the end of its `|` chain, when a
character other than `&` follows it. -/
def ReadsOr (e : Expr String) : Prop :=
  ∀ k c rest, need 0 e ≤ k + e.orLen → c ≠ '&' → isBlank c = false →
    (expr env (k + e.orLen + 1) (write env.actions 0 e ++ c :: rest)).out =
      (orTail env k e (c :: rest)).out

variable {env}

lemma readsAnd_of_unary {e : Expr String} (hw : write env.actions 1 e = write env.actions 2 e)
    (hn : need 1 e = need 2 e) (hl : e.andLen = 0) (hu : ReadsUnary env e) : ReadsAnd env e := by
  intro k rest h
  rw [hl, Nat.add_zero, hw]
  exact andExpr_of_unary env (hu k rest (by omega))

/-- An `&` chain stops before any other character. -/
lemma readsAnd_stop {e : Expr String} (ha : ReadsAnd env e) {room : Nat} (h : need 1 e ≤ room)
    {c : Char} (hc : c ≠ '&') (hb : isBlank c = false) (rest : List Char) :
    (andExpr env room (write env.actions 1 e ++ c :: rest)).out = .ok (e, c :: rest) := by
  obtain ⟨k, rfl⟩ : ∃ k, room = k + e.andLen := ⟨room - e.andLen, by
    have := andLen_le_need e
    omega⟩
  have hstop : eat? '&' (c :: rest) = none := by
    apply eat?_eq_none
    rw [dropBlanks_cons hb]
    simpa using hc
  rw [ha k (c :: rest) h, andTail_stop env hstop, dropBlanks_cons hb]

lemma readsOr_of_and {e : Expr String} (hw : write env.actions 0 e = write env.actions 1 e)
    (hn : need 0 e = need 1 e) (hl : e.orLen = 0) (ha : ReadsAnd env e) : ReadsOr env e := by
  intro k c rest h hc hb
  rw [hl, Nat.add_zero, hw]
  exact expr_of_andExpr env (readsAnd_stop ha (by omega) hc hb rest)

/-- A further `&` operand is read with one level less. -/
lemma readsAnd_and {l r : Expr String} (hl : ReadsAnd env l) (hr : ReadsUnary env r) :
    ReadsAnd env (.and l r) := by
  intro k rest h
  simp only [need, Expr.andLen, Nat.lt_irrefl, if_false, Nat.add_zero] at h
  have htext : write env.actions 1 (.and l r) ++ rest =
      write env.actions 1 l ++ '&' :: (write env.actions 2 r ++ rest) := by
    simp [write, bracket]
  have hroom : k + (l.andLen + 1) = (k + 1) + l.andLen := by omega
  rw [Expr.andLen, htext, hroom, hl (k + 1) _ (by omega)]
  exact andTail_and env (hr k rest (by omega))

/-- A further `|` operand is read with one level less. -/
lemma readsOr_or {l r : Expr String} (hl : ReadsOr env l) (hr : ReadsAnd env r) :
    ReadsOr env (.or l r) := by
  intro k c rest h hc hb
  simp only [need, Expr.orLen, Nat.lt_irrefl, if_false, Nat.add_zero] at h
  have htext : write env.actions 0 (.or l r) ++ c :: rest =
      write env.actions 0 l ++ '|' :: (write env.actions 1 r ++ c :: rest) := by
    simp [write, bracket]
  have hroom : k + (l.orLen + 1) + 1 = (k + 1) + l.orLen + 1 := by omega
  rw [Expr.orLen, htext, hroom, hl (k + 1) '|' _ (by omega) (by decide) (by decide)]
  exact orTail_or env (readsAnd_stop hr (by omega) hc hb rest)

lemma readsUnary_not {x : Expr String} (hx : ReadsUnary env x) : ReadsUnary env (.not x) := by
  intro room rest h
  simp only [need] at h
  obtain ⟨k, rfl⟩ : ∃ k, room = k + 1 := ⟨room - 1, by omega⟩
  exact unary_not env (hx k rest (by omega))

/-- A bracketed condition is read as the expression inside, with one level more. -/
lemma readsUnary_bracket {e : Expr String} (ho : ReadsOr env e)
    (hw : write env.actions 2 e = '(' :: write env.actions 0 e ++ [')'])
    (hn : need 2 e = need 0 e + 1) : ReadsUnary env e := by
  intro room rest h
  obtain ⟨k, rfl⟩ : ∃ k, room = k + e.orLen + 1 := ⟨room - 1 - e.orLen, by
    have := orLen_le_need e
    omega⟩
  have hinner : (expr env (k + e.orLen + 1) (write env.actions 0 e ++ ')' :: rest)).out =
      .ok (e, ')' :: rest) := by
    rw [ho k ')' rest (by omega) (by decide) (by decide),
      orTail_stop env (eat?_eq_none (by rw [dropBlanks_cons (by decide)]; simp)),
      dropBlanks_cons (by decide)]
  have hbang : (dropBlanks ('(' :: (write env.actions 0 e ++ ')' :: rest))).head? ≠ some '!' := by
    rw [dropBlanks_cons (by decide)]
    simp
  have htext : write env.actions 2 e ++ rest = '(' :: (write env.actions 0 e ++ ')' :: rest) := by
    rw [hw]
    simp
  rw [htext, unary_eq_primary env (eat?_eq_none hbang)]
  exact primary_paren env hinner

/-- **Reading a written condition** gives it back: at level 2 as a whole, and at levels 1 and 0
to the end of its chain, whenever the custom tests fit an accepted table. -/
theorem read_write (ht : TableOk env.actions) (e : Expr String) :
    Fits env.glob env.actions e → ReadsUnary env e ∧ ReadsAnd env e ∧ ReadsOr env e := by
  induction e with
  | identity u g =>
      intro _
      have hu : ReadsUnary env (.identity u g) := fun room rest _ => unary_identity room u g rest
      have ha := readsAnd_of_unary rfl rfl rfl hu
      exact ⟨hu, ha, readsOr_of_and rfl rfl rfl ha⟩
  | custom a p =>
      intro hfit
      have hu : ReadsUnary env (.custom a p) := fun room rest _ => unary_custom ht room hfit rest
      have ha := readsAnd_of_unary (by cases p <;> rfl) rfl rfl hu
      exact ⟨hu, ha, readsOr_of_and (by cases p <;> rfl) rfl rfl ha⟩
  | not x ih =>
      intro hfit
      have hu := readsUnary_not (ih hfit).1
      have ha := readsAnd_of_unary rfl rfl rfl hu
      exact ⟨hu, ha, readsOr_of_and rfl rfl rfl ha⟩
  | and l r ihl ihr =>
      intro hfit
      have ha := readsAnd_and (ihl hfit.1).2.1 (ihr hfit.2).1
      have ho := readsOr_of_and rfl rfl rfl ha
      exact ⟨readsUnary_bracket ho (by simp [write, bracket]) (by simp [need]), ha, ho⟩
  | or l r ihl ihr =>
      intro hfit
      have ho := readsOr_or (ihl hfit.1).2.2 (ihr hfit.2).2.1
      have hu := readsUnary_bracket ho (by simp [write, bracket]) (by simp [need])
      exact ⟨hu, readsAnd_of_unary (by simp [write, bracket]) (by simp [need]) rfl hu, ho⟩

/-- A written condition starts with `!`, a bracket or the first letter of a name. -/
lemma write_head (ht : TableOk env.actions) (e : Expr String) :
    Fits env.glob env.actions e → ∀ lvl, ∃ c, (write env.actions lvl e).head? = some c ∧
      (c = '!' ∨ c = '(' ∨ identStart c = true) := by
  induction e with
  | identity u g => exact fun _ _ => ⟨'u', rfl, .inr (.inr (by decide))⟩
  | custom a p =>
      rintro ⟨⟨spec, hspec, rfl, -⟩, -⟩ lvl
      have hname : actionName env.actions spec.id = spec.name.toList := by
        simp only [actionName, ht.find?_id hspec]
      obtain ⟨c, cs, hcs⟩ : ∃ c cs, spec.name.toList = c :: cs := by
        cases h : spec.name.toList with
        | nil => simpa [h, isIdent] using ht.ident spec hspec
        | cons c cs => exact ⟨c, cs, rfl⟩
      have hc : identStart c = true := by
        have := ht.ident spec hspec
        rw [hcs] at this
        simp only [isIdent, Bool.and_eq_true] at this
        exact this.1
      cases p with
      | none => exact ⟨c, by simp [write, hname, hcs], .inr (.inr hc)⟩
      | some q => exact ⟨c, by simp [write, hname, hcs], .inr (.inr hc)⟩
  | not x _ => exact fun _ _ => ⟨'!', rfl, .inl rfl⟩
  | and l r ihl _ =>
      intro hfit lvl
      by_cases h : 1 < lvl
      · exact ⟨'(', by simp [write, bracket, h], .inr (.inl rfl)⟩
      · obtain ⟨c, hl, hc⟩ := ihl hfit.1 1
        obtain ⟨cs, hcs⟩ := List.head?_eq_some_iff.1 hl
        exact ⟨c, by simp [write, bracket, h, hcs], hc⟩
  | or l r ihl _ =>
      intro hfit lvl
      by_cases h : 0 < lvl
      · exact ⟨'(', by simp [write, bracket, h], .inr (.inl rfl)⟩
      · obtain ⟨c, hl, hc⟩ := ihl hfit.1 0
        obtain ⟨cs, hcs⟩ := List.head?_eq_some_iff.1 hl
        exact ⟨c, by simp [write, bracket, h, hcs], hc⟩

end Conditions

/-! ### Rules and policy texts -/

/-- A rule as written: its condition, or `*` when it has none, then `=` and its decision. -/
def writeRule (actions : List ActionSpec) (r : Rule String) : List Char :=
  (match r.cond with
   | none => ['*']
   | some e => write actions 0 e) ++ '=' :: r.access.name.toList

/-- A policy text: version `1`, then the rules as written, each after a `;`. -/
def policyText (actions : List ActionSpec) (rules : List (Rule String)) : String :=
  String.ofList ('1' :: ';' :: List.intercalate [';'] (rules.map (writeRule actions)))

section Rules

variable {env : Env}

lemma access_name (a : Access) {rest : List Char} (hr : ∀ c ∈ rest.head?, identChar c = false) :
    (access env ('=' :: (a.name.toList ++ rest))).out = .ok (a, rest) := by
  obtain ⟨t, ht, hts⟩ := eat?_cons_self (c := '=') (by decide) (a.name.toList ++ rest)
  have hword : (ident env (a.name.toList ++ rest)).out = .ok (String.ofList a.name.toList, rest) :=
    ident_append env (by cases a <;> decide) hr
  rw [String.ofList_toList, ← hts] at hword
  obtain ⟨u, hu, hurest⟩ := Reading.eq_ok_of_out hword
  unfold access
  rw [ht]
  dsimp only
  rw [hu]
  dsimp only
  rw [Access.ofName?_name]
  simp [Reading.out, hurest]

lemma loneStar?_star (s : List Char) :
    ∃ t, loneStar? ('*' :: '=' :: s) = some t ∧ t.1 = '=' :: s := by
  obtain ⟨t, ht, hts⟩ := eat?_cons_self (c := '*') (by decide) ('=' :: s)
  unfold loneStar?
  rw [ht]
  dsimp only
  split
  · rename_i h
    rw [hts, dropBlanks_cons (by decide)] at h
    cases h
  · rename_i h
    rw [hts, dropBlanks_cons (by decide)] at h
    cases h
  · refine ⟨_, rfl, ?_⟩
    show dropBlanks t.1 = '=' :: s
    rw [hts, dropBlanks_cons (by decide)]
  · rename_i hne _ h
    rw [hts, dropBlanks_cons (by decide)] at h
    exact absurd h (by simp_all)

lemma loneStar?_of_head {s : List Char} {c : Char} (hs : s.head? = some c) (hb : isBlank c = false)
    (hc : c ≠ '*') : loneStar? s = none := by
  obtain ⟨cs, rfl⟩ := List.head?_eq_some_iff.1 hs
  unfold loneStar?
  rw [eat?_eq_none (by rw [dropBlanks_cons hb]; simpa using hc)]

/-- The first character of a written condition is no blank, no `*` and no `;`. -/
lemma head_facts {c : Char} (h : c = '!' ∨ c = '(' ∨ identStart c = true) :
    isBlank c = false ∧ c ≠ '*' ∧ c ≠ ';' := by
  rcases h with rfl | rfl | h
  · decide
  · decide
  · have hi := identChar_of_identStart h
    exact ⟨isBlank_of_identChar hi, ne_of_identChar hi (by decide),
      ne_of_identChar hi (by decide)⟩

/-- What a rule of a policy text must be for its text to read back. -/
def RuleFits (G : Globs) (actions : List ActionSpec) (r : Rule String) : Prop :=
  ∀ e, r.cond = some e → need 0 e < maxDepth ∧ Fits G actions e

lemma writeRule_head (ht : TableOk env.actions) {r : Rule String}
    (hr : RuleFits env.glob env.actions r) :
    ∃ c cs, writeRule env.actions r = c :: cs ∧ isBlank c = false ∧ c ≠ ';' := by
  obtain ⟨cond, acc⟩ := r
  cases cond with
  | none => exact ⟨'*', _, rfl, by decide, by decide⟩
  | some e =>
      obtain ⟨c, hc, hhead⟩ := write_head ht e (hr e rfl).2 0
      obtain ⟨cs, hcs⟩ := List.head?_eq_some_iff.1 hc
      obtain ⟨hb, -, hsemi⟩ := head_facts hhead
      exact ⟨c, cs ++ '=' :: acc.name.toList, by simp [writeRule, hcs], hb, hsemi⟩

/-- Reading a written rule gives it back, when `;` or nothing follows it. -/
lemma rule_write (ht : TableOk env.actions) {r : Rule String} (hr : RuleFits env.glob env.actions r)
    {rest : List Char} (hrest : ∀ c ∈ rest.head?, c = ';') :
    (rule env (writeRule env.actions r ++ rest)).out = .ok (r, rest) := by
  have hword : ∀ c ∈ rest.head?, identChar c = false := by
    intro c hc
    rw [hrest c hc]
    decide
  obtain ⟨cond, acc⟩ := r
  cases cond with
  | none =>
      obtain ⟨t, ht', hts⟩ := loneStar?_star (acc.name.toList ++ rest)
      have htext : writeRule env.actions ⟨none, acc⟩ ++ rest =
          '*' :: '=' :: (acc.name.toList ++ rest) := by
        simp [writeRule]
      rw [htext]
      unfold rule
      rw [ht']
      dsimp only
      rw [Reading.out_widen, Reading.out_map, hts, access_name acc hword]
      rfl
  | some e =>
      obtain ⟨hneed, hfit⟩ := hr e rfl
      obtain ⟨c, hc, hhead⟩ := write_head ht e hfit 0
      obtain ⟨hb, hstar, -⟩ := head_facts hhead
      obtain ⟨-, -, ho⟩ := read_write ht e hfit
      have htext : writeRule env.actions ⟨some e, acc⟩ ++ rest =
          write env.actions 0 e ++ '=' :: (acc.name.toList ++ rest) := by
        simp [writeRule]
      -- the condition takes the levels it needs and stops before `=`
      have hexpr :
          (expr env maxDepth (write env.actions 0 e ++ '=' :: (acc.name.toList ++ rest))).out =
            .ok (e, '=' :: (acc.name.toList ++ rest)) := by
        obtain ⟨k, hk⟩ : ∃ k, maxDepth = k + e.orLen + 1 := ⟨maxDepth - 1 - e.orLen, by
          have := orLen_le_need e
          omega⟩
        rw [hk, ho k '=' _ (by omega) (by decide) (by decide),
          orTail_stop env (eat?_eq_none (by rw [dropBlanks_cons (by decide)]; simp)),
          dropBlanks_cons (by decide)]
      have hhead' : (write env.actions 0 e ++ '=' :: (acc.name.toList ++ rest)).head? = some c := by
        obtain ⟨cs, hcs⟩ := List.head?_eq_some_iff.1 hc
        simp [hcs]
      rw [htext]
      unfold rule
      rw [loneStar?_of_head hhead' hb hstar]
      dsimp only
      rw [Reading.out_next_of_ok hexpr, Reading.out_map, access_name acc hword]
      rfl

/-- One round of the rule loop over a written rule: the rule is read, and the loop goes on after
the `;` that follows it, or ends with the text. -/
lemma rules_writeRule (ht : TableOk env.actions) {r : Rule String}
    (hr : RuleFits env.glob env.actions r) {rest : List Char}
    (hrest : rest = [] ∨ ∃ more, rest = ';' :: more) (acc : Array (Rule String)) :
    rules env (writeRule env.actions r ++ rest) acc =
      match rest with
      | ';' :: more => rules env more (acc.push r)
      | _ => .ok (acc.push r).toList := by
  obtain ⟨c, cs, hcs, hb, hsemi⟩ := writeRule_head ht hr
  have hsemis : ∀ c ∈ rest.head?, c = ';' := by
    rcases hrest with rfl | ⟨more, rfl⟩ <;> simp
  have hrule : (rule env (writeRule env.actions r ++ rest)).out = .ok (r, rest) :=
    rule_write ht hr hsemis
  have hfront : dropBlanks (writeRule env.actions r ++ rest) = writeRule env.actions r ++ rest := by
    rw [hcs, List.cons_append, dropBlanks_cons hb]
  rw [rules]
  split
  · rename_i h
    rw [hfront, hcs] at h
    cases h
  · rename_i more h
    rw [hfront, hcs, List.cons_append] at h
    obtain ⟨rfl, -⟩ := List.cons.inj h
    exact absurd rfl hsemi
  · rename_i d more _ h
    rw [hfront] at h
    rw [h] at hrule
    obtain ⟨u, hu, hurest⟩ := Reading.eq_ok_of_out hrule
    rw [hu]
    dsimp only
    -- after the rule: the end of the text, or a `;` and more rules
    split
    · rename_i h'
      rw [hurest] at h'
      rcases hrest with rfl | ⟨more', rfl⟩
      · rfl
      · rw [dropBlanks_cons (by decide)] at h'
        cases h'
    · rename_i more' h'
      rw [hurest] at h'
      rcases hrest with rfl | ⟨more'', rfl⟩
      · simp [dropBlanks] at h'
      · rw [dropBlanks_cons (by decide)] at h'
        obtain ⟨-, rfl⟩ := List.cons.inj h'
        rfl
    · rename_i d' more' hd' h'
      rw [hurest] at h'
      rcases hrest with rfl | ⟨more'', rfl⟩
      · simp [dropBlanks] at h'
      · rw [dropBlanks_cons (by decide)] at h'
        obtain ⟨rfl, -⟩ := List.cons.inj h'
        exact absurd rfl hd'

/-- The rule loop reads back a list of written rules joined by `;`. -/
lemma rules_write (ht : TableOk env.actions) :
    ∀ (rs : List (Rule String)) (acc : Array (Rule String)), (∀ r ∈ rs, RuleFits env.glob env.actions r) →
      rules env (List.intercalate [';'] (rs.map (writeRule env.actions))) acc =
        .ok (acc.toList ++ rs)
  | [], acc, _ => by
      show rules env [] acc = _
      rw [rules]
      simp [dropBlanks]
  | [r], acc, hrs => by
      have hr : rules env (writeRule env.actions r ++ []) acc = .ok (acc.push r).toList :=
        rules_writeRule ht (hrs r (by simp)) (.inl rfl) acc
      simp only [List.append_nil] at hr
      simp [hr]
  | r :: r' :: rs, acc, hrs => by
      have htext : List.intercalate [';'] ((r :: r' :: rs).map (writeRule env.actions)) =
          writeRule env.actions r ++
            ';' :: List.intercalate [';'] ((r' :: rs).map (writeRule env.actions)) := by
        simp
      rw [htext, rules_writeRule ht (hrs r (by simp)) (.inr ⟨_, rfl⟩) acc]
      show rules env _ (acc.push r) = _
      rw [rules_write ht (r' :: rs) (acc.push r) (fun r'' h => hrs r'' (by simp [h]))]
      simp

end Rules

section Texts

variable {G : Globs}

/-- A policy text of written rules parses back to its rules, when each rule's condition needs
no more levels than the parser grants. -/
theorem parse_policyText_of_fits (actions : List ActionSpec) (accounts : Accounts)
    (rs : List (Rule String)) (hT : checkActions actions = .ok ())
    (hrs : ∀ r ∈ rs, RuleFits G actions r) :
    parse G (policyText actions rs) actions accounts = .ok rs := by
  have ht := tableOk_of_checkActions hT
  have hspan :
      ('1' :: ';' :: List.intercalate [';'] (rs.map (writeRule actions))).span (· != ';') =
        (['1'], ';' :: List.intercalate [';'] (rs.map (writeRule actions))) := by
    rfl
  have htrim : trimList ['1'] = ['1'] := by rfl
  simp only [parse, policyText, hT, String.toList_ofList, hspan, htrim]
  rw [rules_write ht rs #[] hrs, Array.toList_empty, List.nil_append]
  rfl

/-- A condition of at most 127 operators fits in the levels the parser grants. -/
lemma ruleFits_of_ops {actions : List ActionSpec} {r : Rule String}
    (h : ∀ e, r.cond = some e → e.ops ≤ 127 ∧ Fits G actions e) : RuleFits G actions r := by
  intro e he
  obtain ⟨hops, hfit⟩ := h e he
  have hneed := need_le_ops e 0
  exact ⟨by unfold maxDepth; omega, hfit⟩

/-- **The round trip.** Rules whose conditions have at most 127 operators and whose custom
tests name actions of an accepted table, with an argument exactly when the action takes one and
with arguments that compile, are written as a policy text that parses back to the same rules. -/
theorem parse_policyText (G : Globs) (actions : List ActionSpec) (accounts : Accounts)
    (rs : List (Rule String)) (hT : checkActions actions = .ok ())
    (hrs : ∀ r ∈ rs, ∀ e, r.cond = some e → e.ops ≤ 127 ∧ Fits G actions e) :
    parse G (policyText actions rs) actions accounts = .ok rs :=
  parse_policyText_of_fits actions accounts rs hT fun r hr => ruleFits_of_ops (hrs r hr)

/-- Two actions, one with an argument, and three rules over them. -/
theorem parse_policyText_mount :
    checkActions [⟨"mount", 1, 1⟩, ⟨"reboot", 2, 0⟩] = .ok () ∧
    (∀ r ∈ [(⟨some (.or (.and (.identity (.exact 1000) .any) (.not (.custom 1 (some "it's"))))
        (.custom 2 none)), .deny⟩ : Rule String), ⟨none, .allow⟩,
        ⟨some (.and (.identity .any (.exact 0)) (.or (.custom 1 (some "*")) (.custom 2 none))),
          .allow⟩],
      ∀ e, r.cond = some e →
        e.ops ≤ 127 ∧ Fits Glob.library [⟨"mount", 1, 1⟩, ⟨"reboot", 2, 0⟩] e) ∧
    parse Glob.library (policyText [⟨"mount", 1, 1⟩, ⟨"reboot", 2, 0⟩]
        [⟨some (.or (.and (.identity (.exact 1000) .any) (.not (.custom 1 (some "it's"))))
          (.custom 2 none)), .deny⟩, ⟨none, .allow⟩,
          ⟨some (.and (.identity .any (.exact 0)) (.or (.custom 1 (some "*")) (.custom 2 none))),
            .allow⟩]) [⟨"mount", 1, 1⟩, ⟨"reboot", 2, 0⟩] .baseSystem =
      .ok [⟨some (.or (.and (.identity (.exact 1000) .any) (.not (.custom 1 (some "it's"))))
          (.custom 2 none)), .deny⟩, ⟨none, .allow⟩,
          ⟨some (.and (.identity .any (.exact 0)) (.or (.custom 1 (some "*")) (.custom 2 none))),
            .allow⟩] := by
  have hT : checkActions [⟨"mount", 1, 1⟩, ⟨"reboot", 2, 0⟩] = .ok () := by decide
  have hrs : ∀ r ∈ [(⟨some (.or (.and (.identity (.exact 1000) .any)
        (.not (.custom 1 (some "it's")))) (.custom 2 none)), .deny⟩ : Rule String),
        ⟨none, .allow⟩,
        ⟨some (.and (.identity .any (.exact 0)) (.or (.custom 1 (some "*")) (.custom 2 none))),
          .allow⟩],
      ∀ e, r.cond = some e →
        e.ops ≤ 127 ∧ Fits Glob.library [⟨"mount", 1, 1⟩, ⟨"reboot", 2, 0⟩] e := by
    simp only [List.mem_cons, List.not_mem_nil, or_false, forall_eq_or_imp, forall_eq,
      Option.some.injEq, reduceCtorEq, false_implies]
    simp [Fits, Expr.ops]
    refine ⟨?_, ⟨_, Pattern.compile?_stars 0⟩⟩
    -- the argument is plain text: its tokens are its characters
    have hbuild : Glob.library.build (String.ofList (collapseStars "it's".toList)) = .ok () := by
      decide +kernel
    unfold Pattern.compile?
    rw [if_neg (by simp [collapseStars])]
    split
    · exact ⟨_, rfl⟩
    · rename_i msg h
      rw [hbuild] at h
      cases h
  exact ⟨hT, hrs, parse_policyText Glob.library _ .baseSystem _ hT hrs⟩

end Texts

end Grammar

end PeerGate
