import Mathlib.Tactic.Lemma
import PeerGate.Policy.Grammar
import PeerGate.Proofs.Numerals

/-!
How the policy reader moves over text of a known shape.

Each reading function returns a value and the rest of its text, the rest carrying a proof that it
is no longer. `Reading.out` forgets that proof, so that readings of different texts can be
compared: a reading of `s` and a reading of a rest of `s` agree when they give the same value and
the same rest. The lemmas below say, for each function of the reader, what it gives on text of a
given shape; later proofs about the reader cite them and do not unfold the reader.

* Scanning: `dropBlanks_cons`, `eat?_cons_self`, `eat?_eq_none`, `expect_cons_self`; names and
  digits are never blanks (`isBlank_of_identChar`).
* Names and arguments: `ident_append`, `arg_close`, `arg_bare`, `arg_quoted` (a text written with
  `escape` is read back, `quotedFrom_escape`), and `identity_star`, `identity_digits`.
* Expressions, one step of each function: `unary_not`, `unary_eq_primary`, `primary_paren`,
  `primary_star`, `primary_call`, `andExpr_of_unary`, `andTail_and`, `andTail_stop`,
  `expr_of_andExpr`, `orTail_or`, `orTail_stop`.
-/

namespace PeerGate.Grammar

open Text

/-! ### Readings with their proofs forgotten -/

section Out

variable {s : List Char} {β γ : Type}

/-- What a reading gives: its value and the rest, as a plain list. -/
def Reading.out (x : Reading s β) : Except SpecError (β × List Char) :=
  match x with
  | .error e => .error e
  | .ok (b, t) => .ok (b, t.1)

@[simp] lemma Reading.out_widen {t : List Char} (x : Reading t β) (h : t.length ≤ s.length) :
    (x.widen h).out = x.out := by
  cases x with
  | error e => rfl
  | ok bt => rfl

@[simp] lemma Reading.out_map (x : Reading s β) (f : β → γ) :
    (x.map f).out = x.out.map fun bt => (f bt.1, bt.2) := by
  cases x with
  | error e => rfl
  | ok bt => rfl

/-- Reading on after a reading that gave `b` with rest `t` is reading on from `t`. -/
lemma Reading.out_next_of_ok {x : Reading s β} {k : β → (t : List Char) → Reading t γ} {b : β}
    {t : List Char} (h : x.out = .ok (b, t)) : (x.next k).out = (k b t).out := by
  cases x with
  | error e => cases h
  | ok bt =>
      obtain ⟨b', t'⟩ := bt
      simp only [Reading.out, Except.ok.injEq, Prod.mk.injEq] at h
      obtain ⟨rfl, rfl⟩ := h
      simp only [Reading.next]
      cases k b' t'.1 with
      | error e => rfl
      | ok cu => rfl

/-- A reading that gives `b` with rest `t` is a success with that value and rest. -/
lemma Reading.eq_ok_of_out {x : Reading s β} {b : β} {t : List Char} (h : x.out = .ok (b, t)) :
    ∃ u, x = .ok (b, u) ∧ u.1 = t := by
  cases x with
  | error e => cases h
  | ok bu =>
      obtain ⟨b', u⟩ := bu
      simp only [Reading.out, Except.ok.injEq, Prod.mk.injEq] at h
      obtain ⟨rfl, rfl⟩ := h
      exact ⟨u, rfl, rfl⟩

/-- A reading on from a rest succeeds only when the first reading did and the second one did
from its rest. -/
lemma Reading.out_next_eq_ok {x : Reading s β} {k : β → (t : List Char) → Reading t γ} {c : γ}
    {v : List Char} (h : (x.next k).out = .ok (c, v)) :
    ∃ b t, x.out = .ok (b, t) ∧ (k b t).out = .ok (c, v) := by
  cases x with
  | error e => cases h
  | ok bt =>
      obtain ⟨b, t⟩ := bt
      refine ⟨b, t.1, rfl, ?_⟩
      simp only [Reading.next] at h
      split at h
      · cases h
      · rename_i c' u hk
        rw [hk]
        exact h

lemma Reading.out_map_eq_ok {x : Reading s β} {f : β → γ} {c : γ} {v : List Char}
    (h : (x.map f).out = .ok (c, v)) : ∃ b, x.out = .ok (b, v) ∧ f b = c := by
  cases x with
  | error e => cases h
  | ok bt =>
      obtain ⟨b, t⟩ := bt
      simp only [Reading.map, Reading.out, Except.ok.injEq, Prod.mk.injEq] at h
      exact ⟨b, by rw [← h.2]; rfl, h.1⟩

end Out

/-! ### Scanning -/

section Scan

variable {c d : Char} {s : List Char}

lemma dropBlanks_cons (hc : isBlank c = false) (s : List Char) :
    dropBlanks (c :: s) = c :: s := by
  simp [dropBlanks, hc]

/-- A character that may stand in a name is an ASCII digit, letter or `_`. -/
lemma toNat_of_identChar (h : identChar c = true) : 48 ≤ c.toNat ∧ c.toNat ≤ 122 := by
  delta identChar Char.isAlphanum Char.isAlpha Char.isUpper Char.isLower Char.isDigit at h
  simp only [Bool.or_eq_true, Bool.and_eq_true, decide_eq_true_eq, beq_iff_eq, UInt32.le_iff_toNat_le] at h
  rcases h with ((⟨h1, h2⟩ | ⟨h1, h2⟩) | ⟨h1, h2⟩) | rfl
  · exact ⟨Nat.le_trans (by decide) h1, Nat.le_trans h2 (by decide)⟩
  · exact ⟨Nat.le_trans (by decide) h1, Nat.le_trans h2 (by decide)⟩
  · exact ⟨Nat.le_trans (by decide) h1, Nat.le_trans h2 (by decide)⟩
  · decide

lemma isBlank_of_identChar (h : identChar c = true) : isBlank c = false := by
  obtain ⟨h1, h2⟩ := toNat_of_identChar h
  simp only [isBlank]
  simp
  omega

lemma identChar_of_identStart (h : identStart c = true) : identChar c = true := by
  simp only [identStart, identChar, Bool.or_eq_true, Char.isAlphanum] at h ⊢
  rcases h with h | h
  · exact .inl (.inl h)
  · exact .inr h

lemma eat?_cons_self (hc : isBlank c = false) (s : List Char) :
    ∃ t, eat? c (c :: s) = some t ∧ t.1 = s := by
  unfold eat?
  split
  · rename_i d rest h
    rw [dropBlanks_cons hc] at h
    obtain ⟨rfl, rfl⟩ := List.cons.inj h
    exact ⟨_, if_pos rfl, rfl⟩
  · rename_i h
    rw [dropBlanks_cons hc] at h
    cases h

/-- A character is not eaten where, after blanks, something else or nothing stands. -/
lemma eat?_eq_none (h : (dropBlanks s).head? ≠ some c) : eat? c s = none := by
  unfold eat?
  split
  · rename_i d rest hd
    rw [hd] at h
    have hne : d ≠ c := fun hdc => h (by rw [hdc]; rfl)
    exact if_neg hne
  · rfl

/-- A run of characters of a class ends where the class ends. -/
lemma takeWhile_append_stop {p : Char → Bool} {body rest : List Char} (hin : ∀ c ∈ body, p c = true)
    (hstop : ∀ c ∈ rest.head?, p c = false) : (body ++ rest).takeWhile p = body := by
  rw [List.takeWhile_append_of_pos hin]
  cases rest with
  | nil => simp
  | cons d ds => simp [hstop d rfl]

lemma dropWhile_append_stop {p : Char → Bool} {body rest : List Char} (hin : ∀ c ∈ body, p c = true)
    (hstop : ∀ c ∈ rest.head?, p c = false) : (body ++ rest).dropWhile p = rest := by
  rw [List.dropWhile_append_of_pos hin]
  cases rest with
  | nil => rfl
  | cons d ds => simp [hstop d rfl]

lemma ne_of_identChar (hc : identChar c = true) (hd : identChar d = false) : c ≠ d := by
  rintro rfl
  rw [hc] at hd
  cases hd

lemma expect_cons_self (env : Env) (hc : isBlank c = false) (s : List Char) :
    (expect env c (c :: s)).out = .ok ((), s) := by
  obtain ⟨t, ht, hts⟩ := eat?_cons_self hc s
  unfold expect
  rw [ht]
  simp [Reading.out, hts]

end Scan

/-! ### Names and arguments -/

section Words

variable (env : Env)

/-- A name is read up to the first character that cannot continue it. -/
lemma ident_append {name rest : List Char} (hn : isIdent name = true)
    (hr : ∀ c ∈ rest.head?, identChar c = false) :
    (ident env (name ++ rest)).out = .ok (String.ofList name, rest) := by
  obtain ⟨c, cs, rfl⟩ : ∃ c cs, name = c :: cs := by
    cases name with
    | nil => cases hn
    | cons c cs => exact ⟨c, cs, rfl⟩
  simp only [isIdent, Bool.and_eq_true, List.all_eq_true] at hn
  obtain ⟨hc, hcs⟩ := hn
  have hall : ∀ d ∈ c :: cs, identChar d = true := by
    intro d hd
    rcases List.mem_cons.1 hd with rfl | hd
    · exact identChar_of_identStart hc
    · exact hcs d hd
  have htake := takeWhile_append_stop hall hr
  have hdrop := dropWhile_append_stop hall hr
  unfold ident
  split
  · rename_i d ds h
    rw [List.cons_append, dropBlanks_cons (isBlank_of_identChar (identChar_of_identStart hc))] at h
    obtain ⟨rfl, rfl⟩ := List.cons.inj h
    rw [if_pos hc]
    simp only [Reading.out, ← List.cons_append, htake, hdrop]
  · rename_i h
    rw [List.cons_append, dropBlanks_cons (isBlank_of_identChar (identChar_of_identStart hc))] at h
    cases h

lemma arg_close (s : List Char) : (arg env (')' :: s)).out = .ok (none, ')' :: s) := by
  rw [arg.eq_def]
  rfl

/-- A bare argument runs to the first character that ends it. -/
lemma arg_bare {tok rest : List Char} (hne : tok ≠ []) (htok : ∀ c ∈ tok, endsBare c = false)
    (hr : ∀ c ∈ rest.head?, endsBare c = true) :
    (arg env (tok ++ rest)).out = .ok (some (String.ofList tok), rest) := by
  obtain ⟨c, cs, rfl⟩ : ∃ c cs, tok = c :: cs := by
    cases tok with
    | nil => exact absurd rfl hne
    | cons c cs => exact ⟨c, cs, rfl⟩
  have hc : endsBare c = false := htok c (by simp)
  have hall : ∀ d ∈ c :: cs, (!endsBare d) = true := by
    intro d hd
    simp [htok d hd]
  have hstop : ∀ d ∈ rest.head?, (!endsBare d) = false := by
    intro d hd
    simp [hr d hd]
  have htake := takeWhile_append_stop hall hstop
  have hdrop := dropWhile_append_stop hall hstop
  have h1 : c ≠ ')' := by rintro rfl; simp [endsBare] at hc
  have h2 : c ≠ '\'' := by rintro rfl; simp [endsBare] at hc
  have h3 : c ≠ '"' := by rintro rfl; simp [endsBare] at hc
  rw [arg.eq_def, List.cons_append]
  -- the three quoting and closing characters are ruled out, so the bare case applies
  simp only
  simp only [← List.cons_append, htake, hdrop, List.isEmpty_cons, Bool.false_eq_true, if_false,
    Reading.out]

/-- The quoted form of a text: a backslash before each backslash and each `quote`. -/
def escape (quote : Char) : List Char → List Char
  | [] => []
  | c :: cs => if c = '\\' ∨ c = quote then '\\' :: c :: escape quote cs else c :: escape quote cs

/-- A quoted text is read back up to its closing quote, after what was read before it. -/
lemma quotedFrom_escape {quote : Char} (hq : quote ≠ '\\') (start : List Char) (p : List Char)
    (acc rest : List Char) :
    (quotedFrom env quote start acc (escape quote p ++ quote :: rest)).out =
      .ok (String.ofList (acc.reverse ++ p), rest) := by
  induction p generalizing acc with
  | nil =>
      rw [escape, List.nil_append, quotedFrom.eq_4 env quote start acc quote rest
        (fun h => absurd h hq) (fun _ _ h => absurd h hq), if_pos rfl]
      simp [Reading.out]
  | cons c cs ih =>
      by_cases hc : c = '\\' ∨ c = quote
      · rw [escape, if_pos hc, List.cons_append, List.cons_append, quotedFrom.eq_3,
          Reading.out_widen, ih]
        simp
      · have hb : c ≠ '\\' := fun h => hc (.inl h)
        have hqc : c ≠ quote := fun h => hc (.inr h)
        rw [escape, if_neg hc, List.cons_append,
          quotedFrom.eq_4 env quote start acc c _ (fun h => absurd h hb) (fun _ _ h => absurd h hb),
          if_neg hqc, Reading.out_widen, ih]
        simp

lemma arg_quoted (p rest : List Char) :
    (arg env ('\'' :: (escape '\'' p ++ '\'' :: rest))).out =
      .ok (some (String.ofList p), rest) := by
  rw [arg.eq_def]
  simp only [Reading.out_widen, Reading.out_map, @quotedFrom_escape env '\'' (by decide)]
  rfl

lemma identity_star (at_ : List Char) (kind : IdKind) : identity env at_ kind "*" = .ok .any := by
  simp [identity]

lemma identity_digits (at_ : List Char) (kind : IdKind) (n : UInt32) :
    identity env at_ kind (String.ofList (Nat.toDigits 10 n.toNat)) = .ok (.exact n) := by
  have hdig : ∀ c ∈ Nat.toDigits 10 n.toNat, c.isDigit = true :=
    fun c hc => Nat.isDigit_of_mem_toDigits (by decide) (by decide) hc
  have hstar : String.ofList (Nat.toDigits 10 n.toNat) ≠ "*" := by
    intro h
    have := congrArg String.toList h
    simp only [String.toList_ofList] at this
    have h' := hdig '*' (by simp [this])
    exact absurd h' (by decide)
  have hval : Numeral.digitsValue 10 (Nat.toDigits 10 n.toNat) = some n.toNat := by
    rw [Numeral.digitsValue_of_ne_nil Nat.toDigits_ne_nil,
      Numeral.digitsFrom_toDigits (by decide) (by decide)]
  have hword : Numeral.toWord32? n.toNat = some n := by
    simp [Numeral.toWord32?, n.toNat_lt_size]
  unfold identity
  rw [if_neg hstar, if_neg (by simp [Nat.toDigits_ne_nil]), if_pos (by simpa using hdig)]
  simp [hval, hword]

end Words

/-! ### Expressions, one step at a time -/

section Steps

variable (env : Env) {s u : List Char} {e left right : Expr String}

lemma unary_not {k : Nat} (h : (unary env k s).out = .ok (e, u)) :
    (unary env (k + 1) ('!' :: s)).out = .ok (.not e, u) := by
  obtain ⟨t, ht, hts⟩ := eat?_cons_self (c := '!') (by decide) s
  rw [unary, ht]
  simp only [Reading.out_widen, Reading.out_map]
  rw [hts, h]
  rfl

lemma unary_eq_primary {room : Nat} (h : eat? '!' s = none) :
    unary env room s = primary env room s := by
  rw [unary, h]

/-- A parenthesised expression: the expression inside, then its closing bracket. -/
lemma primary_paren {room : Nat} (h : (expr env room s).out = .ok (e, ')' :: u)) :
    (primary env room ('(' :: s)).out = .ok (e, u) := by
  rw [primary]
  split
  · rename_i rest hrest
    have hrest' : dropBlanks ('(' :: s) = '(' :: rest := hrest
    rw [dropBlanks_cons (by decide)] at hrest'
    obtain ⟨-, rfl⟩ := List.cons.inj hrest'
    rw [Reading.out_widen, Reading.out_next_of_ok h, Reading.out_map,
      expect_cons_self env (by decide)]
    rfl
  · rename_i rest hrest
    have hrest' : dropBlanks ('(' :: s) = '*' :: rest := hrest
    rw [dropBlanks_cons (by decide)] at hrest'
    cases hrest'
  · rename_i d rest hd _ hrest
    have hrest' : dropBlanks ('(' :: s) = d :: rest := hrest
    rw [dropBlanks_cons (by decide)] at hrest'
    obtain ⟨rfl, -⟩ := List.cons.inj hrest'
    exact absurd rfl hd
  · rename_i hrest
    have hrest' : dropBlanks ('(' :: s) = [] := hrest
    rw [dropBlanks_cons (by decide)] at hrest'
    cases hrest'

lemma primary_star (room : Nat) (s : List Char) :
    (primary env room ('*' :: s)).out = .ok (.identity .any .any, s) := by
  have hskip : (skip ('*' :: s)).1 = '*' :: s := dropBlanks_cons (c := '*') (by decide) s
  rw [primary]
  split
  · rename_i rest hrest
    rw [hskip] at hrest
    cases hrest
  · rename_i rest hrest
    rw [hskip] at hrest
    obtain ⟨-, rfl⟩ := List.cons.inj hrest
    rfl
  · rename_i d rest _ hd hrest
    rw [hskip] at hrest
    obtain ⟨rfl, -⟩ := List.cons.inj hrest
    exact absurd rfl hd
  · rename_i hrest
    rw [hskip] at hrest
    cases hrest

lemma primary_call {room : Nat} {c : Char} (hc : identStart c = true) (s : List Char) :
    (primary env room (c :: s)).out = (call env (c :: s)).out := by
  have hb : isBlank c = false := isBlank_of_identChar (identChar_of_identStart hc)
  have hskip : (skip (c :: s)).1 = c :: s := dropBlanks_cons hb s
  rw [primary]
  split
  · rename_i rest hrest
    rw [hskip] at hrest
    obtain ⟨rfl, -⟩ := List.cons.inj hrest
    cases hc
  · rename_i rest hrest
    rw [hskip] at hrest
    obtain ⟨rfl, -⟩ := List.cons.inj hrest
    cases hc
  · rename_i d rest _ _ hrest
    rw [hskip] at hrest
    obtain ⟨rfl, rfl⟩ := List.cons.inj hrest
    rw [if_pos hc, Reading.out_widen, hskip]
  · rename_i hrest
    rw [hskip] at hrest
    cases hrest

/-- A call: its name, `(`, its argument, `)`, and the test they stand for. -/
lemma call_of {name : String} {a : Option String} {x : Expr String} {s₂ s₅ : List Char}
    (hi : (ident env s).out = .ok (name, '(' :: s₂)) (hb : dropBlanks s₂ = s₂)
    (ha : (arg env s₂).out = .ok (a, ')' :: s₅)) (hx : callExpr env s s₂ name a = .ok x) :
    (call env s).out = .ok (x, s₅) := by
  unfold call
  rw [Reading.out_next_of_ok hi, Reading.out_next_of_ok (expect_cons_self env (by decide) s₂),
    Reading.out_widen]
  have hskip : (skip s₂).1 = s₂ := hb
  rw [hskip, Reading.out_next_of_ok ha, Reading.out_next_of_ok (expect_cons_self env (by decide) s₅),
    hx]
  rfl

lemma andExpr_of_unary {room : Nat} (h : (unary env room s).out = .ok (left, u)) :
    (andExpr env room s).out = (andTail env room left u).out := by
  rw [andExpr]
  exact Reading.out_next_of_ok h

/-- One more `&` operand, read with one level less. -/
lemma andTail_and {k : Nat} (h : (unary env k s).out = .ok (right, u)) :
    (andTail env (k + 1) left ('&' :: s)).out = (andTail env k (.and left right) u).out := by
  obtain ⟨t, ht, hts⟩ := eat?_cons_self (c := '&') (by decide) s
  rw [andTail, ht]
  simp only [Reading.out_widen]
  rw [hts]
  exact Reading.out_next_of_ok h

lemma andTail_stop {room : Nat} (h : eat? '&' s = none) :
    (andTail env room left s).out = .ok (left, dropBlanks s) := by
  rw [andTail, h]
  rfl

lemma expr_of_andExpr {r : Nat} (h : (andExpr env r s).out = .ok (left, u)) :
    (expr env (r + 1) s).out = (orTail env r left u).out := by
  rw [expr]
  exact Reading.out_next_of_ok h

/-- One more `|` operand, read with one level less. -/
lemma orTail_or {k : Nat} (h : (andExpr env k s).out = .ok (right, u)) :
    (orTail env (k + 1) left ('|' :: s)).out = (orTail env k (.or left right) u).out := by
  obtain ⟨t, ht, hts⟩ := eat?_cons_self (c := '|') (by decide) s
  rw [orTail, ht]
  simp only [Reading.out_widen]
  rw [hts]
  exact Reading.out_next_of_ok h

lemma orTail_stop {room : Nat} (h : eat? '|' s = none) :
    (orTail env room left s).out = .ok (left, dropBlanks s) := by
  rw [orTail, h]
  rfl

end Steps

end PeerGate.Grammar
