import Mathlib.Data.List.TakeDrop
import PeerGate.Proofs.Reading
import PeerGate.Policy.Glob

/-!
Where the policy reader stands: always at a character boundary of the text.

Offsets into a policy text count bytes of UTF-8, and the reader stands at the start of the text it
has still to read. Each reading function takes the rest of the text and gives back a rest of it,
and each refusal names the offset of a rest of the text it was reading. So the reader only ever
stands where a whole number of characters has been read, and every offset a refusal names is the
byte length of a prefix of the text: a character boundary, never past the end. Reading also always
ends: the rule loop reads at least a `;` each round and the expression readers use up levels, which
is how `parse` is defined as a total function.

* `Reading.Stays`: a reading of `s` that leaves a rest of `s`, or is refused at a rest of the text
  `w` it lies in (`Env.RaisedIn`); `stays_next`, `stays_widen`, `stays_map` carry it through the
  combinators.
* Scanning: `skip_suffix`, `eat?_suffix`, `expect_stays`, `ident_stays`, `quotedFrom_stays`,
  `arg_stays`, and the tests a call stands for (`callExpr_raised`, `call_stays`).
* `Staying`, `staying`: the six expression readers stay on their text, at every number of levels
  left, by induction on that number.
* `rule_stays`, `rules_raised`: one rule, and the rule loop.
* `parse_error_cases`: a refusal of `parse` comes from the action table, from the version, or from
  the body, at the byte length of a non-empty prefix of the text.
* `parse_faults_at_boundaries`: **every reading function stays on its text, and every offset
  `parse` names is a character boundary of the policy text; the action table's faults are named
  at offset 0, before the text is read.**
-/

namespace PeerGate.Grammar

open Text

/-! ### Readings that stay on their text -/

/-- A refusal raised where a rest of `w` was still to be read. -/
def Env.RaisedIn (env : Env) (w : List Char) (e : SpecError) : Prop :=
  ∃ r f, r <:+ w ∧ e = env.fault r f

lemma Env.RaisedIn.mono {env : Env} {w w' : List Char} {e : SpecError} (h : env.RaisedIn w e)
    (hw : w <:+ w') : env.RaisedIn w' e := by
  obtain ⟨r, f, hr, rfl⟩ := h
  exact ⟨r, f, hr.trans hw, rfl⟩

lemma Env.raisedIn_fault (env : Env) {r w : List Char} (h : r <:+ w) (f : CompileFault) :
    env.RaisedIn w (env.fault r f) :=
  ⟨r, f, h, rfl⟩

lemma Env.raisedIn_unexpected (env : Env) {r w : List Char} (h : r <:+ w) (wanted : Wanted) :
    env.RaisedIn w (env.unexpected wanted r) :=
  env.raisedIn_fault h _

section Stays

variable {env : Env} {s w : List Char} {β γ : Type}

/-- A reading of `s` that stays on its text: it leaves a rest of `s`, or it is refused where a
rest of `w` was still to be read. -/
def Reading.Stays (env : Env) (w : List Char) (x : Reading s β) : Prop :=
  match x with
  | .ok (_, t) => t.1 <:+ s
  | .error e => env.RaisedIn w e

lemma Reading.Stays.mono {x : Reading s β} {w' : List Char} (h : x.Stays env w) (hw : w <:+ w') :
    x.Stays env w' := by
  cases x with
  | ok bt => exact h
  | error e => exact Env.RaisedIn.mono h hw

lemma Reading.stays_widen {t : List Char} {x : Reading t β} (h : t.length ≤ s.length)
    (hx : x.Stays env w) (ht : t <:+ s) : (x.widen h).Stays env w := by
  cases x with
  | ok bu => exact (show bu.2.1 <:+ t from hx).trans ht
  | error e => exact hx

lemma Reading.stays_map {x : Reading s β} {f : β → γ} (hx : x.Stays env w) :
    (x.map f).Stays env w := by
  cases x with
  | ok bt => exact hx
  | error e => exact hx

/-- Reading on from a rest stays on the text when both readings do. -/
lemma Reading.stays_next {x : Reading s γ} {k : γ → (t : List Char) → Reading t β}
    (hx : x.Stays env w) (hk : ∀ c t, x.out = .ok (c, t) → t <:+ s → (k c t).Stays env w) :
    (x.next k).Stays env w := by
  cases x with
  | error e => exact hx
  | ok ct =>
    obtain ⟨c, t⟩ := ct
    have hts : t.1 <:+ s := hx
    have hkt := hk c t.1 rfl hts
    simp only [Reading.next]
    cases hkc : k c t.1 with
    | error e =>
      rw [hkc] at hkt
      exact hkt
    | ok du =>
      rw [hkc] at hkt
      exact (show du.2.1 <:+ t.1 from hkt).trans hts

end Stays

/-! ### Scanning -/

section Scan

variable (env : Env) {c : Char} {s : List Char}

lemma dropBlanks_suffix (s : List Char) : dropBlanks s <:+ s :=
  List.dropWhile_suffix _

lemma skip_suffix (s : List Char) : (skip s).1 <:+ s :=
  dropBlanks_suffix s

lemma eat?_suffix {t : Tail s} (h : eat? c s = some t) : t.1 <:+ s := by
  unfold eat? at h
  split at h
  · rename_i d rest hd
    split at h
    · cases h
      exact (List.suffix_cons d rest).trans (hd ▸ dropBlanks_suffix s)
    · cases h
  · cases h

lemma expect_stays (c : Char) (s : List Char) : (expect env c s).Stays env s := by
  unfold expect
  split
  · rename_i t ht
    exact eat?_suffix ht
  · exact env.raisedIn_unexpected (dropBlanks_suffix s) _

lemma ident_stays (s : List Char) : (ident env s).Stays env s := by
  unfold ident
  split
  · rename_i c rest hd
    have hsuf : c :: rest <:+ s := hd ▸ dropBlanks_suffix s
    split
    · exact (List.dropWhile_suffix _).trans hsuf
    · exact env.raisedIn_unexpected hsuf _
  · exact env.raisedIn_unexpected List.nil_suffix _

/-- A quoted argument ends inside the text it reads, and a missing closing quote is reported where
the argument started. -/
lemma quotedFrom_stays (quote : Char) (start acc s : List Char) :
    (quotedFrom env quote start acc s).Stays env start := by
  fun_induction quotedFrom env quote start acc s with
  | case1 => exact env.raisedIn_fault List.suffix_rfl _
  | case2 => exact env.raisedIn_fault List.suffix_rfl _
  | case3 acc c rest ih =>
    exact Reading.stays_widen _ ih ((List.suffix_cons _ _).trans (List.suffix_cons _ _))
  | case4 acc c rest _ => exact List.suffix_cons _ _
  | case5 acc c rest _ _ _ ih => exact Reading.stays_widen _ ih (List.suffix_cons _ _)

/-- An argument is read from the text at hand; a quoted one is reported, when unterminated, where
it started, just after its quote. -/
lemma arg_stays (s : List Char) : (arg env s).Stays env s := by
  unfold arg
  split
  · exact List.suffix_rfl
  · exact Reading.stays_widen _
      (Reading.stays_map ((quotedFrom_stays env _ _ _ _).mono (List.suffix_cons _ _)))
      (List.suffix_cons _ _)
  · exact Reading.stays_widen _
      (Reading.stays_map ((quotedFrom_stays env _ _ _ _).mono (List.suffix_cons _ _)))
      (List.suffix_cons _ _)
  · -- a bare argument runs up to the first character that ends it
    dsimp only
    split
    · exact env.raisedIn_unexpected List.suffix_rfl _
    · exact List.dropWhile_suffix _
  · exact env.raisedIn_unexpected List.suffix_rfl _

/-- An id is refused where its argument stands. -/
lemma identity_raised {argAt : List Char} {kind : IdKind} {v : String} {e : SpecError}
    (h : identity env argAt kind v = .error e) : ∃ f, e = env.fault argAt f := by
  unfold identity at h
  split at h
  · cases h
  · split at h
    · cases h
      exact ⟨_, rfl⟩
    · split at h
      · split at h
        · cases h
        · cases h
          exact ⟨_, rfl⟩
      · -- a name, looked up in the accounts of its kind
        split at h
        all_goals
          dsimp only at h
          split at h
          · cases h
          · cases h
            exact ⟨_, rfl⟩

/-- The test of a call is refused where its name or where its argument stands. -/
lemma callExpr_raised {nameAt argAt w : List Char} {name : String} {a : Option String}
    {e : SpecError} (h : callExpr env nameAt argAt name a = .error e) (hn : nameAt <:+ w)
    (ha : argAt <:+ w) : env.RaisedIn w e := by
  have hid : ∀ {kind v e}, identity env argAt kind v = .error e → env.RaisedIn w e := by
    intro kind v e hi
    obtain ⟨f, rfl⟩ := identity_raised env hi
    exact env.raisedIn_fault ha f
  unfold callExpr at h
  split at h
  · -- `user(u)` and `user(u:g)`
    split at h
    · cases h
      exact env.raisedIn_fault ha _
    · simp only [bind, Except.bind, pure, Except.pure] at h
      split at h
      · cases h
        exact hid ‹_›
      · split at h
        · split at h
          · cases h
            exact hid ‹_›
          · cases h
        · cases h
  · -- `group(g)`
    split at h
    · cases h
      exact env.raisedIn_fault ha _
    · simp only [bind, Except.bind, pure, Except.pure] at h
      split at h
      · cases h
        exact hid ‹_›
      · cases h
  · -- an action of the table: an unknown name is reported at the name, the rest at the argument
    split at h
    · cases h
      exact env.raisedIn_fault hn _
    · split at h
      · cases h
        exact env.raisedIn_fault ha _
      · cases h
        exact env.raisedIn_fault ha _
      · cases h
      · split at h
        · cases h
        · cases h
          exact env.raisedIn_fault ha _

lemma call_stays (s : List Char) : (call env s).Stays env s := by
  unfold call
  refine Reading.stays_next (ident_stays env s) fun name t₁ _ h₁ => ?_
  refine Reading.stays_next ((expect_stays env '(' t₁).mono h₁) fun _ t₂ _ h₂ => ?_
  -- the argument is read after the blanks that follow `(`
  have hskip : (skip t₂).1 <:+ s := (skip_suffix t₂).trans (h₂.trans h₁)
  refine Reading.stays_widen _ ?_ (skip_suffix t₂)
  refine Reading.stays_next ((arg_stays env _).mono hskip) fun a t₄ _ h₄ => ?_
  refine Reading.stays_next ((expect_stays env ')' t₄).mono (h₄.trans hskip))
    fun _ t₅ _ _ => ?_
  split
  · exact callExpr_raised env ‹_› List.suffix_rfl hskip
  · exact List.suffix_rfl

end Scan

/-! ### Expressions, each reading function from those it calls -/

section Steps

variable (env : Env)

lemma expr_stays_zero (s : List Char) : (expr env 0 s).Stays env s := by
  rw [expr]
  exact env.raisedIn_fault List.suffix_rfl _

lemma expr_stays_succ {r : Nat} (ha : ∀ s, (andExpr env r s).Stays env s)
    (ho : ∀ left s, (orTail env r left s).Stays env s) (s : List Char) :
    (expr env (r + 1) s).Stays env s := by
  rw [expr]
  exact Reading.stays_next (ha s) fun left t _ ht => (ho left t).mono ht

lemma orTail_stays_zero (left : Expr String) (s : List Char) :
    (orTail env 0 left s).Stays env s := by
  rw [orTail]
  split
  · exact skip_suffix s
  · rename_i t ht
    exact env.raisedIn_fault (eat?_suffix ht) _

lemma orTail_stays_succ {r : Nat} (ha : ∀ s, (andExpr env r s).Stays env s)
    (ho : ∀ left s, (orTail env r left s).Stays env s) (left : Expr String) (s : List Char) :
    (orTail env (r + 1) left s).Stays env s := by
  rw [orTail]
  split
  · exact skip_suffix s
  · rename_i t ht
    have hts := eat?_suffix ht
    exact Reading.stays_widen _ (Reading.stays_next ((ha t.1).mono hts)
      fun right u _ hu => (ho _ u).mono (hu.trans hts)) hts

lemma andExpr_stays {room : Nat} (hu : ∀ s, (unary env room s).Stays env s)
    (ht : ∀ left s, (andTail env room left s).Stays env s) (s : List Char) :
    (andExpr env room s).Stays env s := by
  rw [andExpr]
  exact Reading.stays_next (hu s) fun left t _ h => (ht left t).mono h

lemma andTail_stays_zero (left : Expr String) (s : List Char) :
    (andTail env 0 left s).Stays env s := by
  rw [andTail]
  split
  · exact skip_suffix s
  · rename_i t ht
    exact env.raisedIn_fault (eat?_suffix ht) _

lemma andTail_stays_succ {r : Nat} (hu : ∀ s, (unary env r s).Stays env s)
    (ht : ∀ left s, (andTail env r left s).Stays env s) (left : Expr String) (s : List Char) :
    (andTail env (r + 1) left s).Stays env s := by
  rw [andTail]
  split
  · exact skip_suffix s
  · rename_i t hat
    have hts := eat?_suffix hat
    exact Reading.stays_widen _ (Reading.stays_next ((hu t.1).mono hts)
      fun right u _ hu => (ht _ u).mono (hu.trans hts)) hts

lemma unary_stays_zero {s : List Char} (hp : (primary env 0 s).Stays env s) :
    (unary env 0 s).Stays env s := by
  rw [unary]
  split
  · rename_i t ht
    exact env.raisedIn_fault (eat?_suffix ht) _
  · exact hp

lemma unary_stays_succ {r : Nat} (hu : ∀ s, (unary env r s).Stays env s) {s : List Char}
    (hp : (primary env (r + 1) s).Stays env s) : (unary env (r + 1) s).Stays env s := by
  rw [unary]
  split
  · rename_i t ht
    have hts := eat?_suffix ht
    exact Reading.stays_widen _ (Reading.stays_map ((hu t.1).mono hts)) hts
  · exact hp

lemma primary_stays {room : Nat} (he : ∀ s, (expr env room s).Stays env s) (s : List Char) :
    (primary env room s).Stays env s := by
  rw [primary]
  split
  · rename_i rest h
    have hrest : rest <:+ s := (List.suffix_cons _ _).trans (h ▸ skip_suffix s)
    exact Reading.stays_widen _ (Reading.stays_next ((he rest).mono hrest)
      fun inner u _ hu => Reading.stays_map ((expect_stays env ')' u).mono (hu.trans hrest))) hrest
  · rename_i rest h
    exact (List.suffix_cons _ _).trans (h ▸ skip_suffix s)
  · rename_i c rest _ _ h
    split
    · exact Reading.stays_widen _ ((call_stays env _).mono (skip_suffix s)) (skip_suffix s)
    · exact env.raisedIn_unexpected (h ▸ skip_suffix s) _
  · exact env.raisedIn_unexpected List.nil_suffix _

end Steps

/-! ### All expression readers at once -/

/-- Each expression reader with `room` levels left stays on the text it reads. -/
structure Staying (env : Env) (room : Nat) : Prop where
  expr_s : ∀ s, (expr env room s).Stays env s
  orTail_s : ∀ left s, (orTail env room left s).Stays env s
  andExpr_s : ∀ s, (andExpr env room s).Stays env s
  andTail_s : ∀ left s, (andTail env room left s).Stays env s
  unary_s : ∀ s, (unary env room s).Stays env s
  primary_s : ∀ s, (primary env room s).Stays env s

section All

variable (env : Env)

lemma staying_zero : Staying env 0 := by
  have hprimary := primary_stays env (expr_stays_zero env)
  have hunary : ∀ s, (unary env 0 s).Stays env s := fun s => unary_stays_zero env (hprimary s)
  exact ⟨expr_stays_zero env, orTail_stays_zero env,
    andExpr_stays env hunary (andTail_stays_zero env), andTail_stays_zero env, hunary, hprimary⟩

/-- From `r` levels left to one more, the functions in the order in which they call one another
at the same number of levels. -/
lemma Staying.succ {r : Nat} (h : Staying env r) : Staying env (r + 1) := by
  have hexpr := expr_stays_succ env h.andExpr_s h.orTail_s
  have hprimary := primary_stays env hexpr
  have hunary : ∀ s, (unary env (r + 1) s).Stays env s :=
    fun s => unary_stays_succ env h.unary_s (hprimary s)
  have handTail := andTail_stays_succ env h.unary_s h.andTail_s
  exact ⟨hexpr, orTail_stays_succ env h.andExpr_s h.orTail_s, andExpr_stays env hunary handTail,
    handTail, hunary, hprimary⟩

theorem staying (room : Nat) : Staying env room := by
  induction room with
  | zero => exact staying_zero env
  | succ r ih => exact ih.succ env

end All

/-! ### Rules -/

section Rules

variable (env : Env)

lemma loneStar?_suffix {s : List Char} {t : Tail s} (h : loneStar? s = some t) : t.1 <:+ s := by
  unfold loneStar? at h
  split at h
  · rename_i u hu
    have hus := eat?_suffix hu
    split at h
    case h_4 => cases h
    -- the end, `;` or `=` after the star: the rest is the text after it, blanks skipped
    all_goals
      cases h
      exact (dropBlanks_suffix u.1).trans hus
  · cases h

lemma access_stays (s : List Char) : (access env s).Stays env s := by
  unfold access
  split
  · exact skip_suffix s
  · rename_i t ht
    have hts := eat?_suffix ht
    have hword := (ident_stays env t.1).mono hts
    -- the word after `=` is read, and a wrong one is reported where it starts
    cases hi : ident env t.1 with
    | error e =>
      rw [hi] at hword
      exact hword
    | ok wu =>
      rw [hi] at hword
      simp only
      split
      · exact (show wu.2.1 <:+ t.1 from hword).trans hts
      · exact env.raisedIn_fault hts _

lemma rule_stays (s : List Char) : (rule env s).Stays env s := by
  unfold rule
  split
  · rename_i t ht
    have hts := loneStar?_suffix ht
    exact Reading.stays_widen _ (Reading.stays_map ((access_stays env t.1).mono hts)) hts
  · exact Reading.stays_next ((staying env maxDepth).expr_s s)
      fun e t _ ht => Reading.stays_map ((access_stays env t).mono ht)

/-- After a rule read from a text that starts with blanks, the rest after the blanks that follow
the rule is a rest of the text. -/
lemma after_rule {s t₀ : List Char} {r : Rule String} {t : Tail t₀} (hs : dropBlanks s = t₀)
    (hr : rule env t₀ = .ok (r, t)) : dropBlanks t.1 <:+ s := by
  have hrule := rule_stays env t₀
  rw [hr] at hrule
  exact (dropBlanks_suffix t.1).trans
    ((show t.1 <:+ t₀ from hrule).trans (hs ▸ dropBlanks_suffix s))

/-- The rule loop is refused only where a rest of its text was still to be read. -/
lemma rules_raised (s : List Char) (acc : Array (Rule String)) :
    ∀ {e : SpecError}, rules env s acc = .error e → env.RaisedIn s e := by
  fun_induction rules env s acc with
  | case1 s acc hs =>
    intro e h
    cases h
  | case2 s acc more hs ih =>
    intro e h
    exact (ih h).mono ((List.suffix_cons _ _).trans (hs ▸ dropBlanks_suffix s))
  | case3 s acc d more hd hs err hr =>
    intro e h
    cases h
    have hrule := rule_stays env (d :: more)
    rw [hr] at hrule
    exact hrule.mono (hs ▸ dropBlanks_suffix s)
  | case4 s acc d more hd hs r t hr ht =>
    intro e h
    cases h
  | case5 s acc d more hd hs r t hr more' ht ih =>
    -- the next round starts after the `;` that follows the rule
    intro e h
    exact (ih h).mono ((List.suffix_cons _ _).trans (ht ▸ after_rule env hs hr))
  | case6 s acc d more hd hs r t hr d' more' hd' ht =>
    intro e h
    cases h
    exact env.raisedIn_unexpected (ht ▸ after_rule env hs hr) _

end Rules

/-! ### The whole text -/

/-- Every fault of an action table is reported at offset 0. -/
lemma checkActions_fault (earlier actions : List ActionSpec) :
    ∀ {e : SpecError}, checkActions.go earlier actions = .error e →
      ∃ f, e = .compile 0 f := by
  fun_induction checkActions.go earlier actions with
  | case1 =>
    intro e h
    cases h
  | case2 | case3 | case4 | case5 =>
    -- an id 0, an arity above 1, a bad name, a clash: each refused at offset 0
    intro e h
    cases h
    exact ⟨_, rfl⟩
  | case6 _ _ _ _ _ _ _ ih => exact ih

/-- A refusal of `parse` is the action table's, or the version's, or one in the body, at the byte
length of a prefix of the text that holds at least the version's `;`. -/
lemma parse_error_cases {G : Globs} {spec : String} {actions : List ActionSpec}
    {accounts : Accounts} {e : SpecError} (h : parse G spec actions accounts = .error e) :
    checkActions actions = .error e ∨ (∃ v, e = .unsupportedVersion v) ∨
      ∃ pre r f, spec.toList = pre ++ r ∧ pre ≠ [] ∧ e = .compile (byteLength pre) f := by
  unfold parse at h
  cases hc : checkActions actions with
  | error err =>
    rw [hc] at h
    cases h
    exact .inl rfl
  | ok u =>
    rw [hc] at h
    simp only [bind, Except.bind] at h
    split at h
    · cases h
      exact .inr (.inl ⟨_, rfl⟩)
    · split at h
      · cases h
      · rename_i semi body hbody
        -- the body follows the version and its `;`; the fault stands before a rest `r` of it
        obtain ⟨r, f, ⟨m, rfl⟩, rfl⟩ := rules_raised _ body #[] h
        have hsplit : spec.toList = ((spec.toList.span (· != ';')).1 ++ semi :: m) ++ r := by
          rw [List.append_assoc, List.cons_append, ← hbody, List.span_eq_takeWhile_dropWhile,
            List.takeWhile_append_dropWhile]
        have hsize := congrArg byteLength hsplit
        rw [byteLength_append] at hsize
        refine .inr (.inr ⟨_, r, f, hsplit, by simp, ?_⟩)
        simp only [Env.fault, SpecError.compile.injEq, and_true]
        omega

/-- The byte length of a prefix of a text's characters is a character boundary of the text. -/
lemma isValid_byteLength {spec : String} {pre r : List Char} (h : spec.toList = pre ++ r) :
    String.Pos.Raw.IsValid spec ⟨byteLength pre⟩ := by
  rw [String.Pos.Raw.isValid_iff_exists_append]
  refine ⟨String.ofList pre, String.ofList r, ?_, ?_⟩
  · rw [← String.ofList_append, ← h, String.ofList_toList]
  · ext
    rw [String.byteIdx_rawEndPos, utf8ByteSize_ofList]

/-- **The reader stands on character boundaries.** Every expression reader, at every number of
levels left, and the rule reader leave a rest of the text they read, and are refused only where a
rest of it was still to be read. So every offset `parse` names is a character boundary of the
policy text, not past its end; a faulty action table is reported before the text is read, at
offset 0. -/
theorem parse_faults_at_boundaries :
    (∀ (env : Env) (room : Nat), Staying env room) ∧
    (∀ (env : Env) (s : List Char), (rule env s).Stays env s) ∧
    (∀ (G : Globs) (spec : String) (actions : List ActionSpec) (accounts : Accounts) (pos : Nat)
      (f : CompileFault), parse G spec actions accounts = .error (.compile pos f) →
        String.Pos.Raw.IsValid spec ⟨pos⟩ ∧ pos ≤ spec.utf8ByteSize) ∧
    (∀ (G : Globs) (spec : String) (actions : List ActionSpec) (accounts : Accounts)
      (e : SpecError), checkActions actions = .error e →
        parse G spec actions accounts = .error e ∧ ∃ f, e = .compile 0 f) := by
  refine ⟨staying, rule_stays, fun G spec actions accounts pos f h => ?_,
    fun G spec actions accounts e hc => ⟨by simp [parse, hc, bind, Except.bind],
      checkActions_fault [] actions hc⟩⟩
  have hvalid : String.Pos.Raw.IsValid spec ⟨pos⟩ := by
    rcases parse_error_cases h with hc | ⟨v, hv⟩ | ⟨pre, r, f', hsplit, -, he⟩
    · -- the action table's faults are at offset 0
      obtain ⟨f', he⟩ := checkActions_fault [] actions hc
      cases he
      exact String.Pos.Raw.isValid_zero
    · cases hv
    · cases he
      exact isValid_byteLength hsplit
  exact ⟨hvalid, hvalid.le_utf8ByteSize⟩

/-- After two three-byte characters, the missing operand of `&` is reported at offset 12, the end
of the text. -/
example : parse Glob.library "1;a(日本)&" [⟨"a", 1, 1⟩] (.tables [] []) =
    .error (.compile 12 (.expected .expression none)) := by
  decide +kernel

end PeerGate.Grammar
