import PeerGate.Proofs.Locality

/-!
The tokens of a policy text and the blanks between them.

A policy text is a sequence of tokens with blanks (Unicode `White_Space`) around them: the
version `1`, the marks `;`, `=`, `&`, `|`, `!`, `(`, `)` and `*`, names (the word after `=`
included), and the arguments of calls, bare or quoted. Which token may come next depends on where
the reader stands (`Place`): after a name a `(` opens a call's argument, and there a bare argument
runs up to a blank, a bracket, a quote or `;`, whatever marks it holds, and a quoted one up to its
closing quote.

`Respaced p s s'` reads `s` token by token from place `p` and says that `s'` is `s` with blanks
added before or after tokens and bare arguments written quoted (`quoteArg`). A blank cannot be
added inside a name, a bare argument or a quoted argument, since each of these is read whole: a
name or a bare argument up to the first character that cannot continue it, a quoted argument up
to the quote that closes it (`QuotedBody`).

* `Respaced.dropBlanks`: skipping blanks on both sides keeps the relation.
* `Respaced.head?_eq`, `Respaced.head_cases`: past the blanks both texts start alike, except at a
  call's argument, which may be quoted.
* `Respaced.mark_inv`, `Respaced.name_inv`, `Respaced.rules_of_name`: what the next token is, on
  both sides, when the first text starts with a mark, a name, or something after a name.
* `Respaced.version`: the version part of both texts is `1` with blanks around it.
-/

namespace PeerGate.Grammar

open Text

/-! ### Places and tokens -/

/-- Where the reader of a policy text stands, for the tokens that may come next. -/
inductive Place where
  /-- At the start, before the version. -/
  | version
  /-- After the version, before the `;` that ends it. -/
  | versionEnd
  /-- Among the tokens of the rules. -/
  | rules
  /-- Just after a name, where a `(` opens a call's argument. -/
  | name
  /-- Just after the `(` of a call, before its argument or its `)`. -/
  | arg
  /-- After a call's argument, before its `)`. -/
  | close
deriving DecidableEq

/-- The place after a token of one character read at place `p`, if it is one there. -/
def Place.mark : Place → Char → Option Place
  | .version, c => if c = '1' then some .versionEnd else none
  | .versionEnd, c => if c = ';' then some .rules else none
  | .rules, c =>
    if c = ';' ∨ c = '=' ∨ c = '&' ∨ c = '|' ∨ c = '!' ∨ c = '(' ∨ c = ')' ∨ c = '*'
    then some .rules
    else none
  | .name, c => if c = '(' then some .arg else none
  | .arg, c => if c = ')' then some .rules else none
  | .close, c => if c = ')' then some .rules else none

/-- A token of one character is no blank and starts no name. -/
theorem Place.mark_token {p q : Place} {c : Char} (h : p.mark c = some q) :
    isBlank c = false ∧ identStart c = false := by
  cases p <;> simp only [Place.mark] at h <;> split at h <;> cases h
  all_goals
    rename_i hc
    rcases hc with rfl | rfl | rfl | rfl | rfl | rfl | rfl | rfl <;> decide

theorem Place.mark_name {q : Place} {c : Char} (h : Place.name.mark c = some q) :
    c = '(' ∧ q = .arg := by
  simp only [Place.mark] at h
  split at h
  · exact ⟨‹_›, (Option.some.inj h).symm⟩
  · cases h

theorem Place.mark_arg {q : Place} {c : Char} (h : Place.arg.mark c = some q) :
    c = ')' ∧ q = .rules := by
  simp only [Place.mark] at h
  split at h
  · exact ⟨‹_›, (Option.some.inj h).symm⟩
  · cases h

/-- The two quotes an argument may be written in. -/
def IsQuote (c : Char) : Prop :=
  c = '\'' ∨ c = '"'

/-- A bare argument written quoted with `quote`: a backslash before each backslash and each
`quote`. -/
def quoteArg (quote : Char) (t : List Char) : List Char :=
  quote :: (escape quote t ++ [quote])

/-- The text between the quotes of a quoted argument: characters other than the quote and the
backslash, and a backslash with the character it takes as it is. -/
inductive QuotedBody (q : Char) : List Char → Prop
  | nil : QuotedBody q []
  | plain {c : Char} {cs : List Char} :
      c ≠ q → c ≠ '\\' → QuotedBody q cs → QuotedBody q (c :: cs)
  | escaped {c : Char} {cs : List Char} : QuotedBody q cs → QuotedBody q ('\\' :: c :: cs)

/-- `Respaced p s s'`: read from place `p`, the text `s'` is `s` with blanks added before or after
its tokens and bare arguments written quoted. -/
inductive Respaced : Place → List Char → List Char → Prop
  /-- Both texts end. -/
  | done (p : Place) : Respaced p [] []
  /-- A blank of the text, kept. -/
  | blank {p : Place} {c : Char} {s s' : List Char} :
      isBlank c = true → Respaced p s s' → Respaced p (c :: s) (c :: s')
  /-- A blank added. -/
  | insert {p : Place} {c : Char} {s s' : List Char} :
      isBlank c = true → Respaced p s s' → Respaced p s (c :: s')
  /-- A token of one character. -/
  | mark {p q : Place} {c : Char} {s s' : List Char} :
      p.mark c = some q → Respaced q s s' → Respaced p (c :: s) (c :: s')
  /-- A name, read whole: what follows cannot continue it. -/
  | name {w s s' : List Char} : isIdent w = true → (∀ c ∈ s.head?, identChar c = false) →
      Respaced .name s s' → Respaced .rules (w ++ s) (w ++ s')
  /-- After a name, any token but `(` goes on among the rules. -/
  | leave {c : Char} {s s' : List Char} : c ≠ '(' → isBlank c = false →
      Respaced .rules (c :: s) (c :: s') → Respaced .name (c :: s) (c :: s')
  /-- A bare argument, read whole, kept or written quoted. -/
  | bare {t t' s s' : List Char} : t ≠ [] → (∀ c ∈ t, endsBare c = false) →
      (∀ c ∈ s.head?, endsBare c = true) →
      (t' = t ∨ ∃ q, IsQuote q ∧ t' = quoteArg q t) → Respaced .close s s' →
      Respaced .arg (t ++ s) (t' ++ s')
  /-- A quoted argument, kept as written. -/
  | quoted {q : Char} {body s s' : List Char} : IsQuote q → QuotedBody q body →
      Respaced .close s s' → Respaced .arg (q :: (body ++ q :: s)) (q :: (body ++ q :: s'))

/-! ### Blanks before the next token -/

/-- A text that starts with no blank. -/
def Lead (s : List Char) : Prop :=
  ∀ c ∈ s.head?, isBlank c = false

theorem lead_dropBlanks (s : List Char) : Lead (dropBlanks s) := by
  intro c hc
  obtain ⟨rest, hrest⟩ : ∃ rest, dropBlanks s = c :: rest := by
    cases h : dropBlanks s with
    | nil => rw [h] at hc; cases hc
    | cons d rest =>
      rw [h] at hc
      cases hc
      exact ⟨rest, rfl⟩
  exact dropBlanks_head hrest

theorem dropBlanks_of_lead {s : List Char} (h : Lead s) : dropBlanks s = s := by
  cases s with
  | nil => rfl
  | cons c s => exact dropBlanks_cons (h c rfl) s

theorem dropBlanks_blank {c : Char} (hc : isBlank c = true) (s : List Char) :
    dropBlanks (c :: s) = dropBlanks s := by
  simp [dropBlanks, hc]

theorem lead_cons {c : Char} (hc : isBlank c = false) (s : List Char) : Lead (c :: s) := by
  intro d hd
  cases hd
  exact hc

theorem isBlank_of_endsBare_false {c : Char} (h : endsBare c = false) : isBlank c = false := by
  simp only [endsBare, Bool.or_eq_false_iff] at h
  exact h.1.1.1.1.1

theorem isQuote_not_blank {q : Char} (hq : IsQuote q) : isBlank q = false := by
  rcases hq with rfl | rfl <;> decide

theorem identChar_of_isBlank {c : Char} (hb : isBlank c = true) : identChar c = false := by
  cases hi : identChar c
  · rfl
  · rw [isBlank_of_identChar hi] at hb
    cases hb

theorem endsBare_of_isBlank {c : Char} (hb : isBlank c = true) : endsBare c = true := by
  simp [endsBare, hb]

/-- A name starts with no blank. -/
theorem lead_ident {w : List Char} (hw : isIdent w = true) (s : List Char) : Lead (w ++ s) := by
  cases w with
  | nil => cases hw
  | cons c cs =>
    simp only [isIdent, Bool.and_eq_true] at hw
    exact lead_cons (isBlank_of_identChar (identChar_of_identStart hw.1)) _

/-- A bare argument starts with no blank. -/
theorem lead_bare {t : List Char} (hne : t ≠ []) (ht : ∀ c ∈ t, endsBare c = false)
    (s : List Char) : Lead (t ++ s) := by
  cases t with
  | nil => exact absurd rfl hne
  | cons c cs => exact lead_cons (isBlank_of_endsBare_false (ht c (by simp))) _

/-- Both sides of every token start with no blank. -/
theorem Respaced.lead_of_token {p : Place} {s s' : List Char} (h : Respaced p s s')
    (hs : Lead s) (hs' : Lead s') : Respaced p (dropBlanks s) (dropBlanks s') := by
  rw [dropBlanks_of_lead hs, dropBlanks_of_lead hs']
  exact h

/-- **Skipping the blanks before the next token, on both sides, keeps the relation.** -/
theorem Respaced.dropBlanks {p : Place} {s s' : List Char} (h : Respaced p s s') :
    Respaced p (dropBlanks s) (dropBlanks s') := by
  induction h with
  | done p => exact .done p
  | blank hc _ ih => rwa [dropBlanks_blank hc, dropBlanks_blank hc]
  | insert hc _ ih => rwa [dropBlanks_blank hc]
  | mark hm h _ =>
    have hb := (Place.mark_token hm).1
    exact (Respaced.mark hm h).lead_of_token (lead_cons hb _) (lead_cons hb _)
  | name hw hend h _ =>
    exact (Respaced.name hw hend h).lead_of_token (lead_ident hw _) (lead_ident hw _)
  | leave hne hb h _ =>
    exact (Respaced.leave hne hb h).lead_of_token (lead_cons hb _) (lead_cons hb _)
  | @bare t t' s s' hne ht hend hq h _ =>
    have hlead' : Lead (t' ++ s') := by
      rcases hq with rfl | ⟨q, hq, rfl⟩
      · exact lead_bare hne ht _
      · exact lead_cons (isQuote_not_blank hq) _
    exact (Respaced.bare hne ht hend hq h).lead_of_token (lead_bare hne ht _) hlead'
  | quoted hq hb h _ =>
    have hlead := lead_cons (isQuote_not_blank hq)
    exact (Respaced.quoted hq hb h).lead_of_token (hlead _) (hlead _)

/-! ### The next token on both sides -/

theorem Lead.not_blank {c : Char} {s : List Char} (hs : Lead (c :: s)) (hc : isBlank c = true) :
    False := by
  rw [hs c rfl] at hc
  cases hc

theorem isIdent_head {w : List Char} (hw : isIdent w = true) :
    ∃ c cs, w = c :: cs ∧ identStart c = true := by
  cases w with
  | nil => cases hw
  | cons c cs =>
    simp only [isIdent, Bool.and_eq_true] at hw
    exact ⟨c, cs, rfl, hw.1⟩

theorem identChar_of_isIdent {w : List Char} (hw : isIdent w = true) :
    ∀ c ∈ w, identChar c = true := by
  obtain ⟨c, cs, rfl, hc⟩ := isIdent_head hw
  simp only [isIdent, Bool.and_eq_true, List.all_eq_true] at hw
  intro d hd
  rcases List.mem_cons.1 hd with rfl | hd
  · exact identChar_of_identStart hc
  · exact hw.2 d hd

/-- Past the blanks, both texts start alike, except at a call's argument, which may be quoted. -/
theorem Respaced.head?_eq {p : Place} (hp : p ≠ .arg) {s s' : List Char} (h : Respaced p s s')
    (hs : Lead s) (hs' : Lead s') : s'.head? = s.head? := by
  cases h with
  | done => rfl
  | blank hc _ => exact (hs.not_blank hc).elim
  | insert hc _ => exact (hs'.not_blank hc).elim
  | mark => rfl
  | name hw =>
    obtain ⟨c, cs, rfl, -⟩ := isIdent_head hw
    rfl
  | leave => rfl
  | bare => exact absurd rfl hp
  | quoted => exact absurd rfl hp

/-- Where the first text goes on, the second goes on alike or with an added blank. -/
theorem Respaced.head_cases {p : Place} (hp : p ≠ .arg) {s s' : List Char} (h : Respaced p s s') :
    ∀ d ∈ s'.head?, isBlank d = true ∨ d ∈ s.head? := by
  intro d hd
  cases h with
  | done => cases hd
  | blank => exact .inr hd
  | insert hc =>
    cases hd
    exact .inl hc
  | mark => exact .inr hd
  | name hw =>
    obtain ⟨c, cs, rfl, -⟩ := isIdent_head hw
    exact .inr hd
  | leave => exact .inr hd
  | bare => exact absurd rfl hp
  | quoted => exact absurd rfl hp

/-- **A token of one character stands on both sides**, with the rest related from the place after
it. -/
theorem Respaced.mark_inv {p q : Place} {c : Char} (hm : p.mark c = some q) {r u : List Char}
    (h : Respaced p (c :: r) u) (hu : Lead u) : ∃ r', u = c :: r' ∧ Respaced q r r' := by
  obtain ⟨hb, hi⟩ := Place.mark_token hm
  generalize hs : c :: r = s at h
  cases h with
  | done => cases hs
  | blank hc =>
    cases hs
    rw [hb] at hc
    cases hc
  | insert hc => exact (hu.not_blank hc).elim
  | mark hm' h' =>
    cases hs
    rw [hm] at hm'
    cases hm'
    exact ⟨_, rfl, h'⟩
  | name hw =>
    -- a name starts with a character that no token of one character is
    obtain ⟨d, ds, rfl, hd⟩ := isIdent_head hw
    cases hs
    rw [hi] at hd
    cases hd
  | leave hne =>
    cases hs
    exact absurd (Place.mark_name hm).1 hne
  | bare hne ht =>
    -- a bare argument cannot start with the `)` that closes the call
    obtain ⟨rfl, -⟩ := Place.mark_arg hm
    obtain ⟨d, ds, rfl⟩ := List.exists_cons_of_ne_nil hne
    cases hs
    have := ht ')' (by simp)
    simp [endsBare] at this
  | quoted hq =>
    obtain ⟨rfl, -⟩ := Place.mark_arg hm
    cases hs
    rcases hq with hq | hq <;> cases hq

/-- **A name stands whole on both sides**, with the rest related from the place after a name. -/
theorem Respaced.name_inv {w r u : List Char} (hw : isIdent w = true)
    (hr : ∀ c ∈ r.head?, identChar c = false) (h : Respaced .rules (w ++ r) u) (hu : Lead u) :
    ∃ r', u = w ++ r' ∧ Respaced .name r r' := by
  obtain ⟨c, cs, hwc, hc⟩ := isIdent_head hw
  generalize hs : w ++ r = s at h
  cases h with
  | done =>
    rw [hwc] at hs
    cases hs
  | blank hb =>
    rw [hwc] at hs
    cases hs
    rw [isBlank_of_identChar (identChar_of_identStart hc)] at hb
    cases hb
  | insert hb => exact (hu.not_blank hb).elim
  | mark hm =>
    rw [hwc] at hs
    cases hs
    rw [(Place.mark_token hm).2] at hc
    cases hc
  | @name w' s₀ s₀' hw' hend h' =>
    -- both names run to the first character that cannot continue a name
    have hsame : w' = w := by
      have h1 := takeWhile_append_stop (identChar_of_isIdent hw) hr
      have h2 := takeWhile_append_stop (identChar_of_isIdent hw') hend
      rw [← h1, ← h2, hs]
    subst hsame
    obtain rfl := List.append_cancel_left hs
    exact ⟨s₀', rfl, h'⟩

/-- After a name, what is not the `(` of a call goes on among the rules. -/
theorem Respaced.rules_of_name {s s' : List Char} (h : Respaced .name s s') (hs : Lead s)
    (hs' : Lead s') (hne : ∀ c ∈ s.head?, c ≠ '(') : Respaced .rules s s' := by
  cases h with
  | done => exact .done _
  | blank hc => exact (hs.not_blank hc).elim
  | insert hc => exact (hs'.not_blank hc).elim
  | mark hm => exact absurd (Place.mark_name hm).1 (hne _ rfl)
  | leave _ _ h => exact h

/-! ### The version -/

/-- What follows the version part: nothing, or the `;` that ends it and the rules. -/
def VersionRest (s s' : List Char) : Prop :=
  (s = [] ∧ s' = []) ∨
    ∃ body body', s = ';' :: body ∧ s' = ';' :: body' ∧ Respaced .rules body body'

theorem trimList_blank_cons {c : Char} (hc : isBlank c = true) (l : List Char) :
    trimList (c :: l) = trimList l := by
  rw [trimList, trimList, dropBlanks_blank hc]

/-- `1` with blanks after it, trimmed. -/
theorem trimList_one_blanks {bs : List Char} (hbs : ∀ c ∈ bs, isBlank c = true) :
    trimList ('1' :: bs) = ['1'] := by
  have hrev : ∀ c ∈ bs.reverse, isBlank c = true := fun c hc => hbs c (List.mem_reverse.1 hc)
  rw [trimList, dropBlanks_cons (by decide), List.reverse_cons, dropBlanks,
    List.dropWhile_append_of_pos hrev]
  rfl

theorem blank_ne_semi {c : Char} (hc : isBlank c = true) : (c != ';') = true := by
  have hne : c ≠ ';' := by
    rintro rfl
    cases hc
  simpa using hne

/-- After the version, the second text has only blanks before its first `;`, and what follows
is related. -/
theorem Respaced.versionEnd {s s' : List Char} (h : Respaced .versionEnd s s') :
    (∀ c ∈ s'.takeWhile (· != ';'), isBlank c = true) ∧
      VersionRest (s.dropWhile (· != ';')) (s'.dropWhile (· != ';')) := by
  generalize hp : Place.versionEnd = p at h
  induction h with
  | done => exact ⟨by simp, .inl ⟨rfl, rfl⟩⟩
  | blank hc _ ih =>
    obtain ⟨h1, h2⟩ := ih hp
    simp only [List.takeWhile_cons, List.dropWhile_cons, blank_ne_semi hc, if_true,
      List.mem_cons, forall_eq_or_imp]
    exact ⟨⟨hc, h1⟩, h2⟩
  | insert hc _ ih =>
    obtain ⟨h1, h2⟩ := ih hp
    simp only [List.takeWhile_cons, List.dropWhile_cons, blank_ne_semi hc, if_true,
      List.mem_cons, forall_eq_or_imp]
    exact ⟨⟨hc, h1⟩, h2⟩
  | mark hm h' =>
    subst hp
    simp only [Place.mark] at hm
    split at hm
    · rename_i hc
      subst hc
      cases hm
      exact ⟨by simp, .inr ⟨_, _, by simp, by simp, h'⟩⟩
    · cases hm
  | name => cases hp
  | leave => cases hp
  | bare => cases hp
  | quoted => cases hp

/-- **The version part is `1` with blanks around it on both sides**, when it is on the first,
and what follows it is related. -/
theorem Respaced.version {s s' : List Char} (h : Respaced .version s s')
    (hv : trimList (s.takeWhile (· != ';')) = ['1']) :
    trimList (s'.takeWhile (· != ';')) = ['1'] ∧
      VersionRest (s.dropWhile (· != ';')) (s'.dropWhile (· != ';')) := by
  generalize hp : Place.version = p at h
  induction h with
  | done => cases hv
  | blank hc _ ih =>
    simp only [List.takeWhile_cons, List.dropWhile_cons, blank_ne_semi hc, if_true,
      trimList_blank_cons hc] at hv ⊢
    exact ih hv hp
  | insert hc _ ih =>
    simp only [List.takeWhile_cons, List.dropWhile_cons, blank_ne_semi hc, if_true,
      trimList_blank_cons hc]
    exact ih hv hp
  | mark hm h' =>
    subst hp
    simp only [Place.mark] at hm
    split at hm
    · rename_i hc
      subst hc
      cases hm
      obtain ⟨h2, h3⟩ := h'.versionEnd
      have hone : ('1' != ';') = true := rfl
      simp only [List.takeWhile_cons, List.dropWhile_cons, hone, if_true]
      exact ⟨trimList_one_blanks h2, h3⟩
    · cases hm
  | name => cases hp
  | leave => cases hp
  | bare => cases hp
  | quoted => cases hp

end PeerGate.Grammar
