import Mathlib.Data.List.Forall2
import PeerGate.Service
import PeerGate.Policy.Glob

/-!
What an access service decides.

A service compiles the policies of its configuration in order, and refuses the configuration at
the first policy whose text does not compile. A request names a policy. An unknown name is
refused before the peer is looked up, so the cache and the bus are left as they were; otherwise
the peer is looked up, and the decision is the verdict of the named policy for the peer's
credential, or for no credential when the lookup fails, so that an unresolved peer is never
allowed as root.

* `mapM_ok_iff`, `mapM_error`: a fallible step run over a list succeeds on every element, or the
  answer is the failure of the first element it fails on.
* `AccessState.build_ok_iff`, `AccessState.build_error`: building a service succeeds exactly when
  every policy compiles, and otherwise fails naming the first policy that does not.
* `Config.names_nodup_of_validate`, `AccessState.lookup_served`: a checked configuration has
  distinct policy names, so each configured name finds its own compiled policy, and any other name
  finds none.
* `AccessState.checkPeer_served`: the decision under a served policy, through the lookup's
  result.
* `service_decides_by_policy`: **all together, for every state the service reaches.**
-/

namespace PeerGate

/-! ### Running a fallible step over a list -/

section MapM

variable {α β ε : Type} (f : α → Except ε β)

theorem mapM_ok_iff {xs : List α} {ys : List β} :
    xs.mapM f = .ok ys ↔ List.Forall₂ (fun x y => f x = .ok y) xs ys := by
  induction xs generalizing ys with
  | nil => cases ys <;> simp [pure, Except.pure]
  | cons x xs ih =>
    rw [List.mapM_cons]
    cases hx : f x with
    | error e => cases ys <;> simp [bind, Except.bind, hx]
    | ok y =>
      cases hxs : xs.mapM f with
      | error e => cases ys <;> simp [bind, Except.bind, ← ih, hxs]
      | ok ys' => cases ys <;> simp [bind, Except.bind, pure, Except.pure, ← ih, hxs, hx]

/-- Every element of a run that succeeded succeeded. -/
theorem ok_of_mapM_ok {xs : List α} {ys : List β} (h : xs.mapM f = .ok ys) {x : α}
    (hx : x ∈ xs) : ∃ y, f x = .ok y := by
  have hall := (mapM_ok_iff f).1 h
  clear h
  induction hall with
  | nil => cases hx
  | cons hxy _ ih =>
    rcases List.mem_cons.1 hx with rfl | hx
    · exact ⟨_, hxy⟩
    · exact ih hx

/-- A failed run failed at a first element: every element before it succeeded. -/
theorem mapM_error {xs : List α} {e : ε} (h : xs.mapM f = .error e) :
    ∃ pre x post, xs = pre ++ x :: post ∧ (∀ y ∈ pre, ∃ v, f y = .ok v) ∧
      f x = .error e := by
  induction xs with
  | nil => cases h
  | cons x xs ih =>
    rw [List.mapM_cons] at h
    cases hx : f x with
    | error e' =>
      -- the run stops at its first element
      rw [hx] at h
      cases h
      exact ⟨[], x, xs, rfl, by simp, hx⟩
    | ok v =>
      cases hxs : xs.mapM f with
      | error e' =>
        simp only [hx, hxs, bind, Except.bind] at h
        cases h
        obtain ⟨pre, y, post, rfl, hpre, hy⟩ := ih hxs
        refine ⟨x :: pre, y, post, rfl, ?_, hy⟩
        intro z hz
        rcases List.mem_cons.1 hz with rfl | hz
        · exact ⟨v, hx⟩
        · exact hpre z hz
      | ok vs => simp [hx, hxs, bind, Except.bind, pure, Except.pure] at h

end MapM

/-! ### Building a service -/

namespace Config

/-- Names that pass the checks are distinct from each other and from the ones seen before. -/
theorem checkNames_nodup (seen names : List String) (h : checkNames seen names = .ok ()) :
    names.Nodup ∧ ∀ n ∈ names, n ∉ seen := by
  induction names generalizing seen with
  | nil => simp
  | cons n rest ih =>
    unfold checkNames at h
    split at h
    · cases h
    · split at h
      · cases h
      · rename_i hseen
        obtain ⟨hnodup, hfresh⟩ := ih (n :: seen) h
        refine ⟨List.nodup_cons.2
          ⟨fun hn => hfresh n hn (List.mem_cons_self ..), hnodup⟩, ?_⟩
        intro m hm
        rcases List.mem_cons.1 hm with rfl | hm
        · simpa using hseen
        · exact fun hs => hfresh m hm (List.mem_cons_of_mem n hs)

/-- A checked configuration names each policy once. -/
theorem names_nodup_of_validate {cfg : Config} (h : cfg.validate = .ok ()) :
    (cfg.policies.map (·.name)).Nodup := by
  unfold validate at h
  simp only [bind, Except.bind] at h
  split at h
  · cases h
  · split at h
    · cases h
    · split at h
      · cases h
      · exact (checkNames_nodup [] _ h).1

end Config

namespace AccessState

variable {G : Globs} {cfg : Config} {override : Option String} {accounts : Accounts}
  {selfPid : UInt32}

theorem compilePolicy_eq_ok {p : PolicySource} {q : String × ServedPolicy G} :
    compilePolicy G accounts p = .ok q ↔
      ∃ P, Policy.compile G p.spec p.actions accounts = .ok P ∧
        q = (p.name, ⟨P, p.default⟩) := by
  unfold compilePolicy
  split
  · rename_i P hP
    simp [hP, eq_comm]
  · rename_i e he
    simp [he]

theorem compilePolicy_eq_error {p : PolicySource} {err : AccessError} :
    compilePolicy G accounts p = .error err ↔
      ∃ e, Policy.compile G p.spec p.actions accounts = .error e ∧
        err = .config (.policyCompile p.name e) := by
  unfold compilePolicy
  split
  · rename_i P hP
    simp [hP]
  · rename_i e he
    simp [he, eq_comm]

/-- A built service serves the configured policies, each compiled, in the order of the
configuration. -/
theorem build_policies {s : AccessState G} (h : build G cfg override accounts selfPid = .ok s) :
    cfg.policies.mapM (compilePolicy G accounts) = .ok s.policies := by
  unfold build at h
  cases hm : cfg.policies.mapM (compilePolicy G accounts) with
  | error err =>
    simp only [Config.withOverride, hm, bind, Except.bind] at h
    cases h
  | ok ps =>
    simp only [Config.withOverride, hm, bind, Except.bind, pure, Except.pure,
      Except.ok.injEq] at h
    rw [← h]

/-- A service is built exactly when every policy of the configuration compiles. -/
theorem build_ok_iff :
    (∃ s, build G cfg override accounts selfPid = .ok s) ↔
      ∀ p ∈ cfg.policies, ∃ P, Policy.compile G p.spec p.actions accounts = .ok P := by
  constructor
  · rintro ⟨s, hs⟩ p hp
    obtain ⟨q, hq⟩ := ok_of_mapM_ok _ (build_policies hs) hp
    obtain ⟨P, hP, -⟩ := compilePolicy_eq_ok.1 hq
    exact ⟨P, hP⟩
  · intro hall
    -- every policy compiles, so compiling them all gives a list, and the service is built
    have hmap : ∃ ps, cfg.policies.mapM (compilePolicy G accounts) = .ok ps := by
      cases hm : cfg.policies.mapM (compilePolicy G accounts) with
      | ok ps => exact ⟨ps, rfl⟩
      | error err =>
        obtain ⟨pre, p, post, hsplit, -, hp⟩ := mapM_error _ hm
        obtain ⟨e, he, -⟩ := compilePolicy_eq_error.1 hp
        obtain ⟨P, hP⟩ := hall p (hsplit ▸ List.mem_append_right pre (List.mem_cons_self ..))
        rw [hP] at he
        cases he
    obtain ⟨ps, hps⟩ := hmap
    simp only [build, Config.withOverride, hps, bind, Except.bind, pure, Except.pure]
    exact ⟨_, rfl⟩

/-- A service that is not built names the first policy of the configuration that does not
compile, with its refusal. -/
theorem build_error {err : AccessError} (h : build G cfg override accounts selfPid = .error err) :
    ∃ pre p post e, cfg.policies = pre ++ p :: post ∧
      (∀ q ∈ pre, ∃ P, Policy.compile G q.spec q.actions accounts = .ok P) ∧
      Policy.compile G p.spec p.actions accounts = .error e ∧
      err = .config (.policyCompile p.name e) := by
  have hm : cfg.policies.mapM (compilePolicy G accounts) = .error err := by
    unfold build at h
    cases hm : cfg.policies.mapM (compilePolicy G accounts) with
    | error err' =>
      simp only [Config.withOverride, hm, bind, Except.bind] at h
      cases h
      rfl
    | ok ps =>
      simp only [Config.withOverride, hm, bind, Except.bind, pure, Except.pure] at h
      cases h
  obtain ⟨pre, p, post, hsplit, hpre, hp⟩ := mapM_error _ hm
  obtain ⟨e, he, rfl⟩ := compilePolicy_eq_error.1 hp
  refine ⟨pre, p, post, e, hsplit, fun q hq => ?_, he, rfl⟩
  obtain ⟨v, hv⟩ := hpre q hq
  obtain ⟨P, hP, -⟩ := compilePolicy_eq_ok.1 hv
  exact ⟨P, hP⟩

/-! ### Looking up a served policy -/

/-- Among compiled policies with distinct names, a configured name finds its own policy. -/
theorem lookup_served {pcs : List PolicySource} {ps : List (String × ServedPolicy G)}
    (hps : List.Forall₂ (fun p q => compilePolicy G accounts p = .ok q) pcs ps)
    (hnodup : (pcs.map (·.name)).Nodup) {p : PolicySource} (hp : p ∈ pcs) :
    ∃ P, Policy.compile G p.spec p.actions accounts = .ok P ∧
      ps.lookup p.name = some ⟨P, p.default⟩ := by
  induction hps with
  | nil => cases hp
  | @cons p' q pcs ps hq _ ih =>
    obtain ⟨P', hP', rfl⟩ := compilePolicy_eq_ok.1 hq
    rw [List.map_cons, List.nodup_cons] at hnodup
    rcases List.mem_cons.1 hp with rfl | hp
    · exact ⟨P', hP', List.lookup_cons_self⟩
    · -- an earlier policy has another name, so the lookup passes it
      have hne : p.name ≠ p'.name := fun heq => hnodup.1 (heq ▸ List.mem_map_of_mem hp)
      obtain ⟨P, hP, hlook⟩ := ih hnodup.2 hp
      exact ⟨P, hP, by rw [List.lookup_cons, beq_false_of_ne hne, hlook]⟩

/-- A name no configured policy has finds nothing. -/
theorem lookup_unserved {pcs : List PolicySource} {ps : List (String × ServedPolicy G)}
    (hps : List.Forall₂ (fun p q => compilePolicy G accounts p = .ok q) pcs ps) {name : String}
    (hname : ∀ p ∈ pcs, p.name ≠ name) : ps.lookup name = none := by
  induction hps with
  | nil => rfl
  | @cons p' q pcs ps hq _ ih =>
    obtain ⟨P', -, rfl⟩ := compilePolicy_eq_ok.1 hq
    have hne : name ≠ p'.name := fun heq => hname p' (List.mem_cons_self ..) heq.symm
    rw [List.lookup_cons, beq_false_of_ne hne]
    exact ih fun p hp => hname p (List.mem_cons_of_mem _ hp)

/-! ### Deciding a request -/

/-- Under a served policy, the peer is looked up, and the decision is the policy's verdict for
the credential the lookup gives, or for none if it fails. -/
theorem checkPeer_served {t : AccessState G} {h : Host} {now : Nat} {bus : BusKind}
    {peer name : String} {action : UInt32} {arg : Option String} {served : ServedPolicy G}
    (hp : t.policies.lookup name = some served) :
    t.checkPeer h now bus peer name action arg =
      (.ok (verdict (some served.policy) ((t.peers.get h now bus peer).1.toOption.map (·.cred))
          action arg served.default),
        { t with peers := (t.peers.get h now bus peer).2.1 },
        (t.peers.get h now bus peer).2.2) := by
  unfold checkPeer
  rw [hp]
  -- the decision reads the lookup's result, whichever it is
  generalize t.peers.get h now bus peer = r
  obtain ⟨found, peers, h'⟩ := r
  cases found <;> rfl

end AccessState

/-- **What a service decides.** For a checked configuration, names in policy texts looked up in
`accounts`: the service is built exactly when every policy compiles, and otherwise it is refused,
naming the first policy that does not compile with its refusal. Once built, in every state whose
policies are the built ones, a request under a name no policy has is refused and leaves the state
and the bus as they were; a request under a configured name is decided by the verdict of that
policy's compiled text and default, for the credential of the peer the cache's lookup gives, or
for none when the lookup fails. -/
theorem service_decides_by_policy (G : Globs) (cfg : Config) (override : Option String)
    (accounts : Accounts) (selfPid : UInt32) (hcfg : cfg.validate = .ok ()) :
    ((∃ s, AccessState.build G cfg override accounts selfPid = .ok s) ↔
      ∀ p ∈ cfg.policies, ∃ P, Policy.compile G p.spec p.actions accounts = .ok P) ∧
    (∀ err, AccessState.build G cfg override accounts selfPid = .error err →
      ∃ pre p post e, cfg.policies = pre ++ p :: post ∧
        (∀ q ∈ pre, ∃ P, Policy.compile G q.spec q.actions accounts = .ok P) ∧
        Policy.compile G p.spec p.actions accounts = .error e ∧
        err = .config (.policyCompile p.name e)) ∧
    (∀ s, AccessState.build G cfg override accounts selfPid = .ok s →
      ∀ t : AccessState G, t.policies = s.policies →
      ∀ (h : Host) (now : Nat) (bus : BusKind) (peer name : String) (action : UInt32)
        (arg : Option String),
        ((∀ p ∈ cfg.policies, p.name ≠ name) →
          t.checkPeer h now bus peer name action arg =
            (.error (.config (.unknownPolicy name)), t, h)) ∧
        (∀ p ∈ cfg.policies, p.name = name →
          ∃ P, Policy.compile G p.spec p.actions accounts = .ok P ∧
            t.checkPeer h now bus peer name action arg =
              (.ok (verdict (some P) ((t.peers.get h now bus peer).1.toOption.map (·.cred))
                  action arg p.default),
                { t with peers := (t.peers.get h now bus peer).2.1 },
                (t.peers.get h now bus peer).2.2))) := by
  refine ⟨AccessState.build_ok_iff, fun err => AccessState.build_error, ?_⟩
  intro s hs t ht h now bus peer name action arg
  -- the state's policies are the configured ones, compiled one by one
  have hps : List.Forall₂ (fun p q => AccessState.compilePolicy G accounts p = .ok q)
      cfg.policies t.policies := ht ▸ (mapM_ok_iff _).1 (AccessState.build_policies hs)
  refine ⟨fun hname =>
    AccessState.checkPeer_unknown (AccessState.lookup_unserved hps hname), ?_⟩
  rintro p hp rfl
  obtain ⟨P, hP, hlook⟩ :=
    AccessState.lookup_served hps (Config.names_nodup_of_validate hcfg) hp
  exact ⟨P, hP, AccessState.checkPeer_served hlook⟩

/-- A configuration with one policy, `bus`, that denies everyone but root. -/
theorem service_decides_by_policy_bus :
    let cfg : Config :=
      { version := 1, policies := [{ name := "bus", spec := "1;*=deny;user(0)" }] }
    cfg.validate = .ok () ∧
    ((∃ s, AccessState.build Glob.library cfg none (.tables [] []) 1 = .ok s) ↔
      ∀ p ∈ cfg.policies, ∃ P,
        Policy.compile Glob.library p.spec p.actions (.tables [] []) = .ok P) ∧
    (∀ err, AccessState.build Glob.library cfg none (.tables [] []) 1 = .error err →
      ∃ pre p post e, cfg.policies = pre ++ p :: post ∧
        (∀ q ∈ pre, ∃ P,
          Policy.compile Glob.library q.spec q.actions (.tables [] []) = .ok P) ∧
        Policy.compile Glob.library p.spec p.actions (.tables [] []) = .error e ∧
        err = .config (.policyCompile p.name e)) ∧
    (∀ s, AccessState.build Glob.library cfg none (.tables [] []) 1 = .ok s →
      ∀ t : AccessState Glob.library, t.policies = s.policies →
      ∀ (h : Host) (now : Nat) (bus : BusKind) (peer name : String) (action : UInt32)
        (arg : Option String),
        ((∀ p ∈ cfg.policies, p.name ≠ name) →
          t.checkPeer h now bus peer name action arg =
            (.error (.config (.unknownPolicy name)), t, h)) ∧
        (∀ p ∈ cfg.policies, p.name = name →
          ∃ P, Policy.compile Glob.library p.spec p.actions (.tables [] []) = .ok P ∧
            t.checkPeer h now bus peer name action arg =
              (.ok (verdict (some P) ((t.peers.get h now bus peer).1.toOption.map (·.cred))
                  action arg p.default),
                { t with peers := (t.peers.get h now bus peer).2.1 },
                (t.peers.get h now bus peer).2.2))) :=
  ⟨rfl, service_decides_by_policy Glob.library _ none (.tables [] []) 1 rfl⟩

end PeerGate
