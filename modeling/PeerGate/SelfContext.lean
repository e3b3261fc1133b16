import PeerGate.Peer.Daemon

/-!
The credential of the service's own process.

A service reads its own credential from its own process record. It can read a fresh one each
time, or share one: the shared credential is built on first use and then handed out until it
expires, a fixed time after it was built (using it does not extend it), or until it is flushed.
Each build is a new instance, told apart by its generation.

* `SelfContext.fresh`: a newly read credential, never kept.
* `SelfContext.shared`: the shared instance, built if there is none.
* `SelfContext.shared2`: two requests started together when there is no instance: both read, the
  first to finish installs its instance, and the second hands out that one.
* `SelfContext.flush`, `SelfContext.expire`: forgetting the instance.
-/

namespace PeerGate

/-- A shared instance of the own credential: its generation, the credential, and when it
expires. -/
structure SharedCred where
  generation : Nat
  cred : ProcessCredential
  expires : Nat
deriving DecidableEq, Repr

/-- The own credential of a service: the own process id, the lifetime of a shared instance in
milliseconds, the current instance, and the generation of the last build or flush. -/
structure SelfContext where
  pid : UInt32
  lifeMs : Nat
  current : Option SharedCred := none
  generation : Nat := 0
deriving Repr

namespace SelfContext

/-- A newly read credential, with the read counted. -/
def fresh (s : SelfContext) (r : Records) : Except ExtractFault ProcessCredential × Records :=
  r.readProcess s.pid

/-- Installing a read credential at time `now`: a failed read hands out its fault; otherwise the
current instance if another request installed one meanwhile, or a new instance. -/
def install (s : SelfContext) (now : Nat) :
    Except ExtractFault ProcessCredential → Except ExtractFault SharedCred × SelfContext
  | .error f => (.error f, s)
  | .ok p =>
    match s.current with
    | some c => (.ok c, s)
    | none =>
      let c : SharedCred := ⟨s.generation + 1, p, now + s.lifeMs⟩
      (.ok c, { s with current := some c, generation := s.generation + 1 })

/-- The shared instance at time `now`, built from a fresh read if there is none. -/
def shared (s : SelfContext) (r : Records) (now : Nat) :
    Except ExtractFault SharedCred × SelfContext × Records :=
  match s.current with
  | some c => (.ok c, s, r)
  | none =>
    let (p, r) := s.fresh r
    let (res, s) := s.install now p
    (res, s, r)

/-- Two requests for the shared instance started together: without an instance both read before
either installs. -/
def shared2 (s : SelfContext) (r : Records) (now : Nat) :
    (Except ExtractFault SharedCred × Except ExtractFault SharedCred) × SelfContext × Records :=
  match s.current with
  | some c => ((.ok c, .ok c), s, r)
  | none =>
    let pa := s.fresh r
    let pb := s.fresh pa.2
    let ia := s.install now pa.1
    let ib := ia.2.install now pb.1
    ((ia.1, ib.1), ib.2, pb.2)

/-- Forgetting the shared instance. -/
def flush (s : SelfContext) : SelfContext :=
  { s with current := none, generation := s.generation + 1 }

/-- The context at time `now`: an instance whose lifetime has run out is gone. -/
def expire (s : SelfContext) (now : Nat) : SelfContext :=
  match s.current with
  | some c => if c.expires ≤ now then { s with current := none } else s
  | none => s

theorem shared_current {s : SelfContext} {c : SharedCred} (h : s.current = some c)
    (r : Records) (now : Nat) : s.shared r now = (.ok c, s, r) := by
  simp [shared, h]

theorem install_ok_current {s : SelfContext} {now : Nat}
    {p : Except ExtractFault ProcessCredential} {c : SharedCred}
    (h : (s.install now p).1 = .ok c) : (s.install now p).2.current = some c := by
  unfold install at h ⊢
  split at h
  · cases h
  · split at h
    · rename_i hc
      cases h
      simpa using hc
    · cases h
      rfl

theorem install_of_current {s : SelfContext} {c : SharedCred} (hc : s.current = some c)
    (now : Nat) (p : Except ExtractFault ProcessCredential) {c' : SharedCred}
    (h : (s.install now p).1 = .ok c') : c' = c := by
  unfold install at h
  split at h
  · cases h
  · simp only [hc] at h
    cases h
    rfl

theorem shared2_same {s : SelfContext} {r : Records} {now : Nat} {a b : SharedCred}
    (h : (s.shared2 r now).1 = (.ok a, .ok b)) : a = b := by
  unfold shared2 at h
  split at h
  · simp only [Prod.mk.injEq, Except.ok.injEq] at h
    obtain ⟨rfl, rfl⟩ := h
    rfl
  · simp only [Prod.mk.injEq] at h
    exact (install_of_current (install_ok_current h.1) _ _ h.2).symm

end SelfContext

end PeerGate
