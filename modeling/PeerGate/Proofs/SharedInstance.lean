import Mathlib.Tactic.Lemma
import PeerGate.SelfContext.Tasks

/-!
The shared own credential, along every interleaving of requests, flushes and expiry timers.

Every build and every flush takes the next generation, and a build arms a timer under its own
generation, due one lifetime after it; a timer forgets the instance only while the generation is
still its own; a request hands out the instance held, or the one it installs at that instant; and
time never passes a timer that is due. From these facts alone, whatever the order of events:

* `Runtime.Sound`: the invariant. The generation counts the builds and flushes, and the build at
  place `i` of the history has generation `i + 1`; the instance held is the last of them; each
  armed timer belongs to a build, and the instance held has its own timer armed, not yet past due;
  each instance handed out was built, and handed out by its expiry.
* `Sound.step`, one lemma per kind of event (`Sound.handOut`, `Sound.build`, `Sound.flush`,
  `Sound.fire`, `Sound.elapse`); `sound_run`: the invariant after any sequence of events.
* `shared_instance_generations`: **the generations at work**: the instance held is the one of the
  build of the slot's generation; a timer empties the slot only if no build and no flush came
  after the build that armed it; a request gets the instance held when it returns; and an instance
  built at time `t` is never handed out after `t` plus its lifetime, however often it is asked for.
-/

namespace PeerGate

namespace SelfContext

@[simp] theorem lifeMs_flush (s : SelfContext) : s.flush.lifeMs = s.lifeMs := rfl

@[simp] theorem lifeMs_expireGeneration (s : SelfContext) (g : Nat) :
    (s.expireGeneration g).lifeMs = s.lifeMs := by
  unfold expireGeneration
  split <;> rfl

theorem current_expireGeneration_of_ne {s : SelfContext} {g : Nat} (h : s.generation ≠ g) :
    (s.expireGeneration g).current = s.current := by
  simp [expireGeneration, h]

namespace Runtime

/-! ### What one event can do -/

/-- A finished read changes nothing, hands out the instance held, or builds: it installs the next
generation with what it read, arms its timer and hands it out. -/
lemma finish_cases (w : Runtime) (l : Waiting) (result : Except ExtractFault ProcessCredential) :
    w.finish l result = w ∨
    (∃ c, w.ctx.current = some c ∧ w.finish l result = w.handOut c) ∨
    (∃ c : SharedCred, w.ctx.current = none ∧ c.generation = w.ctx.generation + 1 ∧
      c.expires = w.now + w.ctx.lifeMs ∧
      w.finish l result = w.build l { w.ctx with current := some c, generation := c.generation } c)
    := by
  cases result with
  | error f => exact .inl (by simp [finish, install])
  | ok p =>
    cases hc : w.ctx.current with
    | some c => exact .inr (.inl ⟨c, rfl, by simp [finish, install, hc]⟩)
    | none => exact .inr (.inr ⟨⟨_, p, _⟩, rfl, rfl, rfl, by simp [finish, install, hc]⟩)

@[simp] lemma handOut_ctx (w : Runtime) (c : SharedCred) : (w.handOut c).ctx = w.ctx := rfl

/-- A request hands out, at the instant it returns, the instance the slot then holds. -/
lemma step_handout {w : Runtime} {ev : Event} {h : Handout}
    (hh : (w.step ev).handouts = w.handouts ++ [h]) :
    (w.step ev).ctx.current = some h.cred ∧ h.time = w.now := by
  -- events that hand nothing out leave the history as long as it was
  have hlen : ∀ w' : Runtime, w'.handouts = w.handouts → w'.handouts ≠ w.handouts ++ [h] := by
    intro w' hw' heq
    have := congrArg List.length (hw'.symm.trans heq)
    simp at this
  -- handing out the instance held
  have hheld : ∀ c, w.ctx.current = some c → (w.handOut c).handouts = w.handouts ++ [h] →
      (w.handOut c).ctx.current = some h.cred ∧ h.time = w.now := by
    intro c hc heq
    simp only [handOut, List.append_cancel_left_eq, List.cons.injEq, and_true] at heq
    subst heq
    exact ⟨hc, rfl⟩
  cases ev with
  | request =>
    simp only [step] at hh ⊢
    split at hh
    · rename_i c hc
      exact hheld c hc hh
    · exact absurd hh (hlen _ rfl)
  | read i result =>
    simp only [step] at hh ⊢
    split at hh
    · rename_i l _
      rcases finish_cases { w with waiting := w.waiting.eraseIdx i } l result with
        heq | ⟨c, hc, heq⟩ | ⟨c, hc, -, -, heq⟩ <;> rw [heq] at hh ⊢
      · exact absurd hh (hlen _ rfl)
      · exact hheld c hc hh
      · simp only [build, handOut, List.append_cancel_left_eq, List.cons.injEq, and_true] at hh
        subst hh
        exact ⟨rfl, rfl⟩
    · exact absurd hh (hlen _ rfl)
  | flush => exact absurd hh (hlen _ rfl)
  | fire j =>
    simp only [step] at hh
    split at hh
    · split at hh
      · exact absurd hh (hlen _ rfl)
      · exact absurd hh (hlen _ rfl)
    · exact absurd hh (hlen _ rfl)
  | elapse ms =>
    simp only [step] at hh
    split at hh
    · exact absurd hh (hlen _ rfl)
    · exact absurd hh (hlen _ rfl)

@[simp] lemma lifeMs_step (w : Runtime) (ev : Event) : (w.step ev).ctx.lifeMs = w.ctx.lifeMs := by
  cases ev with
  | request => simp only [step]; split <;> rfl
  | read i result =>
    simp only [step]
    split
    · rename_i l _
      rcases finish_cases { w with waiting := w.waiting.eraseIdx i } l result with
        heq | ⟨c, -, heq⟩ | ⟨c, -, -, -, heq⟩ <;> rw [heq] <;> rfl
    · rfl
  | flush => exact lifeMs_flush w.ctx
  | fire j =>
    simp only [step]
    split
    · split
      · exact lifeMs_expireGeneration w.ctx _
      · rfl
    · rfl
  | elapse ms => simp only [step]; split <;> rfl

lemma lifeMs_run (pid : UInt32) (lifeMs : Nat) (events : List Event) :
    (run pid lifeMs events).ctx.lifeMs = lifeMs := by
  suffices ∀ w : Runtime, (events.foldl step w).ctx.lifeMs = w.ctx.lifeMs from this _
  induction events with
  | nil => exact fun _ => rfl
  | cons ev events ih => exact fun w => (ih _).trans (lifeMs_step w ev)

/-! ### The invariant -/

/-- What holds of the context, its timers and its histories along every run. -/
structure Sound (w : Runtime) : Prop where
  generation_eq : w.ctx.generation = w.marks.length
  built_generation : ∀ i t s c, w.marks[i]? = some (.built t s c) → c.generation = i + 1
  built_expires : ∀ t s c, .built t s c ∈ w.marks → c.expires = t + w.ctx.lifeMs
  current_last : ∀ c, w.ctx.current = some c → ∃ t s, w.marks.getLast? = some (.built t s c)
  current_timer : ∀ c, w.ctx.current = some c → (⟨c.generation, c.expires⟩ : Timer) ∈ w.timers
  timer_built : ∀ τ ∈ w.timers, ∃ t s c, .built t s c ∈ w.marks ∧ τ = ⟨c.generation, c.expires⟩
  timer_due : ∀ τ ∈ w.timers, w.now ≤ τ.due
  handout_built : ∀ h ∈ w.handouts, ∃ t s, .built t s h.cred ∈ w.marks
  handout_due : ∀ h ∈ w.handouts, h.time ≤ h.cred.expires

variable {w : Runtime}

/-- A build of the current generation is the last build or flush. -/
lemma Sound.last_of_generation (h : w.Sound) {t s : Nat} {c : SharedCred}
    (hm : .built t s c ∈ w.marks) (hg : c.generation = w.ctx.generation) :
    w.marks.getLast? = some (.built t s c) := by
  obtain ⟨i, hi⟩ := List.mem_iff_getElem?.1 hm
  have hlen : i + 1 = w.marks.length := by
    rw [← h.built_generation i t s c hi, hg, h.generation_eq]
  rw [List.getLast?_eq_getElem?, ← hlen, Nat.add_sub_cancel]
  exact hi

/-- The instance held is of the current generation. -/
lemma Sound.current_generation (h : w.Sound) {c : SharedCred} (hc : w.ctx.current = some c) :
    c.generation = w.ctx.generation := by
  obtain ⟨t, s, hlast⟩ := h.current_last c hc
  rw [List.getLast?_eq_getElem?] at hlast
  have hpos : 0 < w.marks.length := by
    rcases Nat.eq_zero_or_pos w.marks.length with h0 | h0
    · simp [List.length_eq_zero_iff.1 h0] at hlast
    · exact h0
  rw [h.built_generation _ t s c hlast, h.generation_eq]
  omega

/-- The instance held is not past its expiry. -/
lemma Sound.now_le_expires (h : w.Sound) {c : SharedCred} (hc : w.ctx.current = some c) :
    w.now ≤ c.expires :=
  h.timer_due _ (h.current_timer c hc)

/-! ### One lemma per kind of event -/

lemma Sound.withWaiting (h : w.Sound) (l : List Waiting) : { w with waiting := l }.Sound :=
  ⟨h.generation_eq, h.built_generation, h.built_expires, h.current_last, h.current_timer,
    h.timer_built, h.timer_due, h.handout_built, h.handout_due⟩

/-- Handing out the instance held. -/
lemma Sound.handOut (h : w.Sound) {c : SharedCred} (hc : w.ctx.current = some c) :
    (w.handOut c).Sound := by
  refine ⟨h.generation_eq, h.built_generation, h.built_expires, h.current_last, h.current_timer,
    h.timer_built, h.timer_due, fun x hx => ?_, fun x hx => ?_⟩
  all_goals
    rcases List.mem_append.1 hx with hx | hx
  · exact h.handout_built x hx
  · obtain ⟨t, s, hlast⟩ := h.current_last c hc
    rw [List.mem_singleton.1 hx]
    exact ⟨t, s, List.mem_of_getLast? hlast⟩
  · exact h.handout_due x hx
  · rw [List.mem_singleton.1 hx]
    exact h.now_le_expires hc

/-- A build: the next generation, installed with its timer and handed out. -/
lemma Sound.build (h : w.Sound) (l : Waiting) {c : SharedCred}
    (hgen : c.generation = w.ctx.generation + 1) (hexp : c.expires = w.now + w.ctx.lifeMs) :
    (w.build l { w.ctx with current := some c, generation := c.generation } c).Sound := by
  -- the new mark is the last, at the place its generation names
  have hmem : ∀ {t s c'}, Mark.built t s c' ∈ w.marks ++ [.built w.now l.since c] →
      Mark.built t s c' ∈ w.marks ∨ (t = w.now ∧ c' = c) := by
    intro t s c' hm
    rcases List.mem_append.1 hm with hm | hm
    · exact .inl hm
    · simp only [List.mem_singleton, Mark.built.injEq] at hm
      exact .inr ⟨hm.1, hm.2.2⟩
  refine ⟨?_, fun i t s c' hi => ?_,
    fun t s c' hm => ?_, fun c' hc' => ?_, fun c' hc' => ?_, fun τ hτ => ?_, fun τ hτ => ?_,
    fun x hx => ?_, fun x hx => ?_⟩
  · change c.generation = (w.marks ++ [Mark.built w.now l.since c]).length
    simp [hgen, h.generation_eq]
  · change (w.marks ++ [.built w.now l.since c])[i]? = _ at hi
    rw [List.getElem?_append] at hi
    split at hi
    · exact h.built_generation i t s c' hi
    · rename_i hge
      have hi' : i - w.marks.length = 0 := by
        rcases hk : i - w.marks.length with _ | k
        · rfl
        · simp [hk] at hi
      simp only [hi', List.getElem?_cons_zero, Option.some.injEq, Mark.built.injEq] at hi
      rw [← hi.2.2, hgen, h.generation_eq]
      omega
  · rcases hmem hm with hm | ⟨rfl, rfl⟩
    · exact h.built_expires t s c' hm
    · exact hexp
  · change some c = some c' at hc'
    rw [Option.some.injEq] at hc'
    subst hc'
    exact ⟨w.now, l.since, List.getLast?_concat⟩
  · change some c = some c' at hc'
    rw [Option.some.injEq] at hc'
    subst hc'
    exact List.mem_append_right _ (List.mem_singleton_self _)
  · rcases List.mem_append.1 hτ with hτ | hτ
    · obtain ⟨t, s, c', hm, rfl⟩ := h.timer_built τ hτ
      exact ⟨t, s, c', List.mem_append_left _ hm, rfl⟩
    · rw [List.mem_singleton.1 hτ]
      exact ⟨_, _, _, List.mem_append_right _ (List.mem_singleton_self _), rfl⟩
  · rcases List.mem_append.1 hτ with hτ | hτ
    · exact h.timer_due τ hτ
    · rw [List.mem_singleton.1 hτ]
      change w.now ≤ c.expires
      omega
  · rcases List.mem_append.1 hx with hx | hx
    · obtain ⟨t, s, hm⟩ := h.handout_built x hx
      exact ⟨t, s, List.mem_append_left _ hm⟩
    · rw [List.mem_singleton.1 hx]
      exact ⟨_, _, List.mem_append_right _ (List.mem_singleton_self _)⟩
  · rcases List.mem_append.1 hx with hx | hx
    · exact h.handout_due x hx
    · rw [List.mem_singleton.1 hx]
      change w.now ≤ c.expires
      omega

lemma Sound.finish (h : w.Sound) (l : Waiting) (result : Except ExtractFault ProcessCredential) :
    (w.finish l result).Sound := by
  rcases finish_cases w l result with heq | ⟨c, hc, heq⟩ | ⟨c, -, hgen, hexp, heq⟩ <;> rw [heq]
  · exact h
  · exact h.handOut hc
  · exact h.build l hgen hexp

/-- A flush: the next generation, with no instance. -/
lemma Sound.flush (h : w.Sound) :
    ({ w with ctx := w.ctx.flush, marks := w.marks ++ [.flushed] } : Runtime).Sound := by
  have hmem : ∀ {t s c}, Mark.built t s c ∈ w.marks ++ [.flushed] → Mark.built t s c ∈ w.marks := by
    intro t s c hm
    simpa using hm
  refine ⟨by simp [SelfContext.flush, h.generation_eq], fun i t s c hi => ?_,
    fun t s c hm => h.built_expires t s c (hmem hm), fun c hc => by simp [SelfContext.flush] at hc,
    fun c hc => by simp [SelfContext.flush] at hc,
    fun τ hτ => ?_, h.timer_due, fun x hx => ?_, h.handout_due⟩
  · rw [List.getElem?_append] at hi
    split at hi
    · exact h.built_generation i t s c hi
    · rcases hk : i - w.marks.length with _ | k <;> simp [hk] at hi
  · obtain ⟨t, s, c, hm, rfl⟩ := h.timer_built τ hτ
    exact ⟨t, s, c, List.mem_append_left _ hm, rfl⟩
  · obtain ⟨t, s, hm⟩ := h.handout_built x hx
    exact ⟨t, s, List.mem_append_left _ hm⟩

/-- A timer that is due runs: it empties the slot if its generation is current, and is gone. -/
lemma Sound.fire (h : w.Sound) {j : Nat} {τ : Timer} (hj : w.timers[j]? = some τ) :
    ({ w with ctx := w.ctx.expireGeneration τ.generation, timers := w.timers.eraseIdx j } :
      Runtime).Sound := by
  have hgen : (w.ctx.expireGeneration τ.generation).generation = w.ctx.generation := by
    unfold expireGeneration
    split <;> rfl
  -- an instance still held after the timer ran is not of the timer's generation
  have hheld : ∀ c, (w.ctx.expireGeneration τ.generation).current = some c →
      w.ctx.current = some c ∧ c.generation ≠ τ.generation := by
    intro c hc
    by_cases hg : w.ctx.generation = τ.generation
    · simp [expireGeneration, hg] at hc
    · rw [current_expireGeneration_of_ne hg] at hc
      exact ⟨hc, fun hcg => hg (hcg ▸ h.current_generation hc).symm⟩
  refine ⟨hgen ▸ h.generation_eq, h.built_generation, by simpa using h.built_expires,
    fun c hc => h.current_last c (hheld c hc).1, fun c hc => ?_,
    fun σ hσ => h.timer_built σ (List.mem_of_mem_eraseIdx hσ),
    fun σ hσ => h.timer_due σ (List.mem_of_mem_eraseIdx hσ), h.handout_built, h.handout_due⟩
  -- the timer of the instance held is another one than the timer that ran
  obtain ⟨hc, hne⟩ := hheld c hc
  obtain ⟨i, hi⟩ := List.mem_iff_getElem?.1 (h.current_timer c hc)
  refine List.mem_eraseIdx_iff_getElem?.2 ⟨i, fun hij => ?_, hi⟩
  subst hij
  rw [hj, Option.some.injEq] at hi
  exact hne (congrArg Timer.generation hi).symm

/-- Time passes up to the earliest due timer. -/
lemma Sound.elapse (h : w.Sound) {ms : Nat} (hdue : ∀ τ ∈ w.timers, w.now + ms ≤ τ.due) :
    ({ w with now := w.now + ms } : Runtime).Sound :=
  ⟨h.generation_eq, h.built_generation, h.built_expires, h.current_last, h.current_timer,
    h.timer_built, hdue, h.handout_built, h.handout_due⟩

/-- Each event keeps the invariant. -/
lemma Sound.step (h : w.Sound) : ∀ ev, (w.step ev).Sound
  | .request => by
      simp only [Runtime.step]
      split
      · rename_i c hc
        exact h.handOut hc
      · exact h.withWaiting _
  | .read i result => by
      simp only [Runtime.step]
      split
      · exact (h.withWaiting _).finish _ result
      · exact h
  | .flush => h.flush
  | .fire j => by
      simp only [Runtime.step]
      split
      · rename_i τ hj
        split
        · exact h.fire hj
        · exact h
      · exact h
  | .elapse ms => by
      simp only [Runtime.step]
      split
      · rename_i hall
        exact h.elapse fun τ hτ => by simpa using List.all_eq_true.1 hall τ hτ
      · exact h

lemma sound_start (pid : UInt32) (lifeMs : Nat) :
    ({ ctx := { pid, lifeMs } } : Runtime).Sound :=
  ⟨rfl, by simp, by simp, by simp, by simp, by simp, by simp, by simp, by simp⟩

/-- The invariant along every run: by induction on the events, from the step lemma. -/
theorem sound_run (pid : UInt32) (lifeMs : Nat) (events : List Event) :
    (run pid lifeMs events).Sound := by
  suffices ∀ w : Runtime, w.Sound → (events.foldl step w).Sound from
    this _ (sound_start pid lifeMs)
  induction events with
  | nil => exact fun w h => h
  | cons ev events ih => exact fun w h => ih _ (h.step ev)

/-! ### The four facts -/

/-- The instance held is the one of the build of the slot's generation, the last build or flush,
and no other build has that generation. -/
lemma Sound.current_build (h : w.Sound) {c : SharedCred} (hc : w.ctx.current = some c) :
    c.generation = w.ctx.generation ∧ (∃ t s, w.marks.getLast? = some (.built t s c)) ∧
      ∀ t s c', .built t s c' ∈ w.marks → c'.generation = w.ctx.generation → c' = c := by
  refine ⟨h.current_generation hc, h.current_last c hc, fun t s c' hm hg => ?_⟩
  obtain ⟨t₀, s₀, hlast⟩ := h.current_last c hc
  rw [h.last_of_generation hm hg, Option.some.injEq, Mark.built.injEq] at hlast
  exact hlast.2.2

/-- A timer that empties the slot was armed by the last build or flush, which is the build of the
instance it forgets. -/
lemma Sound.fire_empties (h : w.Sound) {j : Nat} {c : SharedCred}
    (hc : w.ctx.current = some c) (hnone : (w.step (.fire j)).ctx.current = none) :
    ∃ τ t s, w.timers[j]? = some τ ∧ τ = ⟨c.generation, t + w.ctx.lifeMs⟩ ∧
      w.marks.getLast? = some (.built t s c) := by
  simp only [Runtime.step] at hnone
  split at hnone
  · rename_i τ hj
    split at hnone
    · -- the timer forgot the instance, so its generation is the current one
      have hg : w.ctx.generation = τ.generation := by
        refine Decidable.byContradiction fun hne => ?_
        rw [current_expireGeneration_of_ne hne, hc] at hnone
        cases hnone
      obtain ⟨t, s, c', hm, rfl⟩ := h.timer_built τ (List.mem_of_getElem? hj)
      have hlast := h.last_of_generation hm hg.symm
      -- the build that armed the timer is the last, so it is the build of the instance held
      obtain ⟨t₀, s₀, hlast₀⟩ := h.current_last c hc
      rw [hlast, Option.some.injEq, Mark.built.injEq] at hlast₀
      obtain ⟨-, -, rfl⟩ := hlast₀
      exact ⟨_, t, s, hj, by rw [h.built_expires t s _ hm], hlast⟩
    · rw [hc] at hnone
      cases hnone
  · rw [hc] at hnone
    cases hnone

/-- No instance is handed out later than its lifetime after its build. -/
lemma Sound.handout_le (h : w.Sound) {x : Handout} (hx : x ∈ w.handouts) {t s : Nat}
    {c : SharedCred} (hm : .built t s c ∈ w.marks) (hcx : c = x.cred) :
    x.time ≤ t + w.ctx.lifeMs := by
  rw [← h.built_expires t s c hm, hcx]
  exact h.handout_due x hx

/-- **The generations of the shared credential at work.** Along every interleaving of requests
(each waiting on its read), flushes, expiry timers and the passing of virtual time, from a fresh
context whose instances live `lifeMs`:
* the instance held is the one of the build whose generation is the slot's: that build is the last
  build or flush, and no other build has its generation;
* a timer empties the slot only if no build and no flush came after the build that armed it;
* a request gets the instance the slot holds when it returns: requests returning while one
  instance is held get that instance, and a request that lost the race to install gets the
  winner's;
* an instance built at time `t` is never handed out after `t + lifeMs`, however often it is asked
  for. -/
theorem shared_instance_generations (pid : UInt32) (lifeMs : Nat) (events : List Event) :
    let w := run pid lifeMs events
    (∀ c, w.ctx.current = some c →
      c.generation = w.ctx.generation ∧ (∃ t s, w.marks.getLast? = some (.built t s c)) ∧
      ∀ t s c', .built t s c' ∈ w.marks → c'.generation = w.ctx.generation → c' = c) ∧
    (∀ j c, w.ctx.current = some c → (w.step (.fire j)).ctx.current = none →
      ∃ τ t s, w.timers[j]? = some τ ∧ τ = ⟨c.generation, t + lifeMs⟩ ∧
        w.marks.getLast? = some (.built t s c)) ∧
    (∀ ev x, (w.step ev).handouts = w.handouts ++ [x] →
      (w.step ev).ctx.current = some x.cred ∧ x.time = w.now) ∧
    (∀ x ∈ w.handouts, ∀ t s c, .built t s c ∈ w.marks → c = x.cred → x.time ≤ t + lifeMs) := by
  intro w
  have h : w.Sound := sound_run pid lifeMs events
  have hlife : w.ctx.lifeMs = lifeMs := lifeMs_run pid lifeMs events
  refine ⟨fun c hc => h.current_build hc, fun j c hc hnone => ?_, fun ev x hx => step_handout hx,
    fun x hx t s c hm hcx => hlife ▸ h.handout_le hx hm hcx⟩
  rw [← hlife]
  exact h.fire_empties hc hnone

/-- A request builds an instance of the credential of process 7 at time 0 with a lifetime of
30 ms; 30 ms later its timer is due and empties the slot, as the timer of the last build. -/
theorem shared_instance_generations_expiry :
    (run 7 30 [.request, .read 0 (.ok ⟨7, ⟨1000, 1000, none, none⟩⟩), .elapse 30]).ctx.current =
      some ⟨1, ⟨7, ⟨1000, 1000, none, none⟩⟩, 30⟩ ∧
    ((run 7 30 [.request, .read 0 (.ok ⟨7, ⟨1000, 1000, none, none⟩⟩), .elapse 30]).step
      (.fire 0)).ctx.current = none ∧
    ∃ τ t s, (run 7 30 [.request, .read 0 (.ok ⟨7, ⟨1000, 1000, none, none⟩⟩), .elapse 30]).timers[0]? =
        some τ ∧ τ = ⟨1, t + 30⟩ ∧
      (run 7 30 [.request, .read 0 (.ok ⟨7, ⟨1000, 1000, none, none⟩⟩), .elapse 30]).marks.getLast? =
        some (.built t s ⟨1, ⟨7, ⟨1000, 1000, none, none⟩⟩, 30⟩) :=
  ⟨by decide, by decide,
    (shared_instance_generations 7 30 _).2.1 0 ⟨1, ⟨7, ⟨1000, 1000, none, none⟩⟩, 30⟩ (by decide)
      (by decide)⟩

end Runtime

end SelfContext

end PeerGate
