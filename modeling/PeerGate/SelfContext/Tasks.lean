import PeerGate.SelfContext

/-!
The own credential among concurrent requests, flushes and expiry timers, on a virtual clock.

`SelfContext.shared` runs a request for the shared instance from its start to its end. In a
service, requests run concurrently: a request that finds no instance reads the own process record,
and while it waits, other requests, flushes and expiry timers run. Once its read is done, the
request takes the instance that another request installed meanwhile, or installs its own under the
next generation (`SelfContext.install`) and arms the instance's expiry timer, with nothing in
between. A flush forgets the instance and takes a generation of its own. A timer that is due
forgets the instance only while the generation is still the one of the build that armed it.

The clock is virtual, as in a runtime whose time is paused: time passes only when nothing is left
to run at the present instant, so it never passes the due time of a timer that has not run. A timer
is due one lifetime after the build that armed it, since its task starts before time can pass.

* `SelfContext.Runtime`: the context, the clock, the requests that wait on their read, the armed
  timers, and two histories: the builds and flushes in order (`Mark`), and the instances handed
  out, each with the time it was handed out (`Handout`).
* `Runtime.step`: one event; `Runtime.run`: a sequence of events from a fresh context.
-/

namespace PeerGate

namespace SelfContext

/-- The context after the expiry timer of the build of generation `g` runs: the instance goes,
unless a build or a flush came since. -/
def expireGeneration (s : SelfContext) (g : Nat) : SelfContext :=
  if s.generation = g then { s with current := none } else s

/-- A request waiting on its read, with the number of builds and flushes before the read
started. -/
structure Waiting where
  since : Nat
deriving DecidableEq, Repr

/-- A build or a flush. -/
inductive Mark where
  /-- The instance `c` installed at `time` by a request whose read started after `since` builds
  and flushes. -/
  | built (time since : Nat) (c : SharedCred)
  | flushed
deriving DecidableEq, Repr

/-- An armed expiry timer: the generation of the build that armed it, and when it is due. -/
structure Timer where
  generation : Nat
  due : Nat
deriving DecidableEq, Repr

/-- An instance handed out to a request, and when. -/
structure Handout where
  time : Nat
  cred : SharedCred
deriving DecidableEq, Repr

/-- What can happen next. Waiting requests and armed timers are named by their place in their
list. -/
inductive Event where
  /-- a request for the shared instance: it takes the instance held, or starts reading -/
  | request
  /-- the read of waiting request `i` is done -/
  | read (i : Nat) (result : Except ExtractFault ProcessCredential)
  | flush
  /-- the task of timer `j` runs, if the timer is due -/
  | fire (j : Nat)
  /-- time passes, in milliseconds, if no timer falls due before it has run -/
  | elapse (ms : Nat)
deriving Repr

/-- The own credential with the requests that wait, the armed timers and the clock, and two
histories: the builds and flushes, in order, and the instances handed out. -/
structure Runtime where
  ctx : SelfContext
  now : Nat := 0
  waiting : List Waiting := []
  timers : List Timer := []
  marks : List Mark := []
  handouts : List Handout := []

namespace Runtime

/-- The runtime once instance `c` is handed out now. -/
def handOut (w : Runtime) (c : SharedCred) : Runtime :=
  { w with handouts := w.handouts ++ [⟨w.now, c⟩] }

/-- The runtime once request `l` has installed instance `c`, which context `ctx` holds: the
install is a build, arms the instance's timer, due when the instance expires, and hands the
instance out. -/
def build (w : Runtime) (l : Waiting) (ctx : SelfContext) (c : SharedCred) : Runtime :=
  { w.handOut c with
    ctx := ctx
    timers := w.timers ++ [⟨c.generation, c.expires⟩]
    marks := w.marks ++ [.built w.now l.since c] }

/-- Request `l` is done reading with `result`: a failed read hands out nothing. Otherwise the
request takes the instance another request installed meanwhile, or installs the credential it
read (`build`). -/
def finish (w : Runtime) (l : Waiting) (result : Except ExtractFault ProcessCredential) :
    Runtime :=
  match w.ctx.install w.now result with
  | (.error _, _) => w
  | (.ok c, ctx) =>
    match w.ctx.current with
    | some _ => w.handOut c
    | none => w.build l ctx c

/-- The runtime after one event; an event that cannot happen now changes nothing. -/
def step (w : Runtime) : Event → Runtime
  | .request =>
    match w.ctx.current with
    | some c => w.handOut c
    | none => { w with waiting := w.waiting ++ [⟨w.marks.length⟩] }
  | .read i result =>
    match w.waiting[i]? with
    | some l => { w with waiting := w.waiting.eraseIdx i }.finish l result
    | none => w
  | .flush => { w with ctx := w.ctx.flush, marks := w.marks ++ [.flushed] }
  | .fire j =>
    match w.timers[j]? with
    | some t =>
      if t.due ≤ w.now then
        { w with ctx := w.ctx.expireGeneration t.generation, timers := w.timers.eraseIdx j }
      else w
    | none => w
  | .elapse ms =>
    if w.timers.all fun t => decide (w.now + ms ≤ t.due) then { w with now := w.now + ms }
    else w

/-- A fresh context for process `pid` whose instances live `lifeMs`, after a sequence of
events. -/
def run (pid : UInt32) (lifeMs : Nat) (events : List Event) : Runtime :=
  events.foldl step { ctx := { pid, lifeMs } }

end Runtime

end SelfContext

end PeerGate
