import Conformance.Proofs.Sweep.Complete

/-! Runs that go alike although more is kept of one of them: what is printed and logged on the way
makes no difference to what is asked and reported. -/
namespace Conformance

section
variable {σ τ α β : Type} {view : σ → τ}

/-- Nothing changes in this view of the state. -/
def Keeps (view : σ → τ) (x : StateM σ α) : Prop :=
  ∀ s, view (x s).2 = view s

/-- In this view of the state the one does what the other does, and both yield the same. -/
def Follows (view : σ → τ) (x : StateM σ α) (y : StateM τ α) : Prop :=
  ∀ s, (x s).1 = (y (view s)).1 ∧ view (x s).2 = (y (view s)).2

namespace Keeps

theorem pure (a : α) : Keeps view (pure a : StateM σ α) := fun _ => rfl

theorem bind {x : StateM σ α} {f : α → StateM σ β} (hx : Keeps view x)
    (hf : ∀ a, Keeps view (f a)) : Keeps view (x >>= f) := fun s =>
  (hf (x s).1 (x s).2).trans (hx s)

theorem ite {p : Prop} [Decidable p] {x y : StateM σ α} (hx : Keeps view x) (hy : Keeps view y) :
    Keeps view (if p then x else y) := by
  split
  · exact hx
  · exact hy

theorem forM {xs : List α} {f : α → StateM σ Unit} (hf : ∀ a, Keeps view (f a)) :
    Keeps view (xs.forM f) := by
  induction xs with
  | nil => exact pure ()
  | cons a xs ih => exact bind (hf a) fun _ => ih

theorem follows {x : StateM σ Unit} (hx : Keeps view x) : Follows view x (Pure.pure ()) :=
  fun s => ⟨rfl, hx s⟩

end Keeps

namespace Follows

theorem pure (a : α) : Follows view (pure a) (pure a) := fun _ => ⟨rfl, rfl⟩

theorem bind {x : StateM σ α} {y : StateM τ α} {f : α → StateM σ β} {g : α → StateM τ β}
    (hx : Follows view x y) (hf : ∀ a, Follows view (f a) (g a)) :
    Follows view (x >>= f) (y >>= g) := by
  intro s
  obtain ⟨ha, hs⟩ := hx s
  have hy : (y >>= g) (view s) = g (x s).1 (view (x s).2) := by
    rw [ha, hs]
    rfl
  rw [hy]
  exact hf (x s).1 (x s).2

end Follows

end

namespace Sweep

open Transport (Network)

variable {σ τ : Type} {view : σ → τ} {network : Network (StateM σ)} {network' : Network (StateM τ)}
  {observer : Observer (StateM σ)} {n : Nat}

/-- An observer to whom nothing is worth noting. -/
def unmoved : Observer (StateM τ) where
  suiteStarted _ := pure ()
  protocolStarted _ := pure ()
  caseFinished _ := pure ()
  log _ := pure ()

/-- What an observer does is out of view. -/
structure Hidden (view : σ → τ) (observer : Observer (StateM σ)) : Prop where
  suiteStarted (suite : Suite) : Keeps view (observer.suiteStarted suite)
  protocolStarted (p : Protocol) : Keeps view (observer.protocolStarted p)
  caseFinished (r : CaseReport) : Keeps view (observer.caseFinished r)
  log (e : Log.Entry) : Keeps view (observer.log e)

/-- One gateway answers and keeps time as the other does. -/
structure Mirrors (view : σ → τ) (network : Network (StateM σ)) (network' : Network (StateM τ)) :
    Prop where
  deliver (d : Transport.Delivery) : Follows view (network.deliver d) (network'.deliver d)
  clock : Follows view network.clock network'.clock

theorem send_follows (hn : Mirrors view network network') (ho : Hidden view observer)
    (r : Request) : Follows view (Transport.send network observer.log r)
      (Transport.send network' unmoved.log r) := by
  refine hn.clock.bind fun start => Follows.bind ?_ fun result => hn.clock.bind fun stop => ?_
  · unfold Transport.deliver
    split
    · exact hn.deliver _
    · exact .pure _
  · exact (ho.log _).follows.bind fun _ => .pure _

theorem finish_follows (ho : Hidden view observer) (r : CaseReport) :
    Follows view (do observer.caseFinished r; pure r) (do unmoved.caseFinished r; pure r) :=
  (ho.caseFinished r).follows.bind fun _ => .pure r

theorem callCase_follows (hn : Mirrors view network network') (ho : Hidden view observer)
    (c : Case) : Follows view (callCase network observer n c) (callCase network' unmoved n c) := by
  refine (send_follows hn ho c.request).bind fun exchange => ?_
  by_cases hp : (report c exchange).passed
  · simp only [if_pos hp]
    exact finish_follows ho _
  · simp only [if_neg hp]
    exact (ho.log _).follows.bind fun _ => finish_follows ho _

theorem runCase_follows (hn : Mirrors view network network') (ho : Hidden view observer)
    (c : Case) : Follows view (runCase network observer n c) (runCase network' unmoved n c) := by
  unfold runCase
  cases c.unwritten? with
  | none => exact callCase_follows hn ho c
  | some why => exact (ho.log _).follows.bind fun _ => finish_follows ho _

theorem runSteps_follows (hn : Mirrors view network network') (ho : Hidden view observer)
    (steps : List Step) :
    Follows view (runSteps network observer n steps) (runSteps network' unmoved n steps) := by
  induction steps with
  | nil => exact .pure _
  | cons step rest ih =>
    cases step with
    | suiteStarted suite => exact (ho.suiteStarted suite).follows.bind fun _ => ih
    | protocolStarted p => exact (ho.protocolStarted p).follows.bind fun _ => ih
    | case c => exact (runCase_follows hn ho c).bind fun r => ih.bind fun more => .pure _
    | suiteFinished suite cases => exact (ho.log _).follows.bind fun _ => ih

theorem run_follows (hn : Mirrors view network network') (ho : Hidden view observer)
    (config : Config) (plan : Plan) :
    Follows view (run network observer config plan) (run network' unmoved config plan) :=
  (ho.log _).follows.bind fun _ => (runSteps_follows hn ho _).bind fun _ =>
    (ho.log _).follows.bind fun _ => .pure _

theorem watched_mirrors (network : Network (StateM σ)) :
    Mirrors Scene.gateway (watched network) network where
  deliver _ := fun _ => ⟨rfl, rfl⟩
  clock := fun _ => ⟨rfl, rfl⟩

theorem watcher_hidden : Hidden (Scene.gateway (σ := σ)) watcher where
  suiteStarted _ := fun _ => rfl
  protocolStarted _ := fun _ => rfl
  caseFinished _ := fun _ => rfl
  log _ := fun _ => rfl

/-- Whether a run is watched or not, it has the same reports. -/
theorem run_unmoved (network : Network (StateM σ)) (config : Config) (plan : Plan) (s : Scene σ) :
    run network unmoved config plan s.gateway =
      ((run (watched network) watcher config plan s).1,
        (run (watched network) watcher config plan s).2.gateway) := by
  obtain ⟨hr, hs⟩ := run_follows (watched_mirrors network) watcher_hidden config plan s
  exact Prod.ext hr.symm hs.symm

end Sweep

end Conformance
