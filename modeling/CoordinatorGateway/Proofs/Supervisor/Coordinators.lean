import CoordinatorGateway.Proofs.Supervisor.Shutdown
import CoordinatorGateway.Proofs.Supervisor.Undisturbed

namespace CoordinatorGateway

variable {σ : Type}

namespace Tracking

variable {t : Tracking} {x h : Handle}

theorem clear_coordinator (hx : t.coordinator = some x) (hne : x.generation ≠ h.generation) :
    (t.clear h).coordinator = some x := by
  rw [clear]
  split
  · rw [removeWorkerIf]
    split
    · split
      · exact hx
      · exact hx
    · exact hx
  · rw [clearCoordinatorIf, hx]
    dsimp only
    rw [if_neg hne]
    exact hx

theorem installCoordinator_of_live (hx : t.coordinator = some x) (hlive : t.hasExited x = false)
    (h : Handle) : t.installCoordinator h = (some x, t) := by
  rw [installCoordinator, hx]
  dsimp only
  rw [hlive, if_neg Bool.false_ne_true]

theorem installCoordinator_cases (t : Tracking) (h : Handle) :
    (t.installCoordinator h).2.coordinator = some h ∨ ∃ y, (t.installCoordinator h).1 = some y := by
  rw [installCoordinator]
  split
  · split
    · exact .inl rfl
    · exact .inr ⟨_, rfl⟩
  · exact .inl rfl

theorem installWorker_coordinator (t : Tracking) (id : String) (h : Handle) :
    (t.installWorker id h).2.coordinator = t.coordinator := by
  rw [installWorker]
  split
  · split
    · rfl
    · rfl
  · rfl

end Tracking

namespace World

variable {w w' : World σ} {x : Handle}

def Runs (w : World σ) (x : Handle) : Prop :=
  ∃ c ∈ w.host.children, c.pid = x.pid ∧ c.isRunning = true

theorem Runs.not_exited (hw : w.Sound) (hx : x ∈ w.started) (h : w.Runs x) :
    w.tracking.hasExited x = false := by
  obtain ⟨c, hc, hpid, hrunning⟩ := h
  cases hexited : w.tracking.hasExited x with
  | false => rfl
  | true =>
    rw [hw.ended_of_hasExited hx hexited hc hpid] at hrunning
    cases hrunning

theorem Runs.alive (hw : w.Sound) (hx : x ∈ w.started) (h : w.Runs x) :
    (w.run (isAlive x)).1 = true := by
  have hlive := h.not_exited hw hx
  obtain ⟨c, hc, hpid, hrunning⟩ := h
  have hchild : (w.host.children.any fun c => c.pid == x.pid && c.isRunning) = true := by
    refine List.any_eq_true.2 ⟨c, hc, ?_⟩
    rw [hpid, beq_self_eq_true, hrunning, Bool.and_self]
  rw [run_isAlive, hlive, Host.isAlive, hchild]
  rfl

theorem Undisturbed.not_exited (hw : w.Sound) (h : w.Undisturbed x) :
    w.tracking.hasExited x = false :=
  Runs.not_exited hw h.started h.running

theorem Undisturbed.alive (hw : w.Sound) (h : w.Undisturbed x) :
    (w.run (isAlive x)).1 = true :=
  Runs.alive hw h.started h.running

/-- The coordinator's place holds each coordinator that runs undisturbed. -/
def Held (w : World σ) : Prop :=
  ∀ x, w.Undisturbed x → x.role = .coordinator → w.tracking.coordinator = some x

theorem Wane.coordinator (hw : w.Sound) (hwane : Wane w w') (h : w.Undisturbed x)
    (hx : w.tracking.coordinator = some x) : w'.tracking.coordinator = some x := by
  cases hwane with
  | note _ => exact hx
  | makeName n => exact hx
  | signal pid s => exact hx
  | @watch y hy =>
    change (reapOne w.host w.tracking y).coordinator = some x
    rw [reapOne]
    split
    · exact hx
    · split
      · next e hexit =>
        refine Tracking.clear_coordinator (t := w.tracking.publishExit y.generation e) hx ?_
        -- The child of a handle with the same generation runs.
        intro hgeneration
        obtain ⟨c, hc, hpid, hrunning⟩ := h.running
        obtain ⟨hxnumber, -⟩ := hw.started x h.started
        obtain ⟨hynumber, -⟩ := hw.started y hy
        have hypid : y.pid = c.pid := by omega
        rw [hypid, hw.child?_eq hc, Option.bind_some] at hexit
        rw [Child.isRunning, hexit] at hrunning
        cases hrunning
      · exact hx
  | @clear y hexited =>
    refine Tracking.clear_coordinator hx ?_
    intro hgeneration
    have hsame : w.tracking.hasExited x = w.tracking.hasExited y := by
      rw [Tracking.hasExited, Tracking.exit?, hgeneration]
      rfl
    rw [h.not_exited hw, hexited] at hsame
    cases hsame
  | forgetWorkers _ hcoordinator => exact hcoordinator.trans hx

theorem Wanes.coordinator (hw : w.Sound) (hwanes : w.Wanes w') (h : w'.Undisturbed x)
    (hx : w.tracking.coordinator = some x) : w'.tracking.coordinator = some x := by
  induction hwanes with
  | refl => exact hx
  | @tail v w' hwanes hwane ih =>
    have hstarted : x ∈ v.started := by
      rw [← hwane.started.1]
      exact h.started
    have hbefore := hwane.follows.undisturbed x hstarted h
    exact hwane.coordinator (hw.reaches (Wanes.reaches hwanes)) hbefore (ih hbefore)

theorem Held.wanes (hheld : w.Held) (hw : w.Sound) (hwanes : w.Wanes w') : w'.Held := by
  intro x h hrole
  have hstarted : x ∈ w.started := by
    rw [← hwanes.started.1]
    exact h.started
  have hbefore := (hwanes.reaches.follows hw).undisturbed x hstarted h
  exact hwanes.coordinator hw h (hheld x hbefore hrole)

theorem Held.tidied (hheld : w.Held) (hw : w.Sound) : w.tidied.Held := by
  intro x h hrole
  have hbefore : w.Undisturbed x := (w.reaches_tidied.follows hw).undisturbed x h.started h
  exact (tidied_of_alive (hheld x hbefore hrole) (hbefore.alive hw)).1

theorem Settles.held {step : Tracking → Option Handle × Tracking}
    (h : Settles step x w w') (hw : World.Sound { w with tracking := (step w.tracking).2 })
    (hplaced : ∀ y, World.Undisturbed { w with tracking := (step w.tracking).2 } y →
      y.role = .coordinator →
      (step w.tracking).2.coordinator = some y ∨ y = x ∧ ∃ z, (step w.tracking).1 = some z) :
    w'.Held := by
  intro y hy hrole
  have hstarted : y ∈ w.started := by
    have hsame := h.wanes.started.1
    rw [← hsame]
    exact hy.started
  have hbefore := (h.wanes.reaches.follows hw).undisturbed y hstarted hy
  rcases hplaced y hbefore hrole with hcoordinator | ⟨rfl, z, hz⟩
  · exact h.wanes.coordinator hw hy hcoordinator
  · have hsignalled := signalled_eq_true (h.taken z hz)
    rw [hy.unsignalled] at hsignalled
    cases hsignalled

structure Orderly (w : World σ) : Prop where
  sound : w.Sound
  held : w.Held

def StaysOrderly (w w' : World σ) : Prop := w.Orderly → w'.Orderly

instance : IsPreorder (World σ) StaysOrderly where
  refl _ h := h
  trans _ _ _ h h' := h' ∘ h

theorem Orderly.wanes (h : w.Orderly) (hwanes : w.Wanes w') : w'.Orderly :=
  ⟨h.sound.reaches hwanes.reaches, h.held.wanes h.sound hwanes⟩

theorem Orderly.tidied (h : w.Orderly) : w.tidied.Orderly :=
  ⟨h.sound.reaches w.reaches_tidied, h.held.tidied h.sound⟩

end World

namespace Supervisor

open World

variable (s : Supervisor) (names : NameSource)

theorem launchCoordinator_orderly {w : World σ} (h : w.Orderly) :
    World.Orderly (w.attempt s.launchCoordinator).2 := by
  refine ⟨h.sound.reaches (s.launchCoordinator_moves w), ?_⟩
  rcases s.launchCoordinator_cases w with hsame | ⟨program, c, hchild, hsettles⟩
  · rw [hsame]
    exact h.held
  · have hreaches := reaches_installCoordinator hchild
    dsimp only at hsettles hreaches
    generalize handleOf w .coordinator none program c none = x at hsettles hreaches
    refine hsettles.held (h.sound.reaches hreaches) fun y hy hrole => ?_
    rcases List.mem_append.1 hy.started with hold | hnew
    · have hbefore := (hreaches.follows h.sound).undisturbed y hold hy
      have hcoordinator : (w.spawned c x).tracking.coordinator = some y := h.held y hbefore hrole
      have hlive : (w.spawned c x).tracking.hasExited y = false :=
        (hbefore.not_exited h.sound : w.tracking.hasExited y = false)
      refine .inl ?_
      rw [Tracking.installCoordinator_of_live hcoordinator hlive]
      exact hcoordinator
    · obtain rfl := List.mem_singleton.1 hnew
      exact (Tracking.installCoordinator_cases _ y).imp_right fun htaken => ⟨rfl, htaken⟩

theorem startWorker_held {w : World σ} (h : w.Orderly) (launch : WorkerLaunch) :
    World.Held (w.attempt (s.startWorker names launch)).2 := by
  rcases s.startWorker_cases w names launch with
    hwanes | ⟨plan, -, -, n, program, c, hchild, hsettles⟩
  · exact h.held.wanes h.sound hwanes
  · have hreaches := reaches_installWorker n plan.workerId (some plan.capacity) hchild
    have hworker :
        (handleOf w .worker (some plan.workerId) program c (some plan.capacity)).role = .worker :=
      rfl
    dsimp only at hsettles hreaches
    generalize handleOf w .worker (some plan.workerId) program c (some plan.capacity) = x
      at hsettles hreaches hworker
    refine hsettles.held (h.sound.reaches hreaches) fun y hy hrole => .inl ?_
    rcases List.mem_append.1 hy.started with hold | hnew
    · have hbefore := (hreaches.follows h.sound).undisturbed y hold hy
      rw [Tracking.installWorker_coordinator]
      exact h.held y hbefore hrole
    · obtain rfl := List.mem_singleton.1 hnew
      rw [hworker] at hrole
      cases hrole

theorem signalled_stopManaged (w : World σ) (x : Handle) :
    World.signalled (w.attempt (s.stopManaged x)).2 x.pid = true := by
  have hsent : Effect.signal x.pid .graceful ∈ (w.run (World.signal x.pid .graceful)).2.trace :=
    List.mem_append_right _ (List.mem_singleton.2 rfl)
  exact signalled_eq_true ((s.wanes_stopManaged w x).trace.subset hsent)

theorem signalled_stopCoordinator {w : World σ} {x : Handle}
    (hx : w.tracking.coordinator = some x) (hlive : w.tracking.hasExited x = false) :
    World.signalled (w.attempt s.stopCoordinator).2 x.pid = true := by
  have hstopped := s.signalled_stopManaged w.withoutCoordinator x
  have hdropped := wanes_thenDropWorkers w.withoutCoordinator (s.stopManaged x)
  rw [attempt_stopCoordinator, hx, Option.filter_some, hlive]
  rw [← Bool.not_eq_false] at hstopped ⊢
  exact fun hnone => hstopped (signalled_of_trace hdropped.trace hnone)

theorem wanes_endAll (w : World σ) (xs : List Handle) :
    w.Wanes (xs.foldl (fun w x => (w.run (endManaged x)).2) w) := by
  induction xs generalizing w with
  | nil => exact .refl
  | cons x xs ih => exact (endManaged_wanes x w).trans (ih _)

theorem signalled_endAll {w : World σ} {xs : List Handle} {x : Handle} (hx : x ∈ xs) :
    Effect.signal x.pid .graceful ∈ (xs.foldl (fun w x => (w.run (endManaged x)).2) w).trace := by
  induction xs generalizing w with
  | nil => cases hx
  | cons y xs ih =>
    rcases List.mem_cons.1 hx with rfl | hx
    · have hsent : Effect.signal x.pid .graceful ∈
          (w.run (World.signal x.pid .graceful)).2.trace :=
        List.mem_append_right _ (List.mem_singleton.2 rfl)
      have hended : Effect.signal x.pid .graceful ∈ (w.run (endManaged x)).2.trace := by
        rw [run_endManaged]
        split
        · exact hsent
        · exact (Act.Wanes.signal x.pid .forceful _).trace.subset hsent
      exact (wanes_endAll _ xs).trace.subset hended
    · exact ih hx

theorem signalled_stopAllManaged {w : World σ} {x : Handle}
    (hx : w.tracking.coordinator = some x) (hlive : w.tracking.hasExited x = false) :
    World.signalled (w.run stopAllManaged).2 x.pid = true := by
  have hmem : x ∈ live w.tracking := by
    refine mem_live.2 ⟨List.mem_append_right _ ?_, hlive⟩
    rw [hx]
    exact List.mem_singleton.2 rfl
  rw [run_stopAllManaged]
  exact signalled_eq_true (signalled_endAll hmem)

/-- No coordinator is undisturbed once the one in its place has got a signal. -/
theorem held_of_signalled {w w' : World σ} (h : w.Orderly) (hreaches : w.Reaches w')
    (hstarted : w'.started = w.started)
    (hsignalled : ∀ x, w.tracking.coordinator = some x → w.tracking.hasExited x = false →
      w'.signalled x.pid = true) : w'.Held := by
  intro x hx hrole
  have hmem : x ∈ w.started := by
    rw [← hstarted]
    exact hx.started
  have hbefore := (hreaches.follows h.sound).undisturbed x hmem hx
  have hout := hsignalled x (h.held x hbefore hrole) (hbefore.not_exited h.sound)
  rw [hx.unsignalled] at hout
  cases hout

theorem orderly_after {w : World σ} (h : w.Orderly) (e : Event) :
    (s.after names w e).Orderly := by
  have hwanes {v v' : World σ} (hv : v.Wanes v') : v.StaysOrderly v' := fun hold => hold.wanes hv
  have htidied (v : World σ) : v.StaysOrderly v.tidied := Orderly.tidied
  have hlaunch (v : World σ) : v.StaysOrderly (v.attempt s.launchCoordinator).2 :=
    s.launchCoordinator_orderly
  have haround {host : Host} {time : String} (hages : w.host.Ages host) :
      World.Held { w with host := host, time := time } := by
    intro x hx hrole
    exact h.held x (hx.before hx.started hages (List.prefix_refl _)) hrole
  refine ⟨s.sound_after names h.sound e, ?_⟩
  cases e with
  | startCoordinator => exact (s.startCoordinator_within hwanes htidied hlaunch w h).held
  | startCoordinatorTwice => exact (s.startCoordinatorTwice_within hwanes htidied hlaunch w h).held
  | startWorker launch => exact s.startWorker_held names h launch
  | stopCoordinator =>
    have hstop := s.wanes_stopCoordinator w
    exact held_of_signalled h (w.reaches_withoutCoordinator.trans hstop.reaches) hstop.started.1
      fun x hx hlive => s.signalled_stopCoordinator hx hlive
  | stopWorker id => exact h.held.wanes h.sound (s.stopWorker_wanes id w)
  | coordinatorStatus => exact (s.coordinatorStatus_within hwanes htidied w h).held
  | workerStatus => exact (s.workerStatus_within hwanes htidied w h).held
  | workerStatusById id => exact (s.workerStatusById_within hwanes htidied id w h).held
  | stopAllManaged =>
    refine held_of_signalled h (stopAllManaged_moves w) ?_ fun x hx hlive => ?_
    · rw [after, run_stopAllManaged]
      exact (wanes_endAll _ _).started.1
    · exact signalled_stopAllManaged hx hlive
  | exit pid e => exact haround (w.host.ages_exitChild pid e)
  | notice pid =>
    exact h.held.wanes h.sound (World.wanes_watch w fun x hx => (List.mem_filter.1 hx).1)
  | outside o => exact haround (Host.ages_of_children_eq rfl)
  | files fs => exact haround (Host.ages_of_children_eq rfl)
  | time t => exact haround (Host.ages_of_children_eq rfl)

theorem orderly_afterAll {w : World σ} (h : w.Orderly) (events : List Event) :
    (s.afterAll names w events).Orderly := by
  induction events generalizing w with
  | nil => exact h
  | cons e events ih => exact ih (s.orderly_after names h e)

theorem orderly_initial (coordinator : σ) (host : Host) (time : String) (h : host.children = []) :
    (World.initial coordinator host time).Orderly :=
  ⟨sound_initial coordinator host time h, fun _ hx _ => absurd hx.started List.not_mem_nil⟩

/-- No managed coordinator is alive, and none is listed. -/
def Vacant (w : World σ) : Prop :=
  w.coordinator? = none ∧ w.host.find (s.name .coordinator) = .ok []

theorem requireNoCoordinator_of_not_vacant {w : World σ} (h : ¬ s.Vacant w) :
    ∃ e w', w.attempt s.requireNoCoordinator = (.error e, w') ∧ w'.host = w.host ∧
      ¬ s.Vacant w' := by
  rw [attempt_requireNoCoordinator]
  cases hcoordinator : w.coordinator? with
  | some x => exact ⟨_, w, rfl, rfl, h⟩
  | none =>
    have hlisted : w.host.find (s.name .coordinator) ≠ .ok [] := fun hfind =>
      h ⟨hcoordinator, hfind⟩
    have hnot : ¬ s.Vacant w.tidied := fun hvacant => hlisted hvacant.2
    dsimp only
    rcases hfind : w.host.find (s.name .coordinator) with e | _ | ⟨pid, pids⟩
    · exact ⟨_, w.tidied, rfl, rfl, hnot⟩
    · exact absurd hfind hlisted
    · exact ⟨_, w.tidied, rfl, rfl, hnot⟩

theorem recordingFailure_of_error {α : Type} {w w' : World σ} {a : Attempt SupervisorFault σ α}
    {e : SupervisorFault} (h : w.attempt a = (.error e, w')) (role : Role) (id : Option String) :
    ∃ trace, w.attempt (s.recordingFailure role id a) =
      (.error e, { w' with trace := trace }) := by
  rw [recordingFailure, World.attempt_onError, h]
  dsimp only
  rw [record, World.record]
  split
  · exact ⟨_, rfl⟩
  · exact ⟨w'.trace, rfl⟩

theorem look_of_not_vacant {w : World σ} (h : ¬ s.Vacant w) :
    ∃ e w', w.attempt (s.recordingFailure .coordinator none s.requireNoCoordinator) =
      (.error e, w') ∧ w'.host = w.host ∧ ¬ s.Vacant w' := by
  obtain ⟨e, w', hlook, hhost, hnot⟩ := s.requireNoCoordinator_of_not_vacant h
  obtain ⟨trace, hrecorded⟩ := s.recordingFailure_of_error hlook .coordinator none
  exact ⟨e, { w' with trace := trace }, hrecorded, hhost, hnot⟩

theorem startCoordinator_of_not_vacant {w : World σ} (h : ¬ s.Vacant w) :
    (w.attempt s.startCoordinator).2.host = w.host := by
  obtain ⟨e, w', hlook, hhost, -⟩ := s.requireNoCoordinator_of_not_vacant h
  have hstart := World.attempt_bind_error hlook fun _ => s.launchCoordinator
  obtain ⟨trace, hrecorded⟩ := s.recordingFailure_of_error hstart .coordinator none
  rw [startCoordinator, hrecorded]
  exact hhost

theorem startCoordinatorTwice_of_not_vacant {w : World σ} (h : ¬ s.Vacant w) :
    (w.run s.startCoordinatorTwice).2.host = w.host := by
  obtain ⟨e, w', hlook, hhost, hnot⟩ := s.look_of_not_vacant h
  obtain ⟨e', w'', hlook', hhost', -⟩ := s.look_of_not_vacant hnot
  rw [startCoordinatorTwice, World.run_bind, World.run_attempt, hlook, World.run_bind,
    World.run_attempt, hlook']
  exact hhost'.trans hhost

/-- Whatever happens, each coordinator that runs undisturbed is the one in the coordinator's place,
so there is one at most. A coordinator is started only where no managed one is alive and none is
listed; two starts at once both look before either goes on. -/
theorem coordinators_held (coordinator : σ) (host : Host) (time : String) (events : List Event) :
    let start : World σ := .initial coordinator { host with children := [] } time
    let w := s.afterAll names start events
    (∀ x, w.Undisturbed x → x.role = .coordinator → w.tracking.coordinator = some x) ∧
    (∀ x y, w.Undisturbed x → w.Undisturbed y → x.role = .coordinator → y.role = .coordinator →
      x = y) ∧
    ∀ e, e = .startCoordinator ∨ e = .startCoordinatorTwice →
      (s.after names w e).host.children ≠ w.host.children → s.Vacant w := by
  intro start w
  have horderly : w.Orderly :=
    s.orderly_afterAll names (orderly_initial coordinator _ time rfl) events
  refine ⟨horderly.held, fun x y hx hy hxrole hyrole => ?_, fun e he hstarted => ?_⟩
  · have hxheld := horderly.held x hx hxrole
    have hyheld := horderly.held y hy hyrole
    rw [hxheld] at hyheld
    exact Option.some.inj hyheld
  · by_cases hvacant : s.Vacant w
    · exact hvacant
    · refine absurd ?_ hstarted
      rcases he with rfl | rfl
      · exact congrArg Host.children (s.startCoordinator_of_not_vacant hvacant)
      · exact congrArg Host.children (s.startCoordinatorTwice_of_not_vacant hvacant)

/-- Of two starts at once, one coordinator remains, and it has the place. -/
theorem coordinators_held_race :
    let w := furnished.afterAll .blank (.initial () (.furnished {}) "") [.startCoordinatorTwice]
    w.host.children.length = 2 ∧
      ∃ x, w.Undisturbed x ∧ x.role = .coordinator ∧ w.tracking.coordinator = some x := by
  intro w
  obtain ⟨hheld, -, -⟩ :=
    furnished.coordinators_held .blank () (.furnished {}) "" [.startCoordinatorTwice]
  have hruns : ∃ x ∈ w.started, w.Undisturbed x ∧ x.role = .coordinator := by decide +kernel
  obtain ⟨x, -, hx, hrole⟩ := hruns
  exact ⟨by decide +kernel, x, hx, hrole, hheld x hx hrole⟩

end Supervisor

end CoordinatorGateway
