import CoordinatorGateway.Proofs.Supervisor.Coordinators

namespace CoordinatorGateway

variable {σ α : Type}

namespace Tracking

/-- The handle in a place: that of the coordinator, or that of the worker of an id. -/
def at? (t : Tracking) : Option String → Option Handle
  | none => t.coordinator
  | some id => t.worker? id

/-- The step puts the handle into the place, or else leaves there the one whose process is not known
to have ended. -/
def Installs (step : Tracking → Option Handle × Tracking) (place : Option String) (x : Handle) :
    Prop :=
  ∀ t, (∃ y, step t = (some y, t)) ∨
    (step t).1 = none ∧ (∀ y, t.at? place = some y → t.hasExited y = true) ∧
      ∀ q, (step t).2.at? q = if q = place then some x else t.at? q

variable {t t' : Tracking} {place : Option String} {x h : Handle}

theorem installs_coordinator (x : Handle) : Installs (fun t => t.installCoordinator x) none x := by
  intro t
  have hplaced (q : Option String) : ({ t with coordinator := some x } : Tracking).at? q =
      if q = none then some x else t.at? q := by
    cases q with
    | none => rfl
    | some id => rfl
  dsimp only
  rw [installCoordinator]
  cases hold : t.coordinator with
  | none =>
    refine .inr ⟨rfl, fun y hy => ?_, hplaced⟩
    cases hold.symm.trans hy
  | some y =>
    dsimp only
    cases hexited : t.hasExited y with
    | false => exact .inl ⟨y, rfl⟩
    | true =>
      refine .inr ⟨rfl, fun y' hy' => ?_, hplaced⟩
      obtain rfl := Option.some.inj (hold.symm.trans hy')
      exact hexited

theorem installs_worker (id : String) (x : Handle) :
    Installs (fun t => t.installWorker id x) (some id) x := by
  intro t
  have hplaced (q : Option String) :
      ({ t with workers := t.workers.put id x } : Tracking).at? q =
        if q = some id then some x else t.at? q := by
    cases q with
    | none => rfl
    | some k =>
      rw [at?, worker?, Registry.get?_put]
      simp only [Option.some.injEq]
      rfl
  dsimp only
  rw [installWorker]
  cases hold : t.workers.get? id with
  | none =>
    refine .inr ⟨rfl, fun y hy => ?_, hplaced⟩
    cases hold.symm.trans hy
  | some y =>
    dsimp only
    cases hexited : t.hasExited y with
    | false => exact .inl ⟨y, rfl⟩
    | true =>
      refine .inr ⟨rfl, fun y' hy' => ?_, hplaced⟩
      obtain rfl := Option.some.inj (hold.symm.trans hy')
      exact hexited

theorem at?_clear_of_ne (hx : t.at? place = some x) (hne : x.generation ≠ h.generation) :
    (t.clear h).at? place = some x := by
  cases place with
  | none => exact clear_coordinator hx hne
  | some id =>
    rw [clear]
    split
    · next k _ =>
      rw [removeWorkerIf]
      split
      · next y hy =>
        split
        · next hsame =>
          -- The handle that goes is that of another id.
          change (t.workers.erase k).get? id = some x
          rw [Registry.get?_erase, if_neg]
          · exact hx
          · rintro rfl
            obtain rfl := Option.some.inj (hy.symm.trans hx)
            exact hne hsame
        · exact hx
      · exact hx
    · rw [clearCoordinatorIf]
      split
      · split
        · exact hx
        · exact hx
      · exact hx

theorem at?_clear_self (t : Tracking) (x : Handle) : (t.clear x).at? x.id ≠ some x := by
  rw [clear]
  cases x.id with
  | none =>
    dsimp only
    rw [clearCoordinatorIf]
    intro hx
    split at hx
    · next y hy =>
      split at hx
      · cases hx
      · next hother =>
        obtain rfl := Option.some.inj (hy.symm.trans hx)
        exact hother rfl
    · next hnone => cases hnone.symm.trans hx
  | some id =>
    dsimp only
    rw [removeWorkerIf]
    intro hx
    split at hx
    · next y hy =>
      split at hx
      · change (t.workers.erase id).get? id = some x at hx
        rw [Registry.get?_erase, if_pos rfl] at hx
        cases hx
      · next hother =>
        obtain rfl := Option.some.inj (hy.symm.trans hx)
        exact hother rfl
    · next hnone => cases hnone.symm.trans hx

end Tracking

namespace World

variable {w w' w'' : World σ} {place : Option String} {x y : Handle}

theorem Sound.of_at? (hw : w.Sound) (hx : w.tracking.at? place = some x) :
    x ∈ w.started ∧ x.id = place := by
  cases place with
  | none => exact hw.coordinator x hx
  | some id => exact hw.workers id x hx

theorem Wanes.at? (h : w.Wanes w') (hx : w'.tracking.at? place = some x) :
    w.tracking.at? place = some x := by
  obtain ⟨hcoordinator, hworkers⟩ := h.places
  cases place with
  | none =>
    rcases hcoordinator with hnone | hsame
    · cases hnone.symm.trans hx
    · exact hsame.symm.trans hx
  | some id => exact hworkers id x hx

theorem at?_reapOne (hw : w.Sound) (hy : y ∈ w.started) (hx : w.tracking.at? place = some x)
    (hruns : w.Runs x) : (reapOne w.host w.tracking y).at? place = some x := by
  rw [reapOne]
  split
  · exact hx
  · split
    · next e hexit =>
      have hplace : (w.tracking.publishExit y.generation e).at? place = some x := by
        cases place with
        | none => exact hx
        | some id => exact hx
      refine Tracking.at?_clear_of_ne hplace fun hgeneration => ?_
      -- A handle of the same generation is one of the same child, which runs.
      obtain ⟨c, hc, hpid, hrunning⟩ := hruns
      obtain ⟨hxnumber, -⟩ := hw.started x (hw.of_at? hx).1
      obtain ⟨hynumber, -⟩ := hw.started y hy
      have hypid : y.pid = c.pid := by omega
      rw [hypid, hw.child?_eq hc, Option.bind_some] at hexit
      rw [Child.isRunning, hexit] at hrunning
      cases hrunning
    · exact hx

theorem at?_reap (hw : w.Sound) (hx : w.tracking.at? place = some x) (hruns : w.Runs x) :
    (w.run reap).2.tracking.at? place = some x := by
  have hall (ys : List Handle) (v : World σ) (hv : v.Sound) (hys : ∀ y ∈ ys, y ∈ v.started)
      (hplace : v.tracking.at? place = some x) (hvruns : v.Runs x) :
      (ys.foldl (reapOne v.host) v.tracking).at? place = some x := by
    induction ys generalizing v with
    | nil => exact hplace
    | cons y ys ih =>
      rw [List.forall_mem_cons] at hys
      have hkept := at?_reapOne hv hys.1 hplace hvruns
      exact ih { v with tracking := reapOne v.host v.tracking y } (hv.watch hys.1) hys.2 hkept
        hvruns
  exact hall w.started w hw (fun _ h => h) hx hruns

/-- Nothing is left of what was tried. -/
structure LeavesNothing (w w' : World σ) : Prop where
  /-- What was started in it has ended or has been sent the forceful signal, and the other children
  are as they were. -/
  ended : ∃ children effects, w'.host.children = w.host.children ++ children ∧
    w'.trace = w.trace ++ effects ∧
      ∀ c ∈ children, c.isRunning = true → Effect.signal c.pid .forceful ∈ effects
  unplaced : ∀ place x, w'.tracking.at? place = some x → w.tracking.at? place = some x
  kept : ∀ place x, w.tracking.at? place = some x → w.Runs x → w'.tracking.at? place = some x

theorem runs_of_append {children : List Child}
    (hchildren : w'.host.children = w.host.children ++ children) (h : w.Runs x) : w'.Runs x := by
  obtain ⟨c, hc, hrunning⟩ := h
  refine ⟨c, ?_, hrunning⟩
  rw [hchildren]
  exact List.mem_append_left children hc

namespace LeavesNothing

theorem refl (w : World σ) : w.LeavesNothing w := by
  refine ⟨⟨[], [], ?_, ?_, fun c hc => by cases hc⟩, fun _ _ hx => hx, fun _ _ hx _ => hx⟩
  · rw [List.append_nil]
  · rw [List.append_nil]

theorem trans (h : w.LeavesNothing w') (h' : w'.LeavesNothing w'') : w.LeavesNothing w'' := by
  obtain ⟨children, effects, hchildren, heffects, hended⟩ := h.ended
  obtain ⟨children', effects', hchildren', heffects', hended'⟩ := h'.ended
  refine ⟨⟨children ++ children', effects ++ effects', ?_, ?_, fun c hc hrunning => ?_⟩,
    fun place x hx => h.unplaced place x (h'.unplaced place x hx), fun place x hx hruns => ?_⟩
  · rw [hchildren', hchildren, List.append_assoc]
  · rw [heffects', heffects, List.append_assoc]
  · rcases List.mem_append.1 hc with hc | hc
    · exact List.mem_append_left effects' (hended c hc hrunning)
    · exact List.mem_append_right effects (hended' c hc hrunning)
  · exact h'.kept place x (h.kept place x hx hruns) (runs_of_append hchildren hruns)

theorem note (w : World σ) (e : Effect) : w.LeavesNothing { w with trace := w.trace ++ [e] } := by
  refine ⟨⟨[], [e], ?_, rfl, fun c hc => by cases hc⟩, fun _ _ hx => hx, fun _ _ hx _ => hx⟩
  rw [List.append_nil]

theorem makeName (w : World σ) (n : Nat) : w.LeavesNothing { w with madeUp := n } :=
  ⟨(refl w).ended, fun _ _ hx => hx, fun _ _ hx _ => hx⟩

theorem tidied (hw : w.Sound) : w.LeavesNothing w.tidied := by
  refine ⟨(refl w).ended, fun place x hx => ?_, fun place x hx hruns => ?_⟩
  · cases place with
    | none =>
      rcases w.coordinator?_eq_none_or with hnone | hsame
      · cases hnone.symm.trans hx
      · exact hsame.symm.trans hx
    | some id => exact hx
  · cases place with
    | none => exact (tidied_of_alive hx (hruns.alive hw (hw.of_at? hx).1)).1
    | some id => exact hx

end LeavesNothing

section

variable {program : LocatedProgram} {args : List String} {directory : Option String} {c : Child}

theorem leavesNothing_signalled (hw : w.Sound)
    (hchild : w.host.newChild program.path args directory = .ok c) (hpid : x.pid = c.pid)
    (hgeneration : x.generation = w.tracking.generation + 1) :
    w.LeavesNothing ((w.spawned c x).run (World.signal x.pid .forceful)).2 := by
  have hspawned : (w.spawned c x).Sound := hw.spawn hchild hpid hgeneration
  obtain ⟨hnumber, -⟩ := Host.newChild_ok hchild
  have hchildren : ((w.spawned c x).run (World.signal x.pid .forceful)).2.host.children =
      w.host.children ++ [(w.spawned c x).host.struck x.pid .forceful c] := by
    have hstruck := Host.children_signal (fun _ hd => hspawned.child?_eq hd) x.pid .forceful
    have hold : ∀ d ∈ w.host.children, (w.spawned c x).host.struck x.pid .forceful d = d := by
      intro d hd
      obtain ⟨i, hi⟩ := List.mem_iff_getElem?.1 hd
      have hlt := (List.getElem?_eq_some_iff.1 hi).1
      have hdpid := hw.numbered i d hi
      refine Host.struck_eq_self fun hsame _ => ?_
      omega
    rw [Supervisor.host_signal, hstruck]
    change (w.host.children ++ [c]).map _ = _
    rw [List.map_append, List.map_congr_left hold, List.map_id']
    rfl
  refine ⟨⟨_, [.spawn c, .signal x.pid .forceful], hchildren, ?_, fun d hd _ => ?_⟩,
    fun place y hy => ?_, fun place y hy hruns => ?_⟩
  · exact List.append_assoc w.trace [.spawn c] [.signal x.pid .forceful]
  · rw [List.mem_singleton.1 hd, Host.struck_pid, ← hpid]
    exact List.mem_cons_of_mem _ List.mem_cons_self
  · have hbefore := (Act.Wanes.signal x.pid .forceful (w.spawned c x)).at? hy
    cases place with
    | none => exact hbefore
    | some id => exact hbefore
  · let v : World σ :=
      { w.spawned c x with
        host := ((w.spawned c x).host.signal x.pid .forceful).2
        trace := (w.spawned c x).trace ++ [.signal x.pid .forceful] }
    have hv : v.Sound := hspawned.wane (.signal _ x.pid .forceful)
    have hplace : v.tracking.at? place = some y := by
      cases place with
      | none => exact hy
      | some id => exact hy
    exact at?_reap hv hplace (runs_of_append hchildren hruns)

theorem leavesNothing_exited {placed : Tracking} (hw : w.Sound) (hpid : x.pid = c.pid)
    (hgeneration : x.generation = w.tracking.generation + 1)
    (hplaced : World.Sound { w.spawned c x with tracking := placed })
    (hfree : ∀ y, w.tracking.at? x.id = some y → w.tracking.hasExited y = true)
    (hinstalled : ∀ q, placed.at? q = if q = x.id then some x else w.tracking.at? q) {e : Exit}
    (hexit : (World.run { w.spawned c x with tracking := placed } reap).2.tracking.exit? x =
      some e) :
    let reaped := (World.run { w.spawned c x with tracking := placed } reap).2
    w.LeavesNothing { reaped with tracking := reaped.tracking.clear x } := by
  intro reaped
  have hwanes : World.Wanes { w.spawned c x with tracking := placed } reaped := Act.Wanes.reap _
  have hreaped : reaped.Sound := hplaced.reaches hwanes.reaches
  have hexited : reaped.tracking.hasExited x = true := by
    rw [Tracking.hasExited, hexit]
    rfl
  have hcleared : reaped.Wanes { reaped with tracking := reaped.tracking.clear x } :=
    .single (.clear hexited)
  refine ⟨⟨[c], [.spawn c], rfl, rfl, fun d hd hrunning => ?_⟩, fun place y hy => ?_,
    fun place y hy hruns => ?_⟩
  · have hstarted : x ∈ reaped.started := mem_started_spawned w c x
    have hmem : c ∈ reaped.host.children :=
      List.mem_append_right w.host.children (List.mem_singleton.2 rfl)
    rw [List.mem_singleton.1 hd, hreaped.ended_of_hasExited hstarted hexited hmem hpid.symm]
      at hrunning
    cases hrunning
  · have hbefore : placed.at? place = some y := hwanes.at? (hcleared.at? hy)
    rw [hinstalled] at hbefore
    split at hbefore
    · next hplace =>
      obtain rfl := Option.some.inj hbefore
      rw [hplace] at hy
      exact absurd hy (reaped.tracking.at?_clear_self x)
    · exact hbefore
  · obtain ⟨hstarted, -⟩ := hw.of_at? hy
    have hother : place ≠ x.id := by
      rintro rfl
      have hlive := hruns.not_exited hw hstarted
      rw [hfree y hy] at hlive
      cases hlive
    have hplace : placed.at? place = some y := by
      rw [hinstalled, if_neg hother]
      exact hy
    have hstays := at?_reap hplaced hplace (runs_of_append rfl hruns)
    refine Tracking.at?_clear_of_ne hstays ?_
    obtain ⟨-, -, hle⟩ := hw.started y hstarted
    omega

end

end World

namespace Supervisor

open World

variable (s : Supervisor) (names : NameSource)

/-- Whatever fails once a program is to be located, nothing is left. -/
theorem launch_leavesNothing {w v : World σ} (hw : w.Sound) (role : Role) (id : Option String)
    (args : List String) (capacity : Option Nat)
    (step : Handle → Tracking → Option Handle × Tracking)
    (hstep : ∀ x, Tracking.Installs (step x) id x)
    (hsound : ∀ (v : World σ) (x : Handle), v.Sound → x ∈ v.started → x.id = id →
      World.Sound { v with tracking := (step x v.tracking).2 })
    (fault : Handle → SupervisorFault) (answer : Handle → LocatedProgram → StartedProcess)
    {e : SupervisorFault}
    (h : w.attempt (do
      let program ← s.locate role
      let x ← s.spawn role id program args capacity
      install x (step x) fault
      awaitStart x
      Attempt.surely (s.recordStarted x)
      return answer x program) = (.error e, v)) : w.LeavesNothing v := by
  rw [World.attempt_bind, attempt_locate] at h
  cases hlocated : (s.locator role).locate w.host.files w.host.directory role (s.name role) with
  | error m =>
    rw [hlocated] at h
    obtain ⟨-, rfl⟩ := Prod.mk.inj h
    exact .refl w
  | ok program =>
    rw [hlocated, Except.mapError_ok] at h
    dsimp only at h
    rw [World.attempt_bind, attempt_spawn] at h
    cases hchild : w.host.newChild program.path args (s.startDirectory role program.path) with
    | error cause =>
      rw [hchild] at h
      obtain ⟨-, rfl⟩ := Prod.mk.inj h
      exact .refl w
    | ok c =>
      rw [hchild] at h
      dsimp only at h
      have hid : (handleOf w role id program c capacity).id = id := rfl
      have hpid : (handleOf w role id program c capacity).pid = c.pid := rfl
      have hgeneration :
          (handleOf w role id program c capacity).generation = w.tracking.generation + 1 := rfl
      generalize handleOf w role id program c capacity = x at h hid hpid hgeneration
      subst hid
      have hspawned : (w.spawned c x).Sound := hw.spawn hchild hpid hgeneration
      have hplaced := hsound _ x hspawned (mem_started_spawned w c x) rfl
      rw [World.attempt_bind, attempt_install] at h
      rcases hstep x (w.spawned c x).tracking with ⟨y, htaken⟩ | ⟨hfree, hexited, hinstalled⟩
      · rw [htaken] at h
        obtain ⟨-, rfl⟩ := Prod.mk.inj h
        exact leavesNothing_signalled hw hchild hpid hgeneration
      · rw [hfree] at h
        dsimp only at h
        rw [World.attempt_bind, attempt_awaitStart] at h
        dsimp only at h
        cases hexit : (World.run { w.spawned c x with tracking :=
            (step x (w.spawned c x).tracking).2 } World.reap).2.tracking.exit? x with
        | some exit =>
          rw [hexit] at h
          obtain ⟨-, rfl⟩ := Prod.mk.inj h
          exact leavesNothing_exited hw hpid hgeneration hplaced hexited hinstalled hexit
        | none =>
          rw [hexit] at h
          cases h

theorem record_leavesNothing (w : World σ) (e : AuditEvent) :
    w.LeavesNothing (w.run (s.record e)).2 := by
  rw [record, World.record]
  split
  · exact .note w _
  · exact .refl w

theorem recordingFailure_leavesNothing {a : Attempt SupervisorFault σ α} {role : Role}
    {id : Option String} {w v : World σ} {e : SupervisorFault}
    (ha : ∀ v, w.attempt a = (.error e, v) → w.LeavesNothing v)
    (h : w.attempt (s.recordingFailure role id a) = (.error e, v)) : w.LeavesNothing v := by
  rw [recordingFailure, World.attempt_onError] at h
  rcases hend : w.attempt a with ⟨e' | x, w'⟩
  · rw [hend] at h
    obtain ⟨hsame, rfl⟩ := Prod.mk.inj h
    obtain rfl := Except.error.inj hsame
    exact (ha w' hend).trans (s.record_leavesNothing w' _)
  · rw [hend] at h
    cases h

theorem launchCoordinator_leavesNothing {w v : World σ} (hw : w.Sound) {e : SupervisorFault}
    (h : w.attempt s.launchCoordinator = (.error e, v)) : w.LeavesNothing v :=
  s.launch_leavesNothing hw .coordinator none s.processes.coordinatorArgs none
    (fun x t => t.installCoordinator x) Tracking.installs_coordinator
    (fun _ _ hv hx hid => hv.holdCoordinator hx hid) _ _ h

theorem requireNoCoordinator_leavesNothing {w : World σ} (hw : w.Sound) :
    w.LeavesNothing (w.attempt s.requireNoCoordinator).2 := by
  rw [attempt_requireNoCoordinator]
  cases w.coordinator? with
  | some x => exact .refl w
  | none => exact .tidied hw

theorem startCoordinator_leavesNothing {w v : World σ} (hw : w.Sound) {e : SupervisorFault}
    (h : w.attempt s.startCoordinator = (.error e, v)) : w.LeavesNothing v := by
  refine s.recordingFailure_leavesNothing (fun v hstart => ?_) h
  have hlook := s.requireNoCoordinator_leavesNothing hw
  have hsound : World.Sound (w.attempt s.requireNoCoordinator).2 :=
    hw.reaches (s.requireNoCoordinator_within World.reaches_tidied w)
  rw [World.attempt_bind] at hstart
  rcases hlooked : w.attempt s.requireNoCoordinator with ⟨e' | u, w'⟩
  · rw [hlooked] at hstart hlook
    obtain ⟨-, rfl⟩ := Prod.mk.inj hstart
    exact hlook
  · rw [hlooked] at hstart hlook hsound
    exact hlook.trans (s.launchCoordinator_leavesNothing hsound hstart)

theorem launchWorker_leavesNothing {w v : World σ} (hw : w.Sound) {plan : WorkerPlan}
    {e : SupervisorFault} (h : w.attempt (s.launchWorker plan) = (.error e, v)) :
    w.LeavesNothing v := by
  have hlaunch := s.launch_leavesNothing (v := v) (e := e) hw .worker (some plan.workerId)
    (s.workerArguments plan) (some plan.capacity) (fun x t => t.installWorker plan.workerId x)
    (Tracking.installs_worker plan.workerId) (fun _ _ hv hx hid => hv.holdWorker hx hid)
    (fun y => .workerRunning plan.workerId y.pid)
    fun x program => ⟨.worker, some plan.workerId, x.pid, program.path, program.source,
      some plan.capacity⟩
  rw [attempt_launchWorker] at h
  cases halive : (w.tracking.worker? plan.workerId).filter fun y =>
      (w.run (World.isAlive y)).1 with
  | some y =>
    rw [halive] at h
    obtain ⟨-, rfl⟩ := Prod.mk.inj h
    exact .refl w
  | none =>
    rw [halive] at h
    exact hlaunch h

theorem startWorker_leavesNothing {w v : World σ} (hw : w.Sound) {launch : WorkerLaunch}
    {e : SupervisorFault} (h : w.attempt (s.startWorker names launch) = (.error e, v)) :
    w.LeavesNothing v := by
  refine s.recordingFailure_leavesNothing (fun v hstart => ?_) h
  obtain ⟨⟨n, hn⟩, -⟩ := s.attempt_checkWorker w names launch
  have hnamed : w.LeavesNothing { w with madeUp := n } := .makeName w n
  rw [World.attempt_bind] at hstart
  rcases hchecked : w.attempt (s.checkWorker names launch) with ⟨e' | plan, w'⟩
  · rw [hchecked] at hstart hn
    obtain rfl := hn
    obtain ⟨-, rfl⟩ := Prod.mk.inj hstart
    exact hnamed
  · rw [hchecked] at hstart hn
    obtain rfl := hn
    have hsound : World.Sound { w with madeUp := n } := hw.wane (.makeName w n)
    exact hnamed.trans (s.launchWorker_leavesNothing hsound hstart)

/-- What a look before a start finds, recorded if it ends the start. -/
def looked (w : World σ) : Except SupervisorFault Unit × World σ :=
  w.attempt (s.recordingFailure .coordinator none s.requireNoCoordinator)

theorem looked_sound {w : World σ} (hw : w.Sound) : (s.looked w).2.Sound :=
  hw.reaches (s.recordingFailure_within World.Wanes.reaches
    (s.requireNoCoordinator_within World.reaches_tidied) .coordinator none w)

theorem looked_leavesNothing {w : World σ} (hw : w.Sound) : w.LeavesNothing (s.looked w).2 := by
  have hlook := s.requireNoCoordinator_leavesNothing hw
  rw [looked, recordingFailure, World.attempt_onError]
  rcases hend : w.attempt s.requireNoCoordinator with ⟨e | u, v⟩
  all_goals rw [hend] at hlook
  · exact hlook.trans (s.record_leavesNothing v _)
  · exact hlook

theorem goOn_leavesNothing {w v : World σ} (hw : w.Sound) {looked : Except SupervisorFault Unit}
    {e : SupervisorFault} (h : w.run (s.goOn looked) = (.error e, v)) : w.LeavesNothing v := by
  cases looked with
  | error e' =>
    obtain ⟨-, rfl⟩ := Prod.mk.inj h
    exact .refl w
  | ok u =>
    exact s.recordingFailure_leavesNothing
      (fun _ hlaunch => s.launchCoordinator_leavesNothing hw hlaunch) h

/-- A start that fails leaves nothing, for whatever reason it fails and whatever happened before. So
it is also with a start that had its look some time ago, and has lost the place since; and of two
starts that look before either goes on, with each that fails. -/
theorem failedStart_leavesNothing (coordinator : σ) (host : Host) (time : String)
    (events : List Event) :
    let start : World σ := .initial coordinator { host with children := [] } time
    let w := s.afterAll names start events
    (∀ e v, w.attempt s.startCoordinator = (.error e, v) → w.LeavesNothing v) ∧
    (∀ launch e v, w.attempt (s.startWorker names launch) = (.error e, v) → w.LeavesNothing v) ∧
    (∀ e v, w.attempt s.launchCoordinator = (.error e, v) → w.LeavesNothing v) ∧
    (∀ plan e v, w.attempt (s.launchWorker plan) = (.error e, v) → w.LeavesNothing v) ∧
    let one := s.looked w
    let other := s.looked one.2
    let first := other.2.run (s.goOn one.1)
    let second := first.2.run (s.goOn other.1)
    w.run s.startCoordinatorTwice = ([first.1, second.1], second.2) ∧
      (∀ e, first.1 = .error e → w.LeavesNothing first.2) ∧
      ∀ e, second.1 = .error e → first.2.LeavesNothing second.2 := by
  intro start w
  have hsound : w.Sound := s.sound_afterAll names (sound_initial coordinator _ time rfl) events
  refine ⟨fun e v h => s.startCoordinator_leavesNothing hsound h,
    fun launch e v h => s.startWorker_leavesNothing names hsound h,
    fun e v h => s.launchCoordinator_leavesNothing hsound h,
    fun plan e v h => s.launchWorker_leavesNothing hsound h, ?_⟩
  intro one other first second
  have hone : one.2.Sound := s.looked_sound hsound
  have hother : other.2.Sound := s.looked_sound hone
  have hfirst : first.2.Sound :=
    hother.reaches (s.goOn_within World.Wanes.reaches s.launchCoordinator_moves one.1 other.2)
  refine ⟨rfl, fun e he => ?_, fun e he => ?_⟩
  · have hlooks := (s.looked_leavesNothing hsound).trans (s.looked_leavesNothing hone)
    exact hlooks.trans (s.goOn_leavesNothing hother (Prod.ext he rfl))
  · exact s.goOn_leavesNothing hfirst (Prod.ext he rfl)

/-- A worker whose input folder is missing leaves nothing; and of two coordinators that are started
at once, the child of the one that loses the place has been signalled. -/
theorem failedStart_leavesNothing_race :
    let w : World Unit := .initial () (.furnished {}) ""
    let failed := w.attempt (furnished.startWorker .blank ⟨"/worker", "/in/x", none, some "w"⟩)
    let one := furnished.looked w
    let other := furnished.looked one.2
    let first := other.2.run (furnished.goOn one.1)
    let second := first.2.run (furnished.goOn other.1)
    failed.1 = .error (.badArgument "Input directory not found: /in") ∧ w.LeavesNothing failed.2 ∧
      second.1 = .error (.alreadyRunning .coordinator 7000001) ∧
      second.2.signalled 7000002 = true ∧ first.2.LeavesNothing second.2 := by
  intro w failed one other first second
  obtain ⟨-, hworker, -, -, -, -, hsecond⟩ :=
    furnished.failedStart_leavesNothing .blank () (.furnished {}) "" []
  have hfails : failed.1 = .error (.badArgument "Input directory not found: /in") := by
    decide +kernel
  have hloses : second.1 = .error (.alreadyRunning .coordinator 7000001) := by decide +kernel
  exact ⟨hfails, hworker _ _ _ (Prod.ext hfails rfl), hloses, by decide +kernel,
    hsecond _ hloses⟩

end Supervisor

end CoordinatorGateway
