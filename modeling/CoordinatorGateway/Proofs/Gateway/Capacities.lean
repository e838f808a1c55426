import CoordinatorGateway.Proofs.Gateway.Sessions
import CoordinatorGateway.Proofs.Launch.Requests
import CoordinatorGateway.Proofs.Supervisor.Apart
import CoordinatorGateway.Proofs.Supervisor.InputsFolder
import CoordinatorGateway.Proofs.Supervisor.Undisturbed
import CoordinatorGateway.Settings.Load
import Mathlib.Data.List.Forall2
import Mathlib.Data.List.Induction

namespace CoordinatorGateway

variable {σ : Type}

namespace World

variable {P Q : Handle → Child → Prop} {w w' w'' : World σ}

/-- The handles and the children that are new belong together, one for one. -/
def Adds (P : Handle → Child → Prop) (w w' : World σ) : Prop :=
  ∃ xs cs, w'.started = w.started ++ xs ∧ w'.spawns = w.spawns ++ cs ∧ List.Forall₂ P xs cs

theorem adds_of_eq (hstarted : w'.started = w.started) (hspawns : w'.spawns = w.spawns) :
    Adds P w w' :=
  ⟨[], [], by rw [hstarted, List.append_nil], by rw [hspawns, List.append_nil], .nil⟩

theorem Adds.trans (h : Adds P w w') (h' : Adds P w' w'') : Adds P w w'' := by
  obtain ⟨xs, cs, hstarted, hspawns, hnew⟩ := h
  obtain ⟨xs', cs', hstarted', hspawns', hnew'⟩ := h'
  refine ⟨xs ++ xs', cs ++ cs', ?_, ?_, List.rel_append hnew hnew'⟩
  · rw [hstarted', hstarted, List.append_assoc]
  · rw [hspawns', hspawns, List.append_assoc]

instance : IsPreorder (World σ) (Adds P) where
  refl _ := adds_of_eq rfl rfl
  trans _ _ _ := Adds.trans

theorem Adds.mono (h : Adds P w w') (hPQ : ∀ x c, P x c → Q x c) : Adds Q w w' := by
  obtain ⟨xs, cs, hstarted, hspawns, hnew⟩ := h
  exact ⟨xs, cs, hstarted, hspawns, hnew.imp hPQ⟩

theorem Adds.subset (h : Adds P w w') : w.started ⊆ w'.started := by
  obtain ⟨xs, -, hstarted, -⟩ := h
  rw [hstarted]
  exact List.subset_append_left _ _

theorem Wanes.adds (h : w.Wanes w') : Adds P w w' := adds_of_eq h.started.1 h.spawns

theorem spawns_append (w : World σ) (e : Effect) :
    spawns { w with trace := w.trace ++ [e] } = w.spawns ++ e.child?.toList := by
  rw [spawns, List.filterMap_append]
  cases h : e.child? with
  | none => rw [List.filterMap_cons_none h]; rfl
  | some c => rw [List.filterMap_cons_some h]; rfl

theorem Settles.adds {step : Tracking → Option Handle × Tracking} {x : Handle} {c : Child}
    (h : Settles step x (w.spawned c x) w') (hP : P x c) : Adds P w w' := by
  refine ⟨[x], [c], ?_, ?_, .cons hP .nil⟩
  · exact h.wanes.started.1
  · rw [h.wanes.spawns]
    exact w.spawns_append (.spawn c)

end World

namespace Supervisor

variable (s : Supervisor)

inductive StartedBy : Event → Handle → Child → Prop
  | coordinator {e : Event} {x : Handle} {c : Child} {program : String}
      (hevent : ∀ launch, e ≠ .startWorker launch) (hrole : x.role = .coordinator)
      (hargv : c.argv = program :: s.processes.coordinatorArgs) : StartedBy e x c
  | worker {launch : WorkerLaunch} {plan : WorkerPlan} {x : Handle} {c : Child} {program : String}
      (hplan : s.Plans launch plan) (hrole : x.role = .worker)
      (hcapacity : x.capacity = some plan.capacity)
      (hargv : c.argv = program :: s.workerArguments plan) : StartedBy (.startWorker launch) x c

/-- The child of a worker's handle is given the capacity that the handle has. -/
inductive Carries (x : Handle) (c : Child) : Prop
  | coordinator {program : String} (hrole : x.role = .coordinator)
      (hargv : c.argv = program :: s.processes.coordinatorArgs) : Carries x c
  | worker {plan : WorkerPlan} {program : String} (hrole : x.role = .worker)
      (hcapacity : x.capacity = some plan.capacity)
      (hargv : c.argv = program :: s.workerArguments plan) : Carries x c

variable {s}

theorem StartedBy.carries {e : Event} {x : Handle} {c : Child} (h : s.StartedBy e x c) :
    s.Carries x c := by
  cases h with
  | coordinator _ hrole hargv => exact .coordinator hrole hargv
  | worker _ hrole hcapacity hargv => exact .worker hrole hcapacity hargv

theorem Plans.capacity_check {launch : WorkerLaunch} {plan : WorkerPlan} (h : s.Plans launch plan) :
    (match launch.capacity with
      | some x => Supervisor.checked (Capacity.check x s.maxCapacity)
      | none => .ok defaultCapacity) = Except.ok plan.capacity := by
  have hchecked := h.checked
  rw [checkLaunch] at hchecked
  by_cases hprogram : isBlank launch.programPath = true
  · rw [if_pos hprogram] at hchecked
    cases hchecked
  · by_cases hinput : isBlank launch.inputPath = true
    · rw [if_neg hprogram, if_pos hinput] at hchecked
      cases hchecked
    · rw [if_neg hprogram, if_neg hinput] at hchecked
      simp only [Except.bind_eq_ok_iff] at hchecked
      obtain ⟨-, -, -, -, hcapacity⟩ := hchecked
      exact hcapacity

theorem Plans.capacity_bounds {launch : WorkerLaunch} {plan : WorkerPlan} (h : s.Plans launch plan)
    (hasked : launch.capacity ≠ none) : 1 ≤ plan.capacity ∧ plan.capacity ≤ s.maxCapacity := by
  have hcheck := h.capacity_check
  cases hgiven : launch.capacity with
  | none => exact absurd hgiven hasked
  | some x =>
    rw [hgiven] at hcheck
    exact (Capacity.check_eq_ok_iff.1 (checked_eq_ok_iff.1 hcheck)).2

theorem Plans.capacity_default {launch : WorkerLaunch} {plan : WorkerPlan}
    (h : s.Plans launch plan) (hnone : launch.capacity = none) :
    plan.capacity = defaultCapacity := by
  have hcheck := h.capacity_check
  rw [hnone] at hcheck
  exact (Except.ok.inj hcheck).symm

variable (s)

theorem adds_after (names : NameSource) (w : World σ) (e : Event) :
    World.Adds (s.StartedBy e) w (s.after names w e) := by
  by_cases he : ∃ launch, e = .startWorker launch
  · obtain ⟨launch, rfl⟩ := he
    rcases s.startWorker_cases w names launch with
      hwanes | ⟨plan, hplan, -, n, program, c, hchild, hsettles⟩
    · exact hwanes.adds
    · have hname : World.Adds (s.StartedBy (.startWorker launch)) w { w with madeUp := n } :=
        World.adds_of_eq rfl rfl
      exact hname.trans (hsettles.adds (.worker hplan rfl rfl (Host.newChild_ok hchild).2))
  · rw [not_exists] at he
    have hlaunch : Attempt.Within (s.launchCoordinator : Attempt SupervisorFault σ StartedProcess)
        (World.Adds (s.StartedBy e)) := by
      intro w
      rcases s.launchCoordinator_cases w with hsame | ⟨program, c, hchild, hsettles⟩
      · rw [hsame]
        exact refl_of _ w
      · exact hsettles.adds (.coordinator he rfl (Host.newChild_ok hchild).2)
    exact s.after_within names World.Wanes.adds (fun _ _ _ => World.adds_of_eq rfl rfl) hlaunch
      (fun _ _ _ _ => World.adds_of_eq rfl rfl) w he

end Supervisor

namespace Launcher

variable (l : Launcher) (c : Coordinator σ)

theorem launchBody_within {R : World σ → World σ → Prop} [IsPreorder (World σ) R]
    (hrecord : ∀ enabled e, Act.Within (World.record enabled e : Act σ Unit) R)
    (hcount : ∀ (w : World σ) (store : RateStore), R w { w with store := store })
    (hask : ∀ (w : World σ) (call : CoordinatorCall) (s : σ),
      R w { w with coordinator := s, trace := w.trace ++ [.call call] })
    (client : String) (body : Except Failure Bytes) :
    (l.launchBody client body c).Within R := by
  have hanswer {α : Type} (call : CoordinatorCall) (answer : σ → Except Failure α × σ) :
      Attempt.Within (LaunchOrder.ask call answer) R :=
    .mapError (fun w => hask w call (answer w.coordinator).2) _
  refine Attempt.Within.bind (.onError (.check _) fun _ => hrecord _ _) ?_
  intro request
  refine Attempt.Within.bind (.onError (.check _) fun _ => hrecord _ _) ?_
  intro order
  have hthrottle : (l.throttle client order : Attempt Failure σ Unit).Within R := by
    have hcounted : Act.Within (l.observe client) R := fun w => hcount w _
    apply Attempt.Within.bind (.surely hcounted)
    intro verdict
    exact .onError (.check _) fun _ => hrecord _ _
  have hdispatch : (order.dispatch c).Within R := by
    apply Attempt.Within.bind (hanswer _ _)
    intro jobs
    refine Attempt.Within.bind (.check _) ?_
    intro u
    apply Attempt.Within.bind (hanswer _ _)
    intro load
    refine Attempt.Within.bind (.check _) ?_
    intro v
    apply Attempt.Within.bind (hanswer _ _)
    intro jobId
    apply Attempt.Within.ite
    · exact .throw _
    · exact .pure _
  apply Attempt.Within.bind hthrottle
  intro u
  apply Attempt.Within.bind (.mapError (.onError hdispatch fun _ => hrecord _ _) _)
  intro jobId
  apply Attempt.Within.bind (.surely (hrecord _ _))
  intro v
  exact .pure _

end Launcher

namespace Gateway

variable (g : Gateway σ)

def StartedBy (e : Event) (x : Handle) (c : Child) : Prop :=
  ∃ e', e.supervisorEvent? = some e' ∧ g.supervisor.StartedBy e' x c

theorem adds_meet (w : World σ) (e : Event) : World.Adds (g.StartedBy e) w (g.meet w e).2 := by
  cases e with
  | request r =>
    have hcall (w : World σ) (call : CoordinatorCall) (s : σ) :
        World.Adds (g.StartedBy (.request r)) w
          { w with coordinator := s, trace := w.trace ++ [.call call] } := by
      refine World.adds_of_eq rfl ?_
      rw [World.spawns, List.filterMap_append]
      exact List.append_nil _
    apply handle_within (R := World.Adds (g.StartedBy (.request r)))
    · exact fun w n => World.adds_of_eq rfl rfl
    · exact .of_any (fun w call s _ => hcall w call s) _
    · intro e he w
      exact (g.supervisor.adds_after g.names w e).mono fun x c h => ⟨e, he, h⟩
    · intro hroute client
      apply Launcher.launchBody_within
      · exact fun enabled e w => (Act.Wanes.record enabled e w).adds
      · exact fun w store => World.adds_of_eq rfl rfl
      · exact hcall
  | processes e =>
    exact (g.supervisor.adds_after g.names w e).mono fun x c h => ⟨e, rfl, h⟩
  | clock now => exact World.adds_of_eq rfl rfl
  | sweep => exact World.adds_of_eq rfl rfl

theorem adds_run (w : World σ) (events : List Event) :
    World.Adds g.supervisor.Carries w (g.run w events).2 := by
  induction events generalizing w with
  | nil => exact refl_of _ w
  | cons e events ih =>
    have hfirst : World.Adds g.supervisor.Carries w (g.meet w e).2 :=
      (g.adds_meet w e).mono fun x c h => by
        obtain ⟨e', -, hstarted⟩ := h
        exact hstarted.carries
    exact hfirst.trans (ih _)

/-- A handle that is new in a run is new by one of its events. -/
theorem exists_event_of_started {w : World σ} {events : List Event} {x : Handle}
    (hx : x ∈ (g.run w events).2.started) :
    x ∈ w.started ∨ ∃ earlier e later xs c, events = earlier ++ e :: later ∧
      (g.run w (earlier ++ [e])).2.started = (g.run w earlier).2.started ++ xs ∧ x ∈ xs ∧
        g.StartedBy e x c := by
  induction events using List.reverseRecOn with
  | nil => exact .inl hx
  | append_singleton events e ih =>
    have hsplit := g.run_concat w events e
    obtain ⟨xs, cs, hstarted, -, hnew⟩ := g.adds_meet (g.run w events).2 e
    rw [hsplit, hstarted, List.mem_append] at hx
    rcases hx with hx | hx
    · refine (ih hx).imp_right ?_
      rintro ⟨earlier, e', later, xs', c, rfl, hrest⟩
      exact ⟨earlier, e', later ++ [e], xs', c, by simp, hrest⟩
    · obtain ⟨i, hi, rfl⟩ := List.mem_iff_getElem.1 hx
      have hc : i < cs.length := hnew.length_eq ▸ hi
      exact .inr ⟨events, e, [], xs, cs[i], rfl, by rw [hsplit, hstarted], hx, hnew.get hi hc⟩

end Gateway

namespace World

variable {Q Q' : CoordinatorCall → Prop} {w w' w'' : World σ}

def Calls (Q : CoordinatorCall → Prop) (w w' : World σ) : Prop :=
  ∃ made, w'.calls = w.calls ++ made ∧ ∀ call ∈ made, Q call

theorem calls_of_eq (h : w'.calls = w.calls) : Calls Q w w' :=
  ⟨[], by rw [h, List.append_nil], fun _ hcall => by cases hcall⟩

theorem Calls.trans (h : Calls Q w w') (h' : Calls Q w' w'') : Calls Q w w'' := by
  obtain ⟨made, hcalls, hmade⟩ := h
  obtain ⟨made', hcalls', hmade'⟩ := h'
  refine ⟨made ++ made', by rw [hcalls', hcalls, List.append_assoc], ?_⟩
  exact List.forall_mem_append.2 ⟨hmade, hmade'⟩

instance : IsPreorder (World σ) (Calls Q) where
  refl _ := calls_of_eq rfl
  trans _ _ _ := Calls.trans

theorem Calls.mono (h : Calls Q w w') (hQ : ∀ call, Q call → Q' call) : Calls Q' w w' := by
  obtain ⟨made, hcalls, hmade⟩ := h
  exact ⟨made, hcalls, fun call hcall => hQ call (hmade call hcall)⟩

end World

/-- A launch is for a capacity from one to the limit. -/
def CoordinatorCall.Bounded (max : Nat) (call : CoordinatorCall) : Prop :=
  ∀ order, call = .launch order → 1 ≤ order.capacity ∧ order.capacity ≤ max

theorem Launcher.calls_launchBody (l : Launcher) (c : Coordinator σ) (client : String)
    (body : Body) (w : World σ) :
    World.Calls (fun call => ∀ order, call = .launch order → body.Orders l.policy order) w
      (w.attempt (l.launchBody client body.read c)).2 := by
  by_cases hany : ∃ order, body.Orders l.policy order
  · obtain ⟨order, horder⟩ := hany
    obtain ⟨made, hcalls, hout⟩ := l.calls_stages client order c w
    refine ⟨made, ?_, ?_⟩
    · rw [← hcalls]
      exact World.calls_congr (attempt_launchBody_ordered horder client c w)
    · rintro call hcall other rfl
      exact ((launch_mem_iff horder hout other).1.1 hcall).1
  · refine World.calls_of_eq (World.calls_congr ?_)
    exact attempt_launchBody_refused (not_exists.1 hany) client c w

namespace Gateway

variable (g : Gateway σ)

theorem calls_meet (w : World σ) (e : Event) :
    World.Calls (CoordinatorCall.Bounded g.launcher.policy.maxCapacity) w (g.meet w e).2 := by
  cases e with
  | request r =>
    apply handle_within (R := World.Calls (CoordinatorCall.Bounded g.launcher.policy.maxCapacity))
    · exact fun w n => World.calls_of_eq rfl
    · refine .of_any (fun w call s hcall => ?_) _
      refine ⟨[call], w.calls_note (.call call), fun c hc order horder => ?_⟩
      obtain rfl := List.mem_singleton.1 hc
      exact absurd horder (hcall order)
    · exact fun e _ w => World.calls_of_eq ((g.supervisor.after_apart g.names e).calls w)
    · intro _ client w
      refine (g.launcher.calls_launchBody g.coordinator client r.body w).mono ?_
      intro call hcall order horder
      obtain ⟨-, -, request, -, hfits⟩ := hcall order horder
      exact hfits.capacity_fit
  | processes e => exact World.calls_of_eq ((g.supervisor.after_apart g.names e).calls w)
  | clock now => exact World.calls_of_eq rfl
  | sweep => exact World.calls_of_eq rfl

theorem calls_run (w : World σ) (events : List Event) :
    World.Calls (CoordinatorCall.Bounded g.launcher.policy.maxCapacity) w (g.run w events).2 := by
  induction events generalizing w with
  | nil => exact refl_of _ w
  | cons e events ih => exact (g.calls_meet w e).trans (ih _)

/-- The event is to start a worker, with no capacity asked for. -/
def Event.LeavesCapacityOut (e : Event) : Prop :=
  ∃ launch, e.supervisorEvent? = some (.startWorker launch) ∧ launch.capacity = none

variable {g}

theorem StartedBy.capacity {e : Event} {x : Handle} {c : Child} (h : g.StartedBy e x c)
    (hrole : x.role = .worker) :
    ∃ n, x.capacity = some n ∧ (1 ≤ n ∧ n ≤ g.supervisor.maxCapacity ∨
      e.LeavesCapacityOut ∧ n = Supervisor.defaultCapacity) := by
  obtain ⟨e', he, hstarted⟩ := h
  cases hstarted with
  | coordinator _ hcoordinator _ =>
    rw [hrole] at hcoordinator
    cases hcoordinator
  | @worker launch plan _ _ _ hplan _ hcapacity _ =>
    refine ⟨plan.capacity, hcapacity, ?_⟩
    by_cases hasked : launch.capacity = none
    · exact .inr ⟨⟨launch, he, hasked⟩, hplan.capacity_default hasked⟩
    · exact .inl (hplan.capacity_bounds hasked)

theorem StartedBy.of_leavesCapacityOut {e : Event} {x : Handle} {c : Child} (h : g.StartedBy e x c)
    (hout : e.LeavesCapacityOut) :
    x.role = .worker ∧ x.capacity = some Supervisor.defaultCapacity := by
  obtain ⟨e', he, hstarted⟩ := h
  obtain ⟨launch, hlaunch, hnone⟩ := hout
  obtain rfl := Option.some.inj (hlaunch.symm.trans he)
  cases hstarted with
  | coordinator hevent _ _ => exact absurd rfl (hevent launch)
  | worker hplan hrole hcapacity _ =>
    rw [hplan.capacity_default hnone] at hcapacity
    exact ⟨hrole, hcapacity⟩

/-- Every order that goes out is for a capacity within the limit, and each worker's process is given
the capacity of its handle. The workers are within the limit as well just when the default is, or no
worker is started for which the capacity is left out. -/
theorem capacities_bounded_iff (settings : Settings) (c : Coordinator σ) (state : σ) (host : Host)
    (around : Supervisor.Surroundings) (names : NameSource) (time : String)
    (events : List Event) :
    let g := Gateway.ofSettings settings c host around names
    let max := settings.limits.maxCapacity
    let after (events : List Event) := (g.run (.initial state host time) events).2
    (∀ order, .launch order ∈ (after events).calls → 1 ≤ order.capacity ∧ order.capacity ≤ max) ∧
    List.Forall₂ g.supervisor.Carries (after events).started (after events).spawns ∧
    ((∀ x ∈ (after events).started, x.role = .worker →
        ∃ n, x.capacity = some n ∧ 1 ≤ n ∧ n ≤ max) ↔
      Supervisor.defaultCapacity ≤ max ∨ ∀ earlier e later, events = earlier ++ e :: later →
        e.LeavesCapacityOut → (after (earlier ++ [e])).started = (after earlier).started) := by
  intro g max after
  refine ⟨?_, ?_, ?_, ?_⟩
  · obtain ⟨made, hcalls, hmade⟩ := g.calls_run (.initial state host time) events
    intro order horder
    rw [show (after events).calls = [] ++ made from hcalls] at horder
    exact hmade _ horder order rfl
  · obtain ⟨xs, cs, hstarted, hspawns, hnew⟩ := g.adds_run (.initial state host time) events
    rw [show (after events).started = [] ++ xs from hstarted,
      show (after events).spawns = [] ++ cs from hspawns]
    exact hnew
  · intro hbounded
    refine or_iff_not_imp_left.2 fun hlarge earlier e later hsplit hout => ?_
    obtain ⟨xs, cs, hstarted, -, hnew⟩ := g.adds_meet (after earlier) e
    rw [← g.run_concat] at hstarted
    cases hnew with
    | nil => exact hstarted.trans (List.append_nil _)
    | @cons x c xs cs hx _ =>
      obtain ⟨hrole, hcapacity⟩ := hx.of_leavesCapacityOut hout
      have hmem : x ∈ (after (earlier ++ [e])).started := by
        rw [show (after (earlier ++ [e])).started = _ from hstarted]
        exact List.mem_append_right _ List.mem_cons_self
      have hlater : (after (earlier ++ [e])).started ⊆ (after events).started := by
        have hrun := (g.adds_run (after (earlier ++ [e])) later).subset
        rw [← g.run_append, List.append_assoc, List.singleton_append, ← hsplit] at hrun
        exact hrun
      obtain ⟨n, hn, -, hle⟩ := hbounded x (hlater hmem) hrole
      rw [hcapacity] at hn
      obtain rfl := Option.some.inj hn
      exact absurd hle hlarge
  · intro hdefault x hx hrole
    rcases g.exists_event_of_started hx with hinitial | hnew
    · cases hinitial
    · obtain ⟨earlier, e, later, xs, c, hsplit, hstarted, hmem, hstart⟩ := hnew
      obtain ⟨n, hn, hbounds | ⟨hout, rfl⟩⟩ := hstart.capacity hrole
      · exact ⟨n, hn, hbounds⟩
      · refine ⟨_, hn, by decide, ?_⟩
        rcases hdefault with hle | hnone
        · exact hle
        · have hsame := hnone earlier e later hsplit hout
          rw [show (after (earlier ++ [e])).started = _ from hstarted] at hsame
          rw [List.append_right_eq_self.1 hsame] at hmem
          cases hmem

/-- The limit is five, and a worker for which no capacity is asked for is started with ten. -/
theorem startWorker_capacity_beyond :
    let env : Environment := [("MAX_COMPUTE_CAPACITY", "5"), ("WORKER_BIN", "/worker")]
    let settings : Settings :=
      { limits := { maxCapacity := 5 }
        processes := { workerProgram := some "/worker" } }
    let g : Gateway Script := .ofSettings settings (Script.coordinator "") (.furnished {})
      ⟨none, none⟩ .blank
    let r : Request :=
      { method := "POST"
        target := ⟨none, "", "/api/worker/start", none⟩
        headers := []
        body := ⟨Bytes.ofText "[\"/worker\", \"/in\", null, \"w\"]", false⟩
        peer := .v4 [127, 0, 0, 1] }
    let after := (g.run (.initial {} (.furnished {}) "") [.request r]).2
    Settings.load .unnamed env = .ok settings ∧
      after.started.map (fun x => (x.role, x.capacity)) = [(.worker, some 10)] ∧
      after.spawns.map Child.argv =
        [["/worker", "--coordinator-url", "http://127.0.0.1:50051", "--elf", "/worker",
          "--inputs-folder", "/", "--compute-capacity", "10", "--worker-id", "w"]] := by
  decide +kernel

end Gateway

end CoordinatorGateway
