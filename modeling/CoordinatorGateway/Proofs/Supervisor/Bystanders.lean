import CoordinatorGateway.Proofs.Supervisor.FailedStarts
import CoordinatorGateway.Proofs.Supervisor.Survivors
import Mathlib.Data.List.Nodup

namespace CoordinatorGateway

variable {σ : Type} {targets : List Nat}

namespace Tracking

variable {t : Tracking}

theorem hasExited_clear (t : Tracking) (x y : Handle) :
    (t.clear y).hasExited x = t.hasExited x := by
  rw [hasExited, exit?, (t.forgets_clear y).exits]
  rfl

theorem hasExited_publishExit (t : Tracking) (generation : Nat) (e : Exit) (x : Handle) :
    (t.publishExit generation e).hasExited x = (x.generation == generation || t.hasExited x) := by
  rw [hasExited, exit?, publishExit, List.lookup_cons]
  cases x.generation == generation with
  | true => rfl
  | false => rfl

end Tracking

namespace World

variable {w w' w'' : World σ} {x y : Handle} {host : Host} {t : Tracking}

theorem hasExited_reapOne (hexited : t.hasExited x = true) :
    (reapOne host t y).hasExited x = true := by
  rw [reapOne]
  split
  · exact hexited
  · split
    · rw [Tracking.hasExited_clear, Tracking.hasExited_publishExit, hexited, Bool.or_true]
    · exact hexited

theorem hasExited_reapOne_self (hended : ((host.child? x.pid).bind Child.exit).isSome = true) :
    (reapOne host t x).hasExited x = true := by
  obtain ⟨e, he⟩ := Option.isSome_iff_exists.1 hended
  rw [reapOne]
  split
  · next hexited => exact hexited
  · rw [he]
    dsimp only
    rw [Tracking.hasExited_clear, Tracking.hasExited_publishExit, beq_self_eq_true, Bool.true_or]

theorem hasExited_foldl {ys : List Handle} (h : t.hasExited x = true ∨
      x ∈ ys ∧ ((host.child? x.pid).bind Child.exit).isSome = true) :
    (ys.foldl (reapOne host) t).hasExited x = true := by
  induction ys generalizing t with
  | nil => exact h.resolve_right fun hmem => List.not_mem_nil hmem.1
  | cons y ys ih =>
    apply ih
    rcases h with hexited | ⟨hx, hended⟩
    · exact .inl (hasExited_reapOne hexited)
    · rcases List.mem_cons.1 hx with rfl | hx
      · exact .inl (hasExited_reapOne_self hended)
      · exact .inr ⟨hx, hended⟩

theorem Sound.exit_of_not_runs (hw : w.Sound) (hx : x ∈ w.started) (hended : ¬ w.Runs x) :
    ((w.host.child? x.pid).bind Child.exit).isSome = true := by
  obtain ⟨c, hc, hpid⟩ := hw.child_of_started hx
  rw [← hpid, hw.child?_eq hc, Option.bind_some]
  cases hexit : c.exit with
  | some e => rfl
  | none =>
    refine absurd ⟨c, hc, hpid, ?_⟩ hended
    rw [Child.isRunning, hexit]
    rfl

theorem hasExited_reap (hw : w.Sound) (hx : x ∈ w.started) (hended : ¬ w.Runs x) :
    (w.run reap).2.tracking.hasExited x = true :=
  hasExited_foldl (.inr ⟨hx, hw.exit_of_not_runs hx hended⟩)

/-- A signal has gone out, and no end has been noticed yet. -/
def struck (w : World σ) (pid : Nat) (s : Signal) : World σ :=
  { w with host := (w.host.signal pid s).2, trace := w.trace ++ [.signal pid s] }

theorem run_signal (w : World σ) (pid : Nat) (s : Signal) :
    (w.run (signal pid s)).2 = ((w.struck pid s).run reap).2 := rfl

theorem Sound.struck (hw : w.Sound) (pid : Nat) (s : Signal) : (w.struck pid s).Sound :=
  (hw.ages (w.host.ages_signal pid s)).congr rfl rfl rfl

/-- A handle that goes through a signal without an end to be noticed is that of a running child. -/
theorem runs_of_not_exited (hw : w.Sound) (hx : x ∈ w.started) {pid : Nat} {s : Signal}
    (hlive : (w.run (signal pid s)).2.tracking.hasExited x = false) :
    (w.run (signal pid s)).2.Runs x := by
  by_contra hended
  have hexited : ((w.struck pid s).run reap).2.tracking.hasExited x = true :=
    hasExited_reap (hw.struck pid s) hx hended
  rw [run_signal, hexited] at hlive
  cases hlive

theorem Reaches.nodup_generations (hw : w.Sound) (h : w.Reaches w')
    (hnodup : (w.started.map Handle.generation).Nodup) :
    (w'.started.map Handle.generation).Nodup := by
  induction h with
  | refl => exact hnodup
  | @tail v v' hreaches hmove ih =>
    cases hmove with
    | wane hwane =>
      rw [hwane.started.1]
      exact ih
    | @spawn _ _ _ c y hchild hpid hgeneration =>
      rw [List.map_append, List.nodup_append]
      refine ⟨ih, List.nodup_singleton _, fun g hg g' hg' => ?_⟩
      -- The new generation is larger than all before.
      obtain ⟨z, hz, rfl⟩ := List.mem_map.1 hg
      obtain ⟨-, -, hle⟩ := (hw.reaches hreaches).started z hz
      obtain rfl := List.mem_singleton.1 hg'
      omega
    | holdCoordinator _ _ => exact ih
    | holdWorker _ _ => exact ih
    | forget _ => exact ih

theorem Sound.eq_of_pid_eq (hw : w.Sound) (hnodup : (w.started.map Handle.generation).Nodup)
    (hx : x ∈ w.started) (hy : y ∈ w.started) (hpid : x.pid = y.pid) : x = y := by
  obtain ⟨hxnumber, -⟩ := hw.started x hx
  obtain ⟨hynumber, -⟩ := hw.started y hy
  exact List.inj_on_of_nodup_map hnodup hx hy (by omega)

/-- Since then, at most these processes have been signalled. -/
structure LeavesAlone (targets : List Nat) (w w' : World σ) : Prop where
  started : w'.started = w.started
  children : ∀ c ∈ w.host.children, c.pid ∉ targets → c ∈ w'.host.children
  exits : ∀ x, w.tracking.hasExited x = true → w'.tracking.hasExited x = true
  placed : ∀ place x, w'.tracking.at? place = some x → w.tracking.at? place = some x
  kept : ∀ place x, w.tracking.at? place = some x → x.pid ∉ targets →
    w'.tracking.at? place = some x ∨ w'.tracking.hasExited x = true ∧ ¬ w.Runs x

namespace LeavesAlone

theorem of_eq (htracking : w'.tracking = w.tracking) (hstarted : w'.started = w.started)
    (hhost : w'.host = w.host) : w.LeavesAlone targets w' := by
  refine ⟨hstarted, fun c hc _ => ?_, fun x hx => ?_, fun place x hx => ?_, fun place x hx _ => ?_⟩
  · rw [hhost]
    exact hc
  · rw [htracking]
    exact hx
  · rw [← htracking]
    exact hx
  · rw [htracking]
    exact .inl hx

theorem runs (h : w.LeavesAlone targets w') (hx : x.pid ∉ targets) (hruns : w.Runs x) :
    w'.Runs x := by
  obtain ⟨c, hc, hpid, hrunning⟩ := hruns
  exact ⟨c, h.children c hc (hpid ▸ hx), hpid, hrunning⟩

theorem trans (h : w.LeavesAlone targets w') (h' : w'.LeavesAlone targets w'') :
    w.LeavesAlone targets w'' where
  started := h'.started.trans h.started
  children c hc hpid := h'.children c (h.children c hc hpid) hpid
  exits x hx := h'.exits x (h.exits x hx)
  placed place x hx := h.placed place x (h'.placed place x hx)
  kept place x hx hpid := by
    rcases h.kept place x hx hpid with hkept | ⟨hexited, hended⟩
    · rcases h'.kept place x hkept hpid with hkept | ⟨hexited, hended⟩
      · exact .inl hkept
      · exact .inr ⟨hexited, fun hruns => hended (h.runs hpid hruns)⟩
    · exact .inr ⟨h'.exits x hexited, hended⟩

end LeavesAlone

def SoundlyLeavesAlone (targets : List Nat) (w w' : World σ) : Prop :=
  w.Sound → w'.Sound ∧ w.LeavesAlone targets w'

instance : IsPreorder (World σ) (SoundlyLeavesAlone targets) where
  refl _ hw := ⟨hw, .of_eq rfl rfl rfl⟩
  trans _ _ _ h h' hw := by
    obtain ⟨hv, hfirst⟩ := h hw
    obtain ⟨hu, hsecond⟩ := h' hv
    exact ⟨hu, hfirst.trans hsecond⟩

end World

theorem Host.mem_children_signal {h : Host} {pid : Nat} {s : Signal} {c : Child}
    (hc : c ∈ h.children) (hpid : c.pid ≠ pid) : c ∈ (h.signal pid s).2.children := by
  rcases h.signal_cases pid s with hsignal | hsignal | hsignal
  · rw [hsignal]
    exact hc
  · rw [hsignal, endChild]
    refine List.mem_map.2 ⟨c, hc, if_neg ?_⟩
    rw [beq_iff_eq]
    exact hpid
  · rw [hsignal]
    exact hc

namespace Supervisor

open World

variable (s : Supervisor)

theorem nodup_generations_afterAll (names : NameSource) {w : World σ} (hw : w.Sound)
    (hnodup : (w.started.map Handle.generation).Nodup) (events : List Event) :
    ((s.afterAll names w events).started.map Handle.generation).Nodup := by
  induction events generalizing w with
  | nil => exact hnodup
  | cons e events ih =>
    apply ih (s.sound_after names hw e)
    rcases s.after_cases names w e with hmoves | ⟨host, time, -, hafter⟩
    · exact hmoves.nodup_generations hw hnodup
    · rw [hafter]
      exact hnodup

theorem signal_leavesAlone {pid : Nat} (hpid : pid ∈ targets) (signal : Signal) :
    Act.Within (World.signal pid signal : Act σ (Except String Bool))
      (SoundlyLeavesAlone targets) := by
  intro w hw
  have hwanes : w.Wanes (w.run (World.signal pid signal)).2 := Act.Wanes.signal pid signal w
  have hstruck := hw.struck pid signal
  have hchildren : ∀ c ∈ w.host.children, c.pid ∉ targets →
      c ∈ (w.struck pid signal).host.children := by
    intro c hc hother
    refine Host.mem_children_signal hc ?_
    rintro rfl
    exact hother hpid
  refine ⟨hw.reaches hwanes.reaches, rfl, hchildren, fun x hx => hasExited_foldl (.inl hx),
    fun place x hx => hwanes.at? hx, fun place x hx hother => ?_⟩
  by_cases hruns : (w.struck pid signal).Runs x
  · exact .inl (at?_reap hstruck hx hruns)
  · refine .inr ⟨hasExited_reap hstruck (hw.of_at? hx).1 hruns, ?_⟩
    rintro ⟨c, hc, hcpid, hrunning⟩
    exact hruns ⟨c, hchildren c hc (hcpid ▸ hother), hcpid, hrunning⟩

theorem record_leavesAlone (e : AuditEvent) :
    Act.Within (s.record e : Act σ Unit) (SoundlyLeavesAlone targets) := by
  intro w hw
  refine ⟨hw.reaches (s.record_wanes e w).reaches, ?_⟩
  rw [record, World.record]
  split
  · exact .of_eq rfl rfl rfl
  · exact .of_eq rfl rfl rfl

theorem stopManaged_leavesAlone (x : Handle) :
    Attempt.Within (s.stopManaged x : Attempt SupervisorFault σ StopOutcome)
      (SoundlyLeavesAlone [x.pid]) :=
  s.stopManaged_within s.record_leavesAlone (signal_leavesAlone (List.mem_singleton.2 rfl))

theorem stopOthers_leavesAlone (role : Role) (workerId : Option String) (pids : List Nat) :
    Attempt.Within (s.stopOthers role workerId pids : Attempt SupervisorFault σ StopOutcome)
      (SoundlyLeavesAlone pids) :=
  s.stopOthers_within s.record_leavesAlone role workerId fun _ => signal_leavesAlone

theorem stopWorker_leavesAlone {w : World σ} (hw : w.Sound) {id : String}
    (hid : checked (Identifier.check "worker id" id) = .ok ()) :
    (w.withoutWorker id).LeavesAlone (s.workerTargets w id) (w.attempt (s.stopWorker id)).2 := by
  have hsound : (w.withoutWorker id).Sound := hw.forgets (w.tracking.forgets_removeWorker id)
  rw [s.attempt_stopWorker hid, workerTargets]
  cases (w.tracking.worker? id).filter fun x => !w.tracking.hasExited x with
  | some x => exact (s.stopManaged_leavesAlone x _ hsound).2
  | none =>
    dsimp only
    rw [World.attempt_bind]
    rcases hothers : (w.withoutWorker id).attempt (s.otherWorkers id) with ⟨e | pids, v⟩
    · have hlook := s.otherWorkers_within (R := Eq) id (w.withoutWorker id)
      rw [hothers] at hlook
      obtain rfl := hlook
      exact .of_eq rfl rfl rfl
    · obtain ⟨rfl, rfl⟩ := s.otherWorkers_ok hothers
      exact (Attempt.Within.ite (.pure _)
        (s.stopOthers_leavesAlone .worker (some id) (s.othersOf _ id)) _ hsound).2

end Supervisor

end CoordinatorGateway
