import CoordinatorGateway.Proofs.Processes.Signals
import CoordinatorGateway.Proofs.Supervisor.Runs

namespace CoordinatorGateway

variable {σ : Type}

def Tracking.tracks (t : Tracking) (pid : Nat) : Bool := t.handles.any fun x => x.pid == pid

namespace Host

/-- The signal ends the child, if it runs. -/
def ends (h : Host) (s : Signal) (c : Child) : Bool :=
  (h.refusal? c.pid s).isNone && !h.outsiders.gone.contains c.pid &&
    !(s == .graceful && c.ignoresStop)

def canEnd (h : Host) (c : Child) : Bool := h.ends .graceful c || h.ends .forceful c

def struck (h : Host) (pid : Nat) (s : Signal) (c : Child) : Child :=
  if c.pid = pid ∧ h.ends s c = true then c.dies else c

/-- The child after the graceful signal to the process of the number and, if need be, the forceful
one. -/
def stopped (h : Host) (pid : Nat) (c : Child) : Child :=
  if c.pid = pid ∧ h.canEnd c = true then c.dies else c

variable {h : Host}

theorem stopped_pid (h : Host) (pid : Nat) (c : Child) : (h.stopped pid c).pid = c.pid := by
  rw [stopped]
  split
  · exact c.dies_pid
  · rfl

@[simp] theorem ends_dies (h : Host) (s : Signal) (c : Child) : h.ends s c.dies = h.ends s c := by
  rw [ends, ends, Child.dies_pid, Child.dies_ignoresStop]

theorem canEnd_stopped (h : Host) (pid : Nat) (c : Child) :
    h.canEnd (h.stopped pid c) = h.canEnd c := by
  rw [stopped]
  split
  · rw [canEnd, canEnd, ends_dies, ends_dies]
  · rfl

theorem ends_signal (h : Host) (pid : Nat) (s s' : Signal) (c : Child) :
    (h.signal pid s).2.ends s' c = h.ends s' c := by
  rcases h.signal_cases pid s with hsignal | hsignal | hsignal
  · rw [hsignal]
  · rw [hsignal]
    rfl
  · rw [hsignal]
    rfl

theorem struck_signal (h : Host) (pid pid' : Nat) (s s' : Signal) (c : Child) :
    (h.signal pid s).2.struck pid' s' c = h.struck pid' s' c := by
  rw [struck, struck, ends_signal]

theorem struck_pid (h : Host) (pid : Nat) (s : Signal) (c : Child) :
    (h.struck pid s c).pid = c.pid := by
  rw [struck]
  split
  · exact c.dies_pid
  · rfl

theorem stopped_eq_of_ended {pid : Nat} {c : Child}
    (hended : c.pid = pid → (h.struck pid .graceful c).isRunning = false) :
    h.struck pid .graceful c = h.stopped pid c := by
  rw [struck] at hended ⊢
  rw [stopped, canEnd]
  by_cases hpid : c.pid = pid
  · cases hgraceful : h.ends .graceful c with
    | true => simp [hpid]
    | false =>
      have hended := hended hpid
      simp only [hgraceful, Bool.false_eq_true, and_false, if_false] at hended
      simp [Child.dies_of_ended hended]
  · simp [hpid]

theorem struck_struck (h : Host) (pid : Nat) (c : Child) :
    h.struck pid .forceful (h.struck pid .graceful c) = h.stopped pid c := by
  rw [stopped, canEnd]
  by_cases hpid : c.pid = pid
  · cases hgraceful : h.ends .graceful c with
    | true =>
      have hstruck : h.struck pid .graceful c = c.dies := if_pos ⟨hpid, hgraceful⟩
      rw [hstruck, struck]
      simp [hpid, Child.dies_dies]
    | false =>
      have hstruck : h.struck pid .graceful c = c := by simp [struck, hgraceful]
      rw [hstruck, struck]
      simp
  · simp [struck, hpid]

theorem ends_iff {s : Signal} {c : Child} :
    h.ends s c = true ↔ h.refusal? c.pid s = none ∧ h.outsiders.gone.contains c.pid = false ∧
      ¬(s = .graceful ∧ c.ignoresStop = true) := by
  cases s <;> simp [ends, and_assoc]

theorem struck_eq_self {pid : Nat} {s : Signal} {c : Child}
    (hended : c.pid = pid → h.ends s c = true → c.isRunning = false) : h.struck pid s c = c := by
  rw [struck]
  split
  · next hstruck => exact Child.dies_of_ended (hended hstruck.1 hstruck.2)
  · rfl

theorem children_signal (hfind : ∀ c ∈ h.children, h.child? c.pid = some c) (pid : Nat)
    (s : Signal) : (h.signal pid s).2.children = h.children.map (h.struck pid s) := by
  have hsame (hended : ∀ c ∈ h.children, c.pid = pid → h.ends s c = true → c.isRunning = false) :
      h.children = h.children.map (h.struck pid s) := by
    rw [List.map_congr_left fun c hc => struck_eq_self (hended c hc), List.map_id']
  rw [signal]
  cases hrefusal : h.refusal? pid s with
  | some e =>
    refine hsame fun c _ hpid hends => ?_
    rw [ends_iff, hpid, hrefusal] at hends
    cases hends.1
  | none =>
    dsimp only
    by_cases hgone : h.outsiders.gone.contains pid = true
    · rw [if_pos hgone]
      refine hsame fun c _ hpid hends => ?_
      rw [ends_iff, hpid, hgone] at hends
      cases hends.2.1
    · rw [if_neg hgone]
      rw [Bool.not_eq_true] at hgone
      cases hchild : (h.child? pid).filter Child.isRunning with
      | some d =>
        rw [Option.filter_eq_some_iff] at hchild
        have honly : ∀ c ∈ h.children, c.pid = pid → c = d := by
          rintro c hc rfl
          rw [hfind c hc] at hchild
          exact Option.some.inj hchild.1
        dsimp only
        by_cases hignores : s = .graceful ∧ d.ignoresStop = true
        · rw [if_pos hignores]
          refine hsame fun c hc hpid hends => ?_
          obtain rfl := honly c hc hpid
          exact absurd hignores (ends_iff.1 hends).2.2
        · rw [if_neg hignores]
          refine List.map_congr_left fun c hc => ?_
          rw [struck]
          by_cases hpid : c.pid = pid
          · obtain rfl := honly c hc hpid
            subst hpid
            have hends : h.ends s c = true := ends_iff.2 ⟨hrefusal, hgone, hignores⟩
            rw [if_pos (beq_self_eq_true c.pid), if_pos ⟨rfl, hends⟩]
          · rw [if_neg (by simpa using hpid), if_neg fun hstruck => hpid hstruck.1]
      | none =>
        have hended : ∀ c ∈ h.children, c.pid = pid → h.ends s c = true → c.isRunning = false := by
          rintro c hc rfl -
          rw [hfind c hc, Option.filter_some] at hchild
          simpa using hchild
        -- An outsider of the number may get the signal; it is no child.
        dsimp only
        split
        · split
          · exact hsame hended
          · exact hsame hended
        · exact hsame hended

end Host

namespace Supervisor

theorem host_signal (w : World σ) (pid : Nat) (s : Signal) :
    (w.run (World.signal pid s)).2.host = (w.host.signal pid s).2 := rfl

theorem run_endManaged (w : World σ) (x : Handle) :
    (w.run (endManaged x)).2 =
      if (w.run (World.signal x.pid .graceful)).2.tracking.hasExited x then
        (w.run (World.signal x.pid .graceful)).2
      else ((w.run (World.signal x.pid .graceful)).2.run (World.signal x.pid .forceful)).2 := by
  have hdiscard : (w.run (discard (World.signal x.pid .graceful))).2 =
      (w.run (World.signal x.pid .graceful)).2 := rfl
  rw [endManaged, World.run_bind, hdiscard, endAfterGrace, World.run_bind, World.run_get,
    World.run_ite]
  split
  · rfl
  · rfl

theorem ends_endManaged (w : World σ) (x : Handle) (signal : Signal) (c : Child) :
    (w.run (endManaged x)).2.host.ends signal c = w.host.ends signal c := by
  rw [run_endManaged]
  split
  · rw [host_signal, Host.ends_signal]
  · rw [host_signal, Host.ends_signal, host_signal, Host.ends_signal]

theorem started_endManaged (w : World σ) (x : Handle) :
    (w.run (endManaged x)).2.started = w.started := by
  rw [run_endManaged]
  split
  · rfl
  · rfl

theorem children_endManaged {w : World σ} (hw : w.Sound) {x : Handle} (hx : x ∈ w.started) :
    (w.run (endManaged x)).2.host.children = w.host.children.map (w.host.stopped x.pid) := by
  have hgraceful : (w.run (World.signal x.pid .graceful)).2.host.children =
      w.host.children.map (w.host.struck x.pid .graceful) :=
    Host.children_signal (fun _ hc => hw.child?_eq hc) x.pid .graceful
  have hsound : (w.run (World.signal x.pid .graceful)).2.Sound :=
    hw.reaches (Act.Wanes.signal x.pid .graceful w).reaches
  rw [run_endManaged]
  split
  · next hexited =>
    -- The end is known, so it has happened, and the forceful signal would change nothing.
    rw [hgraceful]
    refine List.map_congr_left fun c hc => ?_
    have hmem : w.host.struck x.pid .graceful c ∈
        (w.run (World.signal x.pid .graceful)).2.host.children := by
      rw [hgraceful]
      exact List.mem_map_of_mem hc
    refine Host.stopped_eq_of_ended fun hpid => ?_
    refine hsound.ended_of_hasExited hx hexited hmem ?_
    rw [Host.struck_pid]
    exact hpid
  · have hforceful := Host.children_signal (fun _ hc => hsound.child?_eq hc) x.pid .forceful
    rw [host_signal, hforceful, hgraceful, List.map_map]
    refine List.map_congr_left fun c _ => ?_
    rw [Function.comp_apply, host_signal, Host.struck_signal, Host.struck_struck]

theorem canEnd_endManaged (w : World σ) (x : Handle) (c : Child) :
    (w.run (endManaged x)).2.host.canEnd c = w.host.canEnd c := by
  rw [Host.canEnd, Host.canEnd, ends_endManaged, ends_endManaged]

theorem children_endAll {w : World σ} (hw : w.Sound) {xs : List Handle}
    (hxs : ∀ x ∈ xs, x ∈ w.started) :
    (xs.foldl (fun w x => (w.run (endManaged x)).2) w).host.children =
      w.host.children.map fun c =>
        if (xs.any fun x => x.pid == c.pid) = true ∧ w.host.canEnd c = true then c.dies else c := by
  induction xs generalizing w with
  | nil => simp
  | cons x xs ih =>
    have hx := hxs x List.mem_cons_self
    have hsound := hw.reaches (endManaged_wanes x w).reaches
    have hrest : ∀ y ∈ xs, y ∈ (w.run (endManaged x)).2.started := by
      intro y hy
      rw [started_endManaged]
      exact hxs y (List.mem_cons_of_mem x hy)
    rw [List.foldl_cons, ih hsound hrest, children_endManaged hw hx, List.map_map]
    refine List.map_congr_left fun c _ => ?_
    simp only [Function.comp_apply, canEnd_endManaged, Host.canEnd_stopped, Host.stopped_pid,
      List.any_cons, Bool.or_eq_true, beq_iff_eq]
    rw [Host.stopped]
    by_cases hend : w.host.canEnd c = true
    · by_cases hpid : c.pid = x.pid
      · simp [hend, hpid, Child.dies_dies]
      · simp [hend, hpid, Ne.symm hpid]
    · simp [hend]

theorem mem_handles {w : World σ} (hw : w.Sound) {x : Handle} (hx : x ∈ w.tracking.handles) :
    x ∈ w.started := by
  rcases List.mem_append.1 hx with hx | hx
  · obtain ⟨id, hid⟩ := Registry.exists_get?_of_mem_values hx
    exact (hw.workers id x hid).1
  · exact (hw.coordinator x (Option.mem_toList.1 hx)).1

def live (t : Tracking) : List Handle :=
  (t.handles.filter fun x => !t.hasExited x).mergeSort fun a b => decide (a.pid ≤ b.pid)

theorem mem_live {t : Tracking} {x : Handle} :
    x ∈ live t ↔ x ∈ t.handles ∧ t.hasExited x = false := by
  rw [live, List.mem_mergeSort, List.mem_filter, Bool.not_eq_true']

theorem run_stopAllManaged (w : World σ) :
    (w.run stopAllManaged).2 = (live w.tracking).foldl (fun w x => (w.run (endManaged x)).2)
      { w with tracking := w.tracking.clearWorkers.2.takeCoordinator.2 } := by
  rw [stopAllManaged, World.run_bind, World.run_bind, World.run_bind, World.run_get]
  exact congrArg Prod.snd (World.run_forIn _ _ endManaged)

theorem any_live {w : World σ} (hw : w.Sound) {c : Child} (hc : c ∈ w.host.children)
    (hrunning : c.isRunning = true) :
    ((live w.tracking).any fun x => x.pid == c.pid) = w.tracking.tracks c.pid := by
  rw [Tracking.tracks, Bool.eq_iff_iff, List.any_eq_true, List.any_eq_true]
  constructor
  · rintro ⟨x, hx, hpid⟩
    exact ⟨x, (mem_live.1 hx).1, hpid⟩
  · rintro ⟨x, hx, hpid⟩
    refine ⟨x, mem_live.2 ⟨hx, ?_⟩, hpid⟩
    rw [← Bool.not_eq_true]
    intro hexited
    have hended := hw.ended_of_hasExited (mem_handles hw hx) hexited hc (beq_iff_eq.1 hpid).symm
    rw [hrunning] at hended
    cases hended

/-- A shutdown ends each child that is tracked and that a signal ends, and no other. -/
theorem children_stopAllManaged {w : World σ} (hw : w.Sound) :
    (w.run stopAllManaged).2.host.children = w.host.children.map fun c =>
      if w.tracking.tracks c.pid = true ∧ w.host.canEnd c = true then c.dies else c := by
  have hcleared : World.Sound
      { w with tracking := w.tracking.clearWorkers.2.takeCoordinator.2 } :=
    (hw.forgets w.tracking.forgets_clearWorkers).forgets (Tracking.forgets_takeCoordinator _)
  have hlive : ∀ x ∈ live w.tracking, x ∈ w.started := by
    intro x hx
    exact mem_handles hw (mem_live.1 hx).1
  rw [run_stopAllManaged, children_endAll hcleared hlive]
  refine List.map_congr_left fun c hc => ?_
  cases hrunning : c.isRunning with
  | false => rw [Child.dies_of_ended hrunning, ite_self, ite_self]
  | true =>
    rw [any_live hw hc hrunning]

/-- A shutdown is complete just when every child that still runs is tracked, and some signal ends
it. -/
theorem stopAllManaged_complete_iff (s : Supervisor) (names : NameSource) (coordinator : σ)
    (host : Host) (time : String) (events : List Event) :
    let start : World σ := .initial coordinator { host with children := [] } time
    let before := s.afterAll names start events
    let after := s.after names before .stopAllManaged
    (∀ c ∈ after.host.children, c.isRunning = false) ↔
      ∀ c ∈ before.host.children, c.isRunning = true →
        before.tracking.tracks c.pid = true ∧ ∃ signal, before.host.ends signal c = true := by
  intro start before after
  have hsound : before.Sound := s.sound_afterAll names (sound_initial coordinator _ time rfl) events
  have hcanEnd (c : Child) :
      before.host.canEnd c = true ↔ ∃ signal, before.host.ends signal c = true := by
    rw [Host.canEnd, Bool.or_eq_true]
    constructor
    · rintro (hends | hends)
      · exact ⟨_, hends⟩
      · exact ⟨_, hends⟩
    · rintro ⟨signal, hends⟩
      cases signal with
      | graceful => exact .inl hends
      | forceful => exact .inr hends
  have hchildren : after.host.children = before.host.children.map fun c =>
      if before.tracking.tracks c.pid = true ∧ before.host.canEnd c = true then c.dies else c :=
    children_stopAllManaged hsound
  rw [hchildren, List.forall_mem_map]
  refine forall₂_congr fun c _ => ?_
  rw [← hcanEnd]
  split
  · next hends => simp [hends]
  · next hstays =>
    rw [imp_iff_not hstays, Bool.not_eq_true]

/-- The worker still runs whose handle went with the coordinator. -/
theorem stopAllManaged_leaves_worker :
    let program : Node := .file ⟨"", true, .runs⟩
    let host : Host :=
      ⟨⟨[(["coordinator"], program), (["worker"], program)]⟩, [], "", {}, []⟩
    let s : Supervisor := ⟨{}, "", 10, ⟨[], none⟩, { explicit := some "/coordinator" },
      { explicit := some "/worker" }, true⟩
    let events : List Event :=
      [.startCoordinator, .startWorker ⟨"/worker", "/input", none, some "w"⟩, .stopCoordinator]
    let before := s.afterAll ⟨fun _ => "", fun _ => ""⟩ (.initial () host "") events
    let after := s.after ⟨fun _ => "", fun _ => ""⟩ before .stopAllManaged
    ∃ c ∈ after.host.children, c.isRunning = true := by
  decide +kernel

end Supervisor

end CoordinatorGateway
