import CoordinatorGateway.Proofs.Supervisor.Starts

namespace CoordinatorGateway

variable {σ : Type}

/-- The running children of the number end of their own accord. -/
def Host.exitChild (h : Host) (pid : Nat) (e : Exit) : Host :=
  { h with
    children := h.children.map fun c =>
      if c.pid = pid ∧ c.isRunning then { c with exit := some e } else c }

/-- A machine that holds the program of either role. -/
def Host.furnished (outsiders : Outsiders) : Host :=
  let program : Node := .file ⟨"", true, .runs⟩
  ⟨⟨[(["coordinator"], program), (["worker"], program)]⟩, [], "", outsiders, []⟩

def Supervisor.furnished : Supervisor :=
  ⟨{}, "", 10, ⟨[], none⟩, { explicit := some "/coordinator" }, { explicit := some "/worker" }, true⟩

def NameSource.blank : NameSource := ⟨fun _ => "", fun _ => ""⟩

namespace Supervisor

inductive Event where
  | startCoordinator
  | startCoordinatorTwice
  | startWorker (launch : WorkerLaunch)
  | stopCoordinator
  | stopWorker (id : String)
  | coordinatorStatus
  | workerStatus
  | workerStatusById (id : String)
  | stopAllManaged
  /-- A child ends by itself, and nobody has noticed yet. -/
  | exit (pid : Nat) (e : Exit)
  /-- The end of a child is noticed, if it has ended. -/
  | notice (pid : Nat)
  /-- Other processes come and go, or take to signals in other ways. -/
  | outside (o : Outsiders)
  | files (fs : FileSystem)
  | time (t : String)

variable (s : Supervisor) (names : NameSource)

def after (w : World σ) : Event → World σ
  | .startCoordinator => (w.attempt s.startCoordinator).2
  | .startCoordinatorTwice => (w.run s.startCoordinatorTwice).2
  | .startWorker launch => (w.attempt (s.startWorker names launch)).2
  | .stopCoordinator => (w.attempt s.stopCoordinator).2
  | .stopWorker id => (w.attempt (s.stopWorker id)).2
  | .coordinatorStatus => (w.attempt s.coordinatorStatus).2
  | .workerStatus => (w.attempt s.workerStatus).2
  | .workerStatusById id => (w.attempt (s.workerStatusById id)).2
  | .stopAllManaged => (w.run stopAllManaged).2
  | .exit pid e => { w with host := w.host.exitChild pid e }
  | .notice pid =>
    { w with
      tracking := (w.started.filter fun h => h.pid == pid).foldl (World.reapOne w.host) w.tracking }
  | .outside o => { w with host := { w.host with outsiders := o } }
  | .files fs => { w with host := { w.host with files := fs } }
  | .time t => { w with time := t }

def afterAll (w : World σ) (events : List Event) : World σ := events.foldl (s.after names) w

end Supervisor

def Tracking.handles (t : Tracking) : List Handle := t.workers.values ++ t.coordinator.toList

/-- The world keeps order among its children and handles. The generations of handles number the
children from one on. -/
structure World.Sound (w : World σ) : Prop where
  numbered : ∀ i c, w.host.children[i]? = some c → c.pid = Host.firstPid + i
  counted : w.tracking.generation = w.host.children.length
  started : ∀ h ∈ w.started, h.pid + 1 = Host.firstPid + h.generation ∧
    0 < h.generation ∧ h.generation ≤ w.tracking.generation
  coordinator : ∀ h, w.tracking.coordinator = some h → h ∈ w.started ∧ h.id = none
  workers : ∀ id h, w.tracking.workers.get? id = some h → h ∈ w.started ∧ h.id = some id
  exits : ∀ x ∈ w.tracking.exits, x.1 ≤ w.tracking.generation ∧
    ∀ c ∈ w.host.children, c.pid + 1 = Host.firstPid + x.1 → c.isRunning = false

namespace Host

/-- The children are the same as before, some of them having ended. -/
def Ages (h h' : Host) : Prop :=
  ∃ f : Child → Child, h'.children = h.children.map f ∧
    ∀ c, (f c).pid = c.pid ∧ (c.isRunning = false → (f c).isRunning = false)

theorem ages_endChild (h : Host) (pid : Nat) : h.Ages (h.endChild pid) := by
  refine ⟨_, rfl, fun c => ?_⟩
  by_cases hpid : (c.pid == pid) = true
  · rw [if_pos hpid, Child.dies]
    split
    · exact ⟨rfl, fun _ => rfl⟩
    · exact ⟨rfl, fun hended => hended⟩
  · rw [if_neg hpid]
    exact ⟨rfl, fun hended => hended⟩

theorem ages_of_children_eq {h h' : Host} (hchildren : h'.children = h.children) : h.Ages h' :=
  ⟨id, by rw [hchildren, List.map_id], fun _ => ⟨rfl, fun hended => hended⟩⟩

theorem signal_cases (h : Host) (pid : Nat) (s : Signal) :
    (h.signal pid s).2 = h ∨ (h.signal pid s).2 = h.endChild pid ∨
      (h.signal pid s).2 = { h with outsiders := h.outsiders.remove pid } := by
  rw [signal]
  split
  · exact .inl rfl
  · split
    · exact .inl rfl
    · split
      · dsimp only
        split
        · exact .inl rfl
        · exact .inr (.inl rfl)
      · split
        · dsimp only
          split
          · exact .inl rfl
          · exact .inr (.inr rfl)
        · exact .inl rfl

theorem ages_signal (h : Host) (pid : Nat) (s : Signal) : h.Ages (h.signal pid s).2 := by
  rcases h.signal_cases pid s with hsignal | hsignal | hsignal
  · exact ages_of_children_eq (by rw [hsignal])
  · rw [hsignal]
    exact h.ages_endChild pid
  · exact ages_of_children_eq (by rw [hsignal])

theorem ages_exitChild (h : Host) (pid : Nat) (e : Exit) : h.Ages (h.exitChild pid e) := by
  refine ⟨_, rfl, fun c => ?_⟩
  by_cases hends : c.pid = pid ∧ c.isRunning = true
  · rw [if_pos hends]
    exact ⟨rfl, fun _ => rfl⟩
  · rw [if_neg hends]
    exact ⟨rfl, fun hended => hended⟩

/-- A child starts just when no text has a zero byte, its directory is there, and its program is
there and can be run. -/
theorem newChild_eq_ok_iff {h : Host} {program : String} {args : List String}
    {directory : Option String} {c : Child} :
    h.newChild program args directory = .ok c ↔
      (program :: directory.toList ++ args).any hasZeroByte = false ∧
        ∃ place, h.startDirectory directory = .ok place ∧
          ∃ found, h.programFile place program = .ok found ∧
            ∃ state, startState found.2.program = .ok state ∧
              c = ⟨firstPid + h.children.length, (Path.fileName? found.1).getD found.1,
                program :: args, place, state.1, state.2⟩ := by
  have hanswer {a : Child} : (Except.ok a : Except String Child) = .ok c ↔ c = a :=
    ⟨fun h => (Except.ok.inj h).symm, fun h => h ▸ rfl⟩
  rw [newChild]
  cases (program :: directory.toList ++ args).any hasZeroByte with
  | true => exact ⟨nofun, nofun⟩
  | false =>
    rw [if_neg Bool.false_ne_true, and_iff_right rfl]
    simp only [Except.bind_eq_ok_iff]
    exact exists_congr fun _ => and_congr_right fun _ => exists_congr fun _ =>
      and_congr_right fun _ => exists_congr fun _ => and_congr_right fun _ => hanswer

theorem newChild_ok {h : Host} {program : String} {args : List String} {directory : Option String}
    {c : Child} (hchild : h.newChild program args directory = .ok c) :
    c.pid = firstPid + h.children.length ∧ c.argv = program :: args := by
  obtain ⟨-, _, -, _, -, _, -, rfl⟩ := newChild_eq_ok_iff.1 hchild
  exact ⟨rfl, rfl⟩

end Host

namespace World.Sound

variable {w w' : World σ}

theorem ages (h : w.Sound) {host : Host} (hages : w.host.Ages host) :
    World.Sound { w with host := host } := by
  obtain ⟨f, hchildren, hf⟩ := hages
  refine ⟨fun i c hc => ?_, ?_, h.started, h.coordinator, h.workers, fun x hx => ?_⟩
  · simp only [hchildren, List.getElem?_map, Option.map_eq_some_iff] at hc
    obtain ⟨d, hd, rfl⟩ := hc
    rw [(hf d).1]
    exact h.numbered i d hd
  · simp only [hchildren, List.length_map]
    exact h.counted
  · obtain ⟨hle, hended⟩ := h.exits x hx
    refine ⟨hle, fun c hc hpid => ?_⟩
    simp only [hchildren, List.mem_map] at hc
    obtain ⟨d, hd, rfl⟩ := hc
    rw [(hf d).1] at hpid
    exact (hf d).2 (hended d hd hpid)

theorem forgets (h : w.Sound) {t : Tracking} (hforgets : w.tracking.Forgets t) :
    World.Sound { w with tracking := t } := by
  refine ⟨h.numbered, ?_, ?_, ?_, ?_, ?_⟩
  · exact hforgets.generation.trans h.counted
  · intro x hx
    simp only [hforgets.generation]
    exact h.started x hx
  · intro x hx
    rcases hforgets.coordinator with hnone | hsame
    · rw [hnone] at hx
      cases hx
    · rw [hsame] at hx
      exact h.coordinator x hx
  · intro id x hx
    exact h.workers id x (hforgets.workers id x hx)
  · simp only [hforgets.exits, hforgets.generation]
    exact h.exits

theorem child?_eq (h : w.Sound) {c : Child} (hc : c ∈ w.host.children) :
    w.host.child? c.pid = some c := by
  obtain ⟨i, hi⟩ := List.mem_iff_getElem?.1 hc
  cases hfound : w.host.child? c.pid with
  | none =>
    rw [Host.child?, List.find?_eq_none] at hfound
    exact absurd (beq_self_eq_true c.pid) (hfound c hc)
  | some d =>
    have hpid : d.pid = c.pid := by simpa using List.find?_some hfound
    obtain ⟨j, hj⟩ := List.mem_iff_getElem?.1 (List.mem_of_find?_eq_some hfound)
    rw [h.numbered i c hi, h.numbered j d hj] at hpid
    obtain rfl : j = i := by omega
    rw [← hj, hi]

theorem ended_of_hasExited (h : w.Sound) {x : Handle} (hx : x ∈ w.started)
    (hexited : w.tracking.hasExited x = true) {c : Child} (hc : c ∈ w.host.children)
    (hpid : c.pid = x.pid) : c.isRunning = false := by
  rw [Tracking.hasExited, Tracking.exit?, Option.isSome_iff_exists] at hexited
  obtain ⟨e, he⟩ := hexited
  obtain ⟨l₁, l₂, hexits, -⟩ := List.lookup_eq_some_iff.1 he
  have hmem : (x.generation, e) ∈ w.tracking.exits := by
    rw [hexits]
    exact List.mem_append_right l₁ List.mem_cons_self
  obtain ⟨hnumber, -⟩ := h.started x hx
  refine (h.exits _ hmem).2 c hc ?_
  rw [hpid]
  exact hnumber

theorem child_of_started (h : w.Sound) {x : Handle} (hx : x ∈ w.started) :
    ∃ c ∈ w.host.children, c.pid = x.pid := by
  obtain ⟨hnumber, hpos, hle⟩ := h.started x hx
  have hcount := h.counted
  have hlt : x.generation - 1 < w.host.children.length := by omega
  refine ⟨w.host.children[x.generation - 1], List.getElem_mem hlt, ?_⟩
  have hpid := h.numbered (x.generation - 1) _ (List.getElem?_eq_getElem hlt)
  omega

theorem publishExit (h : w.Sound) {x : Handle} {e : Exit} (hx : x ∈ w.started)
    (hexit : (w.host.child? x.pid).bind Child.exit = some e) :
    World.Sound { w with tracking := w.tracking.publishExit x.generation e } := by
  refine ⟨h.numbered, h.counted, h.started, h.coordinator, h.workers, fun y hy => ?_⟩
  -- The generation is that of one handle only, whose child has ended.
  rcases List.mem_cons.1 hy with rfl | hy
  · obtain ⟨hpid, -, hle⟩ := h.started x hx
    refine ⟨hle, fun c hc hcpid => ?_⟩
    have hfound : w.host.child? x.pid = some c := by
      rw [← h.child?_eq hc]
      congr 1
      omega
    rw [hfound] at hexit
    have hended : c.exit = some e := hexit
    rw [Child.isRunning, hended]
    rfl
  · exact h.exits y hy

theorem watch (h : w.Sound) {x : Handle} (hx : x ∈ w.started) :
    World.Sound { w with tracking := reapOne w.host w.tracking x } := by
  rw [reapOne]
  split
  · exact h
  · split
    · next e hexit =>
      exact (h.publishExit hx hexit).forgets (Tracking.forgets_clear _ x)
    · exact h

theorem spawn (h : w.Sound) {program : String} {args : List String} {directory : Option String}
    {c : Child} {x : Handle} (hchild : w.host.newChild program args directory = .ok c)
    (hpid : x.pid = c.pid) (hgeneration : x.generation = w.tracking.generation + 1) :
    World.Sound
      { w with
        host := { w.host with children := w.host.children ++ [c] }
        tracking := { w.tracking with generation := w.tracking.generation + 1 }
        started := w.started ++ [x]
        trace := w.trace ++ [.spawn c] } := by
  obtain ⟨hnew, -⟩ := Host.newChild_ok hchild
  have hcount := h.counted
  refine ⟨fun i d hd => ?_, ?_, fun y hy => ?_, fun y hy => ?_, fun id y hy => ?_, fun y hy => ?_⟩
  · rcases Nat.lt_or_ge i w.host.children.length with hlt | hge
    · rw [List.getElem?_append_left hlt] at hd
      exact h.numbered i d hd
    · rw [List.getElem?_append_right hge, List.getElem?_singleton] at hd
      split at hd
      · obtain rfl := Option.some.inj hd
        omega
      · cases hd
  · rw [List.length_append, ← hcount]
    rfl
  · rcases List.mem_append.1 hy with hy | hy
    · obtain ⟨hypid, hpos, hle⟩ := h.started y hy
      exact ⟨hypid, hpos, Nat.le_succ_of_le hle⟩
    · obtain rfl := List.mem_singleton.1 hy
      refine ⟨?_, ?_, Nat.le_of_eq hgeneration⟩
      · omega
      · omega
  · obtain ⟨hstarted, hid⟩ := h.coordinator y hy
    exact ⟨List.mem_append_left _ hstarted, hid⟩
  · obtain ⟨hstarted, hid⟩ := h.workers id y hy
    exact ⟨List.mem_append_left _ hstarted, hid⟩
  · obtain ⟨hle, hended⟩ := h.exits y hy
    refine ⟨Nat.le_succ_of_le hle, fun d hd hdpid => ?_⟩
    rcases List.mem_append.1 hd with hd | hd
    · exact hended d hd hdpid
    · obtain rfl := List.mem_singleton.1 hd
      omega

theorem holdCoordinator (h : w.Sound) {x : Handle} (hx : x ∈ w.started) (hid : x.id = none) :
    World.Sound { w with tracking := (w.tracking.installCoordinator x).2 } := by
  have hheld : World.Sound { w with tracking := { w.tracking with coordinator := some x } } := by
    refine ⟨h.numbered, h.counted, h.started, fun y hy => ?_, h.workers, h.exits⟩
    obtain rfl := Option.some.inj hy
    exact ⟨hx, hid⟩
  rw [Tracking.installCoordinator]
  split
  · split
    · exact hheld
    · exact h
  · exact hheld

theorem holdWorker (h : w.Sound) {id : String} {x : Handle} (hx : x ∈ w.started)
    (hid : x.id = some id) :
    World.Sound { w with tracking := (w.tracking.installWorker id x).2 } := by
  have hheld : World.Sound
      { w with tracking := { w.tracking with workers := w.tracking.workers.put id x } } := by
    refine ⟨h.numbered, h.counted, h.started, h.coordinator, fun k y hy => ?_, h.exits⟩
    rw [Registry.get?_put] at hy
    split at hy
    · next hk =>
      obtain rfl := Option.some.inj hy
      rw [hk]
      exact ⟨hx, hid⟩
    · exact h.workers k y hy
  rw [Tracking.installWorker]
  split
  · split
    · exact hheld
    · exact h
  · exact hheld

theorem congr (h : w.Sound) (htracking : w'.tracking = w.tracking)
    (hstarted : w'.started = w.started) (hhost : w'.host = w.host) : w'.Sound := by
  refine ⟨?_, ?_, ?_, ?_, ?_, ?_⟩
  · rw [hhost]
    exact h.numbered
  · rw [hhost, htracking]
    exact h.counted
  · rw [hstarted, htracking]
    exact h.started
  · rw [hstarted, htracking]
    exact h.coordinator
  · rw [hstarted, htracking]
    exact h.workers
  · rw [hhost, htracking]
    exact h.exits

theorem wane (h : w.Sound) (hwane : Wane w w') : w'.Sound := by
  cases hwane with
  | note _ => exact h.congr rfl rfl rfl
  | makeName n => exact h.congr rfl rfl rfl
  | signal pid s => exact (h.ages (w.host.ages_signal pid s)).congr rfl rfl rfl
  | watch hx => exact h.watch hx
  | clear _ => exact h.forgets (w.tracking.forgets_clear _)
  | forgetWorkers hforgets _ => exact h.forgets hforgets

theorem move (h : w.Sound) (hmove : Move w w') : w'.Sound := by
  cases hmove with
  | wane hwane => exact h.wane hwane
  | spawn hchild hpid hgeneration => exact h.spawn hchild hpid hgeneration
  | holdCoordinator hx hid => exact h.holdCoordinator hx hid
  | holdWorker hx hid => exact h.holdWorker hx hid
  | forget hforgets => exact h.forgets hforgets

theorem reaches (h : w.Sound) (hreaches : Reaches w w') : w'.Sound := by
  induction hreaches with
  | refl => exact h
  | tail _ hmove ih => exact ih.move hmove

end World.Sound

namespace Supervisor

variable (s : Supervisor) (names : NameSource)

theorem after_cases (w : World σ) (e : Event) :
    w.Reaches (s.after names w e) ∨ ∃ host time, w.host.Ages host ∧
      s.after names w e = { w with host := host, time := time } := by
  cases e with
  | startCoordinator => exact .inl (s.startCoordinator_moves w)
  | startCoordinatorTwice => exact .inl (s.startCoordinatorTwice_moves w)
  | startWorker launch => exact .inl (s.startWorker_moves names launch w)
  | stopCoordinator =>
    exact .inl (w.reaches_withoutCoordinator.trans (s.wanes_stopCoordinator w).reaches)
  | stopWorker id => exact .inl (s.stopWorker_wanes id w).reaches
  | coordinatorStatus =>
    exact .inl (s.coordinatorStatus_within World.Wanes.reaches World.reaches_tidied w)
  | workerStatus =>
    exact .inl (s.workerStatus_within World.Wanes.reaches World.reaches_tidied w)
  | workerStatusById id =>
    exact .inl (s.workerStatusById_within World.Wanes.reaches World.reaches_tidied id w)
  | stopAllManaged => exact .inl (stopAllManaged_moves w)
  | exit pid e => exact .inr ⟨_, w.time, w.host.ages_exitChild pid e, rfl⟩
  | notice pid => exact .inl (World.wanes_watch w fun x hx => (List.mem_filter.1 hx).1).reaches
  | outside o =>
    exact .inr ⟨{ w.host with outsiders := o }, w.time, Host.ages_of_children_eq rfl, rfl⟩
  | files fs => exact .inr ⟨{ w.host with files := fs }, w.time, Host.ages_of_children_eq rfl, rfl⟩
  | time t => exact .inr ⟨w.host, t, Host.ages_of_children_eq rfl, rfl⟩

/-- All events but the start of a worker are met by steps that start nothing, by dropping handles, by
launching a coordinator, or around the supervisor. -/
theorem after_within {R : World σ → World σ → Prop} [IsPreorder (World σ) R]
    (hwanes : ∀ {w w' : World σ}, w.Wanes w' → R w w')
    (hforgets : ∀ (w : World σ) (t : Tracking), w.tracking.Forgets t → R w { w with tracking := t })
    (hlaunch : Attempt.Within (s.launchCoordinator : Attempt SupervisorFault σ StartedProcess) R)
    (haround : ∀ (w : World σ) (host : Host) (time : String), w.host.Ages host →
      R w { w with host := host, time := time })
    (w : World σ) {e : Event} (he : ∀ launch, e ≠ .startWorker launch) :
    R w (s.after names w e) := by
  have htidied (w : World σ) : R w w.tidied := hforgets w _ w.forgets_tidied
  have htaken (w : World σ) : R w w.withoutCoordinator :=
    hforgets w _ w.tracking.forgets_takeCoordinator
  cases e with
  | startCoordinator => exact s.startCoordinator_within hwanes htidied hlaunch w
  | startCoordinatorTwice => exact s.startCoordinatorTwice_within hwanes htidied hlaunch w
  | startWorker launch => exact absurd rfl (he launch)
  | stopCoordinator => exact trans_of R (htaken w) (hwanes (s.wanes_stopCoordinator w))
  | stopWorker id => exact hwanes (s.stopWorker_wanes id w)
  | coordinatorStatus => exact s.coordinatorStatus_within hwanes htidied w
  | workerStatus => exact s.workerStatus_within hwanes htidied w
  | workerStatusById id => exact s.workerStatusById_within hwanes htidied id w
  | stopAllManaged => exact stopAllManaged_within hwanes htaken w
  | exit pid e => exact haround w _ w.time (w.host.ages_exitChild pid e)
  | notice pid => exact hwanes (World.wanes_watch w fun x hx => (List.mem_filter.1 hx).1)
  | outside o => exact haround w _ w.time (Host.ages_of_children_eq rfl)
  | files fs => exact haround w _ w.time (Host.ages_of_children_eq rfl)
  | time t => exact haround w w.host t (Host.ages_of_children_eq rfl)

theorem sound_after {w : World σ} (h : w.Sound) (e : Event) : (s.after names w e).Sound := by
  rcases s.after_cases names w e with hmoves | ⟨host, time, hages, hafter⟩
  · exact h.reaches hmoves
  · rw [hafter]
    exact (h.ages hages).congr rfl rfl rfl

theorem sound_afterAll {w : World σ} (h : w.Sound) (events : List Event) :
    (s.afterAll names w events).Sound := by
  induction events generalizing w with
  | nil => exact h
  | cons e events ih => exact ih (s.sound_after names h e)

theorem sound_initial (coordinator : σ) (host : Host) (time : String)
    (h : host.children = []) : (World.initial coordinator host time).Sound := by
  refine ⟨fun i c hc => ?_, ?_, fun x hx => ?_, fun x hx => ?_, fun id x hx => ?_, fun x hx => ?_⟩
  · rw [World.initial, h] at hc
    cases hc
  · rw [World.initial, h]
    rfl
  · cases hx
  · cases hx
  · cases hx
  · cases hx

end Supervisor

end CoordinatorGateway
