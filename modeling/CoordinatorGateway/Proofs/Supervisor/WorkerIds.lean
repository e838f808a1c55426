import CoordinatorGateway.Proofs.Supervisor.Coordinators
import Mathlib.Data.List.Induction

namespace CoordinatorGateway

variable {σ : Type}

namespace World

/-- Two workers carry one id; both run, and no signal to either has gone out. -/
structure Rivals (w : World σ) (x y : Handle) : Prop where
  ne : x ≠ y
  workers : x.role = .worker ∧ y.role = .worker
  id : x.id = y.id
  undisturbed : w.Undisturbed x ∧ w.Undisturbed y

instance (w : World σ) (x y : Handle) : Decidable (w.Rivals x y) :=
  decidable_of_iff
    (x ≠ y ∧ (x.role = .worker ∧ y.role = .worker) ∧ x.id = y.id ∧
      w.Undisturbed x ∧ w.Undisturbed y)
    ⟨fun h => ⟨h.1, h.2.1, h.2.2.1, h.2.2.2⟩, fun h => ⟨h.1, h.2, h.3, h.4⟩⟩

theorem Rivals.symm {w : World σ} {x y : Handle} (h : w.Rivals x y) : w.Rivals y x :=
  ⟨h.ne.symm, h.workers.symm, h.id.symm, h.undisturbed.symm⟩

/-- A worker runs, and no signal to it has gone out, but nobody tracks it. -/
structure Lost (w : World σ) (x : Handle) : Prop where
  undisturbed : w.Undisturbed x
  worker : x.role = .worker
  untracked : ∀ id, w.tracking.worker? id ≠ some x

def StartsCoordinators (w w' : World σ) : Prop :=
  ∀ x ∈ w'.started, x ∈ w.started ∨ x.role = .coordinator

instance : IsPreorder (World σ) StartsCoordinators where
  refl _ _ hx := .inl hx
  trans _ _ _ h h' x hx := (h' x hx).elim (h x) .inr

theorem startsCoordinators_of_eq {w w' : World σ} (h : w'.started = w.started) :
    w.StartsCoordinators w' := by
  intro x hx
  rw [h] at hx
  exact .inl hx

end World

namespace Supervisor

open World

variable (s : Supervisor) (names : NameSource)

theorem launchCoordinator_startsCoordinators (w : World σ) :
    w.StartsCoordinators (w.attempt s.launchCoordinator).2 := by
  rcases s.launchCoordinator_cases w with hsame | ⟨program, c, -, hsettles⟩
  · exact startsCoordinators_of_eq (congrArg World.started hsame)
  · intro x hx
    rw [hsettles.wanes.started.1] at hx
    rcases List.mem_append.1 hx with hold | hnew
    · exact .inl hold
    · obtain rfl := List.mem_singleton.1 hnew
      exact .inr rfl

theorem startsCoordinators_after (w : World σ) {e : Event} (he : ∀ launch, e ≠ .startWorker launch) :
    w.StartsCoordinators (s.after names w e) :=
  s.after_within names (fun hwanes => startsCoordinators_of_eq hwanes.started.1)
    (fun _ _ _ => startsCoordinators_of_eq rfl) s.launchCoordinator_startsCoordinators
    (fun _ _ _ _ => startsCoordinators_of_eq rfl) w he

theorem started_startWorker (w : World σ) (launch : WorkerLaunch) :
    let after := (w.attempt (s.startWorker names launch)).2
    after.started = w.started ∨
      ∃ y id, after.started = w.started ++ [y] ∧ y.role = .worker ∧ y.id = some id ∧
        ∀ x, w.tracking.worker? id = some x → (w.run (isAlive x)).1 = false := by
  intro after
  rcases s.startWorker_cases w names launch with
    hwanes | ⟨plan, -, ⟨-, hfree⟩, n, program, c, -, hsettles⟩
  · exact .inl hwanes.started.1
  · have hstarted : after.started = w.started ++ [handleOf w .worker (some plan.workerId) program c
        (some plan.capacity)] := hsettles.wanes.started.1
    exact .inr ⟨_, plan.workerId, hstarted, rfl, rfl, hfree⟩

theorem new_of_startWorker {w : World σ} {launch : WorkerLaunch} {y : Handle}
    (hy : y ∈ (s.after names w (.startWorker launch)).started) (hnew : y ∉ w.started) :
    (s.after names w (.startWorker launch)).started = w.started ++ [y] ∧ y.role = .worker ∧
      ∃ id, y.id = some id ∧
        ∀ x, w.tracking.worker? id = some x → (w.run (isAlive x)).1 = false := by
  rw [after] at hy ⊢
  rcases s.started_startWorker names w launch with hsame | ⟨z, id, hadded, hrole, hid, hfree⟩
  · rw [hsame] at hy
    exact absurd hy hnew
  · rw [hadded] at hy
    rcases List.mem_append.1 hy with hold | hlast
    · exact absurd hold hnew
    · obtain rfl := List.mem_singleton.1 hlast
      exact ⟨hadded, hrole, id, hid, hfree⟩

theorem startWorker_of_new {w : World σ} {e : Event} {x : Handle}
    (hx : x ∈ (s.after names w e).started) (hnew : x ∉ w.started) (hrole : x.role = .worker) :
    ∃ launch, e = .startWorker launch := by
  refine Classical.not_forall_not.1 fun hnone => ?_
  rcases s.startsCoordinators_after names w hnone x hx with hold | hcoordinator
  · exact hnew hold
  · rw [hrole] at hcoordinator
    cases hcoordinator

theorem lost_of_rival {w : World σ} (hw : w.Sound) {launch : WorkerLaunch} {x y : Handle}
    (h : (s.after names w (.startWorker launch)).Rivals x y) (hnew : y ∉ w.started) :
    w.Lost x := by
  obtain ⟨hadded, -, id, hid, hfree⟩ := s.new_of_startWorker names h.undisturbed.2.started hnew
  have hold : x ∈ w.started := by
    have hx := h.undisturbed.1.started
    rw [hadded] at hx
    rcases List.mem_append.1 hx with hold | hlast
    · exact hold
    · exact absurd (List.mem_singleton.1 hlast) h.ne
  have hbefore := (s.follows_after names hw _).undisturbed x hold h.undisturbed.1
  refine ⟨hbefore, h.workers.1, fun k hk => ?_⟩
  -- If it were tracked, then under its id, and the start would have found it alive.
  have hsame := (hw.workers k x hk).2
  rw [h.id, hid] at hsame
  obtain rfl := Option.some.inj hsame
  have hdead := hfree x hk
  rw [hbefore.alive hw] at hdead
  cases hdead

/-- Between two rivals, the one that was started last was started when the other was lost. -/
theorem lost_before_rival {start : World σ} (hstart : start.Sound) (hempty : start.started = [])
    {events : List Event} {x y : Handle} (h : (s.afterAll names start events).Rivals x y) :
    ∃ earlier launch later, events = earlier ++ .startWorker launch :: later ∧
      let v := s.afterAll names start earlier
      let v' := s.after names v (.startWorker launch)
      (v.Lost x ∧ y ∈ v'.started ∧ y ∉ v.started) ∨ (v.Lost y ∧ x ∈ v'.started ∧ x ∉ v.started) := by
  induction events using List.reverseRecOn with
  | nil =>
    have hx : x ∈ start.started := h.undisturbed.1.started
    rw [hempty] at hx
    cases hx
  | append_singleton events e ih =>
    have hlast : s.afterAll names start (events ++ [e]) =
        s.after names (s.afterAll names start events) e := List.foldl_append
    rw [hlast] at h
    have hsound := s.sound_afterAll names hstart events
    have hfollows := s.follows_after names hsound e
    by_cases hx : x ∈ (s.afterAll names start events).started
    · by_cases hy : y ∈ (s.afterAll names start events).started
      · -- Both are old, and were rivals before.
        have hbefore := And.intro (hfollows.undisturbed x hx h.undisturbed.1)
          (hfollows.undisturbed y hy h.undisturbed.2)
        obtain ⟨earlier, launch, later, rfl, hlost⟩ := ih ⟨h.ne, h.workers, h.id, hbefore⟩
        refine ⟨earlier, launch, later ++ [e], ?_, hlost⟩
        rw [List.append_assoc, List.cons_append]
      · obtain ⟨launch, rfl⟩ :=
          s.startWorker_of_new names h.undisturbed.2.started hy h.workers.2
        have hlost := s.lost_of_rival names hsound h hy
        exact ⟨events, launch, [], rfl, .inl ⟨hlost, h.undisturbed.2.started, hy⟩⟩
    · obtain ⟨launch, rfl⟩ := s.startWorker_of_new names h.undisturbed.1.started hx h.workers.1
      have hlost := s.lost_of_rival names hsound h.symm hx
      exact ⟨events, launch, [], rfl, .inr ⟨hlost, h.undisturbed.1.started, hx⟩⟩

/-- Workers that run undisturbed have ids of their own just when none of them got the id of another
that ran untracked when it was started. -/
theorem workerIds_unique_iff (coordinator : σ) (host : Host) (time : String)
    (events : List Event) :
    let start : World σ := .initial coordinator { host with children := [] } time
    let w := s.afterAll names start events
    (∀ x y, ¬ w.Rivals x y) ↔
      ∀ earlier launch later, events = earlier ++ .startWorker launch :: later →
        let v := s.afterAll names start earlier
        let v' := s.after names v (.startWorker launch)
        ∀ x y, v.Lost x → y ∈ v'.started → y ∉ v.started → x.id = y.id →
          w.Undisturbed x → ¬ w.Undisturbed y := by
  intro start w
  constructor
  · intro hunique earlier launch later _ v v' x y hlost hy hnew hid hx hy'
    obtain ⟨-, hrole, -⟩ := s.new_of_startWorker names hy hnew
    have hne : x ≠ y := by
      rintro rfl
      exact hnew hlost.undisturbed.started
    exact hunique x y ⟨hne, ⟨hlost.worker, hrole⟩, hid, hx, hy'⟩
  · intro hnone x y h
    have hsound : start.Sound := sound_initial coordinator _ time rfl
    obtain ⟨earlier, launch, later, hevents, hlost | hlost⟩ :=
      s.lost_before_rival names hsound rfl h
    · obtain ⟨hx, hy, hnew⟩ := hlost
      exact hnone earlier launch later hevents x y hx hy hnew h.id h.undisturbed.1 h.undisturbed.2
    · obtain ⟨hy, hx, hnew⟩ := hlost
      exact hnone earlier launch later hevents y x hy hx hnew h.id.symm h.undisturbed.2
        h.undisturbed.1

/-- A query that finds no coordinator drops the handle of a worker, and its id is given out
again. -/
theorem workerIds_rivals :
    let launch : WorkerLaunch := ⟨"/worker", "/input", none, some "w"⟩
    let events : List Event := [.startWorker launch, .coordinatorStatus, .startWorker launch]
    let w := furnished.afterAll .blank (.initial () (.furnished {}) "") events
    ∃ x ∈ w.started, ∃ y ∈ w.started, w.Rivals x y := by
  decide +kernel

end Supervisor

end CoordinatorGateway
