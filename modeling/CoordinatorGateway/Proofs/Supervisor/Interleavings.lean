import CoordinatorGateway.Proofs.Supervisor.Bystanders
import CoordinatorGateway.Proofs.Supervisor.FailedStarts

namespace CoordinatorGateway

namespace Tracking

def install (t : Tracking) (h : Handle) : Option Handle × Tracking :=
  match h.id with
  | some id => t.installWorker id h
  | none => t.installCoordinator h

variable {t t' : Tracking} {q : Option String} {x h : Handle}

theorem install_cases (t : Tracking) (h : Handle) :
    (∃ y, t.install h = (some y, t)) ∨
      (t.install h).1 = none ∧ (∀ y, t.at? h.id = some y → t.hasExited y = true) ∧
        ∀ q, (t.install h).2.at? q = if q = h.id then some h else t.at? q := by
  have hinstalls : Installs (fun t => t.install h) h.id h := by
    obtain ⟨role, id, pid, program, startedAt, capacity, generation⟩ := h
    cases id with
    | none => exact installs_coordinator _
    | some id => exact installs_worker id _
  exact hinstalls t

theorem install_taken {y : Handle} (htaken : (t.install h).1 = some y) : (t.install h).2 = t := by
  rcases t.install_cases h with ⟨y, hkept⟩ | ⟨hfree, -, -⟩
  · rw [hkept]
  · cases hfree.symm.trans htaken

theorem install_keeps (t : Tracking) (h : Handle) :
    (t.install h).2.exits = t.exits ∧ (t.install h).2.generation = t.generation := by
  rw [install]
  split
  · rw [installWorker]
    split
    · split
      · exact ⟨rfl, rfl⟩
      · exact ⟨rfl, rfl⟩
    · exact ⟨rfl, rfl⟩
  · rw [installCoordinator]
    split
    · split
      · exact ⟨rfl, rfl⟩
      · exact ⟨rfl, rfl⟩
    · exact ⟨rfl, rfl⟩

theorem hasExited_congr (hexits : t'.exits = t.exits) (x : Handle) :
    t'.hasExited x = t.hasExited x := by
  rw [hasExited, exit?, hexits]
  rfl

theorem Forgets.at? (hforgets : t.Forgets t') (hx : t'.at? q = some x) : t.at? q = some x := by
  cases q with
  | none =>
    rcases hforgets.coordinator with hnone | hsame
    · cases hnone.symm.trans hx
    · exact hsame.symm.trans hx
  | some id => exact hforgets.workers id x hx

theorem at?_publishExit (t : Tracking) (generation : Nat) (e : Exit) (q : Option String) :
    (t.publishExit generation e).at? q = t.at? q := by
  cases q with
  | none => rfl
  | some id => rfl

/-- A handle that is cleared is in no place, if it could be in its own only. -/
theorem at?_clear_ne (hid : ∀ q, t.at? q = some h → h.id = q) (q : Option String) :
    (t.clear h).at? q ≠ some h := by
  intro hplaced
  obtain rfl := hid q ((t.forgets_clear h).at? hplaced)
  exact t.at?_clear_self h hplaced

end Tracking

inductive StartPhase where
  | made
  | installed
  /-- The process has ended within the grace period. -/
  | ended
  | finished
  deriving DecidableEq, Repr

inductive WatchPhase where
  | waiting
  | published
  | finished
  deriving DecidableEq, Repr

structure Party where
  handle : Handle
  start : StartPhase
  watch : WatchPhase
  deriving DecidableEq, Repr

structure Shared where
  tracking : Tracking
  parties : List Party

namespace Party

/-- One step of a start or of a watcher. -/
inductive Moves : Tracking → Party → Tracking → Party → Prop
  | install {t : Tracking} (h : Handle) (watch : WatchPhase) (hfree : (t.install h).1 = none) :
      Moves t ⟨h, .made, watch⟩ (t.install h).2 ⟨h, .installed, watch⟩
  /-- The place is taken, and the start fails. -/
  | giveWay {t : Tracking} (h : Handle) (watch : WatchPhase) {y : Handle}
      (htaken : (t.install h).1 = some y) :
      Moves t ⟨h, .made, watch⟩ (t.install h).2 ⟨h, .finished, watch⟩
  | see {t : Tracking} (h : Handle) (watch : WatchPhase) (hexited : t.hasExited h = true) :
      Moves t ⟨h, .installed, watch⟩ t ⟨h, .ended, watch⟩
  /-- The grace period is over, and no end is known. -/
  | settle {t : Tracking} (h : Handle) (watch : WatchPhase) (hrunning : t.hasExited h = false) :
      Moves t ⟨h, .installed, watch⟩ t ⟨h, .finished, watch⟩
  | clear {t : Tracking} (h : Handle) (watch : WatchPhase) :
      Moves t ⟨h, .ended, watch⟩ (t.clear h) ⟨h, .finished, watch⟩
  | publish {t : Tracking} (h : Handle) (start : StartPhase) (e : Exit) :
      Moves t ⟨h, start, .waiting⟩ (t.publishExit h.generation e) ⟨h, start, .published⟩
  | depart {t : Tracking} (h : Handle) (start : StartPhase) :
      Moves t ⟨h, start, .published⟩ (t.clear h) ⟨h, start, .finished⟩

/-- The handle may still be in its place: it has been installed, and the start or the watcher is
still to clear it, if the process ends. -/
structure MayStay (p : Party) : Prop where
  installed : p.start ≠ .made
  unfinished : ¬(p.start = .finished ∧ p.watch = .finished)

structure Fits (t : Tracking) (p : Party) : Prop where
  given : p.handle.generation ≤ t.generation
  reported : t.hasExited p.handle = true ↔ p.watch ≠ .waiting
  ended : p.start = .ended → p.watch ≠ .waiting
  tracked : ∀ q, t.at? q = some p.handle → p.MayStay

variable {t t' : Tracking} {p p' r : Party} {q : Option String} {x : Handle}

theorem Moves.handle (h : Moves t p t' p') : p'.handle = p.handle := by
  cases h <;> rfl

theorem Moves.generation (h : Moves t p t' p') : t'.generation = t.generation := by
  cases h with
  | install h => exact (t.install_keeps h).2
  | giveWay h => exact (t.install_keeps h).2
  | clear h => exact (t.forgets_clear h).generation
  | depart h => exact (t.forgets_clear h).generation
  | _ => rfl

theorem Moves.exits (h : Moves t p t' p') :
    t'.exits = t.exits ∨ ∃ e, t'.exits = (p.handle.generation, e) :: t.exits := by
  cases h with
  | install h => exact .inl (t.install_keeps h).1
  | giveWay h => exact .inl (t.install_keeps h).1
  | clear h => exact .inl (t.forgets_clear h).exits
  | depart h => exact .inl (t.forgets_clear h).exits
  | publish h start e => exact .inr ⟨e, rfl⟩
  | see => exact .inl rfl
  | settle => exact .inl rfl

theorem Moves.hasExited_of_ne (h : Moves t p t' p') (hne : x.generation ≠ p.handle.generation) :
    t'.hasExited x = t.hasExited x := by
  rcases h.exits with hsame | ⟨e, hpublished⟩
  · exact Tracking.hasExited_congr hsame x
  · have hexited := t.hasExited_publishExit p.handle.generation e x
    rw [beq_eq_false_iff_ne.2 hne, Bool.false_or] at hexited
    exact (Tracking.hasExited_congr hpublished x).trans hexited

theorem Moves.at? (h : Moves t p t' p') (hx : t'.at? q = some x) :
    t.at? q = some x ∨ x = p.handle ∧ x.id = q := by
  cases h with
  | install h watch hfree =>
    rcases t.install_cases h with ⟨y, htaken⟩ | ⟨-, -, hplaces⟩
    · rw [htaken] at hfree
      cases hfree
    · rw [hplaces] at hx
      split at hx
      · next hq =>
        obtain rfl := Option.some.inj hx
        exact .inr ⟨rfl, hq.symm⟩
      · exact .inl hx
  | giveWay h watch htaken =>
    rw [Tracking.install_taken htaken] at hx
    exact .inl hx
  | see => exact .inl hx
  | settle => exact .inl hx
  | clear h => exact .inl ((t.forgets_clear h).at? hx)
  | publish h start e =>
    rw [Tracking.at?_publishExit] at hx
    exact .inl hx
  | depart h => exact .inl ((t.forgets_clear h).at? hx)

theorem Moves.fits (h : Moves t p t' p') (hfits : p.Fits t)
    (hid : ∀ q, t.at? q = some p.handle → p.handle.id = q) : p'.Fits t' := by
  have hgiven : p'.handle.generation ≤ t'.generation := by
    rw [h.handle, h.generation]
    exact hfits.given
  cases h with
  | install h watch hfree =>
    have hexited := Tracking.hasExited_congr (t.install_keeps h).1 h
    exact ⟨hgiven, by rw [hexited]; exact hfits.reported, nofun,
      fun _ _ => ⟨nofun, fun hboth => nomatch hboth.1⟩⟩
  | giveWay h watch htaken =>
    have hexited := Tracking.hasExited_congr (t.install_keeps h).1 h
    refine ⟨hgiven, by rw [hexited]; exact hfits.reported, nofun, fun q hplaced => ?_⟩
    -- What has just been made is in no place, and the other one keeps it.
    rw [Tracking.install_taken htaken] at hplaced
    exact absurd rfl (hfits.tracked q hplaced).installed
  | see h watch hexited =>
    exact ⟨hgiven, hfits.reported, fun _ => hfits.reported.1 hexited,
      fun _ _ => ⟨nofun, fun hboth => nomatch hboth.1⟩⟩
  | settle h watch hrunning =>
    have hwaiting : watch = .waiting := by
      by_contra hreported
      exact Bool.false_ne_true (hrunning.symm.trans (hfits.reported.2 hreported))
    rw [hwaiting] at hfits ⊢
    exact ⟨hgiven, hfits.reported, nofun, fun _ _ => ⟨nofun, fun hboth => nomatch hboth.2⟩⟩
  | clear h watch =>
    have hexited := t.hasExited_clear h h
    exact ⟨hgiven, by rw [hexited]; exact hfits.reported, nofun,
      fun q hplaced => absurd hplaced (Tracking.at?_clear_ne hid q)⟩
  | publish h start e =>
    refine ⟨hgiven, ?_, fun _ => nofun, fun q hplaced => ?_⟩
    · rw [Tracking.hasExited_publishExit, beq_self_eq_true, Bool.true_or]
      exact iff_of_true rfl nofun
    · rw [Tracking.at?_publishExit] at hplaced
      exact ⟨(hfits.tracked q hplaced).installed, fun hboth => nomatch hboth.2⟩
  | depart h start =>
    have hexited := t.hasExited_clear h h
    refine ⟨hgiven, ?_, fun _ => nofun,
      fun q hplaced => absurd hplaced (Tracking.at?_clear_ne hid q)⟩
    rw [hexited, hfits.reported]
    exact iff_of_true nofun nofun

theorem Moves.fits_other (h : Moves t p t' p') (hfits : r.Fits t)
    (hne : r.handle.generation ≠ p.handle.generation) : r.Fits t' := by
  refine ⟨h.generation ▸ hfits.given, ?_, hfits.ended, fun q hplaced => ?_⟩
  · rw [h.hasExited_of_ne hne]
    exact hfits.reported
  · rcases h.at? hplaced with hbefore | ⟨hsame, -⟩
    · exact hfits.tracked q hbefore
    · exact absurd (congrArg Handle.generation hsame) hne

end Party

namespace Shared

def empty : Shared := ⟨.empty, []⟩

def generations (s : Shared) : List Nat := s.parties.map fun p => p.handle.generation

/-- One step: a process gets its handle, a start or a watcher moves, or handles are dropped, as they
are when they are taken, removed, or cleared for whatever reason. -/
inductive Step : Shared → Shared → Prop
  | begin {t : Tracking} {ps : List Party} (h : Handle)
      (hgeneration : h.generation = t.nextGeneration.1) :
      Step ⟨t, ps⟩ ⟨t.nextGeneration.2, ps ++ [⟨h, .made, .waiting⟩]⟩
  | move {t t' : Tracking} (before : List Party) {p p' : Party} (after : List Party)
      (h : p.Moves t t' p') : Step ⟨t, before ++ p :: after⟩ ⟨t', before ++ p' :: after⟩
  | drop {t t' : Tracking} {ps : List Party} (h : t.Forgets t') : Step ⟨t, ps⟩ ⟨t', ps⟩

abbrev Reachable (s : Shared) : Prop := Relation.ReflTransGen Step empty s

/-- What is tracked agrees with how far each start and each watcher have come, and no generation is
given out twice. -/
structure Coherent (s : Shared) : Prop where
  distinct : s.generations.Nodup
  fits : ∀ p ∈ s.parties, p.Fits s.tracking
  placed : ∀ q x, s.tracking.at? q = some x → x.id = q ∧ ∃ p ∈ s.parties, p.handle = x
  exits : ∀ x ∈ s.tracking.exits, x.1 ≤ s.tracking.generation

variable {s s' : Shared} {t t' : Tracking} {ps before after : List Party} {p p' : Party}

theorem mem_parties {r : Party} :
    r ∈ before ++ p :: after ↔ r = p ∨ r ∈ before ++ after := by
  rw [List.perm_middle.mem_iff, List.mem_cons]

theorem coherent_empty : Coherent empty := by
  refine ⟨List.nodup_nil, fun p hp => (nomatch hp), fun q x hx => ?_, fun x hx => (nomatch hx)⟩
  cases q with
  | none => cases hx
  | some id => cases hx

theorem Coherent.eq_of_generation (h : s.Coherent) (hp : p ∈ s.parties) (hp' : p' ∈ s.parties)
    (hsame : p.handle.generation = p'.handle.generation) : p = p' :=
  List.inj_on_of_nodup_map h.distinct hp hp' hsame

theorem Coherent.generation_ne (hs : s.Coherent) (hp : p ∈ s.parties) :
    p.handle.generation ≠ s.tracking.generation + 1 :=
  Nat.ne_of_lt (Nat.lt_succ_of_le (hs.fits p hp).given)

/-- Ends are known only of generations that have been given out. -/
theorem Coherent.hasExited_eq_false (hs : s.Coherent) {h : Handle}
    (hgeneration : h.generation = s.tracking.generation + 1) :
    s.tracking.hasExited h = false := by
  refine Bool.eq_false_iff.2 fun hexited => ?_
  obtain ⟨e, he⟩ := Option.isSome_iff_exists.1 hexited
  obtain ⟨before, after, hexits, -⟩ := List.lookup_eq_some_iff.1 he
  have hmem : (h.generation, e) ∈ s.tracking.exits := by
    rw [hexits]
    exact List.mem_append_right before List.mem_cons_self
  have hle := hs.exits _ hmem
  rw [hgeneration] at hle
  exact Nat.not_succ_le_self _ hle

theorem Coherent.begin (hs : Coherent ⟨t, ps⟩) {h : Handle}
    (hgeneration : h.generation = t.generation + 1) :
    Coherent ⟨t.nextGeneration.2, ps ++ [⟨h, .made, .waiting⟩]⟩ := by
  have hplaces (q : Option String) : t.nextGeneration.2.at? q = t.at? q := by
    cases q with
    | none => rfl
    | some id => rfl
  have hfits : Party.Fits t.nextGeneration.2 ⟨h, .made, .waiting⟩ := by
    refine ⟨Nat.le_of_eq hgeneration, ?_, nofun, fun q hplaced => ?_⟩
    · have hunknown : t.nextGeneration.2.hasExited h = false := hs.hasExited_eq_false hgeneration
      exact iff_of_false (ne_true_of_eq_false hunknown) fun hne => hne rfl
    · rw [hplaces] at hplaced
      obtain ⟨-, p, hp, rfl⟩ := hs.placed q _ hplaced
      exact absurd hgeneration (hs.generation_ne hp)
  refine ⟨?_, fun p hp => ?_, fun q x hx => ?_, fun x hx => Nat.le_succ_of_le (hs.exits x hx)⟩
  · rw [generations, List.map_append, List.map_singleton, List.nodup_append_comm,
      List.singleton_append, List.nodup_cons]
    refine ⟨fun hmem => ?_, hs.distinct⟩
    obtain ⟨p, hp, hsame⟩ := List.mem_map.1 hmem
    exact hs.generation_ne hp (hsame.trans hgeneration)
  · rcases List.mem_append.1 hp with hp | hp
    · have hold := hs.fits p hp
      refine ⟨Nat.le_succ_of_le hold.given, hold.reported, hold.ended, fun q hplaced => ?_⟩
      rw [hplaces] at hplaced
      exact hold.tracked q hplaced
    · obtain rfl := List.mem_singleton.1 hp
      exact hfits
  · rw [hplaces] at hx
    obtain ⟨hid, p, hp, hhandle⟩ := hs.placed q x hx
    exact ⟨hid, p, List.mem_append_left _ hp, hhandle⟩

theorem Coherent.generation_ne_of_other (hs : Coherent ⟨t, before ++ p :: after⟩) {r : Party}
    (hr : r ∈ before ++ after) : r.handle.generation ≠ p.handle.generation := by
  have hdistinct := hs.distinct
  rw [generations, List.map_append, List.map_cons, List.nodup_middle, List.nodup_cons,
    ← List.map_append] at hdistinct
  exact fun hsame => hdistinct.1 (List.mem_map.2 ⟨r, hr, hsame⟩)

theorem Coherent.move (hs : Coherent ⟨t, before ++ p :: after⟩) (h : p.Moves t t' p') :
    Coherent ⟨t', before ++ p' :: after⟩ := by
  have hp : p ∈ before ++ p :: after := mem_parties.2 (.inl rfl)
  have hfits := hs.fits p hp
  have hgenerations : generations ⟨t', before ++ p' :: after⟩ =
      generations ⟨t, before ++ p :: after⟩ := by
    simp only [generations, List.map_append, List.map_cons, h.handle]
  have hmove : p'.Fits t' := h.fits hfits fun q hplaced => (hs.placed q _ hplaced).1
  refine ⟨hgenerations ▸ hs.distinct, fun r hr => ?_, fun q x hx => ?_, fun x hx => ?_⟩
  · rcases mem_parties.1 hr with rfl | hr
    · exact hmove
    · exact h.fits_other (hs.fits r (mem_parties.2 (.inr hr))) (hs.generation_ne_of_other hr)
  · rcases h.at? hx with hbefore | ⟨rfl, hid⟩
    · obtain ⟨hid, r, hr, rfl⟩ := hs.placed q x hbefore
      refine ⟨hid, ?_⟩
      rcases mem_parties.1 hr with rfl | hr
      · exact ⟨p', mem_parties.2 (.inl rfl), h.handle⟩
      · exact ⟨r, mem_parties.2 (.inr hr), rfl⟩
    · exact ⟨hid, p', mem_parties.2 (.inl rfl), h.handle⟩
  · change x.1 ≤ t'.generation
    change x ∈ t'.exits at hx
    rw [h.generation]
    rcases h.exits with hsame | ⟨e, hpublished⟩
    · rw [hsame] at hx
      exact hs.exits x hx
    · rw [hpublished] at hx
      rcases List.mem_cons.1 hx with rfl | hx
      · exact hfits.given
      · exact hs.exits x hx

theorem Coherent.drop (hs : Coherent ⟨t, ps⟩) (h : t.Forgets t') : Coherent ⟨t', ps⟩ := by
  refine ⟨hs.distinct, fun p hp => ?_, fun q x hx => hs.placed q x (h.at? hx), fun x hx => ?_⟩
  · have hfits := hs.fits p hp
    refine ⟨h.generation ▸ hfits.given, ?_, hfits.ended, fun q hplaced =>
      hfits.tracked q (h.at? hplaced)⟩
    rw [Tracking.hasExited_congr h.exits]
    exact hfits.reported
  · change x ∈ t'.exits at hx
    change x.1 ≤ t'.generation
    rw [h.exits] at hx
    rw [h.generation]
    exact hs.exits x hx

theorem Coherent.step (hs : s.Coherent) (hstep : Step s s') : s'.Coherent := by
  cases hstep with
  | begin h hgeneration => exact hs.begin hgeneration
  | move before after h => exact hs.move h
  | drop h => exact hs.drop h

theorem coherent_of_reachable (h : s.Reachable) : s.Coherent := by
  induction h with
  | refl => exact coherent_empty
  | tail _ hstep ih => exact ih.step hstep

theorem Coherent.eq_of_clear (hs : s.Coherent) (hp : p ∈ s.parties) {q : Option String} {x : Handle}
    (hx : s.tracking.at? q = some x) (hgone : (s.tracking.clear p.handle).at? q ≠ some x) :
    x = p.handle := by
  obtain ⟨-, r, hr, rfl⟩ := hs.placed q x hx
  by_contra hne
  refine hgone (Tracking.at?_clear_of_ne hx fun hsame => hne ?_)
  rw [hs.eq_of_generation hr hp hsame]

/-- In whatever order the steps come: no two handles have one generation, and what is tracked are
handles that have been installed, each in its own place. A clear, by a watcher or by a start, takes
away no handle but that of its own process, whose end is known. An installed handle replaces none
but one whose process has been reported to have ended. Where both the start and the watcher of a
process have finished, its handle is in no place. -/
theorem interleavings_keep (h : s.Reachable) :
    s.generations.Nodup ∧
    (∀ q x, s.tracking.at? q = some x → x.id = q ∧
      ∃ p ∈ s.parties, p.handle = x ∧ p.start ≠ .made) ∧
    (∀ p ∈ s.parties, p.watch = .published ∨ p.start = .ended →
      ∀ q x, s.tracking.at? q = some x → (s.tracking.clear p.handle).at? q ≠ some x →
        x = p.handle ∧ s.tracking.hasExited x = true) ∧
    (∀ p ∈ s.parties, p.start = .made →
      ∀ q x, s.tracking.at? q = some x → (s.tracking.install p.handle).2.at? q ≠ some x →
        ∃ r ∈ s.parties, r.handle = x ∧ r.watch ≠ .waiting) ∧
    ∀ p ∈ s.parties, p.start = .finished → p.watch = .finished →
      ∀ q, s.tracking.at? q ≠ some p.handle := by
  have hs := coherent_of_reachable h
  refine ⟨hs.distinct, fun q x hx => ?_, fun p hp hclears q x hx hgone => ?_,
    fun p hp _ q x hx hgone => ?_, fun p hp hstart hwatch q hplaced => ?_⟩
  · obtain ⟨hid, p, hp, rfl⟩ := hs.placed q x hx
    exact ⟨hid, p, hp, rfl, ((hs.fits p hp).tracked q hx).installed⟩
  · obtain rfl := hs.eq_of_clear hp hx hgone
    refine ⟨rfl, (hs.fits p hp).reported.2 ?_⟩
    rcases hclears with hpublished | hended
    · rw [hpublished]
      exact nofun
    · exact (hs.fits p hp).ended hended
  · obtain ⟨-, r, hr, rfl⟩ := hs.placed q x hx
    refine ⟨r, hr, rfl, (hs.fits r hr).reported.1 ?_⟩
    rcases s.tracking.install_cases p.handle with ⟨y, hkept⟩ | ⟨-, hexited, hplaces⟩
    · rw [hkept] at hgone
      exact absurd hx hgone
    · rw [hplaces] at hgone
      split at hgone
      · next hq =>
        rw [hq] at hx
        exact hexited _ hx
      · exact absurd hx hgone
  · exact ((hs.fits p hp).tracked q hplaced).unfinished ⟨hstart, hwatch⟩

/-- The end of the first process is published, and its watcher is done, before its handle is
installed. A second process takes the place before the start of the first clears it. -/
theorem interleavings_keep_late :
    let handle (n : Nat) : Handle := ⟨.coordinator, none, n, "/coordinator", "", none, n⟩
    let late : Shared := ⟨⟨some (handle 2), .empty, 2, [(1, ⟨some 1⟩)]⟩,
      [⟨handle 1, .finished, .finished⟩, ⟨handle 2, .finished, .waiting⟩]⟩
    late.Reachable ∧ late.tracking.at? none = some (handle 2) ∧
      ∀ q, late.tracking.at? q ≠ some (handle 1) := by
  intro handle late
  let tracking (held : Option Handle) (n : Nat) : Tracking := ⟨held, .empty, n, [(1, ⟨some 1⟩)]⟩
  have hmade : Reachable ⟨⟨none, .empty, 1, []⟩, [⟨handle 1, .made, .waiting⟩]⟩ :=
    .single (.begin (handle 1) rfl)
  have hpublished : Reachable ⟨tracking none 1, [⟨handle 1, .made, .published⟩]⟩ :=
    hmade.tail (.move [] [] (.publish (handle 1) .made ⟨some 1⟩))
  have hdeparted : Reachable ⟨tracking none 1, [⟨handle 1, .made, .finished⟩]⟩ :=
    hpublished.tail (.move [] [] (.depart (handle 1) .made))
  have hinstalled : Reachable ⟨tracking (some (handle 1)) 1, [⟨handle 1, .installed, .finished⟩]⟩ :=
    hdeparted.tail (.move [] [] (.install (handle 1) .finished rfl))
  have hseen : Reachable ⟨tracking (some (handle 1)) 1, [⟨handle 1, .ended, .finished⟩]⟩ :=
    hinstalled.tail (.move [] [] (.see (handle 1) .finished rfl))
  have hsecond : Reachable ⟨tracking (some (handle 1)) 2,
      [⟨handle 1, .ended, .finished⟩, ⟨handle 2, .made, .waiting⟩]⟩ :=
    hseen.tail (.begin (handle 2) rfl)
  have hreplaced : Reachable ⟨tracking (some (handle 2)) 2,
      [⟨handle 1, .ended, .finished⟩, ⟨handle 2, .installed, .waiting⟩]⟩ :=
    hsecond.tail (.move [⟨handle 1, .ended, .finished⟩] [] (.install (handle 2) .waiting rfl))
  have hcleared : Reachable ⟨tracking (some (handle 2)) 2,
      [⟨handle 1, .finished, .finished⟩, ⟨handle 2, .installed, .waiting⟩]⟩ :=
    hreplaced.tail (.move [] [⟨handle 2, .installed, .waiting⟩] (.clear (handle 1) .finished))
  have hlate : late.Reachable :=
    hcleared.tail (.move [⟨handle 1, .finished, .finished⟩] [] (.settle (handle 2) .waiting rfl))
  obtain ⟨-, -, -, -, hgone⟩ := interleavings_keep hlate
  exact ⟨hlate, rfl, hgone ⟨handle 1, .finished, .finished⟩ List.mem_cons_self rfl rfl⟩

end Shared

namespace World

variable {σ : Type} {w w' : World σ}

/-- What is tracked has come about by steps of starts and watchers, the starts have come to an end,
and no watcher is between its two steps. -/
def Interleaved (w : World σ) : Prop :=
  ∃ ps, Shared.Reachable ⟨w.tracking, ps⟩ ∧ ps.map Party.handle = w.started ∧
    ∀ p ∈ ps, p.start = .finished ∧ p.watch ≠ .published

def KeepsInterleaved (w w' : World σ) : Prop := w.Interleaved → w'.Interleaved

instance : IsPreorder (World σ) KeepsInterleaved where
  refl _ h := h
  trans _ _ _ h h' hw := h' (h hw)

theorem Interleaved.congr (h : w.Interleaved) (htracking : w'.tracking = w.tracking)
    (hstarted : w'.started = w.started) : w'.Interleaved := by
  rw [Interleaved, htracking, hstarted]
  exact h

theorem Interleaved.forgets (h : w.Interleaved) {t : Tracking} (hforgets : w.tracking.Forgets t) :
    Interleaved { w with tracking := t } := by
  obtain ⟨ps, hreachable, hrest⟩ := h
  exact ⟨ps, hreachable.tail (.drop hforgets), hrest⟩

theorem Interleaved.watch (h : w.Interleaved) {x : Handle} (hx : x ∈ w.started) :
    Interleaved { w with tracking := reapOne w.host w.tracking x } := by
  obtain ⟨ps, hreachable, hhandles, hrests⟩ := h
  rw [reapOne]
  split
  · exact ⟨ps, hreachable, hhandles, hrests⟩
  · next hunknown =>
    split
    · next e _ =>
      rw [← hhandles] at hx
      obtain ⟨⟨y, start, watch⟩, hp, rfl⟩ := List.mem_map.1 hx
      have hwaiting : watch = .waiting := by
        by_contra hreported
        have hfits := (Shared.coherent_of_reachable hreachable).fits _ hp
        exact hunknown (hfits.reported.2 hreported)
      obtain rfl := hwaiting
      obtain ⟨before, after, rfl⟩ := List.append_of_mem hp
      have hdeparted : Shared.Reachable ⟨(w.tracking.publishExit y.generation e).clear y,
          before ++ ⟨y, start, .finished⟩ :: after⟩ :=
        (hreachable.tail (.move before after (.publish y start e))).tail
          (.move before after (.depart y start))
      refine ⟨_, hdeparted, ?_, fun r hr => ?_⟩
      · rw [← hhandles, List.map_append, List.map_append]
        rfl
      · rcases Shared.mem_parties.1 hr with rfl | hr
        · exact ⟨(hrests _ hp).1, WatchPhase.noConfusion⟩
        · exact hrests r (Shared.mem_parties.2 (.inr hr))
    · exact ⟨ps, hreachable, hhandles, hrests⟩

theorem Interleaved.wane (h : w.Interleaved) (hwane : Wane w w') : w'.Interleaved := by
  cases hwane with
  | note => exact h.congr rfl rfl
  | makeName n => exact h.congr rfl rfl
  | signal pid s => exact h.congr rfl rfl
  | watch hstarted => exact h.watch hstarted
  | clear => exact h.forgets (w.tracking.forgets_clear _)
  | forgetWorkers hforgets => exact h.forgets hforgets

theorem Interleaved.wanes (h : w.Interleaved) (hwanes : w.Wanes w') : w'.Interleaved := by
  induction hwanes with
  | refl => exact h
  | tail _ hwane ih => exact ih.wane hwane

/-- A process that has just been started has not been reported, and its start need not wait. -/
theorem Interleaved.spawned (h : w.Interleaved) (c : Child) {x : Handle}
    (hgeneration : x.generation = w.tracking.generation + 1) :
    Interleaved { w.spawned c x with tracking := ((w.spawned c x).tracking.install x).2 } := by
  obtain ⟨ps, hreachable, hhandles, hrests⟩ := h
  have hmade : Shared.Reachable ⟨(w.spawned c x).tracking, ps ++ [⟨x, .made, .waiting⟩]⟩ :=
    hreachable.tail (.begin x hgeneration)
  have hfinished : Shared.Reachable
      ⟨((w.spawned c x).tracking.install x).2, ps ++ [⟨x, .finished, .waiting⟩]⟩ := by
    cases htaken : ((w.spawned c x).tracking.install x).1 with
    | some y => exact hmade.tail (.move ps [] (.giveWay x .waiting htaken))
    | none =>
      have hinstalled := hmade.tail (.move ps [] (.install x .waiting htaken))
      have hfits := (Shared.coherent_of_reachable hinstalled).fits ⟨x, .installed, .waiting⟩
        (List.mem_append_right ps List.mem_cons_self)
      have hrunning := Bool.eq_false_iff.2 fun hexited => hfits.reported.1 hexited rfl
      exact hinstalled.tail (.move ps [] (.settle x .waiting hrunning))
  refine ⟨_, hfinished, ?_, fun p hp => ?_⟩
  · rw [List.map_append, hhandles]
    rfl
  · rcases List.mem_append.1 hp with hp | hp
    · exact hrests p hp
    · obtain rfl := List.mem_singleton.1 hp
      exact ⟨rfl, nofun⟩

end World

namespace Supervisor

variable {σ : Type} (s : Supervisor) (names : NameSource)

theorem after_keepsInterleaved (w : World σ) (e : Event) :
    w.KeepsInterleaved (s.after names w e) := by
  by_cases he : ∃ launch, e = .startWorker launch
  · obtain ⟨launch, rfl⟩ := he
    intro hw
    rcases s.startWorker_cases w names launch with
      hwanes | ⟨plan, -, -, n, program, c, -, hsettles⟩
    · exact hw.wanes hwanes
    · have hnamed : World.Interleaved { w with madeUp := n } := hw.congr rfl rfl
      have hinstalled := hnamed.spawned c (x := handleOf w .worker (some plan.workerId) program c
        (some plan.capacity)) rfl
      exact hinstalled.wanes hsettles.wanes
  · rw [not_exists] at he
    have hlaunch : Attempt.Within (s.launchCoordinator : Attempt SupervisorFault σ StartedProcess)
        World.KeepsInterleaved := by
      intro w hw
      rcases s.launchCoordinator_cases w with hsame | ⟨program, c, -, hsettles⟩
      · rw [hsame]
        exact hw
      · have hinstalled := hw.spawned c (x := handleOf w .coordinator none program c none) rfl
        exact hinstalled.wanes hsettles.wanes
    exact s.after_within names (fun hwanes hw => hw.wanes hwanes) (fun _ _ hforgets hw =>
      hw.forgets hforgets) hlaunch (fun _ _ _ _ hw => hw.congr rfl rfl) w he

theorem interleaved_afterAll {w : World σ} (h : w.Interleaved) (events : List Event) :
    (s.afterAll names w events).Interleaved := by
  induction events generalizing w with
  | nil => exact h
  | cons e events ih => exact ih (s.after_keepsInterleaved names w e h)

theorem interleaved_initial (coordinator : σ) (host : Host) (time : String) :
    (World.initial coordinator host time).Interleaved :=
  ⟨[], .refl, rfl, fun _ hp => nomatch hp⟩

/-- In every run no handle is tracked whose process is known to have ended. -/
theorem hasExited_of_tracked (coordinator : σ) (host : Host) (time : String) (events : List Event) :
    let after := s.afterAll names (.initial coordinator host time) events
    ∀ q x, after.tracking.at? q = some x → after.tracking.hasExited x = false := by
  intro after q x hx
  obtain ⟨ps, hreachable, -, hrests⟩ :=
    s.interleaved_afterAll names (interleaved_initial coordinator host time) events
  have hcoherent := Shared.coherent_of_reachable hreachable
  obtain ⟨-, p, hp, rfl⟩ := hcoherent.placed q x hx
  have hfits := hcoherent.fits p hp
  obtain ⟨hstart, hunpublished⟩ := hrests p hp
  refine Bool.eq_false_iff.2 fun hexited => ?_
  have hreported := hfits.reported.1 hexited
  cases hwatch : p.watch with
  | waiting => exact hreported hwatch
  | published => exact hunpublished hwatch
  | finished => exact (hfits.tracked q hx).unfinished ⟨hstart, hwatch⟩

end Supervisor

end CoordinatorGateway
