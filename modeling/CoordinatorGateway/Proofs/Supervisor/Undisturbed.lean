import CoordinatorGateway.Proofs.Supervisor.Runs

namespace CoordinatorGateway

variable {σ : Type}

def Effect.signals (pid : Nat) : Effect → Bool
  | .signal p _ => p == pid
  | _ => false

namespace World

/-- Some signal to the process has gone out, even if it could not be sent. -/
def signalled (w : World σ) (pid : Nat) : Bool := w.trace.any (Effect.signals pid)

/-- The handle's child runs, and no signal to it has gone out. -/
structure Undisturbed (w : World σ) (x : Handle) : Prop where
  started : x ∈ w.started
  running : ∃ c ∈ w.host.children, c.pid = x.pid ∧ c.isRunning = true
  unsignalled : w.signalled x.pid = false

instance (w : World σ) (x : Handle) : Decidable (w.Undisturbed x) :=
  decidable_of_iff
    (x ∈ w.started ∧ (∃ c ∈ w.host.children, c.pid = x.pid ∧ c.isRunning = true) ∧
      w.signalled x.pid = false)
    ⟨fun h => ⟨h.1, h.2.1, h.2.2⟩, fun h => ⟨h.1, h.2, h.3⟩⟩

variable {w w' w'' : World σ} {x : Handle}

theorem signalled_eq_true {pid : Nat} {s : Signal} (h : Effect.signal pid s ∈ w.trace) :
    w.signalled pid = true :=
  List.any_eq_true.2 ⟨_, h, beq_self_eq_true pid⟩

theorem signalled_of_trace {pid : Nat} (htrace : w.trace <+: w'.trace)
    (h : w'.signalled pid = false) : w.signalled pid = false := by
  obtain ⟨effects, heffects⟩ := htrace
  rw [signalled, ← heffects, List.any_append, Bool.or_eq_false_iff] at h
  exact h.1

theorem Undisturbed.before (h : w'.Undisturbed x) (hx : x ∈ w.started)
    (hages : w.host.Ages w'.host) (htrace : w.trace <+: w'.trace) : w.Undisturbed x := by
  obtain ⟨c, hc, hpid, hrunning⟩ := h.running
  obtain ⟨f, hchildren, hf⟩ := hages
  rw [hchildren, List.mem_map] at hc
  obtain ⟨d, hd, rfl⟩ := hc
  refine ⟨hx, ⟨d, hd, (hf d).1.symm.trans hpid, ?_⟩, signalled_of_trace htrace h.unsignalled⟩
  cases hended : d.isRunning with
  | true => rfl
  | false =>
    rw [(hf d).2 hended] at hrunning
    cases hrunning

/-- Handles stay, and none of the old ones comes to be undisturbed. -/
structure Follows (w w' : World σ) : Prop where
  started : w.started <+: w'.started
  undisturbed : ∀ x ∈ w.started, w'.Undisturbed x → w.Undisturbed x

theorem Follows.refl (w : World σ) : w.Follows w := ⟨List.prefix_refl _, fun _ _ h => h⟩

theorem Follows.trans (h : w.Follows w') (h' : w'.Follows w'') : w.Follows w'' :=
  ⟨h.started.trans h'.started, fun x hx hundisturbed =>
    h.undisturbed x hx (h'.undisturbed x (h.started.subset hx) hundisturbed)⟩

theorem follows_of_ages (hstarted : w'.started = w.started) (hages : w.host.Ages w'.host)
    (htrace : w.trace <+: w'.trace) : w.Follows w' := by
  have hstays : w.started <+: w'.started := hstarted ▸ List.prefix_refl _
  exact ⟨hstays, fun x hx h => h.before hx hages htrace⟩

theorem Wane.follows (h : Wane w w') : w.Follows w' := by
  have hsame : w.host.Ages w.host := Host.ages_of_children_eq rfl
  cases h with
  | note _ => exact follows_of_ages rfl hsame (List.prefix_append _ _)
  | makeName n => exact follows_of_ages rfl hsame (List.prefix_refl _)
  | signal pid s => exact follows_of_ages rfl (w.host.ages_signal pid s) (List.prefix_append _ _)
  | watch _ => exact follows_of_ages rfl hsame (List.prefix_refl _)
  | clear _ => exact follows_of_ages rfl hsame (List.prefix_refl _)
  | forgetWorkers _ _ => exact follows_of_ages rfl hsame (List.prefix_refl _)

theorem follows_spawn (hw : w.Sound) {program : String} {args : List String}
    {directory : Option String} {c : Child}
    (hchild : w.host.newChild program args directory = .ok c) (y : Handle) :
    w.Follows (w.spawned c y) := by
  refine ⟨List.prefix_append _ _, fun x hx h => ?_⟩
  obtain ⟨d, hd, hpid, hrunning⟩ := h.running
  have hunsignalled := signalled_of_trace (List.prefix_append _ _) h.unsignalled
  rcases List.mem_append.1 hd with hd | hd
  · exact ⟨hx, ⟨d, hd, hpid, hrunning⟩, hunsignalled⟩
  · -- The number of the new child is larger than those of old handles.
    obtain rfl := List.mem_singleton.1 hd
    obtain ⟨hnew, -⟩ := Host.newChild_ok hchild
    have hcount := hw.counted
    obtain ⟨hnumber, hle⟩ := hw.started x hx
    omega

theorem Move.follows (hw : w.Sound) (h : Move w w') : w.Follows w' := by
  have hsame : w.host.Ages w.host := Host.ages_of_children_eq rfl
  cases h with
  | wane hwane => exact hwane.follows
  | spawn hchild _ _ => exact follows_spawn hw hchild _
  | holdCoordinator _ _ => exact follows_of_ages rfl hsame (List.prefix_refl _)
  | holdWorker _ _ => exact follows_of_ages rfl hsame (List.prefix_refl _)
  | forget _ => exact follows_of_ages rfl hsame (List.prefix_refl _)

theorem Reaches.follows (hw : w.Sound) (h : w.Reaches w') : w.Follows w' := by
  induction h with
  | refl => exact .refl w
  | tail hreaches hmove ih => exact ih.trans (hmove.follows (hw.reaches hreaches))

theorem Wane.started (h : Wane w w') :
    w'.started = w.started ∧ w'.host.children.length = w.host.children.length := by
  cases h with
  | signal pid s =>
    obtain ⟨f, hchildren, -⟩ := w.host.ages_signal pid s
    refine ⟨rfl, ?_⟩
    rw [hchildren, List.length_map]
  | _ => exact ⟨rfl, rfl⟩

theorem Wanes.started (h : w.Wanes w') :
    w'.started = w.started ∧ w'.host.children.length = w.host.children.length := by
  induction h with
  | refl => exact ⟨rfl, rfl⟩
  | tail _ hwane ih =>
    obtain ⟨hstarted, hlength⟩ := hwane.started
    exact ⟨hstarted.trans ih.1, hlength.trans ih.2⟩

end World

namespace Supervisor

variable (s : Supervisor) (names : NameSource)

theorem follows_after {w : World σ} (hw : w.Sound) (e : Event) : w.Follows (s.after names w e) := by
  rcases s.after_cases names w e with hmoves | ⟨host, time, hages, hafter⟩
  · exact hmoves.follows hw
  · rw [hafter]
    exact World.follows_of_ages rfl hages (List.prefix_refl _)

end Supervisor

end CoordinatorGateway
