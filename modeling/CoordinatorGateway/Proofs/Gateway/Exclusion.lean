import CoordinatorGateway.Proofs.Coordinator.Peer
import CoordinatorGateway.Proofs.Gateway.Capacities
import CoordinatorGateway.Proofs.Launch.Refusals
import CoordinatorGateway.Proofs.Supervisor.Apart
import Mathlib.Logic.Relation

namespace CoordinatorGateway

open scoped List

variable {σ : Type}

theorem nodup_of_subperm {α : Type} {xs ys : List α} (h : xs <+~ ys) (hys : ys.Nodup) :
    xs.Nodup := by
  obtain ⟨zs, hperm, hsub⟩ := h
  exact hperm.nodup_iff.1 (hys.sublist hsub)

theorem Identifier.short_of_fit {id : String} (h : Identifier.fault? id = none) :
    id.utf8ByteSize ≤ Identifier.maxLength := by
  rw [Identifier.fault?] at h
  split at h
  · cases h
  split at h
  · cases h
  · next hshort => exact Nat.not_lt.1 hshort

theorem LaunchRequest.Fits.writable {r : LaunchRequest} {policy : OrderPolicy}
    {order : LaunchOrder} (h : r.Fits policy order) : order.query.Writable where
  blockId := by
    have hshort := Identifier.short_of_fit h.block_fit
    rw [← h.blockId] at hshort
    exact Nat.lt_of_le_of_lt hshort (by decide)
  inputPath := by
    have hshort := (Location.fault?_eq_none_iff.1 h.input_fit).1.short
    rw [← h.inputPath] at hshort
    exact Nat.lt_of_le_of_lt hshort (by decide)
  programPath path hpath := by
    have hshort := (Location.fault?_eq_none_iff.1 (h.program_fit path hpath)).1.short
    exact Nat.lt_of_le_of_lt hshort (by decide)

/-- If no block has been in use twice before, none is afterwards. -/
def World.KeepsApart (occupied : σ → List String) (w w' : World σ) : Prop :=
  (occupied w.coordinator).Nodup → (occupied w'.coordinator).Nodup

instance (occupied : σ → List String) : IsPreorder (World σ) (World.KeepsApart occupied) where
  refl _ := id
  trans _ _ _ h h' := h' ∘ h

theorem World.KeepsApart.of_subperm {occupied : σ → List String} {w w' : World σ}
    (h : occupied w'.coordinator <+~ occupied w.coordinator) : w.KeepsApart occupied w' :=
  nodup_of_subperm h

namespace Coordinator.Tracks

variable {c : Coordinator σ} {occupied : σ → List String} {order : LaunchOrder}

theorem exists_jobs (h : c.Tracks occupied) (order : LaunchOrder) (s : σ) :
    ∃ jobs, (c.jobs true s).1 = .ok jobs ∧
      (order.blockId ∈ occupied s → order.hasFreeBlock jobs = false) := by
  obtain ⟨jobs, hjobs, hlisted⟩ := h.lists s
  refine ⟨jobs, hjobs, fun hoccupied => ?_⟩
  obtain ⟨j, hj, hblock, hactive⟩ := hlisted _ hoccupied
  rw [Job.isActive, Bool.or_eq_true, beq_iff_eq, beq_iff_eq] at hactive
  exact decide_eq_false fun hfree => hfree j hj ⟨hblock, hactive⟩

/-- An order gets past the jobs only if its block is free. -/
theorem not_mem_of_passes (h : c.Tracks occupied) {w : World σ}
    (hpasses : (Stage.asking (.jobs true) (c.jobs true) order.hasFreeBlock).passes w = true) :
    order.blockId ∉ occupied w.coordinator := by
  intro hoccupied
  obtain ⟨jobs, hjobs, hbusy⟩ := h.exists_jobs order w.coordinator
  obtain ⟨jobs', hjobs', hfree⟩ := Stage.asking_passes_iff.1 hpasses
  obtain rfl := Except.ok.inj (hjobs.symm.trans hjobs')
  rw [hbusy hoccupied] at hfree
  cases hfree

theorem keepsApart_dispatch (h : c.Tracks occupied) (hwritable : order.query.Writable)
    (w : World σ) : w.KeepsApart occupied (Stage.runAll (order.stages c) w) := by
  intro hw
  have hjobs := h.jobs true w.coordinator
  rw [LaunchOrder.stages, Stage.runAll]
  split
  · next hpasses =>
    have hfree : (order.blockId :: occupied w.coordinator).Nodup :=
      List.nodup_cons.2 ⟨h.not_mem_of_passes hpasses, hw⟩
    have hload := (h.load (c.jobs true w.coordinator).2).trans hjobs
    rw [Stage.runAll]
    split
    · have hlaunch := h.launch order (c.load (c.jobs true w.coordinator).2).2 hwritable
      rw [Stage.runAll, Stage.runAll, ite_self]
      exact nodup_of_subperm (hlaunch.trans ((List.subperm_cons _).2 hload)) hfree
    · exact nodup_of_subperm hload hw
  · exact nodup_of_subperm hjobs hw

theorem keepsApart_launch (h : c.Tracks occupied) (hwritable : order.query.Writable) (l : Launcher)
    (client : String) (w : World σ) :
    w.KeepsApart occupied (Stage.runAll (l.stages client order c) w) := by
  rw [Launcher.stages, Stage.runAll]
  split
  · exact h.keepsApart_dispatch hwritable ((Stage.admission l.limiter client).act w)
  · exact id

theorem keepsApart_launchBody (h : c.Tracks occupied) (l : Launcher) (client : String) (body : Body)
    (w : World σ) : w.KeepsApart occupied (w.attempt (l.launchBody client body.read c)).2 := by
  rw [World.KeepsApart]
  by_cases hany : ∃ order, body.Orders l.policy order
  · obtain ⟨order, horder⟩ := hany
    rw [World.coordinator_congr (Launcher.attempt_launchBody_ordered horder client c w)]
    obtain ⟨-, -, r, -, hfits⟩ := horder
    exact h.keepsApart_launch hfits.writable l client w
  · rw [World.coordinator_congr (Launcher.attempt_launchBody_refused (not_exists.1 hany) client c w)]
    exact id

end Coordinator.Tracks

namespace Gateway

/-- The gateway meets with an event, or jobs of the coordinator come to their ends in between. -/
inductive Step (g : Gateway σ) (occupied : σ → List String) : World σ → World σ → Prop
  | meet (w : World σ) (e : Event) : Step g occupied w (g.meet w e).2
  | finish (w : World σ) (s : σ) (h : occupied s <+~ occupied w.coordinator) :
    Step g occupied w { w with coordinator := s }

variable {g : Gateway σ} {occupied : σ → List String} {w w' : World σ}

theorem keepsApart_meet (h : g.coordinator.Tracks occupied) (w : World σ) (e : Event) :
    w.KeepsApart occupied (g.meet w e).2 := by
  have hprocesses (e : Supervisor.Event) (w : World σ) :
      w.KeepsApart occupied (g.supervisor.after g.names w e) := by
    have hsame := (g.supervisor.after_apart g.names e).coordinator w
    refine .of_subperm ?_
    rw [hsame]
  cases e with
  | request r =>
    apply handle_within (R := World.KeepsApart occupied)
    · exact fun w n => id
    · exact
        { info := fun w => .of_subperm (h.info w.coordinator)
          load := fun w => .of_subperm (h.load w.coordinator)
          jobs := fun activeOnly w => .of_subperm (h.jobs activeOnly w.coordinator)
          job := fun id w => .of_subperm (h.job id w.coordinator)
          workers := fun w => .of_subperm (h.workers w.coordinator) }
    · exact fun e _ => hprocesses e
    · exact fun _ client w => h.keepsApart_launchBody g.launcher client r.body w
  | processes e => exact hprocesses e w
  | clock now => exact id
  | sweep => exact id

theorem Step.keepsApart (h : g.coordinator.Tracks occupied) (hstep : g.Step occupied w w') :
    w.KeepsApart occupied w' := by
  cases hstep with
  | meet e => exact keepsApart_meet h w e
  | finish s hs => exact .of_subperm hs

theorem nodup_of_steps (h : g.coordinator.Tracks occupied)
    (hrun : Relation.ReflTransGen (g.Step occupied) w w')
    (hstart : (occupied w.coordinator).Nodup) : (occupied w'.coordinator).Nodup := by
  induction hrun with
  | refl => exact hstart
  | tail _ hstep ih => exact hstep.keepsApart h ih

section launch

variable {r : Request} (hmethod : r.method = "POST") (hpath : r.target.path = "/api/proof/launch")

include hmethod hpath

theorem handle_occupied (h : g.coordinator.Tracks occupied) {order : LaunchOrder}
    (horder : r.body.Orders g.launcher.policy order)
    (hoccupied : order.blockId ∈ occupied w.coordinator) :
    g.Refuses w r (if (g.launcher.limiter.observe w.store
        (clientIdentity r.headers r.peer g.trustProxy) w.now).1.isOk then .conflict
          else .rateLimited) ∧
      World.Calls (fun call => ∀ other, call ≠ .launch other) w (w.run (g.handle r)).2 := by
  obtain ⟨jobs, hjobs, hbusy⟩ := h.exists_jobs order w.coordinator
  refine ⟨refuses_occupied hmethod hpath horder hjobs (hbusy hoccupied), ?_⟩
  obtain ⟨made, hcalls, hout⟩ := g.launcher.calls_stages
    (clientIdentity r.headers r.peer g.trustProxy) order g.coordinator w
  rw [← calls_handle_ordered hmethod hpath horder] at hcalls
  refine ⟨made, hcalls, ?_⟩
  rcases hout with ⟨hgoes, -⟩ | ⟨-, hprefix⟩
  · obtain ⟨jobs', hjobs', hfree⟩ := hgoes.block_free
    obtain rfl := Except.ok.inj (hjobs.symm.trans hjobs')
    have hbusy := hbusy hoccupied
    rw [LaunchOrder.hasFreeBlock, decide_eq_true hfree] at hbusy
    cases hbusy
  · rintro call hcall other rfl
    simpa using hprefix.subset hcall

end launch

/-- In whatever order launches, other requests and the ends of jobs come, from whatever clients, the
coordinator never has two unfinished jobs of one block. A launch that is no order is refused as
invalid; one for a block with an unfinished job is refused as a conflict, or because its client is
over the limit; and no launch goes out for either. -/
theorem one_job_per_block {remote : Remote} {p : Peer σ} (hp : p.Faithful remote)
    (hg : g.coordinator = remote.served p) (hstart : (p.occupied w.coordinator).Nodup)
    (hrun : Relation.ReflTransGen (g.Step p.occupied) w w') :
    (p.occupied w'.coordinator).Nodup ∧
      ∀ r : Request, r.method = "POST" → r.target.path = "/api/proof/launch" →
        let client := clientIdentity r.headers r.peer g.trustProxy
        let after := (w'.run (g.handle r)).2
        ((∀ order, ¬r.body.Orders g.launcher.policy order) →
          g.Refuses w' r .invalidArgument ∧ after.calls = w'.calls) ∧
        ∀ order, r.body.Orders g.launcher.policy order →
          order.blockId ∈ p.occupied w'.coordinator →
            g.Refuses w' r (if (g.launcher.limiter.observe w'.store client w'.now).1.isOk
              then .conflict else .rateLimited) ∧
            World.Calls (fun call => ∀ other, call ≠ .launch other) w' after := by
  have htracks : g.coordinator.Tracks p.occupied := hg ▸ hp.tracks
  refine ⟨nodup_of_steps htracks hrun hstart, fun r hmethod hpath => ⟨fun hunfit => ?_, ?_⟩⟩
  · refine ⟨refuses_unfit hmethod hpath hunfit, ?_⟩
    exact World.calls_congr (unrecorded_handle_refused hmethod hpath hunfit)
  · exact fun order => handle_occupied hmethod hpath htracks

/-- A coordinator with an idle worker that takes up to two jobs, all of the block `b`. -/
def twoJobs : Peer (Fin 3) :=
  let jobs (n : Fin 3) : List JobEntry :=
    List.replicate n { jobId := "job", blockId := "b", state := 2 }
  { jobs
    link := fun call n => .replies fun _ =>
      match call with
      | .jobs _ => ⟨some (Schema.jobsReply.write ⟨jobs n⟩), ⟨.ok, ""⟩⟩
      | .load => ⟨some (Schema.loadReply.write { totalWorkers := 1, idleWorkers := 1 }), ⟨.ok, ""⟩⟩
      | .launch order =>
        if order.blockId = "b" ∧ n ≠ 2 then ⟨some (Schema.launchReply.write ⟨"job"⟩), ⟨.ok, ""⟩⟩
        else ⟨none, ⟨.resourceExhausted, ""⟩⟩
      | _ => ⟨none, ⟨.unimplemented, ""⟩⟩
    receive := fun sent n =>
      match sent.filter fun x => x.path == Remote.servicePath ++ "LaunchProof" with
      | none => n
      | some x =>
        match Schema.launchQuery.read x.message with
        | .ok q => if q.blockId = "b" ∧ n ≠ 2 then n + 1 else n
        | .error _ => n }

theorem twoJobs_faithful (r : Remote) : twoJobs.Faithful r where
  lists n := by
    have hread : ∀ n, Schema.jobsReply.read (Schema.jobsReply.write ⟨twoJobs.jobs n⟩) =
        .ok ⟨twoJobs.jobs n⟩ := by
      decide +kernel
    refine ⟨⟨twoJobs.jobs n⟩, ?_, fun e he _ => he⟩
    change Call.result ⟨"JobsList", r.timeout, .atOnce (Remote.decode Schema.jobsReply
      ⟨some (Schema.jobsReply.write ⟨twoJobs.jobs n⟩), ⟨.ok, ""⟩⟩)⟩ = _
    rw [Remote.decode, if_neg (not_not.2 rfl)]
    dsimp only
    rw [hread]
    rfl
  launches sent q n hpath hread := by
    have hone : ∀ n : Fin 3, n ≠ 2 → twoJobs.occupied (n + 1) = "b" :: twoJobs.occupied n := by
      decide
    change twoJobs.occupied (match (some sent).filter _ with | none => _ | some x => _) <+~ _
    rw [Option.filter_some_pos (by simpa using hpath)]
    dsimp only
    rw [hread]
    dsimp only
    split
    · next h =>
      rw [hone n h.2, h.1]
    · exact List.subperm_cons_self
  keeps sent n hpath := by
    have hnone : sent.filter (fun x => x.path == Remote.servicePath ++ "LaunchProof") = none := by
      rw [Option.filter_eq_none_iff]
      intro x hx
      simpa using hpath x hx
    change twoJobs.occupied (match sent.filter _ with | none => _ | some x => _) <+~ _
    rw [hnone]

/-- The first launch for the block goes out, and the second is a conflict. -/
theorem one_job_per_block_conflict :
    let remote : Remote := ⟨"localhost:50051", ⟨1000000000⟩⟩
    let g : Gateway (Fin 3) := .ofSettings {} (remote.served twoJobs) (.furnished {})
      ⟨none, none⟩ .blank
    let r : Request :=
      { method := "POST"
        target := ⟨none, "", "/api/proof/launch", none⟩
        headers := []
        body := ⟨Bytes.ofText "[\"b\", 4, \"in/a.bin\", null]", false⟩
        peer := .v4 [127, 0, 0, 1] }
    let w := (g.meet (.initial 0 (.furnished {}) "") (.request r)).2
    w.calls = [.jobs true, .load, .launch ⟨"b", 4, "in/a.bin", none⟩] ∧
      twoJobs.occupied w.coordinator = ["b"] ∧ g.Refuses w r .conflict := by
  intro remote g r w
  have horders : r.body.Orders g.launcher.policy ⟨"b", 4, "in/a.bin", none⟩ :=
    Body.order?_eq_ok_iff.1 (by decide +kernel)
  have hafter : w.calls = [.jobs true, .load, .launch ⟨"b", 4, "in/a.bin", none⟩] ∧
      twoJobs.occupied w.coordinator = ["b"] := by
    decide +kernel
  have hadmitted : (g.launcher.limiter.observe w.store
      (clientIdentity r.headers r.peer g.trustProxy) w.now).1.isOk = true := by
    decide +kernel
  have hoccupied : "b" ∈ twoJobs.occupied w.coordinator := by
    rw [hafter.2]
    exact List.mem_singleton_self _
  obtain ⟨-, hlaunches⟩ := one_job_per_block (twoJobs_faithful remote) (g := g) rfl
    (w := .initial 0 (.furnished {}) "") (by decide) (.single (.meet _ (.request r)))
  obtain ⟨hrefused, -⟩ := (hlaunches r rfl rfl).2 _ horders hoccupied
  exact ⟨hafter.1, hafter.2, by rwa [if_pos hadmitted] at hrefused⟩

end Gateway

end CoordinatorGateway
