import CoordinatorGateway.Coordinator.Remote
import CoordinatorGateway.Proofs.Wire.RoundTrip
import Mathlib.Data.List.Perm.Subperm

namespace CoordinatorGateway

open scoped List

variable {σ α β : Type}

def JobEntry.isUnfinished (e : JobEntry) : Bool := e.state == 1 || e.state == 2

/-- The other end of a connection, with states `σ`. -/
structure Peer (σ : Type) where
  jobs : σ → List JobEntry
  /-- What it does about a call. -/
  link : CoordinatorCall → σ → Link
  /-- Its state after a call, given the request that went out for it. -/
  receive : Option SentRequest → σ → σ

namespace Peer

def scripted : Peer (List Link) where
  jobs _ := []
  link _ links := links.head?.getD .unreachable
  receive _ links := links.drop 1

/-- The blocks of the unfinished jobs, each as often as it has some. -/
def occupied (p : Peer σ) (s : σ) : List String :=
  ((p.jobs s).filter JobEntry.isUnfinished).map JobEntry.blockId

end Peer

namespace Remote

def served (r : Remote) (p : Peer σ) : Coordinator σ :=
  let asked {α : Type} (call : CoordinatorCall)
      (ask : Link → Option SentRequest × Except Failure α) (s : σ) : Except Failure α × σ :=
    ((ask (p.link call s)).2, p.receive (ask (p.link call s)).1 s)
  { endpoint := r.endpoint
    inFlight := fun _ => 0
    info := asked .info r.info
    load := asked .load r.load
    jobs := fun activeOnly => asked (.jobs activeOnly) (r.jobs activeOnly)
    job := fun id => asked (.job id) (r.job id)
    workers := asked .workers r.workers
    launch := fun order => asked (.launch order) (r.launch order) }

theorem coordinator_eq_served (r : Remote) : r.coordinator = r.served .scripted := rfl

theorem of_mem_call {r : Remote} {method : String} {query : Wire.Message α} {reply : Wire.Message β}
    {a : α} {link : Link} {sent : SentRequest} (h : sent ∈ (r.call method query reply a link).1) :
    sent.path = servicePath ++ method ∧ sent.message = query.write a := by
  cases link with
  | unreachable => cases h
  | silent | replies | late =>
    obtain rfl := Option.some.inj h
    exact ⟨rfl, rfl⟩

theorem isActive_jobOfEntry (e : JobEntry) : (jobOfEntry e).isActive = e.isUnfinished := by
  rw [Job.isActive, jobOfEntry, JobEntry.isUnfinished, jobStateName]
  by_cases hcreated : e.state = 1
  · rw [if_pos hcreated, hcreated]
    rfl
  by_cases hrunning : e.state = 2
  · rw [if_neg hcreated, if_pos hrunning, hrunning]
    rfl
  rw [if_neg hcreated, if_neg hrunning, beq_false_of_ne hcreated, beq_false_of_ne hrunning]
  split
  · rfl
  split
  · rfl
  split <;> rfl

end Remote

def LaunchOrder.query (order : LaunchOrder) : LaunchQuery :=
  ⟨order.blockId, .ofNat order.capacity, order.inputPath, order.programPath⟩

/-- The peer lists its unfinished jobs whenever it is asked for them. A launch that it gets brings
in one such job at most, which is of its block, and other requests bring in none. -/
structure Peer.Faithful (p : Peer σ) (r : Remote) : Prop where
  lists : ∀ s, ∃ reply : JobsReply,
    (r.call "JobsList" Schema.jobsQuery Schema.jobsReply ⟨true⟩ (p.link (.jobs true) s)).2 =
      .ok reply ∧ ∀ e ∈ p.jobs s, e.isUnfinished → e ∈ reply.jobs
  launches : ∀ (sent : SentRequest) (q : LaunchQuery) (s : σ),
    sent.path = Remote.servicePath ++ "LaunchProof" →
      Schema.launchQuery.read sent.message = .ok q →
        p.occupied (p.receive (some sent) s) <+~ q.blockId :: p.occupied s
  keeps : ∀ (sent : Option SentRequest) (s : σ),
    (∀ x ∈ sent, x.path ≠ Remote.servicePath ++ "LaunchProof") →
      p.occupied (p.receive sent s) <+~ p.occupied s

/-- The blocks in use are those of the active jobs that are listed. A launch puts one more block to
use at most, which is its own, and other questions none. -/
structure Coordinator.Tracks (c : Coordinator σ) (occupied : σ → List String) : Prop where
  lists : ∀ s, ∃ jobs, (c.jobs true s).1 = .ok jobs ∧
    ∀ b ∈ occupied s, ∃ j ∈ jobs, j.blockId = b ∧ j.isActive = true
  info : ∀ s, occupied (c.info s).2 <+~ occupied s
  load : ∀ s, occupied (c.load s).2 <+~ occupied s
  jobs : ∀ activeOnly s, occupied (c.jobs activeOnly s).2 <+~ occupied s
  job : ∀ id s, occupied (c.job id s).2 <+~ occupied s
  workers : ∀ s, occupied (c.workers s).2 <+~ occupied s
  launch : ∀ (order : LaunchOrder) s, order.query.Writable →
    occupied (c.launch order s).2 <+~ order.blockId :: occupied s

namespace Peer.Faithful

variable {p : Peer σ} {r : Remote}

theorem keeps_call (h : p.Faithful r) (method : String)
    (hmethod : Remote.servicePath ++ method ≠ Remote.servicePath ++ "LaunchProof")
    (query : Wire.Message α) (reply : Wire.Message β) (a : α) (call : CoordinatorCall) (s : σ) :
    p.occupied (p.receive (r.call method query reply a (p.link call s)).1 s) <+~ p.occupied s := by
  refine h.keeps _ s fun x hx => ?_
  rw [(Remote.of_mem_call hx).1]
  exact hmethod

theorem launches_call (h : p.Faithful r) {order : LaunchOrder} (hwritable : order.query.Writable)
    (link : Link) (s : σ) :
    p.occupied (p.receive (r.launch order link).1 s) <+~ order.blockId :: p.occupied s := by
  change p.occupied (p.receive (r.call "LaunchProof" Schema.launchQuery Schema.launchReply
    order.query link).1 s) <+~ _
  cases hsent : (r.call "LaunchProof" Schema.launchQuery Schema.launchReply order.query link).1 with
  | none => exact List.Subperm.trans (h.keeps none s nofun) List.subperm_cons_self
  | some sent =>
    obtain ⟨hpath, hmessage⟩ := Remote.of_mem_call hsent
    refine h.launches sent order.query s hpath ?_
    rw [hmessage]
    exact LaunchQuery.read_write hwritable

/-- What the gateway is told of the jobs covers all that occupy a block. -/
theorem exists_of_mem_occupied {s : σ} {reply : JobsReply} {b : String}
    (hlisted : ∀ e ∈ p.jobs s, e.isUnfinished → e ∈ reply.jobs) (hb : b ∈ p.occupied s) :
    ∃ j ∈ reply.jobs.map Remote.jobOfEntry, j.blockId = b ∧ j.isActive = true := by
  obtain ⟨e, he, rfl⟩ := List.mem_map.1 hb
  obtain ⟨hmem, hunfinished⟩ := List.mem_filter.1 he
  refine ⟨_, List.mem_map_of_mem (hlisted e hmem hunfinished), rfl, ?_⟩
  rw [Remote.isActive_jobOfEntry]
  exact hunfinished

theorem tracks (h : p.Faithful r) : (r.served p).Tracks p.occupied where
  lists s := by
    obtain ⟨reply, hreply, hlisted⟩ := h.lists s
    refine ⟨reply.jobs.map Remote.jobOfEntry, ?_, fun b => exists_of_mem_occupied hlisted⟩
    change Except.map _ (r.call "JobsList" _ _ _ _).2 = _
    rw [hreply]
    rfl
  info := h.keeps_call "StatusInfo" (by decide) Schema.infoQuery Schema.infoReply {} .info
  load := h.keeps_call "SystemStatus" (by decide) Schema.loadQuery Schema.loadReply {} .load
  jobs activeOnly :=
    h.keeps_call "JobsList" (by decide) Schema.jobsQuery Schema.jobsReply ⟨activeOnly⟩ _
  job id := h.keeps_call "JobStatus" (by decide) Schema.jobQuery Schema.jobReply ⟨id⟩ _
  workers :=
    h.keeps_call "WorkersList" (by decide) Schema.workersQuery Schema.workersReply {} .workers
  launch order s hwritable := h.launches_call hwritable _ s

end Peer.Faithful

end CoordinatorGateway
