import CoordinatorGateway.Coordinator.Scripted
import CoordinatorGateway.Proofs.Gateway.Questions
import CoordinatorGateway.Proofs.RateLimit.Isolation

namespace CoordinatorGateway

variable {σ α : Type}

/-- The headers but those that say for whom a request is forwarded. -/
def Headers.unforwarded (h : Headers) : Headers :=
  h.filter fun e => Text.lowerAscii e.1 != "x-forwarded-for"

theorem Headers.value?_unforwarded (h : Headers) {name : String}
    (hname : name ≠ "x-forwarded-for") : h.unforwarded.value? name = h.value? name := by
  have hsame (e : String × String) :
      decide ((Text.lowerAscii e.1 != "x-forwarded-for") = true ∧
        (Text.lowerAscii e.1 == name) = true) = (Text.lowerAscii e.1 == name) := by
    by_cases he : Text.lowerAscii e.1 = name
    · simp [he, hname]
    · simp [he]
  rw [value?, value?, unforwarded, List.find?_filter, funext hsame]

theorem takeWhile_append_of_mem {p : α → Bool} {x : α} {xs : List α} (hx : x ∈ xs)
    (hstop : p x = false) (ys : List α) : (xs ++ ys).takeWhile p = xs.takeWhile p := by
  induction xs with
  | nil => cases hx
  | cons a xs ih =>
    rw [List.cons_append, List.takeWhile_cons, List.takeWhile_cons]
    split
    · next ha =>
      rcases List.mem_cons.1 hx with rfl | hx
      · rw [hstop] at ha
        cases ha
      · rw [ih hx]
    · rfl

theorem IpAddress.ofPeer?_port {host : String} (hhost : ∀ cs, host.toList = '[' :: cs → ']' ∈ cs)
    (port port' : String) : ofPeer? (host ++ ":" ++ port') = ofPeer? (host ++ ":" ++ port) := by
  have htext (port : String) :
      (host ++ ":" ++ port).toList = host.toList ++ [':'] ++ port.toList := by
    rw [String.toList_append, String.toList_append]
    rfl
  unfold ofPeer?
  rw [htext, htext]
  by_cases hbracket : ∃ cs, host.toList = '[' :: cs
  · obtain ⟨cs, hcs⟩ := hbracket
    rw [hcs]
    simp only [List.cons_append, List.append_assoc]
    rw [takeWhile_append_of_mem (hhost cs hcs) (by decide),
      takeWhile_append_of_mem (hhost cs hcs) (by decide)]
  · have hplain (port : String) (cs : List Char) :
        host.toList ++ [':'] ++ port.toList ≠ '[' :: cs := by
      intro heq
      cases hh : host.toList with
      | nil =>
        rw [hh] at heq
        cases heq
      | cons c rest =>
        rw [hh] at heq
        obtain rfl : c = '[' := (List.cons.inj heq).1
        exact hbracket ⟨rest, hh⟩
    have hcolon : ':' ∈ host.toList ++ [':'] := List.mem_append_right _ (List.mem_singleton.2 rfl)
    split
    · next cs heq => exact absurd heq (hplain port' cs)
    · split
      · next cs heq => exact absurd heq (hplain port cs)
      · rw [takeWhile_append_of_mem hcolon (by decide), takeWhile_append_of_mem hcolon (by decide)]

/-- The address of a peer, and that of one whose text differs in the port at most. A bracket before
the address is closed before the port. -/
inductive IpAddress.SamePeer : IpAddress → IpAddress → Prop where
  | refl (p : IpAddress) : SamePeer p p
  | port {host port port' : String} {p p' : IpAddress}
      (hhost : ∀ cs, host.toList = '[' :: cs → ']' ∈ cs)
      (hp : ofPeer? (host ++ ":" ++ port) = some p)
      (hp' : ofPeer? (host ++ ":" ++ port') = some p') : SamePeer p p'

theorem IpAddress.SamePeer.eq {p p' : IpAddress} (h : p.SamePeer p') : p' = p := by
  cases h with
  | refl => rfl
  | @port host port port' _ _ hhost hp hp' =>
    rw [ofPeer?_port hhost port port', hp] at hp'
    exact (Option.some.inj hp').symm

/-- The requests differ in nothing but the headers that say for whom they are forwarded, and in the
ports that they come from. -/
structure Request.SameButSender (r r' : Request) : Prop where
  method : r'.method = r.method
  target : r'.target = r.target
  headers : r'.headers.unforwarded = r.headers.unforwarded
  body : r'.body = r.body
  peer : r.peer.SamePeer r'.peer

theorem Request.SameButSender.refl (r : Request) : r.SameButSender r :=
  ⟨rfl, rfl, rfl, rfl, .refl r.peer⟩

namespace Gateway

inductive Event.SameButSender : Event → Event → Prop where
  | request {r r' : Request} (h : r.SameButSender r') : SameButSender (.request r) (.request r')
  | refl (e : Event) : SameButSender e e

end Gateway

def RateStep.apply (l : Limiter) (store : RateStore) : RateStep → RateStore
  | .observe key now => (l.observe store key now).2
  | .sweep now => store.sweep now

def World.SameLimits (w w' : World σ) : Prop := w'.store = w.store ∧ w'.now = w.now

instance : IsPreorder (World σ) World.SameLimits where
  refl _ := ⟨rfl, rfl⟩
  trans _ _ _ h h' := ⟨h'.1.trans h.1, h'.2.trans h.2⟩

theorem World.Move.sameLimits {w w' : World σ} (h : Move w w') : w.SameLimits w' := by
  cases h with
  | wane hwane => cases hwane <;> exact ⟨rfl, rfl⟩
  | _ => exact ⟨rfl, rfl⟩

theorem World.Reaches.sameLimits {w w' : World σ} (h : w.Reaches w') : w.SameLimits w' := by
  induction h with
  | refl => exact ⟨rfl, rfl⟩
  | tail _ hmove ih => exact trans_of World.SameLimits ih hmove.sameLimits

theorem Supervisor.after_sameLimits (s : Supervisor) (names : NameSource) (w : World σ)
    (e : Event) : w.SameLimits (s.after names w e) := by
  rcases s.after_cases names w e with hmoves | ⟨host, time, -, hafter⟩
  · exact hmoves.sameLimits
  · rw [hafter]
    exact ⟨rfl, rfl⟩

theorem Request.launch_of_route {r : Request} (h : r.route? = some .launchProof) :
    r.method = "POST" ∧ r.target.path = "/api/proof/launch" := by
  unfold route? Route.find? at h
  split at h
  · cases Route.isCommand_ofGet h
  · next hmethod =>
    refine ⟨hmethod, ?_⟩
    unfold Route.ofPost? at h
    split at h
    case h_1 hpath => exact hpath
    case h_5 =>
      rcases Option.or_eq_some_iff.1 h with hcancel | ⟨-, hstop⟩
      · obtain ⟨id, -, hid⟩ := Option.map_eq_some_iff.1 hcancel
        cases hid
      · obtain ⟨id, -, hid⟩ := Option.map_eq_some_iff.1 hstop
        cases hid
    all_goals cases h
  · cases h

namespace Gateway

variable (g : Gateway σ)

def Counts (r : Request) : Prop :=
  r.method = "POST" ∧ r.target.path = "/api/proof/launch" ∧
    (r.body.order? g.launcher.policy).isOk = true

instance (r : Request) : Decidable (g.Counts r) := inferInstanceAs (Decidable (_ ∧ _ ∧ _))

def rateStep? (now : Nat) : Event → Option RateStep
  | .request r => if g.Counts r then some (.observe r.peer.text now) else none
  | .sweep => some (.sweep now)
  | _ => none

def Event.clockAfter (now : Nat) : Event → Nat
  | .clock now => now
  | _ => now

/-- What the events of a run do to the limits, in order. -/
def rateSteps (now : Nat) : List Event → List RateStep
  | [] => []
  | e :: events => (g.rateStep? now e).toList ++ rateSteps (e.clockAfter now) events

variable {g}

theorem handle_sameLimits {r : Request} (h : r.route? ≠ some .launchProof) :
    (g.handle r).Within World.SameLimits := by
  refine handle_within (fun _ _ => ⟨rfl, rfl⟩) (.of_any (fun _ _ _ _ => ⟨rfl, rfl⟩) _)
    (fun e _ w => g.supervisor.after_sameLimits g.names w e) fun hroute => absurd hroute h

theorem limits_stages (l : Launcher) (client : String) (order : LaunchOrder) (c : Coordinator σ)
    (w : World σ) :
    (Stage.runAll (l.stages client order c) w).store = (l.limiter.observe w.store client w.now).2 ∧
      (Stage.runAll (l.stages client order c) w).now = w.now := by
  have hasked (stages : List (Stage σ)) (hstages : stages ⊆ order.stages c) (w : World σ) :
      w.SameLimits (Stage.runAll stages w) := by
    induction stages generalizing w with
    | nil => exact ⟨rfl, rfl⟩
    | cons s stages ih =>
      have hact : w.SameLimits (s.act w) := by
        have hs := hstages List.mem_cons_self
        simp only [LaunchOrder.stages, List.mem_cons, List.not_mem_nil, or_false] at hs
        rcases hs with rfl | rfl | rfl <;> exact ⟨rfl, rfl⟩
      have hrest := ih (fun t ht => hstages (List.mem_cons_of_mem s ht)) (s.act w)
      rw [Stage.runAll]
      split
      · exact trans_of World.SameLimits hact hrest
      · exact hact
  rw [Launcher.stages, Stage.runAll]
  split
  · exact hasked _ (List.Subset.refl _) _
  · exact ⟨rfl, rfl⟩

theorem limits_handle (htrust : g.trustProxy = false) (w : World σ) (r : Request) :
    let w' := (w.run (g.handle r)).2
    w'.store = ((g.rateStep? w.now (.request r)).toList.foldl (RateStep.apply g.launcher.limiter)
      w.store) ∧ w'.now = w.now := by
  intro w'
  by_cases hlaunch : r.route? = some .launchProof
  · obtain ⟨hmethod, hpath⟩ := Request.launch_of_route hlaunch
    have hclient : clientIdentity r.headers r.peer g.trustProxy = r.peer.text := by
      rw [clientIdentity, htrust]
      rfl
    cases horder : r.body.order? g.launcher.policy with
    | error f =>
      have hidle : ¬g.Counts r := by
        rintro ⟨-, -, hok⟩
        rw [horder] at hok
        cases hok
      have hrefused : ∀ order, ¬r.body.Orders g.launcher.policy order := by
        intro order h
        rw [Body.order?_eq_ok_iff.2 h] at horder
        cases horder
      have hsame := unrecorded_handle_refused (w := w) hmethod hpath hrefused
      rw [rateStep?, if_neg hidle]
      exact ⟨(congrArg World.store hsame :), (congrArg World.now hsame :)⟩
    | ok order =>
      have hcounts : g.Counts r := ⟨hmethod, hpath, by rw [horder]; rfl⟩
      have hafter := unrecorded_handle_ordered (w := w) hmethod hpath
        (Body.order?_eq_ok_iff.1 horder)
      obtain ⟨hstore, hnow⟩ := limits_stages g.launcher
        (clientIdentity r.headers r.peer g.trustProxy) order g.coordinator w.unrecorded
      rw [rateStep?, if_pos hcounts, ← hclient]
      exact ⟨(congrArg World.store hafter).trans hstore, (congrArg World.now hafter).trans hnow⟩
  · have hidle : ¬g.Counts r := by
      rintro ⟨hmethod, hpath, -⟩
      have hroute := launchRoute r.target hpath
      rw [← hmethod] at hroute
      exact hlaunch hroute
    rw [rateStep?, if_neg hidle]
    exact handle_sameLimits hlaunch w

theorem limits_meet (htrust : g.trustProxy = false) (w : World σ) (e : Event) :
    (g.meet w e).2.store =
        ((g.rateStep? w.now e).toList.foldl (RateStep.apply g.launcher.limiter) w.store) ∧
      (g.meet w e).2.now = e.clockAfter w.now := by
  cases e with
  | request r => exact limits_handle htrust w r
  | processes e => exact g.supervisor.after_sameLimits g.names w e
  | clock now => exact ⟨rfl, rfl⟩
  | sweep => exact ⟨rfl, rfl⟩

/-- The store after a run is what its launches and sweeps make of it, each launch being counted
under the address at the other end. -/
theorem store_run (htrust : g.trustProxy = false) (w : World σ) (events : List Event) :
    (g.run w events).2.store =
      (g.rateSteps w.now events).foldl (RateStep.apply g.launcher.limiter) w.store := by
  induction events generalizing w with
  | nil => rfl
  | cons e events ih =>
    obtain ⟨hstore, hnow⟩ := limits_meet htrust w e
    rw [rateSteps, List.foldl_append, ← hstore, ← hnow]
    exact ih _

def withRequestIds (g : Gateway σ) (ids : Nat → String) : Gateway σ :=
  { g with names := { g.names with request := ids } }

/-- One response, and the same again or with another id where one was made up. -/
def SameButId (g : Gateway σ) (ids : Nat → String) (x y : Response) : Prop :=
  y = x ∨ ∃ n origin response,
    x = decorate (g.names.request n) origin response ∧ y = decorate (ids n) origin response

theorem respond_congr {r r' : Request} (hmethod : r'.method = r.method)
    (htarget : r'.target = r.target) (hbody : r'.body = r.body) (client : String) :
    g.respond client r' = g.respond client r := by
  rw [respond, respond, attempt, attempt, hmethod, htarget, hbody]

theorem value?_congr {h h' : Headers} (hsame : h'.unforwarded = h.unforwarded) {name : String}
    (hname : name ≠ "x-forwarded-for") : h'.value? name = h.value? name := by
  rw [← h'.value?_unforwarded hname, hsame, h.value?_unforwarded hname]

theorem run_requestId_congr {h h' : Headers} (hsame : h'.unforwarded = h.unforwarded)
    (ids : Nat → String) (w : World σ) :
    let first := w.run (g.requestId h)
    let second := w.run ((g.withRequestIds ids).requestId h')
    second.2 = first.2 ∧
      (second.1 = first.1 ∨ ∃ n, first.1 = g.names.request n ∧ second.1 = ids n) := by
  dsimp only
  rw [requestId, requestId, value?_congr hsame (by decide)]
  split
  · exact ⟨rfl, .inl rfl⟩
  · exact ⟨rfl, .inr ⟨w.madeUp, rfl, rfl⟩⟩

theorem handle_sameButSender (htrust : g.trustProxy = false) {r r' : Request}
    (h : r.SameButSender r') (ids : Nat → String) (w : World σ) :
    let first := w.run (g.handle r)
    let second := w.run ((g.withRequestIds ids).handle r')
    second.2 = first.2 ∧ g.SameButId ids first.1 second.1 := by
  intro first second
  have hclient : clientIdentity r'.headers r'.peer g.trustProxy =
      clientIdentity r.headers r.peer g.trustProxy := by
    rw [clientIdentity, clientIdentity, htrust, h.peer.eq]
    rfl
  have horigin : g.allowedOrigin? r'.headers = g.allowedOrigin? r.headers := by
    rw [allowedOrigin?, allowedOrigin?, value?_congr h.headers (by decide)]
  obtain ⟨hnamed, hid⟩ := run_requestId_congr (g := g) h.headers ids w
  have hrespond :
      (g.withRequestIds ids).respond (clientIdentity r'.headers r'.peer g.trustProxy) r' =
        g.respond (clientIdentity r.headers r.peer g.trustProxy) r := by
    rw [hclient]
    exact respond_congr h.method h.target h.body _
  have hfirst : first = _ := g.run_handle w r
  have hsecond : second = _ := (g.withRequestIds ids).run_handle w r'
  rw [hnamed] at hsecond
  change second = ((w.run (g.requestId r.headers)).2.run ((g.withRequestIds ids).respond
    (clientIdentity r'.headers r'.peer g.trustProxy) r')).map
      (decorate _ (g.allowedOrigin? r'.headers)) id at hsecond
  rw [hrespond, horigin] at hsecond
  rw [hfirst, hsecond]
  refine ⟨rfl, ?_⟩
  rcases hid with hcarried | ⟨n, hmade, hmade'⟩
  · rw [hcarried]
    exact .inl rfl
  · rw [hmade, hmade']
    exact .inr ⟨n, _, _, rfl, rfl⟩

theorem meet_sameButSender (htrust : g.trustProxy = false) {e e' : Event}
    (h : e.SameButSender e') (ids : Nat → String) (w : World σ) :
    let first := g.meet w e
    let second := (g.withRequestIds ids).meet w e'
    second.2 = first.2 ∧ List.Forall₂ (g.SameButId ids) first.1.toList second.1.toList := by
  have hrequest {r r' : Request} (h : r.SameButSender r') :
      ((g.withRequestIds ids).meet w (.request r')).2 = (g.meet w (.request r)).2 ∧
        List.Forall₂ (g.SameButId ids) (g.meet w (.request r)).1.toList
          ((g.withRequestIds ids).meet w (.request r')).1.toList := by
    obtain ⟨hworld, hanswer⟩ := handle_sameButSender htrust h ids w
    exact ⟨hworld, .cons hanswer .nil⟩
  cases h with
  | request h => exact hrequest h
  | refl e =>
    cases e with
    | request r => exact hrequest (.refl r)
    | processes e =>
      -- No request id is made up for what happens to the processes.
      exact ⟨by cases e <;> rfl, .nil⟩
    | clock now => exact ⟨rfl, .nil⟩
    | sweep => exact ⟨rfl, .nil⟩

theorem run_sameButId (htrust : g.trustProxy = false) {events events' : List Event}
    (h : List.Forall₂ Event.SameButSender events events') (ids : Nat → String) (w : World σ) :
    let first := g.run w events
    let second := (g.withRequestIds ids).run w events'
    second.2 = first.2 ∧ List.Forall₂ (g.SameButId ids) first.1 second.1 := by
  induction h generalizing w with
  | nil => exact ⟨rfl, .nil⟩
  | @cons e e' events events' hfirst hrest ih =>
    obtain ⟨hworld, hanswer⟩ := meet_sameButSender htrust hfirst ids w
    obtain ⟨hworlds, hanswers⟩ := ih (g.meet w e).2
    have hrun : (g.withRequestIds ids).run w (e' :: events') =
        (((g.withRequestIds ids).meet w e').1.toList ++
          ((g.withRequestIds ids).run (g.meet w e).2 events').1,
          ((g.withRequestIds ids).run (g.meet w e).2 events').2) := by
      rw [← hworld]
      rfl
    dsimp only
    rw [hrun]
    exact ⟨hworlds, List.rel_append hanswer hanswers⟩

/-- Two runs of a gateway that trusts no proxy, on requests that differ in nothing but what they are
forwarded for and in their ports. They end in the same world, with all that was recorded, asked and
counted on the way, and with the same answers but for ids that were made up. What is counted is each
launch under the one name of the address at the other end. -/
theorem run_sameButSender (htrust : g.trustProxy = false) {events events' : List Event}
    (h : List.Forall₂ Event.SameButSender events events') (ids : Nat → String) (w : World σ) :
    let first := g.run w events
    let second := (g.withRequestIds ids).run w events'
    second.2 = first.2 ∧ List.Forall₂ (g.SameButId ids) first.1 second.1 ∧
      first.2.store = (g.rateSteps w.now events).foldl (RateStep.apply g.launcher.limiter) w.store := by
  obtain ⟨hworld, hanswers⟩ := run_sameButId htrust h ids w
  exact ⟨hworld, hanswers, store_run htrust w events⟩

/-- A client that is let through once sends two launches, which say that they come from elsewhere.
It fares as if they had said nothing, or had come from other ports. -/
theorem run_sameButSender_twice :
    let g : Gateway Script :=
      { coordinator := Script.coordinator ""
        launcher := ⟨⟨⟨60⟩, 1⟩, ⟨10, ⟨[], none⟩⟩, true⟩
        supervisor := .furnished
        corsOrigins := []
        trustProxy := false
        names := .blank }
    let w : World Script :=
      .initial { load := { totalWorkers := 1, idleWorkers := 1 } } (.furnished {}) ""
    let launch (headers : Headers) (peer : Option IpAddress) : Event :=
      .request ⟨"POST", ⟨none, "", "/api/proof/launch", none⟩, headers,
        ⟨Bytes.ofText "[\"b\", 4, \"in/a\", null]", false⟩, peer.getD (.v4 [])⟩
    let first := g.run w
      [launch [("X-Forwarded-For", "192.0.2.1")] (IpAddress.ofPeer? "10.0.0.1:4711"),
        launch [("x-forwarded-for", "192.0.2.2, 192.0.2.3")] (IpAddress.ofPeer? "10.0.0.1:4712")]
    let second := (g.withRequestIds fun n => toString n).run w
      [launch [] (IpAddress.ofPeer? "10.0.0.1:80"),
        launch [("X-FORWARDED-FOR", "10.0.0.1")] (IpAddress.ofPeer? "10.0.0.1:9")]
    g.trustProxy = false ∧ second.2 = first.2 ∧
      List.Forall₂ (g.SameButId fun n => toString n) first.1 second.1 ∧
      first.1.map Response.status = [200, 429] ∧
      first.2.store.get? "10.0.0.1" = some ⟨2, 60⟩ := by
  intro g w launch first second
  have hpeer (port : String) :
      IpAddress.ofPeer? ("10.0.0.1" ++ ":" ++ port) = some (.v4 [10, 0, 0, 1]) := by
    rw [IpAddress.ofPeer?_port (fun cs hcs => by cases hcs) "" port]
    decide
  have hsame (headers headers' : Headers) (hheaders : headers'.unforwarded = headers.unforwarded)
      (port port' : String) :
      Event.SameButSender (launch headers (IpAddress.ofPeer? ("10.0.0.1" ++ ":" ++ port)))
        (launch headers' (IpAddress.ofPeer? ("10.0.0.1" ++ ":" ++ port'))) := by
    refine .request ⟨rfl, rfl, hheaders, rfl, ?_⟩
    rw [hpeer port, hpeer port']
    exact .refl _
  obtain ⟨hworld, hanswers, -⟩ := run_sameButSender (g := g) rfl
    (.cons (hsame [("X-Forwarded-For", "192.0.2.1")] [] (by decide) "4711" "80")
      (.cons (hsame [("x-forwarded-for", "192.0.2.2, 192.0.2.3")] [("X-FORWARDED-FOR", "10.0.0.1")]
        (by decide) "4712" "9") .nil)) (fun n => toString n) w
  exact ⟨rfl, hworld, hanswers, by decide +kernel, by decide +kernel⟩

end Gateway

end CoordinatorGateway
