import CoordinatorGateway.Processes.Host

namespace CoordinatorGateway

namespace Child

theorem dies_of_ended {c : Child} (h : c.isRunning = false) : c.dies = c := by
  rw [dies, h]
  rfl

@[simp] theorem dies_pid (c : Child) : c.dies.pid = c.pid := by
  rw [dies]
  split <;> rfl

@[simp] theorem dies_ignoresStop (c : Child) : c.dies.ignoresStop = c.ignoresStop := by
  rw [dies]
  split <;> rfl

@[simp] theorem dies_isRunning (c : Child) : c.dies.isRunning = false := by
  rw [dies]
  split
  · rfl
  · next h => exact Bool.eq_false_iff.2 h

theorem dies_dies (c : Child) : c.dies.dies = c.dies := dies_of_ended c.dies_isRunning

end Child

namespace Outsiders

def without (o : Outsiders) (gone : Nat → Bool) : Outsiders :=
  { o with named := o.named.map fun e => (e.1, e.2.filter fun pid => !gone pid) }

variable {o : Outsiders}

theorem lookup_without (o : Outsiders) (gone : Nat → Bool) (name : String) :
    (o.without gone).named.lookup name =
      (o.named.lookup name).map fun pids => pids.filter fun pid => !gone pid := by
  rw [without]
  induction o.named with
  | nil => rfl
  | cons e es ih =>
    rw [List.map_cons, List.lookup_cons, List.lookup_cons, ih]
    cases name == e.1 with
    | true => rfl
    | false => rfl

theorem has_iff {pid : Nat} : o.has pid = true ↔ ∃ e ∈ o.named, pid ∈ e.2 := by
  rw [has, List.any_eq_true]
  exact exists_congr fun e => and_congr_right fun _ => List.contains_iff_mem

theorem has_without (o : Outsiders) (gone : Nat → Bool) (pid : Nat) :
    (o.without gone).has pid = (o.has pid && !gone pid) := by
  rw [Bool.eq_iff_iff, Bool.and_eq_true, has_iff, has_iff]
  constructor
  · rintro ⟨e, he, hpid⟩
    obtain ⟨d, hd, rfl⟩ := List.mem_map.1 he
    obtain ⟨hmem, hstays⟩ := List.mem_filter.1 hpid
    exact ⟨⟨d, hd, hmem⟩, hstays⟩
  · rintro ⟨⟨e, he, hmem⟩, hstays⟩
    exact ⟨_, List.mem_map_of_mem he, List.mem_filter.2 ⟨hmem, hstays⟩⟩

theorem without_congr {gone gone' : Nat → Bool}
    (h : ∀ pid, o.has pid = true → gone pid = gone' pid) :
    o.without gone = o.without gone' := by
  rw [without, without]
  congr 1
  refine List.map_congr_left fun e he => ?_
  congr 1
  refine List.filter_congr fun pid hpid => ?_
  rw [h pid (has_iff.2 ⟨e, he, hpid⟩)]

theorem without_without (o : Outsiders) (gone gone' : Nat → Bool) :
    (o.without gone).without gone' = o.without fun pid => gone pid || gone' pid := by
  simp [without, List.filter_filter, Bool.and_comm]

theorem without_eq_self {gone : Nat → Bool} (h : ∀ pid, o.has pid = true → gone pid = false) :
    o.without gone = o := by
  have hnone : (o.without fun _ => false) = o := by
    have hall (pids : List Nat) : (pids.filter fun _ => !false) = pids :=
      List.filter_eq_self.2 fun _ _ => rfl
    simp only [without, hall, List.map_id']
  rw [without_congr h, hnone]

theorem remove_eq_without (o : Outsiders) (pid : Nat) :
    o.remove pid = o.without fun p => p == pid := rfl

end Outsiders

namespace Host

def listing (h : Host) (name : String) : List Nat :=
  (h.outsiders.named.lookup name).getD [] ++
    (h.children.filter fun c => c.isRunning && c.answersTo name).map Child.pid

def argv? (h : Host) (pid : Nat) : Option (List String) :=
  match (h.child? pid).filter Child.isRunning with
  | some c => some c.argv
  | none => h.outsiders.argv.lookup pid

/-- The process goes on when it gets the graceful signal. -/
def resists (h : Host) (pid : Nat) : Bool :=
  match h.child? pid with
  | some c => c.ignoresStop
  | none => h.outsiders.stubborn.contains pid

/-- The signal ends the process of the number, if there is one. -/
def yields (h : Host) (s : Signal) (pid : Nat) : Bool :=
  (h.refusal? pid s).isNone && !h.outsiders.gone.contains pid &&
    !(s == .graceful && h.resists pid)

def without (h : Host) (gone : Nat → Bool) : Host :=
  { h with
    outsiders := h.outsiders.without gone
    children := h.children.map fun c => if gone c.pid then c.dies else c }

/-- Each number stands for one process. -/
structure Distinct (h : Host) : Prop where
  children : ∀ c ∈ h.children, h.child? c.pid = some c
  outsiders : ∀ c ∈ h.children, h.outsiders.has c.pid = false

variable {h : Host}

theorem find_eq (h : Host) (name : String) :
    h.find name = match h.outsiders.failFind with
      | some e => .error e
      | none => .ok (h.listing name) := rfl

theorem find_eq_ok_iff {name : String} {pids : List Nat} :
    h.find name = .ok pids ↔ h.outsiders.failFind = none ∧ h.listing name = pids := by
  rw [find_eq]
  cases h.outsiders.failFind with
  | some e => simp
  | none => simp

theorem find_eq_error_iff {name e : String} :
    h.find name = .error e ↔ h.outsiders.failFind = some e := by
  rw [find_eq]
  cases h.outsiders.failFind with
  | some e' => simp
  | none => simp

theorem commandLine_eq (h : Host) (pid : Nat) :
    h.commandLine pid = match h.outsiders.failArgv with
      | some e => .error e
      | none => .ok (h.argv? pid) := by
  rw [commandLine, argv?]
  cases h.outsiders.failArgv with
  | some e => rfl
  | none =>
    cases (h.child? pid).filter Child.isRunning with
    | some c => rfl
    | none => rfl

theorem yields_iff {s : Signal} {pid : Nat} : h.yields s pid = true ↔
    h.refusal? pid s = none ∧ h.outsiders.gone.contains pid = false ∧
      ¬(s = .graceful ∧ h.resists pid = true) := by
  cases s <;> simp [yields, and_assoc]

theorem isAlive_iff {pid : Nat} : h.isAlive pid = true ↔
    (∃ c ∈ h.children, c.pid = pid ∧ c.isRunning = true) ∨ h.outsiders.has pid = true := by
  rw [isAlive, Bool.or_eq_true, List.any_eq_true]
  simp only [Bool.and_eq_true, beq_iff_eq]

section

variable (h) (gone gone' : Nat → Bool)

theorem child?_without (pid : Nat) : (h.without gone).child? pid =
    (h.child? pid).map fun c => if gone c.pid then c.dies else c := by
  rw [child?, child?, without, List.find?_map]
  congr 2
  funext c
  rw [Function.comp_apply]
  split
  · rw [Child.dies_pid]
  · rfl

theorem resists_without (pid : Nat) : (h.without gone).resists pid = h.resists pid := by
  rw [resists, resists, child?_without]
  cases h.child? pid with
  | none => rfl
  | some c =>
    rw [Option.map_some]
    dsimp only
    split
    · exact c.dies_ignoresStop
    · rfl

theorem yields_without (s : Signal) (pid : Nat) :
    (h.without gone).yields s pid = h.yields s pid := by
  rw [yields, yields, resists_without]
  rfl

theorem isAlive_without (pid : Nat) :
    (h.without gone).isAlive pid = (h.isAlive pid && !gone pid) := by
  rw [Bool.eq_iff_iff, Bool.and_eq_true, isAlive_iff, isAlive_iff, or_and_right]
  refine or_congr ?_ ?_
  · constructor
    · rintro ⟨d, hd, hpid, hrunning⟩
      obtain ⟨c, hc, rfl⟩ := List.mem_map.1 hd
      cases hgone : gone c.pid with
      | true =>
        rw [hgone, if_pos rfl, Child.dies_isRunning] at hrunning
        cases hrunning
      | false =>
        rw [hgone, if_neg Bool.false_ne_true] at hpid hrunning
        subst hpid
        rw [hgone]
        exact ⟨⟨c, hc, rfl, hrunning⟩, rfl⟩
    · rintro ⟨⟨c, hc, rfl, hrunning⟩, hstays⟩
      rw [Bool.not_eq_true'] at hstays
      refine ⟨_, List.mem_map_of_mem hc, ?_⟩
      rw [hstays, if_neg Bool.false_ne_true]
      exact ⟨rfl, hrunning⟩
  · rw [← Bool.and_eq_true, ← Outsiders.has_without]
    rfl

theorem argv?_without {pid : Nat} (hstays : gone pid = false) :
    (h.without gone).argv? pid = h.argv? pid := by
  rw [argv?, argv?, child?_without]
  cases hfound : h.child? pid with
  | none => rfl
  | some c =>
    obtain rfl : c.pid = pid := by simpa using List.find?_some hfound
    rw [Option.map_some, hstays, if_neg Bool.false_ne_true]
    rfl

theorem listing_without (name : String) :
    (h.without gone).listing name = (h.listing name).filter fun pid => !gone pid := by
  rw [listing, listing, List.filter_append]
  congr 1
  · rw [without, Outsiders.lookup_without]
    cases h.outsiders.named.lookup name with
    | none => rfl
    | some pids => rfl
  · have hpid : (Child.pid ∘ fun c => if gone c.pid then c.dies else c) = Child.pid := by
      funext c
      rw [Function.comp_apply, apply_ite Child.pid, Child.dies_pid, ite_self]
    rw [without, List.filter_map, List.map_map, hpid, List.filter_map, List.filter_filter]
    congr 1
    refine List.filter_congr fun c _ => ?_
    rw [Function.comp_apply, Function.comp_apply]
    cases gone c.pid with
    | true => rw [if_pos rfl, Child.dies_isRunning, Bool.false_and, Bool.not_true, Bool.false_and]
    | false => rw [if_neg Bool.false_ne_true, Bool.not_false, Bool.true_and]

theorem without_without :
    (h.without gone).without gone' = h.without fun pid => gone pid || gone' pid := by
  rw [without, without, without]
  dsimp only
  rw [Outsiders.without_without, List.map_map]
  congr 1
  refine List.map_congr_left fun c _ => ?_
  rw [Function.comp_apply]
  cases hgone : gone c.pid with
  | false => rw [if_neg Bool.false_ne_true, Bool.false_or]
  | true =>
    rw [if_pos rfl, Child.dies_pid, Child.dies_dies, ite_self, Bool.true_or, if_pos rfl]

end

theorem without_congr {gone gone' : Nat → Bool}
    (hgone : ∀ pid, h.isAlive pid = true → gone pid = gone' pid) :
    h.without gone = h.without gone' := by
  rw [without, without,
    Outsiders.without_congr fun pid hpid => hgone pid (isAlive_iff.2 (.inr hpid))]
  congr 1
  refine List.map_congr_left fun c hc => ?_
  cases hrunning : c.isRunning with
  | false => rw [Child.dies_of_ended hrunning, ite_self, ite_self]
  | true => rw [hgone c.pid (isAlive_iff.2 (.inl ⟨c, hc, rfl, hrunning⟩))]

theorem without_eq_self {gone : Nat → Bool}
    (hgone : ∀ pid, h.isAlive pid = true → gone pid = false) : h.without gone = h := by
  rw [without_congr hgone, without, Outsiders.without_eq_self fun _ _ => rfl]
  simp

theorem without_unless {pid : Nat} {s : Signal}
    (hno : h.isAlive pid = true → h.yields s pid = false) :
    h.without (fun p => p == pid && h.yields s p) = h := by
  refine without_eq_self fun p hp => ?_
  by_cases hpid : p = pid
  · rw [hpid, hno (hpid ▸ hp), Bool.and_false]
  · rw [beq_false_of_ne hpid, Bool.false_and]

theorem without_yields {pid : Nat} {s : Signal} (hyields : h.yields s pid = true) :
    h.without (fun p => p == pid && h.yields s p) = h.without fun p => p == pid := by
  congr 1
  funext p
  by_cases hpid : p = pid
  · rw [hpid, hyields, Bool.and_true]
  · rw [beq_false_of_ne hpid, Bool.false_and]

namespace Distinct

theorem without (hd : h.Distinct) (gone : Nat → Bool) : (h.without gone).Distinct := by
  have hpid (c : Child) : (if gone c.pid then c.dies else c).pid = c.pid := by
    rw [apply_ite Child.pid, Child.dies_pid, ite_self]
  refine ⟨fun d hd' => ?_, fun d hd' => ?_⟩
  · obtain ⟨c, hc, rfl⟩ := List.mem_map.1 hd'
    rw [hpid, child?_without, hd.children c hc, Option.map_some]
  · obtain ⟨c, hc, rfl⟩ := List.mem_map.1 hd'
    rw [hpid, Host.without, Outsiders.has_without, hd.outsiders c hc, Bool.false_and]

theorem endChild (hd : h.Distinct) {c : Child} (hc : c ∈ h.children) :
    h.endChild c.pid = h.without fun p => p == c.pid := by
  have houtside : h.outsiders.without (fun p => p == c.pid) = h.outsiders := by
    refine Outsiders.without_eq_self fun p hp => ?_
    rw [beq_eq_false_iff_ne]
    rintro rfl
    rw [hd.outsiders c hc] at hp
    cases hp
  rw [Host.endChild, Host.without, houtside]

theorem remove (hd : h.Distinct) {pid : Nat} (hpid : h.outsiders.has pid = true) :
    { h with outsiders := h.outsiders.remove pid } = h.without fun p => p == pid := by
  rw [Host.without, Outsiders.remove_eq_without]
  congr 1
  have hsame : ∀ c ∈ h.children, (if (c.pid == pid) = true then c.dies else c) = c := by
    intro c hc
    refine if_neg fun hbeq => ?_
    rw [beq_iff_eq] at hbeq
    rw [← hbeq, hd.outsiders c hc] at hpid
    cases hpid
  rw [List.map_congr_left hsame, List.map_id']

/-- What runs under a number: a child, another process, or nothing. -/
theorem cases (hd : h.Distinct) (pid : Nat) :
    (∃ c ∈ h.children, c.pid = pid ∧ h.child? pid = some c ∧
      (h.child? pid).filter Child.isRunning = some c) ∨
    (h.child? pid).filter Child.isRunning = none ∧
      (h.outsiders.has pid = true ∧ h.child? pid = none ∨
        h.outsiders.has pid = false ∧ h.isAlive pid = false) := by
  cases hchild : (h.child? pid).filter Child.isRunning with
  | some c =>
    obtain ⟨hfound, -⟩ := Option.filter_eq_some_iff.1 hchild
    refine .inl ⟨c, List.mem_of_find?_eq_some hfound, ?_, hfound, rfl⟩
    simpa using List.find?_some hfound
  | none =>
    refine .inr ⟨rfl, ?_⟩
    cases hhas : h.outsiders.has pid with
    | true =>
      refine .inl ⟨rfl, ?_⟩
      cases hfound : h.child? pid with
      | none => rfl
      | some c =>
        obtain rfl : c.pid = pid := by simpa using List.find?_some hfound
        rw [hd.outsiders c (List.mem_of_find?_eq_some hfound)] at hhas
        cases hhas
    | false =>
      refine .inr ⟨rfl, ?_⟩
      rw [← Bool.not_eq_true, isAlive_iff, hhas]
      rintro (⟨c, hc, rfl, hrunning⟩ | hother)
      · rw [hd.children c hc, Option.filter_some, hrunning] at hchild
        cases hchild
      · cases hother

theorem signal (hd : h.Distinct) (pid : Nat) (s : Signal) :
    h.signal pid s =
      (match h.refusal? pid s with
        | some e => .error e
        | none => .ok (!h.outsiders.gone.contains pid && h.isAlive pid),
        h.without fun p => p == pid && h.yields s p) := by
  rw [Host.signal]
  cases hrefusal : h.refusal? pid s with
  | some e => rw [without_unless fun _ => by rw [yields, hrefusal]; rfl]
  | none =>
    cases hgone : h.outsiders.gone.contains pid with
    | true =>
      rw [without_unless fun _ => by rw [yields, hgone, Bool.not_true, Bool.and_false,
        Bool.false_and]]
      rfl
    | false =>
      have hyields : h.yields s pid = true ↔ ¬(s = .graceful ∧ h.resists pid = true) := by
        rw [yields_iff, hrefusal, hgone]
        exact ⟨fun hy => hy.2.2, fun hy => ⟨rfl, rfl, hy⟩⟩
      have hstays (hresists : s = .graceful ∧ h.resists pid = true) : h.yields s pid = false := by
        rw [← Bool.not_eq_true, hyields]
        exact fun hends => hends hresists
      rw [if_neg Bool.false_ne_true]
      rcases hd.cases pid with ⟨c, hc, rfl, hfound, hchild⟩ | ⟨hchild, hother | hnothing⟩
      · have hrunning := (Option.filter_eq_some_iff.1 hchild).2
        have hresists : h.resists c.pid = c.ignoresStop := by rw [resists, hfound]
        rw [hchild, isAlive_iff.2 (.inl ⟨c, hc, rfl, hrunning⟩)]
        dsimp only
        rw [← hresists]
        split
        · next hgoesOn => rw [without_unless fun _ => hstays hgoesOn]; rfl
        · next hends => rw [without_yields (hyields.2 hends), hd.endChild hc]; rfl
      · obtain ⟨hhas, hnone⟩ := hother
        have hresists : h.resists pid = h.outsiders.stubborn.contains pid := by rw [resists, hnone]
        rw [hchild, isAlive_iff.2 (.inr hhas), ← hresists]
        dsimp only
        rw [if_pos hhas]
        split
        · next hgoesOn => rw [without_unless fun _ => hstays hgoesOn]; rfl
        · next hends => rw [without_yields (hyields.2 hends), hd.remove hhas]; rfl
      · obtain ⟨hhas, hdead⟩ := hnothing
        have hnobody (halive : h.isAlive pid = true) : h.yields s pid = false := by
          rw [hdead] at halive
          cases halive
        rw [hchild, hdead, without_unless hnobody]
        dsimp only
        rw [hhas]
        rfl

theorem signal_host (hd : h.Distinct) (pid : Nat) (s : Signal) :
    (h.signal pid s).2 = h.without fun p => p == pid && h.yields s p := by
  rw [hd.signal pid s]

end Distinct

end Host

end CoordinatorGateway
