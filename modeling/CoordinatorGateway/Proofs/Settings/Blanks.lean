import CoordinatorGateway.Proofs.Text.Trimming
import CoordinatorGateway.Settings.Load

namespace CoordinatorGateway

namespace Environment

def isBlank (value : String) : Bool := value.toList.all Unicode.isBlank

/-- The variables without those whose value is blank. A name that is listed twice has the first
value. -/
def withoutBlanks (env : Environment) : Environment :=
  env.filter fun (name, _) => !(List.lookup name env).any isBlank

def ofSet (value : String) : Option String :=
  if isBlank value then none else some (Text.trim value)

variable {env : Environment} {v : String}

theorem isEmpty_trim (value : String) : (Text.trim value).isEmpty = isBlank value := by
  rw [Bool.eq_iff_iff, Text.isEmpty_trim_iff, isBlank, List.all_eq_true]

theorem value?_eq (env : Environment) (names : List String) :
    env.value? names = (names.findSome? fun name => List.lookup name env).bind ofSet := by
  rw [value?]
  split
  · next hnone =>
    rw [hnone]
    rfl
  · next value hsome =>
    rw [hsome]
    simp only [isEmpty_trim, Option.bind_some, ofSet]

theorem lookup_filter_fst (p : String → Bool) (env : Environment) (name : String) :
    List.lookup name (env.filter fun e => p e.1) =
      if p name then List.lookup name env else none := by
  induction env with
  | nil => simp
  | cons e env ih =>
    obtain ⟨k, v⟩ := e
    by_cases hk : name = k
    · subst hk
      by_cases hp : p name <;> simp [hp, ih]
    · by_cases hp : p k <;> simp [hp, ih, List.lookup_cons, beq_false_of_ne hk]

theorem lookup_withoutBlanks (env : Environment) (name : String) :
    List.lookup name env.withoutBlanks = (List.lookup name env).filter fun v => !isBlank v := by
  rw [withoutBlanks, lookup_filter_fst fun name => !(List.lookup name env).any isBlank]
  cases List.lookup name env with
  | none => simp
  | some v => simp [Option.filter]

theorem bind_ofSet_filter (o : Option String) :
    (o.filter fun v => !isBlank v).bind ofSet = o.bind ofSet := by
  cases o with
  | none => rfl
  | some v => by_cases h : isBlank v <;> simp [Option.filter, ofSet, h]

theorem value?_withoutBlanks (env : Environment) (name : String) :
    env.withoutBlanks.value? [name] = env.value? [name] := by
  have hvalue (env : Environment) : env.value? [name] = (List.lookup name env).bind ofSet := by
    rw [value?_eq, List.findSome?_cons, List.findSome?_nil]
    cases List.lookup name env <;> rfl
  rw [hvalue, hvalue, lookup_withoutBlanks, bind_ofSet_filter]

/-- The port is under its second name only, and the first one is set to blanks. -/
structure HidesPort (env : Environment) (v : String) : Prop where
  first : ∃ blanks, List.lookup "PORT" env = some blanks ∧ isBlank blanks = true
  second : List.lookup "GATEWAY_PORT" env = some v
  value : isBlank v = false

theorem value?_port (env : Environment) : env.value? ["PORT", "GATEWAY_PORT"] =
    ((List.lookup "PORT" env).or (List.lookup "GATEWAY_PORT" env)).bind ofSet := by
  rw [value?_eq, List.findSome?_cons, List.findSome?_cons, List.findSome?_nil]
  cases List.lookup "PORT" env <;> cases List.lookup "GATEWAY_PORT" env <;> rfl

theorem HidesPort.value?_port (h : HidesPort env v) :
    env.value? ["PORT", "GATEWAY_PORT"] = none ∧
      env.withoutBlanks.value? ["PORT", "GATEWAY_PORT"] = some (Text.trim v) := by
  obtain ⟨⟨blanks, hfirst, hblank⟩, hsecond, hvalue⟩ := h
  rw [Environment.value?_port, Environment.value?_port, lookup_withoutBlanks, lookup_withoutBlanks,
    hfirst, hsecond]
  simp [Option.filter, hblank, hvalue, ofSet]

theorem value?_port_of_not_hides (h : ∀ v, ¬ HidesPort env v) :
    env.withoutBlanks.value? ["PORT", "GATEWAY_PORT"] =
      env.value? ["PORT", "GATEWAY_PORT"] := by
  rw [value?_port, value?_port, lookup_withoutBlanks, lookup_withoutBlanks]
  cases hfirst : List.lookup "PORT" env with
  | none =>
    rw [Option.filter_none, Option.none_or, Option.none_or, bind_ofSet_filter]
  | some first =>
    cases hblank : isBlank first with
    | false => simp [Option.filter, hblank]
    | true =>
      cases hsecond : List.lookup "GATEWAY_PORT" env with
      | none => simp [Option.filter, hblank, ofSet]
      | some v =>
        have hv : isBlank v = true := by
          by_contra hv
          exact h v ⟨⟨first, hfirst, hblank⟩, hsecond, Bool.eq_false_iff.2 hv⟩
        simp [Option.filter, hblank, hv, ofSet]

end Environment

def VariableError.name : VariableError → String
  | .badNumber name _ _ => name
  | .openQuote name => name

def Settings.withPort (s : Settings) (port : Nat) : Settings :=
  { s with server.port := port }

namespace Override

/-- It goes by one name, which is not that of the port, and it neither sets the port nor asks
for it. -/
structure SparesPort (o : Override) : Prop where
  aliases : o.aliases = []
  apply : ∀ v s port, o.apply v (s.withPort port) = (o.apply v s).map (·.withPort port)
  error : ∀ {v s e}, o.apply v s = .error e → e.name ≠ "PORT"

section

variable {name : String}

theorem text_sparesPort {set : String → Settings → Settings}
    (h : ∀ v s port, set v (s.withPort port) = (set v s).withPort port) :
    (text name set).SparesPort where
  aliases := rfl
  apply v s port := congrArg Except.ok (h v s port)
  error := nofun

theorem number_sparesPort {limit : Nat} {set : Nat → Settings → Settings} (hname : name ≠ "PORT")
    (h : ∀ n s port, set n (s.withPort port) = (set n s).withPort port) :
    (number limit name set).SparesPort where
  aliases := rfl
  apply v s port := by
    simp only [number]
    cases Environment.number limit name v with
    | error e => rfl
    | ok n => exact congrArg Except.ok (h n s port)
  error := by
    intro v s e he
    simp only [number, Environment.number] at he
    cases hn : Numeral.readUnsigned limit v with
    | ok n =>
      rw [hn] at he
      cases he
    | error cause =>
      rw [hn] at he
      cases he
      exact hname

theorem words_sparesPort {set : List String → Settings → Settings} (hname : name ≠ "PORT")
    (h : ∀ ws s port, set ws (s.withPort port) = (set ws s).withPort port) :
    (words name set).SparesPort where
  aliases := rfl
  apply v s port := by
    simp only [words]
    cases Environment.words name v with
    | error e => rfl
    | ok ws => exact congrArg Except.ok (h ws s port)
  error := by
    intro v s e he
    simp only [words, Environment.words] at he
    cases hws : Words.split? v with
    | some ws =>
      rw [hws] at he
      cases he
    | none =>
      rw [hws] at he
      cases he
      exact hname

end

def others : List Override := all.tail

theorem others_sparePort : ∀ o ∈ others, o.SparesPort := by
  -- One entry for each override, in their order.
  simp only [others, all, List.tail_cons, List.forall_mem_cons]
  refine ⟨text_sparesPort fun _ _ _ => rfl, text_sparesPort fun _ _ _ => rfl,
    text_sparesPort fun _ _ _ => rfl, text_sparesPort fun _ _ _ => rfl,
    number_sparesPort (by decide) fun _ _ _ => rfl, number_sparesPort (by decide) fun _ _ _ => rfl,
    text_sparesPort fun _ _ _ => rfl, number_sparesPort (by decide) fun _ _ _ => rfl,
    text_sparesPort fun _ _ _ => rfl, number_sparesPort (by decide) fun _ _ _ => rfl,
    number_sparesPort (by decide) fun _ _ _ => rfl, number_sparesPort (by decide) fun _ _ _ => rfl,
    text_sparesPort fun _ _ _ => rfl, text_sparesPort fun _ _ _ => rfl,
    text_sparesPort fun _ _ _ => rfl, words_sparesPort (by decide) fun _ _ _ => rfl,
    words_sparesPort (by decide) fun _ _ _ => rfl, text_sparesPort fun _ _ _ => rfl,
    List.forall_mem_nil _⟩

namespace SparesPort

variable {o : Override} {env : Environment} {s : Settings}

theorem run_withoutBlanks (h : o.SparesPort) (env : Environment) (s : Settings) :
    o.run env.withoutBlanks s = o.run env s := by
  rw [run, run, h.aliases, Environment.value?_withoutBlanks]

theorem run_withPort (h : o.SparesPort) (env : Environment) (s : Settings) (port : Nat) :
    o.run env (s.withPort port) = (o.run env s).map (·.withPort port) := by
  rw [run, run]
  cases env.value? (o.name :: o.aliases) with
  | none => rfl
  | some v => exact h.apply v s port

theorem name_ne (h : o.SparesPort) {e : VariableError} (he : o.run env s = .error e) :
    e.name ≠ "PORT" := by
  rw [run] at he
  cases hv : env.value? (o.name :: o.aliases) with
  | none =>
    rw [hv] at he
    cases he
  | some v =>
    rw [hv] at he
    exact h.error he

end SparesPort

def runAll (env : Environment) (os : List Override) (s : Settings) :
    Except VariableError Settings :=
  os.foldlM (fun s o => o.run env s) s

variable {os : List Override} {env : Environment} {s : Settings}

theorem runAll_cons (env : Environment) (o : Override) (os : List Override) (s : Settings) :
    runAll env (o :: os) s = o.run env s >>= runAll env os := rfl

theorem runAll_withoutBlanks (h : ∀ o ∈ os, o.SparesPort) (env : Environment) (s : Settings) :
    runAll env.withoutBlanks os s = runAll env os s := by
  induction os generalizing s with
  | nil => rfl
  | cons o os ih =>
    obtain ⟨ho, hos⟩ := List.forall_mem_cons.1 h
    rw [runAll_cons, runAll_cons, ho.run_withoutBlanks]
    exact congrArg _ (funext (ih hos))

theorem runAll_withPort (h : ∀ o ∈ os, o.SparesPort) (env : Environment) (s : Settings)
    (port : Nat) : runAll env os (s.withPort port) = (runAll env os s).map (·.withPort port) := by
  induction os generalizing s with
  | nil => rfl
  | cons o os ih =>
    obtain ⟨ho, hos⟩ := List.forall_mem_cons.1 h
    rw [runAll_cons, runAll_cons, ho.run_withPort]
    cases o.run env s with
    | error e => rfl
    | ok s => exact ih hos s

theorem runAll_name_ne (h : ∀ o ∈ os, o.SparesPort) {e : VariableError}
    (he : runAll env os s = .error e) : e.name ≠ "PORT" := by
  induction os generalizing s with
  | nil => cases he
  | cons o os ih =>
    obtain ⟨ho, hos⟩ := List.forall_mem_cons.1 h
    rw [runAll_cons] at he
    cases hrun : o.run env s with
    | error e' =>
      rw [hrun] at he
      cases he
      exact ho.name_ne hrun
    | ok s' =>
      rw [hrun] at he
      exact ih hos he

end Override

namespace Settings

open Environment

variable {file : SettingsFile} {env : Environment} {s t : Settings} {v : String}

def finish (env : Environment) (s : Settings) : Except SettingsError Settings :=
  match Override.runAll env Override.others s with
  | .error e => .error (.badVariable e)
  | .ok s => s.check

theorem check_withPort (s : Settings) (port : Nat) :
    (s.withPort port).check = s.check.map (·.withPort port) := by
  have hfaults : (s.withPort port).faults = s.faults := rfl
  rw [check, check, hfaults]
  split <;> rfl

theorem finish_withPort (env : Environment) (s : Settings) (port : Nat) :
    finish env (s.withPort port) = (finish env s).map (·.withPort port) := by
  rw [finish, finish, Override.runAll_withPort Override.others_sparePort]
  cases Override.runAll env Override.others s with
  | error e => rfl
  | ok s => exact check_withPort s port

theorem finish_withoutBlanks (env : Environment) (s : Settings) :
    finish env.withoutBlanks s = finish env s := by
  rw [finish, finish, Override.runAll_withoutBlanks Override.others_sparePort]

theorem port_of_finish (h : finish env s = .ok t) : t.server.port = s.server.port := by
  -- Settings with the port that they have are the same settings.
  have hsame : finish env (s.withPort s.server.port) = .ok t := h
  rw [finish_withPort, h] at hsame
  exact (congrArg (·.server.port) (Except.ok.inj hsame)).symm

theorem finish_ne_badPort (value : String) (cause : NumeralError) :
    finish env s ≠ .error (.badVariable (.badNumber "PORT" value cause)) := by
  intro h
  rw [finish] at h
  split at h
  · next e he =>
    cases h
    exact Override.runAll_name_ne Override.others_sparePort he rfl
  · rw [check] at h
    split at h <;> cases h

def finishPort (env : Environment) (s : Settings) : Option String → Except SettingsError Settings
  | none => finish env s
  | some v =>
    match Numeral.readUnsigned 65535 v with
    | .ok port => finish env (s.withPort port)
    | .error cause => .error (.badVariable (.badNumber "PORT" v cause))

theorem load_of_file (hfile : ofFile file = .ok s) (env : Environment) :
    load file env = finishPort env s (env.value? ["PORT", "GATEWAY_PORT"]) := by
  have hoverride : s.override env = (match env.value? ["PORT", "GATEWAY_PORT"] with
      | none => .ok s
      | some v => (Environment.number 65535 "PORT" v).map s.withPort) >>=
        Override.runAll env Override.others := rfl
  rw [load, hfile]
  simp only [hoverride]
  cases env.value? ["PORT", "GATEWAY_PORT"] with
  | none => rfl
  | some v =>
    simp only [Environment.number, finishPort]
    cases Numeral.readUnsigned 65535 v <;> rfl

theorem finishPort_withoutBlanks (env : Environment) (s : Settings) (o : Option String) :
    finishPort env.withoutBlanks s o = finishPort env s o := by
  cases o with
  | none => exact finish_withoutBlanks env s
  | some v => simp only [finishPort, finish_withoutBlanks]

/-- Settings with another port in place of the one that they have. -/
theorem map_withPort_finish_iff {port : Nat} :
    (finish env s).map (·.withPort port) = finish env s ↔
      port = s.server.port ∨ ∃ e, finish env s = .error e := by
  cases hfinish : finish env s with
  | error e => exact iff_of_true rfl (.inr ⟨e, rfl⟩)
  | ok t =>
    have hport := port_of_finish hfinish
    constructor
    · intro h
      rw [← hport]
      exact .inl (congrArg (·.server.port) (Except.ok.inj h))
    · rintro (rfl | ⟨e, he⟩)
      · rw [← hport]
        rfl
      · cases he

/-- Blank variables count for nothing, except that a blank first name of the port hides the second.
The results are the same then only if the file gives no settings, or if the hidden value is a port
and either that of the file or the port of settings that are refused for something else. -/
theorem load_withoutBlanks_iff (file : SettingsFile) (env : Environment) :
    load file env.withoutBlanks = load file env ↔
      ∀ v s, HidesPort env v → ofFile file = .ok s →
        ∃ port, Numeral.readUnsigned 65535 (Text.trim v) = .ok port ∧
          (port = s.server.port ∨ ∃ e, load file env = .error e) := by
  cases hfile : ofFile file with
  | error e =>
    refine iff_of_true ?_ fun _ _ _ hsettings => nomatch hsettings
    rw [load, load, hfile]
  | ok s =>
    rw [load_of_file hfile, load_of_file hfile, finishPort_withoutBlanks]
    by_cases hhides : ∃ v, HidesPort env v
    · obtain ⟨v, hv⟩ := hhides
      -- On the left the hidden value is read, on the right the port of the file stays.
      rw [hv.value?_port.1, hv.value?_port.2]
      have hread : finishPort env s (some (Text.trim v)) = finish env s ↔
          ∃ port, Numeral.readUnsigned 65535 (Text.trim v) = .ok port ∧
            (port = s.server.port ∨ ∃ e, finish env s = .error e) := by
        simp only [finishPort]
        cases Numeral.readUnsigned 65535 (Text.trim v) with
        | error cause =>
          refine iff_of_false (fun h => finish_ne_badPort _ cause h.symm) ?_
          rintro ⟨_, hport, -⟩
          cases hport
        | ok port =>
          simp only [finish_withPort, map_withPort_finish_iff, Except.ok.injEq, exists_eq_left']
      refine hread.trans ⟨fun h v' s' hv' hs' => ?_, fun h => h v s hv rfl⟩
      obtain rfl := Option.some.inj (hv.second.symm.trans hv'.second)
      obtain rfl := Except.ok.inj hs'
      exact h
    · have hnone := not_exists.1 hhides
      rw [value?_port_of_not_hides hnone]
      exact iff_of_true rfl fun v _ hv => absurd hv (hnone v)

/-- A port that is taken only if the blank variable is not there. -/
theorem load_blank_hides_port :
    let env : Environment := [("PORT", " "), ("GATEWAY_PORT", "8181")]
    env.withoutBlanks = [("GATEWAY_PORT", "8181")] ∧ load .unnamed env = .ok {} ∧
      load .unnamed env.withoutBlanks = .ok { server := { port := 8181 } } ∧
      load .unnamed env.withoutBlanks ≠ load .unnamed env := by
  decide +kernel

end Settings

end CoordinatorGateway
