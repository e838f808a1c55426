import CoordinatorGateway.Settings.Load
import CoordinatorGateway.Proofs.Text.Trimming

namespace CoordinatorGateway

namespace Settings

def positives (s : Settings) : List (String × Nat) := [
  ("coordinator.rpc_timeout_ms", s.coordinator.rpcTimeoutMs),
  ("coordinator.connect_timeout_ms", s.coordinator.connectTimeoutMs),
  ("limits.max_compute_capacity", s.limits.maxCapacity),
  ("rate_limit.window_ms", s.rateLimit.windowMs),
  ("rate_limit.max_requests", s.rateLimit.maxRequests),
  ("rate_limit.sweep_interval_ms", s.rateLimit.sweepIntervalMs)]

def Breaks (s : Settings) : SettingsFault → Prop
  | .zero field => (field, 0) ∈ s.positives
  | .emptyUrl => ∀ c ∈ s.coordinator.url.toList, Unicode.isBlank c = true
  | .badUrl url => url = s.coordinator.url ∧ (∃ c ∈ url.toList, Unicode.isBlank c = false) ∧
      Uri.read? (Address.normalize url) = none
  | .emptyName => s.processes.coordinatorName = "" ∨ s.processes.workerName = ""
  | .tooLong field => ∃ ms, (field, ms) ∈ s.durations ∧ 24 * 60 * 60 * 1000 < ms

/-- The rule that is not checked. -/
def unchecked : SettingsFault := .zero "coordinator.connect_timeout_ms"

variable {s : Settings} {f : SettingsFault}

theorem mem_faultIf {broken : Bool} {g : SettingsFault} :
    f ∈ faultIf broken g ↔ broken = true ∧ f = g := by
  cases broken <;> simp [faultIf]

theorem mem_urlFaults : f ∈ urlFaults s.coordinator.url ↔
    (f = .emptyUrl ∨ ∃ url, f = .badUrl url) ∧ s.Breaks f := by
  rw [urlFaults]
  split
  · next hempty =>
    rw [Text.isEmpty_trim_iff] at hempty
    cases f with
    | emptyUrl => simpa [Breaks] using hempty
    | badUrl url =>
      refine iff_of_false (by simp) ?_
      rintro ⟨-, rfl, ⟨c, hc, hvisible⟩, -⟩
      exact Bool.false_ne_true (hvisible.symm.trans (hempty c hc))
    | _ => simp
  · next hnot =>
    rw [Text.isEmpty_trim_iff] at hnot
    rw [mem_faultIf, Option.isNone_iff_eq_none]
    cases f with
    | emptyUrl => simpa [Breaks] using hnot
    | badUrl url =>
      have hvisible : ∃ c ∈ s.coordinator.url.toList, Unicode.isBlank c = false := by
        simpa using hnot
      constructor
      · rintro ⟨hbad, ⟨⟩⟩
        exact ⟨.inr ⟨_, rfl⟩, rfl, hvisible, hbad⟩
      · rintro ⟨-, rfl, -, hbad⟩
        exact ⟨hbad, rfl⟩
    | _ => simp

theorem mem_lengthFaults : (f ∈ s.durations.flatMap fun (field, ms) =>
      faultIf (decide (maxMillis < ms)) (.tooLong field)) ↔
    ∃ field, f = .tooLong field ∧ s.Breaks f := by
  simp only [List.mem_flatMap, Prod.exists, mem_faultIf, decide_eq_true_eq]
  constructor
  · rintro ⟨field, ms, hmem, hlong, rfl⟩
    exact ⟨field, rfl, ms, hmem, hlong⟩
  · rintro ⟨field, rfl, ms, hmem, hlong⟩
    exact ⟨field, ms, hmem, hlong, rfl⟩

theorem mem_faults_iff : f ∈ s.faults ↔ s.Breaks f ∧ f ≠ unchecked := by
  simp only [faults, List.mem_append, mem_faultIf, mem_urlFaults, mem_lengthFaults]
  cases f with
  | zero field =>
    by_cases hfield : field = "coordinator.connect_timeout_ms"
    · subst hfield
      simp [unchecked]
    · simp [Breaks, positives, unchecked, hfield, or_assoc, and_comm, eq_comm (a := 0)]
  | emptyUrl => simp [unchecked]
  | badUrl url => simp [unchecked]
  | emptyName => simp [Breaks, unchecked]
  | tooLong field => simp [unchecked]

theorem breaks_unchecked_iff : s.Breaks unchecked ↔ s.coordinator.connectTimeoutMs = 0 := by
  simp [Breaks, unchecked, positives, eq_comm (a := 0)]

/-- What accepted settings are documented to keep to: no wait is over at once, no limit lets nobody
through, and no length of time is above a day. -/
structure WithinBounds (s : Settings) : Prop where
  rpcTimeout : 0 < s.coordinator.rpcTimeoutMs ∧ s.coordinator.rpcTimeoutMs ≤ 24 * 60 * 60 * 1000
  connectTimeout : 0 < s.coordinator.connectTimeoutMs ∧
    s.coordinator.connectTimeoutMs ≤ 24 * 60 * 60 * 1000
  window : 0 < s.rateLimit.windowMs ∧ s.rateLimit.windowMs ≤ 24 * 60 * 60 * 1000
  sweepInterval : 0 < s.rateLimit.sweepIntervalMs ∧
    s.rateLimit.sweepIntervalMs ≤ 24 * 60 * 60 * 1000
  startupGrace : s.processes.startupGraceMs ≤ 24 * 60 * 60 * 1000
  stopGrace : s.processes.stopGraceMs ≤ 24 * 60 * 60 * 1000
  maxRequests : 0 < s.rateLimit.maxRequests
  maxCapacity : 0 < s.limits.maxCapacity

theorem not_breaks_zero_iff :
    (∀ field, ¬ s.Breaks (.zero field)) ↔ ∀ p ∈ s.positives, 0 < p.2 := by
  simp only [Breaks, Prod.forall, Nat.pos_iff_ne_zero]
  exact ⟨fun h field n hmem hzero => h field (hzero ▸ hmem), fun h field hmem => h field 0 hmem rfl⟩

theorem not_breaks_tooLong_iff :
    (∀ field, ¬ s.Breaks (.tooLong field)) ↔ ∀ p ∈ s.durations, p.2 ≤ 24 * 60 * 60 * 1000 := by
  simp only [Breaks, Prod.forall, not_exists, not_and, Nat.not_lt]

theorem withinBounds_iff : s.WithinBounds ↔
    (∀ field, ¬ s.Breaks (.zero field)) ∧ ∀ field, ¬ s.Breaks (.tooLong field) := by
  rw [not_breaks_zero_iff, not_breaks_tooLong_iff]
  simp only [positives, durations, List.forall_mem_cons]
  constructor
  · rintro ⟨hrpc, hconnect, hwindow, hsweep, hstartup, hstop, hrequests, hcapacity⟩
    exact ⟨⟨hrpc.1, hconnect.1, hcapacity, hwindow.1, hrequests, hsweep.1, nofun⟩,
      hrpc.2, hconnect.2, hwindow.2, hsweep.2, hstartup, hstop, nofun⟩
  · rintro ⟨⟨hrpc, hconnect, hcapacity, hwindow, hrequests, hsweep, -⟩,
      hrpc', hconnect', hwindow', hsweep', hstartup, hstop, -⟩
    exact ⟨⟨hrpc, hrpc'⟩, ⟨hconnect, hconnect'⟩, ⟨hwindow, hwindow'⟩, ⟨hsweep, hsweep'⟩, hstartup,
      hstop, hrequests, hcapacity⟩

theorem faults_eq_nil_iff : s.faults = [] ↔ ∀ f, s.Breaks f → f = unchecked := by
  rw [List.eq_nil_iff_forall_not_mem]
  refine forall_congr' fun f => ?_
  rw [mem_faults_iff, not_and, not_ne_iff]

theorem withinBounds_of_faults (h : s.faults = []) :
    s.WithinBounds ↔ s.coordinator.connectTimeoutMs ≠ 0 := by
  have honly := faults_eq_nil_iff.1 h
  rw [withinBounds_iff, Ne, ← breaks_unchecked_iff]
  constructor
  · exact fun hbounds => hbounds.1 _
  · intro hconnect
    constructor
    · intro field hzero
      rw [honly _ hzero] at hzero
      exact hconnect hzero
    · intro field hlong
      cases honly _ hlong

theorem pos_of_faults (h : s.faults = []) (field : String) {n : Nat}
    (hmem : (field, n) ∈ s.positives) (hfield : field ≠ "coordinator.connect_timeout_ms") :
    0 < n := by
  refine Nat.pos_of_ne_zero ?_
  rintro rfl
  exact hfield (SettingsFault.zero.inj (faults_eq_nil_iff.1 h (.zero field) hmem))

theorem le_day_of_faults (h : s.faults = []) (field : String) {ms : Nat}
    (hmem : (field, ms) ∈ s.durations) : ms ≤ 24 * 60 * 60 * 1000 := by
  refine Nat.not_lt.1 fun hlong => ?_
  cases faults_eq_nil_iff.1 h (.tooLong field) ⟨ms, hmem, hlong⟩

def gather (file : SettingsFile) (env : Environment) : Except SettingsError Settings :=
  ofFile file >>= fun s => (s.override env).mapError .badVariable

theorem load_eq (file : SettingsFile) (env : Environment) :
    load file env = gather file env >>= check := by
  rw [load, gather]
  cases ofFile file with
  | error e => rfl
  | ok s =>
    simp only [bind, Except.bind]
    cases s.override env <;> rfl

theorem exists_of_mem_intercalate {sep x : String} {l : List String} (h : x ∈ l) :
    ∃ before after, sep.intercalate l = before ++ x ++ after := by
  induction l with
  | nil => cases h
  | cons y l ih =>
    cases l with
    | nil =>
      obtain rfl := List.mem_singleton.1 h
      exact ⟨"", "", by simp⟩
    | cons z l =>
      rw [String.intercalate_cons_cons]
      rcases List.mem_cons.1 h with rfl | h
      · exact ⟨"", sep ++ sep.intercalate (z :: l), by simp [String.append_assoc]⟩
      · obtain ⟨before, after, hmem⟩ := ih h
        exact ⟨y ++ sep ++ before, after, by rw [hmem]; simp [String.append_assoc]⟩

theorem exists_message {fs : List SettingsFault} (h : f ∈ fs) : ∃ before after,
    (SettingsError.faults fs).message = before ++ f.message ++ after := by
  obtain ⟨before, after, hmem⟩ : ∃ before after,
      "\n  - ".intercalate (fs.map SettingsFault.message) = before ++ f.message ++ after :=
    exists_of_mem_intercalate (List.mem_map_of_mem h)
  refine ⟨"Configuration errors:\n  - " ++ before, after, ?_⟩
  show "Configuration errors:\n  - " ++ "\n  - ".intercalate (fs.map SettingsFault.message) = _
  rw [hmem, ← String.append_assoc, ← String.append_assoc]

variable {file : SettingsFile} {env : Environment}

theorem load_of_gather (h : gather file env = .ok s) : load file env = s.check := by
  rw [load_eq, h]
  rfl

theorem load_eq_ok_iff : load file env = .ok s ↔ gather file env = .ok s ∧ s.faults = [] := by
  rw [load_eq]
  cases gather file env with
  | error e => exact iff_of_false nofun fun h => nomatch h.1
  | ok t =>
    show t.check = .ok s ↔ _
    rw [check, Except.ok.injEq]
    split
    · next hnone =>
      rw [Except.ok.injEq]
      exact ⟨fun h => ⟨h, h ▸ hnone⟩, And.left⟩
    · next hsome =>
      exact iff_of_false nofun fun h => hsome (h.1 ▸ h.2)

/-- Settings are accepted just when they break no rule but that of the number that is not checked,
and are within their bounds then unless that number is zero. Otherwise all rules that are broken are
reported at once, each with its own text, and that one alone is left out. -/
theorem load_reports (file : SettingsFile) (env : Environment) :
    (∀ s, load file env = .ok s ↔
      gather file env = .ok s ∧ ∀ f, s.Breaks f → f = unchecked) ∧
    (∀ s, load file env = .ok s → (s.WithinBounds ↔ s.coordinator.connectTimeoutMs ≠ 0)) ∧
    ∀ s e, gather file env = .ok s → load file env = .error e →
      ∃ fs, e = .faults fs ∧ (∀ f, f ∈ fs ↔ s.Breaks f ∧ f ≠ unchecked) ∧
        ((∀ f, s.Breaks f → f ∈ fs) ↔ s.coordinator.connectTimeoutMs ≠ 0) ∧
        ∀ f ∈ fs, ∃ before after, e.message = before ++ f.message ++ after := by
  refine ⟨fun s => ?_, fun s h => withinBounds_of_faults (load_eq_ok_iff.1 h).2,
    fun s e hgather hload => ?_⟩
  · rw [load_eq_ok_iff, faults_eq_nil_iff]
  · rw [load_of_gather hgather, check] at hload
    split at hload
    · cases hload
    · cases hload
      refine ⟨s.faults, rfl, fun f => mem_faults_iff, ?_, fun f hf => exists_message hf⟩
      rw [Ne, ← breaks_unchecked_iff]
      constructor
      · intro hall hbreaks
        exact (mem_faults_iff.1 (hall unchecked hbreaks)).2 rfl
      · intro hkept f hbreaks
        refine mem_faults_iff.2 ⟨hbreaks, ?_⟩
        rintro rfl
        exact hkept hbreaks

/-- Two numbers are zero that must not be: with one of them the settings are accepted, and with both
it is not reported. -/
theorem load_zero_connectTimeout :
    let settings : Settings := { coordinator := { connectTimeoutMs := 0 } }
    load .unnamed [("RPC_CONNECT_TIMEOUT_MS", "0")] = .ok settings ∧ ¬ settings.WithinBounds ∧
      load .unnamed [("RPC_CONNECT_TIMEOUT_MS", "0"), ("RPC_TIMEOUT_MS", "0")] =
        .error (.faults [.zero "coordinator.rpc_timeout_ms"]) := by
  refine ⟨by decide +kernel, fun h => ?_, by decide +kernel⟩
  exact Nat.lt_irrefl 0 h.connectTimeout.1

end Settings

end CoordinatorGateway
