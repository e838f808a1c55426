import Mathlib.Logic.Basic
import CoordinatorGateway.Launch.Launcher
import CoordinatorGateway.Proofs.Launch.Orders
import CoordinatorGateway.Proofs.Validation.Bases
import CoordinatorGateway.Supervisor.Basic

namespace CoordinatorGateway.Gateway

open Location (Alike Covers WellFormed)

variable {path : String}

theorem check_input_eq_ok_iff {policy : Location.Policy} :
    Location.check path .input policy = .ok () ↔
      WellFormed path ∧
        (policy.inputRoots = [] ∨ ∃ root ∈ policy.inputRoots, Covers policy.base root path) := by
  rw [Location.check_eq_ok_iff, Location.fault?_eq_none_iff, or_iff_not_imp_left]
  exact and_congr_right fun _ => ⟨fun h => h rfl, fun h _ => h⟩

theorem exists_covers_iff (roots : List String) (path : String) (base : Option String) :
    (∃ root ∈ roots, Covers base root path) ↔
      (∃ root ∈ roots, Alike root path ∧ Covers base root path) ∨
        ∃ root ∈ roots, ¬ Alike root path ∧ Covers base root path := by
  constructor
  · rintro ⟨root, hroot, hcovers⟩
    by_cases halike : Alike root path
    · exact .inl ⟨root, hroot, halike, hcovers⟩
    · exact .inr ⟨root, hroot, halike, hcovers⟩
  · rintro (⟨root, hroot, -, hcovers⟩ | ⟨root, hroot, -, hcovers⟩)
    · exact ⟨root, hroot, hcovers⟩
    · exact ⟨root, hroot, hcovers⟩

theorem or_iff_or_iff {p q r : Prop} : (p ∨ q ↔ p ∨ r) ↔ p ∨ (q ↔ r) := by
  by_cases hp : p
  · simp only [hp, true_or]
  · simp only [hp, false_or]

/-- Both routes accept the same input, unless roots that do not start as the path does cover it from
one start only and no other root covers it. -/
theorem inputs_agree_iff (s : Settings) (files : FileSystem) (directory : Place)
    (around : Supervisor.Surroundings) (path : String) :
    let roots := s.limits.inputRoots
    (Location.check path .input (Launcher.ofSettings s).policy.paths = .ok () ↔
      Location.check path .input (Supervisor.ofSettings s files directory around).policy = .ok ()) ↔
    ¬ WellFormed path ∨ roots = [] ∨ (∃ root ∈ roots, Alike root path ∧ Covers none root path) ∨
      ((∃ root ∈ roots, ¬ Alike root path ∧ Covers none root path) ↔
        ∃ root ∈ roots, ¬ Alike root path ∧ Covers (some directory.path) root path) := by
  intro roots
  have hlaunch : Location.check path .input (Launcher.ofSettings s).policy.paths = .ok () ↔
      WellFormed path ∧ (roots = [] ∨ ∃ root ∈ roots, Covers none root path) :=
    check_input_eq_ok_iff
  have hstart : Location.check path .input
      (Supervisor.ofSettings s files directory around).policy = .ok () ↔
      WellFormed path ∧ (roots = [] ∨ ∃ root ∈ roots, Covers (some directory.path) root path) :=
    check_input_eq_ok_iff
  rw [hlaunch, hstart, and_congr_right_iff, ← imp_iff_not_or]
  refine imp_congr_right fun hform => ?_
  have hpath := Location.parent_not_mem_steps hform.noDots
  have halike : (∃ root ∈ roots, Alike root path ∧ Covers (some directory.path) root path) ↔
      ∃ root ∈ roots, Alike root path ∧ Covers none root path := by
    refine exists_congr fun root => and_congr_right fun _ => and_congr_right fun halike => ?_
    exact halike.covers_iff hpath (Location.isAbsolute_path directory) rfl
  rw [exists_covers_iff roots path none, exists_covers_iff roots path (some directory.path),
    halike]
  exact or_iff_or_iff.trans (or_congr_right or_iff_or_iff)

/-- A relative path to an input under an absolute root is refused on the one route only. -/
theorem inputs_disagree :
    let s : Settings := { limits := { inputRoots := ["/srv/in"] } }
    Location.check "in/x.bin" .input (Launcher.ofSettings s).policy.paths =
        .error (.invalidArgument "input_path is outside the allowed input directories") ∧
      Location.check "in/x.bin" .input
        (Supervisor.ofSettings s .empty ["srv"] ⟨none, none⟩).policy = .ok () := by
  decide +kernel

end CoordinatorGateway.Gateway
