import CoordinatorGateway.Processes.Table
import CoordinatorGateway.Proofs.Text.Trimming
import CoordinatorGateway.Proofs.Text.Utf8
import Mathlib.Data.List.Nodup
import Mathlib.Data.List.TakeWhile

namespace CoordinatorGateway

namespace ProcessTable

variable {pid q : Nat} {pids : List Nat}

theorem mem_insertPid : q ∈ insertPid pid pids ↔ q = pid ∨ q ∈ pids := by
  induction pids with
  | nil => rw [insertPid, List.mem_singleton, or_iff_left List.not_mem_nil]
  | cons p ps ih =>
    rw [insertPid]
    split
    · rw [List.mem_cons]
    · split
      · next hsame =>
        rw [hsame, List.mem_cons]
        exact ⟨.inr, fun h => h.elim .inl id⟩
      · rw [List.mem_cons, ih, List.mem_cons]
        exact or_left_comm

theorem ascending_insertPid (h : pids.Pairwise (· < ·)) :
    (insertPid pid pids).Pairwise (· < ·) := by
  induction pids with
  | nil => exact List.pairwise_singleton _ pid
  | cons p ps ih =>
    obtain ⟨hfirst, hrest⟩ := List.pairwise_cons.1 h
    rw [insertPid]
    split
    · next hbefore =>
      refine List.pairwise_cons.2 ⟨fun q hq => ?_, h⟩
      rcases List.mem_cons.1 hq with rfl | hq
      · exact hbefore
      · exact Nat.lt_trans hbefore (hfirst q hq)
    · split
      · exact h
      · next hle hne =>
        refine List.pairwise_cons.2 ⟨fun q hq => ?_, ih hrest⟩
        rcases mem_insertPid.1 hq with rfl | hq
        · omega
        · exact hfirst q hq

theorem ascending_find (t : ProcessTable) (name : String) : (t.find name).Pairwise (· < ·) := by
  rw [find]
  generalize List.map ListedProcess.pid _ = pids
  induction pids with
  | nil => exact List.Pairwise.nil
  | cons pid pids ih => exact ascending_insertPid ih

theorem mem_find {t : ProcessTable} {name : String} : pid ∈ t.find name ↔
    ∃ p ∈ t.processes, p.pid = pid ∧ p.alive = true ∧ p.pid ≠ t.own ∧ p.answersTo name = true := by
  have hmem (pids : List Nat) : pid ∈ pids.foldr insertPid [] ↔ pid ∈ pids := by
    induction pids with
    | nil => rfl
    | cons q pids ih => rw [List.foldr_cons, mem_insertPid, ih, List.mem_cons]
  rw [find, hmem, List.mem_map]
  simp only [List.mem_filter, Bool.and_eq_true, bne_iff_ne]
  constructor
  · rintro ⟨p, ⟨hp, ⟨halive, hother⟩, hname⟩, hpid⟩
    exact ⟨p, hp, hpid, halive, hother, hname⟩
  · rintro ⟨p, hp, hpid, halive, hother, hname⟩
    exact ⟨p, ⟨hp, ⟨halive, hother⟩, hname⟩, hpid⟩

end ProcessTable

/-- The name of an executable file, without the ending that it may have. -/
def stem (fileName : String) : String :=
  String.ofList ((Text.stripEnd? ['.', 'e', 'x', 'e'] fileName.toList).getD fileName.toList)

theorem executableName_eq_stem {fileName : String} (hslash : '/' ∉ fileName.toList)
    (hback : '\\' ∉ fileName.toList) : executableName fileName = stem fileName := by
  have hall : (fileName.toList.reverse.takeWhile fun c => c != '/' && c != '\\') =
      fileName.toList.reverse := by
    rw [List.takeWhile_eq_self_iff]
    intro c hc
    rw [List.mem_reverse] at hc
    rw [Bool.and_eq_true, bne_iff_ne, bne_iff_ne]
    exact ⟨fun h => hslash (h ▸ hc), fun h => hback (h ▸ hc)⟩
  rw [executableName, hall, List.reverse_reverse]
  rfl

theorem executableName_append {folder : String}
    (hfolder : folder = "" ∨ folder.toList.getLast? = some '/') (fileName : String) :
    executableName (folder ++ fileName) = executableName fileName := by
  have hcut : ((folder ++ fileName).toList.reverse.takeWhile fun c => c != '/' && c != '\\') =
      fileName.toList.reverse.takeWhile fun c => c != '/' && c != '\\' := by
    rw [String.toList_append, List.reverse_append, List.takeWhile_append]
    split
    · next hwhole =>
      rw [(List.takeWhile_prefix _).eq_of_length hwhole]
      rcases hfolder with rfl | hslash
      · exact List.append_nil _
      · obtain ⟨cs, hcs⟩ := List.getLast?_eq_some_iff.1 hslash
        rw [hcs, List.reverse_append]
        exact List.append_nil _
    · rfl
  rw [executableName, executableName, hcut]

/-- A process whose command line begins with the path of its executable. -/
structure NamedProcess where
  pid : Nat
  /-- The path of the executable up to the name of its file. -/
  folder : String
  fileName : String
  args : List String
  alive : Bool
  folder_ends : folder = "" ∨ folder.toList.getLast? = some '/'
  fileName_ne : fileName ≠ ""
  fileName_slash : '/' ∉ fileName.toList

namespace NamedProcess

variable {p : NamedProcess} {name : String}

def listed (p : NamedProcess) : ListedProcess :=
  ⟨p.pid, (p.folder ++ p.fileName) :: p.args, shortName p.fileName, p.alive⟩

/-- The short name that is kept of the file's name is that of the other name. -/
def SharesShortName (p : NamedProcess) (name : String) : Prop :=
  ∃ kept, Bytes.text? (shortName p.fileName) = some kept ∧
    Bytes.ofText (Text.trimEnd kept) = shortName name

theorem answersTo_listed : p.listed.answersTo name = true ↔
    executableName p.fileName = name ∨ p.SharesShortName name := by
  have hne : (p.folder ++ p.fileName).isEmpty = false := by
    rw [Bool.eq_false_iff, ne_eq, String.isEmpty_iff, String.append_eq_empty_iff]
    exact fun h => p.fileName_ne h.2
  rw [ListedProcess.answersTo, Bool.or_eq_true]
  refine or_congr ?_ ?_
  · dsimp only [listed, List.head?_cons]
    rw [hne, Bool.not_false, Bool.true_and, beq_iff_eq, executableName_append p.folder_ends]
  · have hkept : p.listed.keptName? = (Bytes.text? (shortName p.fileName)).map Text.trimEnd := rfl
    rw [SharesShortName, hkept]
    cases Bytes.text? (shortName p.fileName) with
    | none =>
      dsimp only [Option.map_none]
      constructor
      · intro h
        cases h
      · rintro ⟨_, hread, -⟩
        cases hread
    | some kept =>
      dsimp only [Option.map_some]
      rw [beq_iff_eq]
      constructor
      · intro h
        exact ⟨kept, rfl, h⟩
      · rintro ⟨kept', hread, h⟩
        obtain rfl := Option.some.inj hread
        exact h

def Plain (fileName : String) : Prop :=
  ∀ c ∈ fileName.toList, 33 ≤ c.toNat ∧ c.toNat ≤ 126 ∧ c ≠ '\\'

instance (fileName : String) : Decidable (Plain fileName) :=
  List.decidableBAll _ fileName.toList

theorem executableName_of_plain (h : Plain p.fileName) :
    executableName p.fileName = stem p.fileName :=
  executableName_eq_stem p.fileName_slash fun hmem => (h _ hmem).2.2 rfl

theorem sharesShortName_of_plain (h : Plain p.fileName) :
    p.SharesShortName name ↔ shortName p.fileName = shortName name := by
  have hascii : ∀ c ∈ p.fileName.toList, c.toNat < 128 := fun c hc =>
    Nat.lt_of_le_of_lt (h c hc).2.1 (by decide)
  have hshort := Bytes.take_ofText_of_ascii hascii shortNameLength
  have htrim : Text.trimEnd (String.ofList (p.fileName.toList.take shortNameLength)) =
      String.ofList (p.fileName.toList.take shortNameLength) := by
    have hnone : ∀ c ∈ p.fileName.toList.take shortNameLength, Unicode.isBlank c = false :=
      fun c hc =>
        have hmem := h c (List.mem_of_mem_take hc)
        Text.isBlank_eq_false ⟨hmem.1, hmem.2.1⟩
    rw [Text.trimEnd, String.toList_ofList, Text.trimEndChars_of_notBlank hnone]
  have hkept : Bytes.text? (shortName p.fileName) =
      some (String.ofList (p.fileName.toList.take shortNameLength)) := by
    rw [shortName, hshort, Bytes.text?_ofText]
  constructor
  · rintro ⟨kept, hread, hsame⟩
    rw [hkept] at hread
    obtain rfl := Option.some.inj hread
    rw [htrim, ← hshort] at hsame
    exact hsame
  · intro hsame
    refine ⟨_, hkept, ?_⟩
    rw [htrim, ← hshort]
    exact hsame

end NamedProcess

/-- The processes of a machine, each with its own number, as one of them sees them. -/
structure Population where
  processes : List NamedProcess
  /-- The process that looks. -/
  own : Nat
  distinct : (processes.map NamedProcess.pid).Nodup

namespace Population

variable {t : Population} {name : String}

def table (t : Population) : ProcessTable := ⟨t.processes.map NamedProcess.listed, t.own⟩

/-- The live processes of the executable but for the one that looks, in ascending order, each
once. -/
structure Names (t : Population) (name : String) (pids : List Nat) : Prop where
  ascending : pids.Pairwise (· < ·)
  mem_iff : ∀ pid, pid ∈ pids ↔ ∃ p ∈ t.processes, p.pid = pid ∧ p.alive = true ∧
    p.pid ≠ t.own ∧ stem p.fileName = name

theorem eq_of_pid_eq {p q : NamedProcess} (hp : p ∈ t.processes) (hq : q ∈ t.processes)
    (h : p.pid = q.pid) : p = q := List.inj_on_of_nodup_map t.distinct hp hq h

theorem mem_find {pid : Nat} : pid ∈ t.table.find name ↔
    ∃ p ∈ t.processes, p.pid = pid ∧ p.alive = true ∧ p.pid ≠ t.own ∧
      (executableName p.fileName = name ∨ p.SharesShortName name) := by
  rw [ProcessTable.mem_find]
  constructor
  · rintro ⟨q, hq, hpid, halive, hother, hname⟩
    obtain ⟨p, hp, rfl⟩ := List.mem_map.1 hq
    exact ⟨p, hp, hpid, halive, hother, NamedProcess.answersTo_listed.1 hname⟩
  · rintro ⟨p, hp, hpid, halive, hother, hname⟩
    exact ⟨p.listed, List.mem_map_of_mem hp, hpid, halive, hother,
      NamedProcess.answersTo_listed.2 hname⟩

/-- The processes of the executable are found, and no others, just when no other process is taken
for one of them and none of them is missed. -/
theorem names_find_iff (t : Population) : t.Names name (t.table.find name) ↔
    ∀ p ∈ t.processes, p.alive = true → p.pid ≠ t.own →
      (executableName p.fileName = name ∨ p.SharesShortName name ↔ stem p.fileName = name) := by
  constructor
  · intro h p hp halive hother
    constructor
    · intro hanswers
      obtain ⟨q, hq, hpid, -, -, hstem⟩ :=
        (h.mem_iff p.pid).1 (mem_find.2 ⟨p, hp, rfl, halive, hother, hanswers⟩)
      rwa [eq_of_pid_eq hq hp hpid] at hstem
    · intro hstem
      obtain ⟨q, hq, hpid, -, -, hanswers⟩ :=
        mem_find.1 ((h.mem_iff p.pid).2 ⟨p, hp, rfl, halive, hother, hstem⟩)
      rwa [eq_of_pid_eq hq hp hpid] at hanswers
  · intro h
    refine ⟨t.table.ascending_find name, fun pid => mem_find.trans ?_⟩
    refine exists_congr fun p => and_congr_right fun hp => and_congr_right fun _ => ?_
    exact and_congr_right fun halive => and_congr_right fun hother => h p hp halive hother

theorem names_find_iff_of_plain (t : Population)
    (h : ∀ p ∈ t.processes, NamedProcess.Plain p.fileName) :
    t.Names name (t.table.find name) ↔
      ∀ p ∈ t.processes, p.alive = true → p.pid ≠ t.own →
        shortName p.fileName = shortName name → stem p.fileName = name := by
  rw [names_find_iff]
  refine forall_congr' fun p => forall_congr' fun hp => ?_
  rw [NamedProcess.executableName_of_plain (h p hp), NamedProcess.sharesShortName_of_plain (h p hp)]
  refine forall_congr' fun _ => forall_congr' fun _ => ?_
  exact ⟨fun hiff hshort => hiff.1 (.inr hshort),
    fun hshort => ⟨fun hanswers => hanswers.elim id hshort, .inl⟩⟩

end Population

end CoordinatorGateway
