namespace CoordinatorGateway

/-- Entries under names, in ascending order of the names. What an operation does is said by the
lookups in its result. -/
structure Registry (α : Type) where
  entries : List (String × α)
  sorted : entries.Pairwise fun a b => a.1 < b.1

namespace Registry

variable {α : Type}

def empty : Registry α := ⟨[], .nil⟩

instance : Inhabited (Registry α) := ⟨empty⟩

def get? (r : Registry α) (key : String) : Option α := r.entries.lookup key

def size (r : Registry α) : Nat := r.entries.length

def keys (r : Registry α) : List String := r.entries.map Prod.fst

def values (r : Registry α) : List α := r.entries.map Prod.snd

def insertEntry (key : String) (value : α) : List (String × α) → List (String × α)
  | [] => [(key, value)]
  | e :: es =>
    if key < e.1 then (key, value) :: e :: es
    else if key = e.1 then (key, value) :: es
    else e :: insertEntry key value es

theorem fst_mem_insertEntry {key : String} {value : α} {es : List (String × α)} {x : String × α}
    (h : x ∈ insertEntry key value es) : x.1 = key ∨ x ∈ es := by
  induction es with
  | nil => simp_all [insertEntry]
  | cons e es ih =>
    simp only [insertEntry] at h
    split at h
    · rcases List.mem_cons.1 h with rfl | h
      · exact .inl rfl
      · exact .inr h
    · split at h
      · rcases List.mem_cons.1 h with rfl | h
        · exact .inl rfl
        · exact .inr (List.mem_cons_of_mem _ h)
      · rcases List.mem_cons.1 h with rfl | h
        · exact .inr List.mem_cons_self
        · exact (ih h).imp id (List.mem_cons_of_mem _)

theorem lt_of_not_lt_of_ne {a b : String} (h : ¬ a < b) (h' : a ≠ b) : b < a := by
  rcases Std.le_total (a := a) (b := b) with hab | hba
  · exact absurd (Std.lt_of_le_of_ne hab h') h
  · exact Std.lt_of_le_of_ne hba (Ne.symm h')

theorem insertEntry_sorted {key : String} {value : α} {es : List (String × α)}
    (h : es.Pairwise fun a b => a.1 < b.1) :
    (insertEntry key value es).Pairwise fun a b => a.1 < b.1 := by
  induction es with
  | nil => simp [insertEntry]
  | cons e es ih =>
    have ⟨he, hs⟩ := List.pairwise_cons.1 h
    simp only [insertEntry]
    split
    · rename_i hlt
      refine List.pairwise_cons.2 ⟨fun x hx => ?_, h⟩
      rcases List.mem_cons.1 hx with rfl | hx
      · exact hlt
      · exact String.lt_trans hlt (he x hx)
    · split
      · rename_i heq
        exact List.pairwise_cons.2 ⟨fun x hx => heq ▸ he x hx, hs⟩
      · rename_i hnlt hne
        refine List.pairwise_cons.2 ⟨fun x hx => ?_, ih hs⟩
        rcases fst_mem_insertEntry hx with hx | hx
        · exact hx ▸ lt_of_not_lt_of_ne hnlt hne
        · exact he x hx

def put (r : Registry α) (key : String) (value : α) : Registry α :=
  ⟨insertEntry key value r.entries, insertEntry_sorted r.sorted⟩

def filter (r : Registry α) (keep : String → α → Bool) : Registry α :=
  ⟨r.entries.filter fun e => keep e.1 e.2, r.sorted.filter _⟩

def erase (r : Registry α) (key : String) : Registry α := r.filter fun k _ => k != key

@[simp]
theorem get?_empty (key : String) : (empty : Registry α).get? key = none := rfl

theorem lookup_cons_eq_ite (k : String) (e : String × α) (es : List (String × α)) :
    (e :: es).lookup k = if k = e.1 then some e.2 else es.lookup k := by
  change (match k == e.1 with | true => some e.2 | false => es.lookup k) = _
  by_cases h : k = e.1
  · rw [beq_iff_eq.2 h, if_pos h]
  · rw [beq_eq_false_iff_ne.2 h, if_neg h]

theorem lookup_insertEntry (key : String) (value : α) (es : List (String × α)) (k : String) :
    (insertEntry key value es).lookup k = if k = key then some value else es.lookup k := by
  induction es with
  | nil => rw [insertEntry, lookup_cons_eq_ite]
  | cons e es ih =>
    rw [insertEntry]
    split
    · rw [lookup_cons_eq_ite]
    · split
      · rename_i heq
        simp only [lookup_cons_eq_ite, heq]
        split <;> rfl
      · rename_i hne
        rw [lookup_cons_eq_ite, ih, lookup_cons_eq_ite]
        by_cases h : k = e.1
        · simp [h, Ne.symm hne]
        · simp [h]

@[simp]
theorem get?_put (r : Registry α) (key : String) (value : α) (k : String) :
    (r.put key value).get? k = if k = key then some value else r.get? k :=
  lookup_insertEntry key value r.entries k

theorem lookup_eq_none_of_lt {key : String} {es : List (String × α)}
    (h : ∀ e ∈ es, key < e.1) : es.lookup key = none := by
  induction es with
  | nil => rfl
  | cons e es ih =>
    have hne : key ≠ e.1 := Std.ne_of_lt (h e List.mem_cons_self)
    rw [lookup_cons_eq_ite, if_neg hne, ih fun x hx => h x (List.mem_cons_of_mem _ hx)]

theorem lookup_filter {es : List (String × α)} (h : es.Pairwise fun a b => a.1 < b.1)
    (keep : String → α → Bool) (key : String) :
    (es.filter fun e => keep e.1 e.2).lookup key = (es.lookup key).filter (keep key) := by
  induction es with
  | nil => rfl
  | cons e es ih =>
    have ⟨he, hs⟩ := List.pairwise_cons.1 h
    by_cases hk : key = e.1
    · subst hk
      have hnone : (es.filter fun e => keep e.1 e.2).lookup e.1 = none :=
        lookup_eq_none_of_lt fun x hx => he x (List.mem_filter.1 hx).1
      by_cases hkeep : keep e.1 e.2 <;> simp [lookup_cons_eq_ite, hkeep, hnone, Option.filter]
    · by_cases hkeep : keep e.1 e.2 <;> simp [lookup_cons_eq_ite, hkeep, hk, ih hs]

@[simp]
theorem get?_filter (r : Registry α) (keep : String → α → Bool) (key : String) :
    (r.filter keep).get? key = (r.get? key).filter (keep key) :=
  lookup_filter r.sorted keep key

@[simp]
theorem get?_erase (r : Registry α) (key k : String) :
    (r.erase key).get? k = if k = key then none else r.get? k := by
  rw [erase, get?_filter]
  by_cases h : k = key
  · simp [h]
  · rw [if_neg h]
    cases r.get? k <;> simp [h]

theorem lookup_eq_some_of_mem {es : List (String × α)} (h : es.Pairwise fun a b => a.1 < b.1)
    {e : String × α} (he : e ∈ es) : es.lookup e.1 = some e.2 := by
  induction es with
  | nil => cases he
  | cons x es ih =>
    have ⟨hx, hs⟩ := List.pairwise_cons.1 h
    rw [lookup_cons_eq_ite]
    rcases List.mem_cons.1 he with rfl | he
    · rw [if_pos rfl]
    · rw [if_neg (Std.ne_of_lt (hx e he)).symm, ih hs he]

theorem exists_get?_of_mem_values {r : Registry α} {value : α} (h : value ∈ r.values) :
    ∃ key, r.get? key = some value := by
  obtain ⟨e, he, rfl⟩ := List.mem_map.1 h
  exact ⟨e.1, lookup_eq_some_of_mem r.sorted he⟩

theorem mem_values_of_get? {r : Registry α} {key : String} {value : α}
    (h : r.get? key = some value) : value ∈ r.values := by
  obtain ⟨before, after, hentries, -⟩ := List.lookup_eq_some_iff.1 h
  rw [values, hentries, List.map_append]
  exact List.mem_append_right _ List.mem_cons_self

end Registry

end CoordinatorGateway
