/-! # Tables

    Finite maps kept as lists in strictly increasing order of their keys.  Each map has
    exactly one such list, so two tables that answer every look-up alike are equal, and
    going through a table never depends on the order in which it was filled.
-/

namespace ActionPriority

variable {κ : Type u} {α : Type v}

/-- A finite map from ordered keys. -/
structure Table (κ : Type u) (α : Type v) [Ord κ] where
  /-- The keys with their values, in increasing order of the keys. -/
  entries : List (κ × α)
  /-- No key comes twice, and each comes after the smaller ones. -/
  sorted : entries.Pairwise fun a b => compare a.1 b.1 = .lt

namespace Table

/-! ### Lists of entries -/

/-- The list with the value of `k` set to `v`, `k` coming before the first greater key. -/
def insertEntry [Ord κ] (k : κ) (v : α) : List (κ × α) → List (κ × α)
  | [] => [(k, v)]
  | e :: rest =>
    match compare k e.1 with
    | .lt => (k, v) :: e :: rest
    | .eq => (k, v) :: rest
    | .gt => e :: insertEntry k v rest

/-- The value of `k` in the list. -/
def findEntry [Ord κ] (k : κ) : List (κ × α) → Option α
  | [] => none
  | e :: rest => if compare k e.1 = .eq then some e.2 else findEntry k rest

theorem mem_insertEntry [Ord κ] {k : κ} {v : α} {x : κ × α} {l : List (κ × α)}
    (h : x ∈ insertEntry k v l) : x = (k, v) ∨ x ∈ l := by
  induction l with
  | nil => simpa [insertEntry] using h
  | cons e rest ih =>
    simp only [insertEntry] at h
    split at h
    · simpa using h
    · rcases List.mem_cons.mp h with h | h
      · exact Or.inl h
      · exact Or.inr (List.mem_cons_of_mem _ h)
    · rcases List.mem_cons.mp h with h | h
      · exact Or.inr (h ▸ List.mem_cons_self)
      · exact (ih h).imp_right (List.mem_cons_of_mem _)

theorem insertEntry_sorted [Ord κ] [Std.TransOrd κ] (k : κ) (v : α) {l : List (κ × α)}
    (h : l.Pairwise fun a b => compare a.1 b.1 = .lt) :
    (insertEntry k v l).Pairwise fun a b => compare a.1 b.1 = .lt := by
  induction l with
  | nil => simp [insertEntry]
  | cons e rest ih =>
    obtain ⟨hhead, hrest⟩ := List.pairwise_cons.mp h
    simp only [insertEntry]
    split
    · rename_i hlt
      refine List.pairwise_cons.mpr ⟨?_, h⟩
      intro x hx
      rcases List.mem_cons.mp hx with rfl | hx
      · exact hlt
      · exact Std.TransCmp.lt_trans hlt (hhead x hx)
    · rename_i heq
      refine List.pairwise_cons.mpr ⟨?_, hrest⟩
      intro x hx
      exact Std.TransCmp.lt_of_eq_of_lt heq (hhead x hx)
    · rename_i hgt
      refine List.pairwise_cons.mpr ⟨?_, ih hrest⟩
      intro x hx
      rcases mem_insertEntry hx with rfl | hx
      · exact Std.OrientedCmp.gt_iff_lt.mp hgt
      · exact hhead x hx

/-! ### The operations -/

variable [Ord κ]

/-- The table without keys. -/
def empty : Table κ α := ⟨[], List.Pairwise.nil⟩

instance : Inhabited (Table κ α) := ⟨empty⟩

/-- The value of `k`, if it has one. -/
def find? (t : Table κ α) (k : κ) : Option α := findEntry k t.entries

/-- The table in which `k` has the value `v`. -/
def insert [Std.TransOrd κ] (t : Table κ α) (k : κ) (v : α) : Table κ α :=
  ⟨insertEntry k v t.entries, insertEntry_sorted k v t.sorted⟩

/-- The table in which every value is replaced by what `f` makes of it and its key. -/
def mapValues (t : Table κ α) (f : κ → α → α) : Table κ α :=
  ⟨t.entries.map fun e => (e.1, f e.1 e.2), t.sorted.map _ fun _ _ h => h⟩

/-- The values in increasing order of their keys. -/
def values (t : Table κ α) : List α := t.entries.map Prod.snd

/-! ### Look-ups -/

@[ext]
theorem ext {s t : Table κ α} (h : s.entries = t.entries) : s = t := by
  cases s; cases t; cases h; rfl

@[simp] theorem find?_empty (k : κ) : (empty : Table κ α).find? k = none := rfl

theorem findEntry_insertEntry [DecidableEq κ] [Std.TransOrd κ] [Std.LawfulEqOrd κ]
    (k k' : κ) (v : α) (l : List (κ × α)) :
    findEntry k' (insertEntry k v l) = if k' = k then some v else findEntry k' l := by
  induction l with
  | nil => simp [insertEntry, findEntry]
  | cons e rest ih =>
    simp only [insertEntry]
    split
    · simp [findEntry]
    · rename_i heq
      have hk : k = e.1 := Std.LawfulEqCmp.compare_eq_iff_eq.mp heq
      by_cases h : k' = k
      · simp [findEntry, h]
      · simp [findEntry, h, ← hk]
    · rename_i hgt
      have hk : k ≠ e.1 := by
        intro he
        rw [he, Std.ReflOrd.compare_self] at hgt
        cases hgt
      simp only [findEntry, ih]
      by_cases h : k' = e.1
      · have : ¬ e.1 = k := fun he => hk he.symm
        simp [h, this]
      · simp [h]

/-- Setting the value of one key changes the answer for that key only. -/
theorem find?_insert [DecidableEq κ] [Std.TransOrd κ] [Std.LawfulEqOrd κ]
    (t : Table κ α) (k k' : κ) (v : α) :
    (t.insert k v).find? k' = if k' = k then some v else t.find? k' :=
  findEntry_insertEntry k k' v t.entries

theorem findEntry_map [Std.LawfulEqOrd κ] (f : κ → α → α) (k : κ) (l : List (κ × α)) :
    findEntry k (l.map fun e => (e.1, f e.1 e.2)) = (findEntry k l).map (f k) := by
  induction l with
  | nil => rfl
  | cons e rest ih =>
    simp only [List.map_cons, findEntry]
    split
    · next heq => rw [Std.LawfulEqCmp.compare_eq_iff_eq.mp heq, Option.map_some]
    · exact ih

/-- Replacing the values replaces the answers. -/
theorem find?_mapValues [Std.LawfulEqOrd κ] (t : Table κ α) (f : κ → α → α) (k : κ) :
    (t.mapValues f).find? k = (t.find? k).map (f k) :=
  findEntry_map f k t.entries

theorem findEntry_of_mem [Std.TransOrd κ] {k : κ} {v : α} {l : List (κ × α)}
    (hl : l.Pairwise fun a b => compare a.1 b.1 = .lt) (h : (k, v) ∈ l) :
    findEntry k l = some v := by
  induction l with
  | nil => cases h
  | cons e rest ih =>
    obtain ⟨hhead, hrest⟩ := List.pairwise_cons.mp hl
    rcases List.mem_cons.mp h with rfl | h
    · simp [findEntry]
    · have hlt : compare e.1 k = .lt := hhead _ h
      have hgt : compare k e.1 = .gt := Std.OrientedCmp.gt_iff_lt.mpr hlt
      simp [findEntry, hgt, ih hrest h]

/-- A table answers with its entries. -/
theorem find?_of_mem [Std.TransOrd κ] {t : Table κ α} {k : κ} {v : α} (h : (k, v) ∈ t.entries) :
    t.find? k = some v :=
  findEntry_of_mem t.sorted h

theorem mem_of_findEntry [Std.LawfulEqOrd κ] {k : κ} {v : α} {l : List (κ × α)}
    (h : findEntry k l = some v) : (k, v) ∈ l := by
  induction l with
  | nil => cases h
  | cons e rest ih =>
    rw [findEntry] at h
    split at h
    · next heq =>
      obtain rfl := Std.LawfulEqCmp.compare_eq_iff_eq.mp heq
      cases h
      exact List.mem_cons_self
    · exact List.mem_cons_of_mem _ (ih h)

/-- What a table answers with is one of its entries. -/
theorem mem_of_find? [Std.LawfulEqOrd κ] {t : Table κ α} {k : κ} {v : α}
    (h : t.find? k = some v) : (k, v) ∈ t.entries :=
  mem_of_findEntry h

end Table

end ActionPriority
