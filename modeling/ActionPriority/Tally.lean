/-! # Tallies

    The tally of a list is the sum of a number for each of its members.  It serves as a
    measure of work: it shrinks when the number of one member does and that of no other
    grows (`tally_lt`, `tally_modify_lt`).  It also serves to count what is short: it grows by
    no more than the number of one member if no other grows (`tally_le_add`).
-/

namespace ActionPriority

/-- The sum of the numbers of all members of a list. -/
def tally {α : Type} (f : α → Nat) : List α → Nat
  | [] => 0
  | x :: rest => f x + tally f rest

section Tally

variable {α : Type} {f g : α → Nat} {l : List α}

/-- A tally does not grow when none of its numbers does. -/
theorem tally_le (hle : ∀ x ∈ l, f x ≤ g x) : tally f l ≤ tally g l := by
  induction l with
  | nil => exact Nat.le_refl 0
  | cons a rest ih =>
    have ha := hle a List.mem_cons_self
    have hrest := ih fun x hx => hle x (List.mem_cons_of_mem _ hx)
    simp only [tally]
    omega

theorem tally_congr (h : ∀ x ∈ l, f x = g x) : tally f l = tally g l :=
  Nat.le_antisymm (tally_le fun x hx => Nat.le_of_eq (h x hx))
    (tally_le fun x hx => Nat.le_of_eq (h x hx).symm)

/-- The number of each member is part of the tally. -/
theorem le_tally {a : α} (ha : a ∈ l) : f a ≤ tally f l := by
  induction l with
  | nil => cases ha
  | cons b rest ih =>
    simp only [tally]
    rcases List.mem_cons.mp ha with rfl | ha
    · omega
    · have := ih ha
      omega

/-- If one number is greater by `d` and all others are the same, so is the tally. -/
theorem tally_eq_add {a : α} {d : Nat} (hnodup : l.Nodup) (ha : a ∈ l) (hmore : f a = g a + d)
    (hothers : ∀ x ∈ l, x ≠ a → f x = g x) : tally f l = tally g l + d := by
  induction l with
  | nil => cases ha
  | cons b rest ih =>
    obtain ⟨hhead, hrest⟩ := List.nodup_cons.mp hnodup
    simp only [tally]
    rcases List.mem_cons.mp ha with rfl | ha
    · have hsame : tally f rest = tally g rest := by
        apply tally_congr
        intro x hx
        have hxa : x ≠ a := fun h => hhead (h ▸ hx)
        exact hothers x (List.mem_cons_of_mem _ hx) hxa
      omega
    · have hba : b ≠ a := fun h => hhead (h.symm ▸ ha)
      have hb := hothers b List.mem_cons_self hba
      have htail := ih hrest ha fun x hx => hothers x (List.mem_cons_of_mem _ hx)
      omega

/-- A tally grows by no more than the one of its numbers that does. -/
theorem tally_le_add [DecidableEq α] {a : α} {d : Nat} (hnodup : l.Nodup)
    (hle : ∀ x ∈ l, f x ≤ g x + (if x = a then d else 0)) : tally f l ≤ tally g l + d := by
  induction l with
  | nil => exact Nat.zero_le _
  | cons b rest ih =>
    obtain ⟨hhead, hrest⟩ := List.nodup_cons.mp hnodup
    have hb := hle b List.mem_cons_self
    have htail := fun x hx => hle x (List.mem_cons_of_mem b hx)
    simp only [tally]
    by_cases hba : b = a
    · -- It is the head that grows, and nothing in the rest does.
      have hothers : tally f rest ≤ tally g rest := by
        apply tally_le
        intro x hx
        have hxa : x ≠ a := fun h => hhead (hba.trans h.symm ▸ hx)
        have hx := htail x hx
        rw [if_neg hxa] at hx
        exact hx
      rw [if_pos hba] at hb
      omega
    · have := ih hrest htail
      rw [if_neg hba] at hb
      omega

/-- A tally shrinks when one of its numbers does and no other grows. -/
theorem tally_lt (hle : ∀ x ∈ l, f x ≤ g x) (hlt : ∃ x ∈ l, f x < g x) :
    tally f l < tally g l := by
  induction l with
  | nil =>
    obtain ⟨x, hx, _⟩ := hlt
    cases hx
  | cons a rest ih =>
    have ha := hle a List.mem_cons_self
    have hrest : ∀ x ∈ rest, f x ≤ g x := fun x hx => hle x (List.mem_cons_of_mem _ hx)
    have htally := tally_le hrest
    simp only [tally]
    obtain ⟨x, hx, hlt⟩ := hlt
    rcases List.mem_cons.mp hx with rfl | hx
    · omega
    · have := ih hrest ⟨x, hx, hlt⟩
      omega

/-- The tally of mapped members counts each by what it is mapped to. -/
theorem tally_map {β : Type} (h : β → α) (l : List β) :
    tally f (l.map h) = tally (fun x => f (h x)) l := by
  induction l with
  | nil => rfl
  | cons b rest ih => simp only [List.map_cons, tally, ih]

/-- A tally shrinks when the member at one place is changed to one of a smaller number. -/
theorem tally_modify_lt {h : α → α} {i : Nat} {a : α} (hi : l[i]? = some a)
    (hlt : f (h a) < f a) : tally f (l.modify i h) < tally f l := by
  induction l generalizing i with
  | nil => simp at hi
  | cons b rest ih =>
    cases i with
    | zero =>
      obtain rfl : b = a := by simpa using hi
      simp only [List.modify_zero_cons, tally]
      omega
    | succ i =>
      have := ih (by simpa using hi)
      simp only [List.modify_succ_cons, tally]
      omega

end Tally

end ActionPriority
