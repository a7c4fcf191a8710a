import Mathlib.Data.List.Forall2
import Mathlib.Data.List.Perm.Basic

/-! # Lists with One Member Changed

    Combatants are kept in a list, and so are the effects of each of them.  An operation changes
    one member, and these lemmas say what that makes of something computed from the whole list.
-/

namespace ActionPriority

variable {α β : Type}

/-! ### Changes at one place -/

/-- A change that leaves every member alone leaves the list alone. -/
theorem map_eq_self {l : List α} {f : α → α} (h : ∀ x ∈ l, f x = x) : l.map f = l :=
  (List.map_congr_left h).trans (List.map_id l)

/-- Two changes that agree on the member at the place are the same change. -/
theorem modify_congr_of_eq {l : List α} {i : Nat} {a : α} {f g : α → α} (hi : l[i]? = some a)
    (h : f a = g a) : l.modify i f = l.modify i g := by
  apply List.ext_getElem?
  intro j
  rw [List.getElem?_modify, List.getElem?_modify]
  split
  · next hj =>
    rw [← hj, hi]
    exact congrArg some h
  · rfl

/-- The place after a list is that of what is put behind it. -/
theorem modify_append_length (l : List α) (a : α) (f : α → α) :
    (l ++ [a]).modify l.length f = l ++ [f a] := by
  induction l with
  | nil => rfl
  | cons x rest ih => rw [List.cons_append, List.length_cons, List.modify_succ_cons, ih]; rfl

/-- A change that `g` does not see is lost in what `g` makes of the list. -/
theorem map_modify_of_eq {l : List α} {i : Nat} {c : α} {g : α → β} {h : α → α}
    (hi : l[i]? = some c) (hc : g (h c) = g c) : (l.modify i h).map g = l.map g := by
  induction l generalizing i with
  | nil => cases hi
  | cons x rest ih =>
    cases i with
    | zero =>
      obtain rfl : x = c := by simpa using hi
      simp only [List.modify_zero_cons, List.map_cons, hc]
    | succ i => simp only [List.modify_succ_cons, List.map_cons, ih (by simpa using hi)]

/-! ### What members yield -/

/-- If one member yields `b` besides what it yields once it is changed, so does the list. -/
theorem perm_flatMap_map {l : List α} {a : α} {b : β} {f : α → List β} {h : α → α}
    (hnodup : l.Nodup) (ha : a ∈ l) (hothers : ∀ x ∈ l, x ≠ a → h x = x)
    (hab : (f a).Perm (b :: f (h a))) : (l.flatMap f).Perm (b :: (l.map h).flatMap f) := by
  induction l with
  | nil => cases ha
  | cons x rest ih =>
    obtain ⟨hx, hrest⟩ := List.nodup_cons.mp hnodup
    simp only [List.map_cons, List.flatMap_cons]
    rcases List.mem_cons.mp ha with rfl | ha
    · -- The head is the member that changes, and no other is.
      have hsame : rest.map h = rest := by
        apply map_eq_self
        intro y hy
        refine hothers y (List.mem_cons_of_mem _ hy) ?_
        rintro rfl
        exact hx hy
      rw [hsame]
      exact hab.append_right _
    · -- The member is further down, and the head stays as it is.
      have hne : x ≠ a := by
        rintro rfl
        exact hx ha
      have hkeep : ∀ y ∈ rest, y ≠ a → h y = y := by
        intro y hy
        exact hothers y (List.mem_cons_of_mem _ hy)
      rw [hothers x List.mem_cons_self hne]
      exact ((ih hrest ha hkeep).append_left (f x)).trans List.perm_middle

/-- The same where the member is told by its place, and yields what it does there. -/
theorem perm_flatMap_modify {l : List α} {i k : Nat} {c : α} {b : β} {f : α × Nat → List β}
    {h : α → α} (hi : l[i]? = some c) (hc : (f (c, k + i)).Perm (b :: f (h c, k + i))) :
    ((l.zipIdx k).flatMap f).Perm (b :: ((l.modify i h).zipIdx k).flatMap f) := by
  induction l generalizing i k with
  | nil => cases hi
  | cons x rest ih =>
    cases i with
    | zero =>
      obtain rfl : x = c := by simpa using hi
      simp only [List.modify_zero_cons, List.zipIdx_cons, List.flatMap_cons]
      exact hc.append_right _
    | succ i =>
      simp only [List.modify_succ_cons, List.zipIdx_cons, List.flatMap_cons]
      have hplace : k + (i + 1) = k + 1 + i := by omega
      have htail := ih (k := k + 1) (by simpa using hi) (hplace ▸ hc)
      exact (htail.append_left (f (x, k))).trans List.perm_middle

/-- The places of a list come in order. -/
theorem pairwise_zipIdx (l : List α) : l.zipIdx.Pairwise fun a b => a.2 < b.2 := by
  have hplaces : (l.zipIdx.map Prod.snd).Pairwise (· < ·) := by
    rw [List.zipIdx_map_snd]
    exact List.pairwise_lt_range'
  exact List.pairwise_map.mp hplaces

/-! ### Members in order -/

/-- In a list in the order of a key, what is found first is the least member that passes. -/
theorem find?_eq_some_iff_of_pairwise {l : List α} {p : α → Bool} {key : α → Nat}
    (hl : l.Pairwise fun a b => key a < key b) {a : α} :
    l.find? p = some a ↔ a ∈ l ∧ p a = true ∧ ∀ b ∈ l, key b < key a → p b = false := by
  induction l with
  | nil => simp
  | cons x rest ih =>
    obtain ⟨hhead, hrest⟩ := List.pairwise_cons.mp hl
    rw [List.find?_cons]
    cases hx : p x with
    | true =>
      constructor
      · intro h
        cases h
        refine ⟨List.mem_cons_self, hx, fun b hb hlt => ?_⟩
        -- The head comes before everything else.
        rcases List.mem_cons.mp hb with rfl | hb
        · exact absurd hlt (Nat.lt_irrefl _)
        · exact absurd hlt (Nat.lt_asymm (hhead b hb))
      · rintro ⟨ha, _, hleast⟩
        rcases List.mem_cons.mp ha with rfl | ha
        · rfl
        · rw [hleast x List.mem_cons_self (hhead a ha)] at hx
          cases hx
    | false =>
      dsimp only
      rw [ih hrest]
      constructor
      · rintro ⟨ha, hpass, hleast⟩
        refine ⟨List.mem_cons_of_mem _ ha, hpass, fun b hb hlt => ?_⟩
        rcases List.mem_cons.mp hb with rfl | hb
        · exact hx
        · exact hleast b hb hlt
      · rintro ⟨ha, hpass, hleast⟩
        rcases List.mem_cons.mp ha with rfl | ha
        · rw [hx] at hpass
          cases hpass
        · exact ⟨ha, hpass, fun b hb => hleast b (List.mem_cons_of_mem _ hb)⟩

/-! ### Members that may fail -/

/-- A list goes through if each of its members does, and then has their results. -/
theorem mapM_eq_some_iff {f : α → Option β} {l : List α} {results : List β} :
    l.mapM f = some results ↔ l.map f = results.map some := by
  induction l generalizing results with
  | nil => cases results <;> simp
  | cons x rest ih =>
    rw [List.mapM_cons]
    cases results with
    | nil => simp [Option.bind_eq_some_iff]
    | cons b bs => simp [← ih, Option.bind_eq_some_iff]

theorem isSome_mapM {f : α → Option β} {l : List α} :
    (l.mapM f).isSome = true ↔ ∀ x ∈ l, (f x).isSome = true := by
  induction l with
  | nil => exact iff_of_true rfl nofun
  | cons x rest ih =>
    rw [List.forall_mem_cons, ← ih, List.mapM_cons]
    cases f x with
    | none => simp
    | some b => cases rest.mapM f <;> simp

/-- Of two steps that go through, the second goes on with what the first has come to. -/
theorem exists_of_bind_eq_ok {ε : Type} {x : Except ε α} {f : α → Except ε β} {b : β}
    (h : x >>= f = .ok b) : ∃ a, x = .ok a ∧ f a = .ok b := by
  cases x with
  | error cause => cases h
  | ok a => exact ⟨a, rfl, h⟩

/-- The results of a list that goes through are those of its members, one by one. -/
theorem forall₂_of_mapM_eq_ok {ε : Type} {f : α → Except ε β} {r : α → β → Prop} {l : List α}
    {results : List β} (hr : ∀ a b, f a = .ok b → r a b) (h : l.mapM f = .ok results) :
    List.Forall₂ r l results := by
  induction l generalizing results with
  | nil =>
    cases h
    exact .nil
  | cons x rest ih =>
    rw [List.mapM_cons] at h
    obtain ⟨b, hb, h⟩ := exists_of_bind_eq_ok h
    obtain ⟨bs, hbs, h⟩ := exists_of_bind_eq_ok h
    cases h
    exact .cons (hr x b hb) (ih hbs)

/-- The same of an option, which is a list of at most one member. -/
theorem rel_of_mapM_eq_ok {ε : Type} {f : α → Except ε β} {r : α → β → Prop} {o : Option α}
    {result : Option β} (hr : ∀ a b, f a = .ok b → r a b) (h : o.mapM f = .ok result) :
    Option.Rel r o result := by
  cases o with
  | none =>
    cases h
    exact .none
  | some a =>
    obtain ⟨b, hb, h⟩ := exists_of_bind_eq_ok h
    cases h
    exact .some (hr a b hb)

/-! ### Lists in pairs -/

/-- Lists whose pairs have the same keys have the same keys. -/
theorem map_eq_of_forall₂ {κ : Type} {r : α → β → Prop} {l : List α} {l' : List β} {key : α → κ}
    {key' : β → κ} (h : List.Forall₂ r l l') (hkey : ∀ x y, r x y → key' y = key x) :
    l'.map key' = l.map key := by
  induction h with
  | nil => rfl
  | cons hxy _ ih => rw [List.map_cons, List.map_cons, hkey _ _ hxy, ih]

/-- Where tests agree on pairs, the first to pass in one list is paired with the first to pass in
    the other. -/
theorem rel_find? {r : α → β → Prop} {l : List α} {l' : List β} {p : α → Bool} {q : β → Bool}
    (h : List.Forall₂ r l l') (hpq : ∀ x y, r x y → p x = q y) :
    Option.Rel r (l.find? p) (l'.find? q) := by
  induction h with
  | nil => exact .none
  | @cons x y _ _ hxy _ ih =>
    rw [List.find?_cons, List.find?_cons, hpq x y hxy]
    split
    · exact .some hxy
    · exact ih

end ActionPriority
