import ActionPriority.Proofs.PriorityList.Lockstep

/-! # Inert Entries

    An entry that is hidden, or does not compile, keeps its place in a rotation but takes no
    part.  Without such entries a list is shorter (`PriorityList.reduced`), and its rotation has
    the same entries at work at other places (`PriorityList.places`).  Each entry compiles on its
    own, so it compiles to the same in both lists, and the two rotations go in pairs
    (`Rotation.Compiles.matches_reduced`).  So trials go alongside with inert entries and without
    (`PriorityList.reduced_alongside`).
-/

namespace ActionPriority

/-- Does the entry take part?  It does if it is not hidden and compiles. -/
def Scope.takesPart (s : Scope) (spec : EntrySpec) : Bool :=
  !spec.hidden && (s.compileEntry spec).result.isSome

/-- What an entry compiles to is made of what its condition and its action compile to. -/
theorem Scope.result_compileEntry (s : Scope) (spec : EntrySpec) :
    (s.compileEntry spec).result =
      if spec.hidden then none
      else (s.compileCondition spec.condition).result.bind fun condition =>
        (s.compileAction spec.action).result.map fun action => ⟨spec.id, condition, action⟩ := by
  unfold compileEntry
  split
  · rfl
  · dsimp only
    cases (s.compileCondition spec.condition).result <;>
      cases (s.compileAction spec.action).result <;> rfl

/-- A hidden entry does not compile to anything. -/
theorem Scope.takesPart_eq (s : Scope) (spec : EntrySpec) :
    s.takesPart spec = (s.compileEntry spec).result.isSome := by
  unfold takesPart compileEntry
  split
  · next hhidden =>
    rw [hhidden]
    rfl
  · next hshown =>
    rw [Bool.not_eq_true] at hshown
    rw [hshown]
    rfl

namespace PriorityList

/-- The entries that take part, with their places. -/
def kept (list : PriorityList) (s : Scope) : List (EntrySpec × Nat) :=
  list.entries.zipIdx.filter fun x => s.takesPart x.1

/-- The list with only the entries that take part. -/
def reduced (list : PriorityList) (s : Scope) : PriorityList := ⟨list.entries.filter s.takesPart⟩

/-- The places of the entries that take part. -/
def places (list : PriorityList) (s : Scope) : List Nat := (list.kept s).map Prod.snd

theorem entries_reduced (list : PriorityList) (s : Scope) :
    (list.reduced s).entries = (list.kept s).map Prod.fst := by
  have hentries : list.entries = list.entries.zipIdx.map Prod.fst := (List.zipIdx_map_fst ..).symm
  rw [reduced, kept]
  conv_lhs => rw [hentries]
  exact List.filter_map

/-- The places come in order. -/
theorem pairwise_places (list : PriorityList) (s : Scope) :
    (list.places s).Pairwise (· < ·) :=
  List.pairwise_map.mpr ((pairwise_zipIdx list.entries).filter _)

/-- At these places the list has the entries of the reduced one. -/
theorem getElem?_places (list : PriorityList) (s : Scope) :
    (list.places s).map (list.entries[·]?) = (list.reduced s).entries.map some := by
  rw [places, entries_reduced, List.map_map, List.map_map]
  refine List.map_congr_left ?_
  rintro ⟨spec, i⟩ hx
  exact List.mem_zipIdx_iff_getElem?.mp (List.mem_filter.mp hx).1

/-- The entries that take part are, in turn, those of the reduced list, and `places` tells where
    each of them has stood. -/
theorem kept_pairs (list : PriorityList) (s : Scope) :
    List.Forall₂ (fun x y => x.1 = y.1 ∧ (list.places s)[y.2]? = some x.2) (list.kept s)
      (list.reduced s).entries.zipIdx := by
  have hkept : list.kept s = (list.kept s).zipIdx.map Prod.fst := (List.zipIdx_map_fst ..).symm
  rw [entries_reduced, List.zipIdx_map]
  conv => arg 2; rw [hkept]
  rw [List.forall₂_map_left_iff, List.forall₂_map_right_iff, List.forall₂_same]
  rintro ⟨x, j⟩ hx
  refine ⟨rfl, ?_⟩
  show ((list.kept s).map Prod.snd)[j]? = some x.2
  rw [List.getElem?_map, List.mem_zipIdx_iff_getElem?.mp hx]
  rfl

end PriorityList

/-! ### What is at work -/

/-- What an entry at a place comes to in a rotation. -/
def Scope.compileAt (s : Scope) (x : EntrySpec × Nat) : Option (Nat × Entry) :=
  (s.compileEntry x.1).result.map fun entry => (x.2, entry)

/-- The rotation has the list, compiled entry by entry. -/
def Rotation.Compiles (r : Rotation) (s : Scope) (list : PriorityList) : Prop :=
  r.entries = list.entries.map fun spec => (s.compileEntry spec).result

namespace Rotation.Compiles

variable {r r' : Rotation} {s : Scope} {list : PriorityList}

theorem active_eq (h : r.Compiles s list) :
    r.active = list.entries.zipIdx.filterMap s.compileAt := by
  rw [active, h, List.zipIdx_map, List.filterMap_map]
  rfl

/-- Entries that take no part are not at work. -/
theorem active_eq_kept (h : r.Compiles s list) :
    r.active = (list.kept s).filterMap s.compileAt := by
  rw [h.active_eq, PriorityList.kept, List.filterMap_filter]
  refine List.filterMap_congr ?_
  rintro x _
  split
  · rfl
  · next hout =>
    -- An entry that takes no part has compiled to nothing.
    rw [s.takesPart_eq, Bool.not_eq_true, Option.isSome_eq_false_iff, Option.isNone_iff_eq_none]
      at hout
    rw [Scope.compileAt, hout]
    rfl

/-- With inert entries and without, the same entries are at work. -/
theorem matches_reduced (h : r.Compiles s list) (h' : r'.Compiles s (list.reduced s))
    (hwait : r.waitUntil = r'.waitUntil) :
    r.Matches (fun _ => True) (fun i j => (list.places s)[j]? = some i) r' := by
  refine ⟨?_, hwait⟩
  rw [h.active_eq_kept, h'.active_eq]
  refine List.rel_filterMap ?_ (list.kept_pairs s)
  rintro ⟨spec, i⟩ ⟨_, j⟩ ⟨rfl, hplace⟩
  -- It is the same entry that compiles at both places, and nothing else is looked at.
  unfold Scope.compileAt
  cases (s.compileEntry spec).result with
  | none => exact .none
  | some entry => exact .some ⟨hplace, .refl entry⟩

end Rotation.Compiles

/-! ### Trials -/

/-- What a list compiles to is made of what its entries compile to, one by one. -/
theorem Rotation.compile_eq {e : Encounter} {caster : CombatantId} {c : Combatant}
    (h : e.combatant? caster = some c) (list : PriorityList) (catalog : Catalog) :
    compile list e caster catalog =
      .ok ({ caster, entries := list.entries.map fun spec =>
          ((Scope.of e caster catalog).compileEntry spec).result },
        ⟨list.entries.flatMap (Scope.of e caster catalog).entryMessages⟩) := by
  rw [compile, h]

/-- For an existing caster a list compiles, whatever is in it. -/
theorem Rotation.compile_eq_ok {e : Encounter} {caster : CombatantId} {c : Combatant}
    (h : e.combatant? caster = some c) (list : PriorityList) (catalog : Catalog) :
    ∃ r messages, Rotation.compile list e caster catalog = .ok (r, messages) ∧
      r.Compiles (Scope.of e caster catalog) list ∧ r.waitUntil = none :=
  ⟨_, _, compile_eq h list catalog, rfl, rfl⟩

/-- A trial with the list and one with only its entries that take part go alongside: the same
    entries act at the same instants, and everything comes to the same.  What is executed at
    place `j` of the reduced list is at the place of the list that `places` has there. -/
theorem PriorityList.reduced_alongside (list : PriorityList) {e : Encounter}
    {caster : CombatantId} {c : Combatant} (catalog : Catalog)
    (h : e.combatant? caster = some c) :
    let s := Scope.of e caster catalog
    (list.places s).Pairwise (· < ·) ∧
      (list.places s).map (list.entries[·]?) = (list.reduced s).entries.map some ∧
      ∃ r r' messages messages', Rotation.compile list e caster catalog = .ok (r, messages) ∧
        Rotation.compile (list.reduced s) e caster catalog = .ok (r', messages') ∧
        Trial.Alongside (fun i j => (list.places s)[j]? = some i)
          { rotation := r, encounter := e } { rotation := r', encounter := e } := by
  intro s
  obtain ⟨r, messages, hcompile, hr, hwait⟩ := Rotation.compile_eq_ok h list catalog
  obtain ⟨r', messages', hcompile', hr', hwait'⟩ :=
    Rotation.compile_eq_ok h (list.reduced s) catalog
  have hmatches := hr.matches_reduced hr' (hwait.trans hwait'.symm)
  refine ⟨list.pairwise_places s, list.getElem?_places s, r, r', messages, messages', hcompile,
    hcompile', ?_⟩
  exact Trial.Matches.alongside ⟨hmatches, rfl, rfl⟩ (fun _ _ _ _ => trivial) trivial

/-- A list for the knight of the duel.  Of its entries one is hidden, one asks for a target that
    is not there, and one casts the plague. -/
def plagueList : PriorityList where
  entries := [
    { hidden := true, action := .cast Encounter.plague.id .currentTarget },
    { action := .cast Encounter.plague.id (.place 7) },
    { action := .cast Encounter.plague.id .currentTarget }]

/-- The entry that casts the plague acts as it does in a list of its own. -/
theorem reduced_alongside_plague :
    ∃ c, Encounter.duel.combatant? ⟨1⟩ = some c ∧
      ∃ r r' messages messages',
        Rotation.compile plagueList Encounter.duel ⟨1⟩ .standard = .ok (r, messages) ∧
        Rotation.compile (plagueList.reduced (.of Encounter.duel ⟨1⟩ .standard)) Encounter.duel ⟨1⟩
          .standard = .ok (r', messages') ∧
        Trial.Alongside (fun i j => [2][j]? = some i) { rotation := r, encounter := Encounter.duel }
          { rotation := r', encounter := Encounter.duel } := by
  have hplaces : plagueList.places (.of Encounter.duel ⟨1⟩ .standard) = [2] := by decide
  have hknight : ∃ c, Encounter.duel.combatant? ⟨1⟩ = some c := ⟨_, rfl⟩
  obtain ⟨c, hc⟩ := hknight
  obtain ⟨_, _, r, r', messages, messages', hcompile, hcompile', halongside⟩ :=
    plagueList.reduced_alongside .standard hc
  refine ⟨c, hc, r, r', messages, messages', hcompile, hcompile', ?_⟩
  rw [hplaces] at halongside
  exact halongside

end ActionPriority
