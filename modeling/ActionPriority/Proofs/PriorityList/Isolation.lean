import ActionPriority.Proofs.Condition.Recording
import ActionPriority.Proofs.PriorityList.Warnings

/-! # Entries in Isolation

    The entries of a list are compiled one after another, and all of them write to one record,
    which stays as an entry has left it until the next one turns to it.  Still every entry is
    compiled as if it were the only one.

    * An entry that is not hidden turns the record to itself before anything else, so nothing it
      writes down goes to the entry before it.  A hidden one leaves the record alone
      (`Scope.exec_compileEntryInPlace`).
    * By induction a list writes down the messages of its entries in turn, whatever has been on the
      record before (`Scope.exec_compileEntriesInPlace`).
    * So what an entry compiles to and which messages it gets is told by that entry alone, and
      nothing that is done to the rest of a list changes it (`Rotation.compile_isolated`).
-/

namespace ActionPriority

open Recording (Records)

/-! ### Compiling a list in place -/

/-- From now on messages are attributed to the entry. -/
def Recording.turnTo (entry : Option Uuid) : Recording Unit := modify fun r => { r with entry }

namespace Scope

variable {s : Scope}

/-- Compiles a condition that may be missing, in place. -/
def compileConditionInPlace (s : Scope) : Option Expr → Recording (Option Test)
  | none => return none
  | some x => do
    let test ← asTestInPlace (s.compileInPlace x)
    return some test

/-- Compiles an entry in place.  A hidden one does not even turn the record to itself. -/
def compileEntryInPlace (s : Scope) (spec : EntrySpec) : Recording Entry :=
  if spec.hidden then failure
  else do
    .turnTo spec.id
    let action ← .attempt (.ofChecked (s.compileAction spec.action))
    let condition ← .attempt (s.compileConditionInPlace spec.condition)
    .ofOption do return ⟨spec.id, ← condition, ← action⟩

/-- Compiles the entries of a list in place, leaving the slots of those empty that come to
    nothing. -/
def compileEntriesInPlace (s : Scope) : List EntrySpec → Recording (List (Option Entry))
  | [] => return []
  | spec :: rest => do
    let slot ← .attempt (s.compileEntryInPlace spec)
    let slots ← s.compileEntriesInPlace rest
    return slot :: slots

theorem records_compileCondition (s : Scope) (condition : Option Expr) :
    Records (s.compileConditionInPlace condition) (s.compileCondition condition) := by
  cases condition with
  | none => exact .pure none
  | some x => exact (records_asTest (s.records_compileInPlace x)).bind fun test => .pure (some test)

/-- An entry writes down its own messages under its own name, whichever entry the record was turned
    to.  A hidden one leaves the record as it is. -/
theorem exec_compileEntryInPlace (s : Scope) (spec : EntrySpec) (r : Record) :
    (s.compileEntryInPlace spec).exec r =
      ((s.compileEntry spec).result,
        if spec.hidden then r
        else ⟨spec.id, ⟨r.diagnostics.messages ++ s.entryMessages spec⟩⟩) := by
  by_cases hhidden : spec.hidden = true
  · rw [compileEntryInPlace, compileEntry, if_pos hhidden, if_pos hhidden, if_pos hhidden]
    rfl
  · have haction := Records.ofChecked (s.compileAction spec.action)
    have hcondition := s.records_compileCondition spec.condition
    have hwarnings := warnings_compileEntry_shown (s := s) (Bool.not_eq_true _ ▸ hhidden)
    rw [compileEntryInPlace, if_neg hhidden, if_neg hhidden, entryMessages, hwarnings, compileEntry,
      if_neg hhidden]
    simp only [Recording.turnTo, Recording.exec_bind, Recording.exec_modify,
      Recording.exec_attempt, haction _, hcondition _, Recording.exec_ofOption,
      Record.noting_noting]
    rfl

/-- The entries of a list write down their messages in turn. -/
theorem exec_compileEntriesInPlace (s : Scope) (specs : List EntrySpec) (r : Record) :
    ∃ entry, (s.compileEntriesInPlace specs).exec r =
      (some (specs.map fun spec => (s.compileEntry spec).result),
        ⟨entry, ⟨r.diagnostics.messages ++ specs.flatMap s.entryMessages⟩⟩) := by
  induction specs generalizing r with
  | nil => exact ⟨r.entry, by simp [compileEntriesInPlace]⟩
  | cons spec rest ih =>
    -- What is on the record before the rest, the rest leaves there.
    obtain ⟨entry, hrest⟩ := ih ((s.compileEntryInPlace spec).exec r).2
    refine ⟨entry, ?_⟩
    rw [exec_compileEntryInPlace] at hrest
    simp only [compileEntriesInPlace, Recording.exec_bind, Recording.exec_attempt,
      exec_compileEntryInPlace, hrest, Recording.exec_pure, List.map_cons, List.flatMap_cons]
    split
    · next hhidden => rw [entryMessages_hidden hhidden, List.nil_append]
    · rw [List.append_assoc]

end Scope

/-! ### Isolation -/

namespace Rotation

/-- Whatever the list is, an entry comes to `slot` of it and gets the messages `own` of it. -/
structure Isolated (e : Encounter) (caster : CombatantId) (catalog : Catalog)
    (slot : EntrySpec → Option Entry) (own : EntrySpec → List Message) : Prop where
  /-- That is what the entry comes to in a list of its own. -/
  alone : ∀ spec, ∃ r d, compile ⟨[spec]⟩ e caster catalog = .ok (r, d) ∧ r.entries = [slot spec] ∧
    d.messages = own spec
  /-- Its messages are warnings, and carry its own identifier if it has one. -/
  attributed : ∀ spec, ∀ m ∈ own spec, m.level = .warning ∧ m.entry = spec.id
  hidden : ∀ spec, spec.hidden = true → slot spec = none ∧ own spec = []
  /-- A list has the slots of its entries, and the messages of those that are not hidden. -/
  list : ∀ list : PriorityList, ∃ r d, compile list e caster catalog = .ok (r, d) ∧
    r.entries = list.entries.map slot ∧
      d.messages = (list.entries.filter fun spec => !spec.hidden).flatMap own
  /-- It is the same if all entries write to one record, whatever was on it before. -/
  inPlace : ∀ (list : PriorityList) (before : Record), ∃ entry,
    ((Scope.of e caster catalog).compileEntriesInPlace list.entries).exec before =
      (some (list.entries.map slot), ⟨entry, ⟨before.diagnostics.messages ++
        (list.entries.filter fun spec => !spec.hidden).flatMap own⟩⟩)
  /-- Under an identifier there are the messages of the entries that carry it. -/
  forEntry : ∀ list r d uuid, compile list e caster catalog = .ok (r, d) →
    d.forEntry uuid =
      (list.entries.filter fun spec => !spec.hidden && spec.id = some uuid).flatMap own
  /-- Before an entry and after it other entries may come and go. -/
  among : ∀ before spec after r d, compile ⟨before ++ spec :: after⟩ e caster catalog = .ok (r, d) →
    r.entries[before.length]? = some (slot spec) ∧
      ∃ r₁ d₁ r₂ d₂, compile ⟨before⟩ e caster catalog = .ok (r₁, d₁) ∧
        compile ⟨after⟩ e caster catalog = .ok (r₂, d₂) ∧
        d.messages = d₁.messages ++ own spec ++ d₂.messages
  /-- In another order there are the same slots and messages in another order. -/
  perm : ∀ list list' r r' d d', compile list e caster catalog = .ok (r, d) →
    compile list' e caster catalog = .ok (r', d') → list.entries.Perm list'.entries →
      r.entries.Perm r'.entries ∧ d.messages.Perm d'.messages

variable {e : Encounter} {caster : CombatantId} {c : Combatant} {catalog : Catalog}

/-- Hidden entries add nothing to the messages. -/
theorem flatMap_entryMessages_shown (s : Scope) (specs : List EntrySpec) :
    (specs.filter fun spec => !spec.hidden).flatMap s.entryMessages =
      specs.flatMap s.entryMessages := by
  induction specs with
  | nil => rfl
  | cons spec rest ih =>
    rw [List.filter_cons, List.flatMap_cons]
    cases hhidden : spec.hidden with
    | true =>
      rw [Scope.entryMessages_hidden hhidden]
      exact ih
    | false => exact congrArg (s.entryMessages spec ++ ·) ih

/-- An entry has all of its messages under its own identifier. -/
theorem filter_entryMessages (s : Scope) (spec : EntrySpec) (uuid : Uuid) :
    (s.entryMessages spec).filter (·.entry = some uuid) =
      if spec.id = some uuid then s.entryMessages spec else [] := by
  split
  · next hid =>
    refine List.filter_eq_self.mpr fun m hm => ?_
    rw [(Scope.level_of_mem_entryMessages hm).2, hid]
    exact decide_eq_true rfl
  · next hid =>
    refine List.filter_eq_nil_iff.mpr fun m hm hentry => hid ?_
    rw [← (Scope.level_of_mem_entryMessages hm).2]
    exact of_decide_eq_true hentry

theorem filter_flatMap_entryMessages (s : Scope) (specs : List EntrySpec) (uuid : Uuid) :
    (specs.flatMap s.entryMessages).filter (·.entry = some uuid) =
      (specs.filter fun spec => !spec.hidden && spec.id = some uuid).flatMap s.entryMessages := by
  induction specs with
  | nil => rfl
  | cons spec rest ih =>
    rw [List.flatMap_cons, List.filter_append, ih, filter_entryMessages, List.filter_cons]
    cases hhidden : spec.hidden with
    | true =>
      rw [Scope.entryMessages_hidden hhidden, ite_self]
      rfl
    | false =>
      by_cases hid : spec.id = some uuid
      · simp [hid]
      · simp [hid]

/-- Entries are compiled in isolation.  What a slot holds and which messages are about an entry is
    told by that entry alone, in every list for the same caster. -/
theorem compile_isolated (h : e.combatant? caster = some c) (catalog : Catalog) :
    ∃ slot own, Isolated e caster catalog slot own := by
  let s := Scope.of e caster catalog
  have hcompile : ∀ list, compile list e caster catalog =
      .ok ({ caster, entries := list.entries.map fun spec => (s.compileEntry spec).result },
        ⟨list.entries.flatMap s.entryMessages⟩) := fun list => compile_eq h list catalog
  refine ⟨fun spec => (s.compileEntry spec).result, s.entryMessages, ?_⟩
  constructor
  case alone => exact fun spec => ⟨_, _, hcompile ⟨[spec]⟩, rfl, List.append_nil _⟩
  case attributed => exact fun spec m hm => Scope.level_of_mem_entryMessages hm
  case hidden =>
    intro spec hhidden
    refine ⟨?_, Scope.entryMessages_hidden hhidden⟩
    rw [Scope.compileEntry, if_pos hhidden]
    rfl
  case list =>
    exact fun list => ⟨_, _, hcompile list, rfl, (flatMap_entryMessages_shown s list.entries).symm⟩
  case inPlace =>
    intro list before
    rw [flatMap_entryMessages_shown]
    exact s.exec_compileEntriesInPlace list.entries before
  case forEntry =>
    intro list r d uuid hr
    cases (hcompile list).symm.trans hr
    exact filter_flatMap_entryMessages s list.entries uuid
  case among =>
    intro before spec after r d hr
    cases (hcompile _).symm.trans hr
    refine ⟨?_, _, _, _, _, hcompile ⟨before⟩, hcompile ⟨after⟩, ?_⟩
    · simp
    · simp
  case perm =>
    intro list list' r r' d d' hr hr' hperm
    cases (hcompile list).symm.trans hr
    cases (hcompile list').symm.trans hr'
    exact ⟨hperm.map _, hperm.flatMap_right _⟩

/-- In the plague list one entry is hidden and one is broken, with a message about it.  Neither
    keeps the third from being what it is on its own. -/
theorem compile_isolated_plague :
    ∃ c, Encounter.duel.combatant? ⟨1⟩ = some c ∧
      ∃ slot own r d, Isolated Encounter.duel ⟨1⟩ .standard slot own ∧
        compile plagueList Encounter.duel ⟨1⟩ .standard = .ok (r, d) ∧
        r.entries = plagueList.entries.map slot ∧
        r.entries.map Option.isSome = [false, false, true] ∧ d.messages.length = 1 := by
  have hknight : ∃ c, Encounter.duel.combatant? ⟨1⟩ = some c := ⟨_, rfl⟩
  obtain ⟨c, hc⟩ := hknight
  obtain ⟨slot, own, hisolated⟩ := compile_isolated hc .standard
  obtain ⟨r, d, hcompile, hentries, _⟩ := hisolated.list plagueList
  refine ⟨c, hc, slot, own, r, d, hisolated, hcompile, hentries, ?_⟩
  cases (compile_eq hc plagueList .standard).symm.trans hcompile
  exact ⟨by decide, by decide⟩

end Rotation

end ActionPriority
