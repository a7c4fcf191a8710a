import ActionPriority.Command.Basic
import ActionPriority.Proofs.Condition.Strictness
import ActionPriority.Proofs.PriorityList.InertEntries

/-! # What Warnings Tell

    A list compiles whatever is in it, and what is wrong with it can be seen in the warnings
    alone.

    * An entry that is not hidden gives no warning exactly if it is sound: its action compiles,
      and so does its condition, with nothing in it dropped (`Scope.warnings_compileEntry`).
    * An entry that is not hidden does not fall silent without a warning of its own
      (`Scope.explained_compileEntry`).
    * The warnings of a list are those of its entries, in turn.  So a list without any has sound
      entries alone, and these are the lists that pass a validation (`Rotation.compile_reports`).
-/

namespace ActionPriority

namespace Scope

variable {s : Scope}

/-! ### Actions -/

theorem clear_compileAction (s : Scope) (a : ActionSpec) : (s.compileAction a).Clear := by
  cases a with
  | cast id target =>
    exact (clear_spell id).bind fun _ => (clear_cell target).bind fun _ => .made _
  | wait seconds =>
    rw [compileAction]
    split
    · split
      · exact .failed _
      · exact .made _
    · exact .failed _

/-- The action of the entry compiles, and so does its condition, if it has one, with everything
    in it. -/
structure Sound (s : Scope) (spec : EntrySpec) : Prop where
  action : (s.compileAction spec.action).result.isSome = true
  condition : ∀ x ∈ spec.condition,
    s.StrictlyWellFormed x ∧ (s.compileTest x).result.isSome = true

/-! ### Entries that are not hidden -/

theorem warnings_compileEntry_shown {spec : EntrySpec} (hshown : spec.hidden = false) :
    (s.compileEntry spec).warnings =
      (s.compileAction spec.action).warnings ++ (s.compileCondition spec.condition).warnings := by
  unfold compileEntry
  rw [hshown]
  rfl

/-- An entry that is not hidden needs its condition and its action. -/
theorem isSome_compileEntry_shown {spec : EntrySpec} (hshown : spec.hidden = false) :
    (s.compileEntry spec).result.isSome = true ↔
      (s.compileCondition spec.condition).result.isSome = true ∧
        (s.compileAction spec.action).result.isSome = true := by
  rw [s.result_compileEntry, hshown]
  cases (s.compileCondition spec.condition).result <;>
    cases (s.compileAction spec.action).result <;> simp

section Standard

variable (hs : s.catalog = .standard)

include hs

theorem explained_compileCondition (condition : Option Expr) :
    (s.compileCondition condition).Explained := by
  cases condition with
  | none => exact nofun
  | some x => exact (explained_compileTest hs x).bind fun _ => nofun

theorem warnings_compileCondition (condition : Option Expr) :
    (s.compileCondition condition).warnings = [] ↔
      ∀ x ∈ condition, s.StrictlyWellFormed x ∧ (s.compileTest x).result.isSome = true := by
  cases condition with
  | none => exact iff_of_true rfl nofun
  | some x =>
    have hkeeps : (s.compileCondition (some x)).warnings = (s.compileTest x).warnings :=
      Checked.warnings_map
    rw [hkeeps, warnings_compileTest_eq_nil_iff hs, warnings_compile_eq_nil_iff hs]
    exact ⟨fun h _ hx => Option.some.inj hx ▸ h, fun h => h x rfl⟩

/-- Sound entries are those that compile without a warning. -/
theorem warnings_compileEntry {spec : EntrySpec} (hshown : spec.hidden = false) :
    (s.compileEntry spec).warnings = [] ↔ s.Sound spec := by
  rw [warnings_compileEntry_shown hshown, List.append_eq_nil_iff, warnings_compileCondition hs,
    (s.clear_compileAction spec.action).warnings_eq_nil_iff]
  exact ⟨fun h => ⟨h.1, h.2⟩, fun h => ⟨h.action, h.condition⟩⟩

/-- An entry that does not compile has been warned about, unless it is hidden. -/
theorem explained_compileEntry {spec : EntrySpec} (hshown : spec.hidden = false) :
    (s.compileEntry spec).Explained := by
  intro hnone hnil
  rw [warnings_compileEntry_shown hshown, List.append_eq_nil_iff] at hnil
  -- Without a warning both the condition and the action have a result, and so has the entry.
  have hcondition := (explained_compileCondition hs spec.condition).isSome hnil.2
  have haction := (s.clear_compileAction spec.action).explained.isSome hnil.1
  have hresult := (isSome_compileEntry_shown hshown).mpr ⟨hcondition, haction⟩
  rw [hnone] at hresult
  cases hresult

end Standard

/-! ### Messages -/

theorem entryMessages_eq_nil_iff {spec : EntrySpec} :
    s.entryMessages spec = [] ↔ (s.compileEntry spec).warnings = [] :=
  List.map_eq_nil_iff

theorem entryMessages_hidden {spec : EntrySpec} (hhidden : spec.hidden = true) :
    s.entryMessages spec = [] := by
  rw [entryMessages_eq_nil_iff, compileEntry, if_pos hhidden]
  rfl

/-- Each message that comes up is a warning about the entry. -/
theorem level_of_mem_entryMessages {spec : EntrySpec} {m : Message}
    (hm : m ∈ s.entryMessages spec) : m.level = .warning ∧ m.entry = spec.id := by
  obtain ⟨w, _, rfl⟩ := List.mem_map.mp hm
  exact ⟨rfl, rfl⟩

end Scope

/-! ### Lists -/

/-- What the diagnostics of a compiled list tell about its entries. -/
structure Rotation.Reports (r : Rotation) (d : Diagnostics) (s : Scope) (list : PriorityList) :
    Prop where
  /-- There is no warning exactly if all entries but the hidden ones are sound. -/
  silent : d.warnings = [] ↔ ∀ spec ∈ list.entries, spec.hidden = false → s.Sound spec
  /-- Where an entry is lost that was not hidden, there are warnings about it between those of
      the entries before and those of the entries after it. -/
  lost : ∀ before spec after, list.entries = before ++ spec :: after → spec.hidden = false →
    r.entries[before.length]? = some none →
      ∃ own, own ≠ [] ∧ (∀ m ∈ own, m.level = .warning ∧ m.entry = spec.id) ∧
        d.warnings = before.flatMap s.entryMessages ++ own ++ after.flatMap s.entryMessages

namespace Rotation

/-- The messages of a list are those of its entries, in turn. -/
theorem messages_of_compile {e : Encounter} {caster : CombatantId} {catalog : Catalog}
    {list : PriorityList} {r : Rotation} {d : Diagnostics}
    (h : Rotation.compile list e caster catalog = .ok (r, d)) :
    d.messages = list.entries.flatMap (Scope.of e caster catalog).entryMessages := by
  unfold compile at h
  split at h
  · cases h
  · cases h
    rfl

theorem Compiles.reports {r : Rotation} {s : Scope} {list : PriorityList} {d : Diagnostics}
    (hs : s.catalog = .standard) (h : r.Compiles s list)
    (hmessages : d.messages = list.entries.flatMap s.entryMessages) : r.Reports d s list := by
  -- All messages are warnings.
  have hwarnings : d.warnings = list.entries.flatMap s.entryMessages := by
    rw [Diagnostics.warnings, hmessages]
    refine List.filter_eq_self.mpr fun m hm => ?_
    obtain ⟨spec, _, hspec⟩ := List.mem_flatMap.mp hm
    exact decide_eq_true (Scope.level_of_mem_entryMessages hspec).1
  constructor
  · rw [hwarnings, List.flatMap_eq_nil_iff]
    refine forall₂_congr fun spec _ => ?_
    cases hhidden : spec.hidden with
    | true => exact iff_of_true (Scope.entryMessages_hidden hhidden) nofun
    | false =>
      rw [Scope.entryMessages_eq_nil_iff, Scope.warnings_compileEntry hs hhidden]
      exact ⟨fun h _ => h, fun h => h rfl⟩
  · intro before spec after hlist hshown hlost
    refine ⟨s.entryMessages spec, ?_, fun m => Scope.level_of_mem_entryMessages, ?_⟩
    · rw [h, hlist] at hlost
      have hnone : (s.compileEntry spec).result = none := by simpa using hlost
      rw [Ne, Scope.entryMessages_eq_nil_iff]
      exact Scope.explained_compileEntry hs hshown hnone
    · rw [hwarnings, hlist, List.flatMap_append, List.flatMap_cons, List.append_assoc]

/-- Validating a study succeeds if its list compiles without a warning. -/
theorem validate_status_of_compile {d : DataDirectory} {study : Study} {settings : Settings}
    {e : Encounter} {caster : CombatantId} {r : Rotation} {messages : Diagnostics}
    (directory : String) (format : OutputFormat) (hstudy : d.study = .ok study)
    (hsettings : study.settings = .ok settings)
    (hbuild : study.scenario.build settings study.plan.seed = .ok (e, caster))
    (hcompile : Rotation.compile study.list e caster .standard = .ok (r, messages)) :
    ((Command.validate directory format).execute d).status = 0 ↔ messages.warnings = [] := by
  have hbegin : study.begin settings study.plan.seed =
      .ok ({ rotation := r, encounter := e }, messages) := by
    simp only [Study.begin, hbuild, hcompile, Except.mapError, bind, Except.bind]
    rfl
  have hvalidation : ∃ v, study.validation = .ok v ∧ v.warnings = messages.warnings.length := by
    simp only [Study.validation, hsettings, hbegin, bind, Except.bind]
    exact ⟨_, rfl, rfl⟩
  obtain ⟨v, hv, hcount⟩ := hvalidation
  rw [Command.validate_status directory format hstudy hv, hcount, List.length_eq_zero_iff]

/-- The warnings of a list tell all that is wrong with it.

    * There is none exactly if every entry that is not hidden is sound, and whoever is lost
      without being hidden has a warning of its own.
    * A leaf of a condition gives one warning if it fails and none if it does not, and so does
      an action.
    * A validation of the list succeeds exactly if its entries are sound. -/
theorem compile_reports {e : Encounter} {caster : CombatantId} {c : Combatant}
    (h : e.combatant? caster = some c) (list : PriorityList) :
    let s := Scope.of e caster .standard
    (∃ r d, Rotation.compile list e caster .standard = .ok (r, d) ∧ r.Reports d s list) ∧
      (∀ x : Expr, x.IsLeaf → (s.compile x).Clear) ∧ (∀ a, (s.compileAction a).Clear) ∧
      ∀ directory format d study settings, d.study = .ok study → study.list = list →
        study.settings = .ok settings →
        study.scenario.build settings study.plan.seed = .ok (e, caster) →
        (((Command.validate directory format).execute d).status = 0 ↔
          ∀ spec ∈ list.entries, spec.hidden = false → s.Sound spec) := by
  intro s
  have hs : s.catalog = .standard := rfl
  obtain ⟨r, d, hcompile, hr, _⟩ := compile_eq_ok h list .standard
  have hreports := hr.reports hs (messages_of_compile hcompile)
  refine ⟨⟨r, d, hcompile, hreports⟩, fun x hx => Scope.clear_compile hs hx,
    s.clear_compileAction, ?_⟩
  rintro directory format d study settings hstudy rfl hsettings hbuild
  rw [validate_status_of_compile directory format hstudy hsettings hbuild hcompile]
  exact hreports.silent

/-- Of the plague list the entry that asks for the missing target is not sound, and compiling the
    list gives a warning. -/
theorem compile_reports_plague :
    ∃ c, Encounter.duel.combatant? ⟨1⟩ = some c ∧
      ∃ r d, Rotation.compile plagueList Encounter.duel ⟨1⟩ .standard = .ok (r, d) ∧
        r.Reports d (.of Encounter.duel ⟨1⟩ .standard) plagueList ∧ d.warnings ≠ [] := by
  have hknight : ∃ c, Encounter.duel.combatant? ⟨1⟩ = some c := ⟨_, rfl⟩
  obtain ⟨c, hc⟩ := hknight
  obtain ⟨⟨r, d, hcompile, hreports⟩, _⟩ := compile_reports hc plagueList
  refine ⟨c, hc, r, d, hcompile, hreports, fun hnone => ?_⟩
  have hsound := hreports.silent.mp hnone _ (List.mem_cons_of_mem _ List.mem_cons_self) rfl
  have hfails : ((Scope.of Encounter.duel ⟨1⟩ .standard).compileAction
      (.cast Encounter.plague.id (.place 7))).result.isSome = false := by decide
  rw [hsound.action] at hfails
  cases hfails

end Rotation

end ActionPriority
