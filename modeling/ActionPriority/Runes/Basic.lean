import ActionPriority.Time.Seconds

/-! # Rune Bars

    A rune bar has six slots, two for each base rune.  A slot holds a rune of its base
    or, once converted, a Death rune, which pays for any base.  Each slot has an instant
    at which it is ready again.

    This module has the bar and what can be read from it:

    * how many runes of a type are ready now (`ready`, `natural`, `deaths`),
    * when the next rune of a type is ready (`readyAt?`, `nextReadyAt?`),
    * how long a slot takes to come back (`fullCooldown`, `baseCooldown`).
-/

namespace ActionPriority

/-! ### Rune types and costs -/

/-- The runes that own slots. -/
inductive BaseRune where
  | blood
  | frost
  | unholy
  deriving DecidableEq, Repr

/-- A base rune, or the Death rune that stands in for any of them. -/
inductive RuneType where
  | base (rune : BaseRune)
  | death
  deriving DecidableEq, Repr

namespace BaseRune

/-- The base runes in the order of their slots. -/
def all : List BaseRune := [.blood, .frost, .unholy]

/-- The name of a base rune. -/
def name : BaseRune → String
  | .blood => "Blood"
  | .frost => "Frost"
  | .unholy => "Unholy"

/-- The two slots that a base rune owns. -/
def slots : BaseRune → Fin 6 × Fin 6
  | .blood => (0, 1)
  | .frost => (2, 3)
  | .unholy => (4, 5)

end BaseRune

namespace RuneType

/-- All rune types, the Death rune last. -/
def all : List RuneType := BaseRune.all.map .base ++ [.death]

/-- The name of a rune type. -/
def name : RuneType → String
  | .base rune => rune.name
  | .death => "Death"

/-- The rune type of that name. -/
def ofName? (text : String) : Option RuneType := all.find? (·.name = text)

/-- The two slots that the type owns; a Death rune owns none. -/
def slots? : RuneType → Option (Fin 6 × Fin 6)
  | .base rune => some rune.slots
  | .death => none

end RuneType

/-- How many runes of each base a spell costs. -/
structure RuneCost where
  blood : UInt8 := 0
  frost : UInt8 := 0
  unholy : UInt8 := 0
  deriving DecidableEq, Repr

namespace RuneCost

/-- The number of runes of one base that are asked for. -/
def need (cost : RuneCost) : BaseRune → Nat
  | .blood => cost.blood.toNat
  | .frost => cost.frost.toNat
  | .unholy => cost.unholy.toNat

/-- The number of runes of a type that are asked for; nothing costs Death runes. -/
def get (cost : RuneCost) : RuneType → Nat
  | .base rune => cost.need rune
  | .death => 0

/-- Does the spell cost no runes? -/
def isFree (cost : RuneCost) : Bool := BaseRune.all.all fun rune => cost.need rune = 0

end RuneCost

/-! ### The bar -/

/-- One slot of a rune bar. -/
structure RuneSlot where
  /-- The rune that the slot grows. -/
  base : BaseRune
  /-- Whether it holds a Death rune instead. -/
  death : Bool
  /-- The instant from which its rune can be spent. -/
  readyAt : Time
  deriving DecidableEq, Repr

/-- Can the rune of the slot be spent at `now`? -/
def RuneSlot.isReady (slot : RuneSlot) (now : Time) : Bool := slot.readyAt ≤ now

/-- The rune resource of a combatant. -/
structure RuneBar where
  slots : Vector RuneSlot 6
  /-- How long a slot takes to come back when the multiplier is one. -/
  cooldown : Time
  /-- What that length is multiplied with; lower is faster. -/
  regen : Float

namespace RuneBar

/-- A slot that holds a ready rune of its base. -/
def fresh (base : BaseRune) : RuneSlot := ⟨base, false, Time.zero⟩

/-- A bar with every rune ready. -/
def new (cooldown : Time) : RuneBar :=
  { slots := #v[fresh .blood, fresh .blood, fresh .frost, fresh .frost, fresh .unholy,
      fresh .unholy]
    cooldown
    regen := 1.0 }

/-- The slot of a number, counted from zero. -/
def slot? (bar : RuneBar) (i : Nat) : Option RuneSlot := bar.slots[i]?

/-- A slot of the bar. -/
def slot (bar : RuneBar) (i : Fin 6) : RuneSlot := bar.slots[i]

/-- The bar with one slot replaced. -/
def withSlot (bar : RuneBar) (i : Fin 6) (slot : RuneSlot) : RuneBar :=
  { bar with slots := bar.slots.set i slot }

/-- The other slot of the pair of slot `i`. -/
def partner (i : Fin 6) : Fin 6 :=
  match i with
  | 0 => 1
  | 1 => 0
  | 2 => 3
  | 3 => 2
  | 4 => 5
  | 5 => 4

/-! ### Counts -/

/-- The number of slots that satisfy `p`. -/
def count (bar : RuneBar) (p : RuneSlot → Bool) : Nat := bar.slots.countP p

/-- Is the rune of slot `i` ready?  Beyond the six slots nothing is. -/
def isActive (bar : RuneBar) (i : Nat) (now : Time) : Bool := (bar.slot? i).any (·.isReady now)

/-- Does slot `i` hold a Death rune? -/
def isDeath (bar : RuneBar) (i : Nat) : Bool := (bar.slot? i).any (·.death)

/-- Is this a ready rune of `base` that is no Death rune? -/
def isNatural (base : BaseRune) (now : Time) (slot : RuneSlot) : Bool :=
  slot.base = base && !slot.death && slot.isReady now

/-- Is this a ready Death rune? -/
def isReadyDeath (now : Time) (slot : RuneSlot) : Bool := slot.death && slot.isReady now

/-- The ready runes of a base that are no Death runes. -/
def natural (bar : RuneBar) (base : BaseRune) (now : Time) : Nat := bar.count (isNatural base now)

/-- The ready Death runes. -/
def deaths (bar : RuneBar) (now : Time) : Nat := bar.count (isReadyDeath now)

/-- The ready runes of a type that are no Death runes: none for the Death type. -/
def naturalOf (bar : RuneBar) (type : RuneType) (now : Time) : Nat :=
  match type with
  | .base rune => bar.natural rune now
  | .death => 0

/-- The ready runes that can be spent as `type`: its own and every Death rune. -/
def ready (bar : RuneBar) (type : RuneType) (now : Time) : Nat :=
  bar.naturalOf type now + bar.deaths now

/-! ### Timers -/

/-- The ready times of the two slots of a base. -/
def pairReadyAt (bar : RuneBar) (base : BaseRune) : Time × Time :=
  ((bar.slot base.slots.1).readyAt, (bar.slot base.slots.2).readyAt)

/-- The instant at which the first of the two slots of a type is ready. -/
def readyAt? (bar : RuneBar) : RuneType → Option Time
  | .base rune => some (min (bar.pairReadyAt rune).1 (bar.pairReadyAt rune).2)
  | .death => none

/-- The first instant after `now` at which a slot of a type becomes ready; `now` if
    neither of the two is coming back. -/
def nextReadyAt? (bar : RuneBar) (type : RuneType) (now : Time) : Option Time :=
  match type with
  | .death => none
  | .base rune =>
    let (a, b) := bar.pairReadyAt rune
    some <| match decide (now < a), decide (now < b) with
      | true, true => min a b
      | true, false => a
      | false, true => b
      | false, false => now

/-- How long a slot takes to come back at the present multiplier. -/
def fullCooldown (bar : RuneBar) : Time := bar.cooldown.scale bar.regen

/-- How long a slot takes to come back if only the haste at the start counts. -/
def baseCooldown (bar : RuneBar) (initialHaste : Float) : Time :=
  if initialHaste ≤ 0.0 then bar.cooldown else bar.cooldown.divide initialHaste

end RuneBar

end ActionPriority
