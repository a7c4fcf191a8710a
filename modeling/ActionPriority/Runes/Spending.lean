import ActionPriority.Runes.Basic

/-! # Spending Runes

    A cost is paid base by base.  A ready rune of the base goes first and a Death rune
    only when there is none; a Death rune that is spent turns back into its base.  The
    slots of a pair come back one at a time: a rune spent while its partner is still
    coming back waits for the partner first.

    * `RuneBar.afford` decides whether a cost can be paid, and names the first base
      that falls short.
    * `RuneBar.spend` pays it, or leaves the bar alone.
-/

namespace ActionPriority

/-- A base of which too few runes are ready, with what the cost asks for and what there is
    for it: its own ready runes and the Death runes not taken by the bases before it. -/
structure RuneShortage where
  rune : BaseRune
  needed : Nat
  available : Nat
  deriving DecidableEq, Repr

/-- The wording of a shortage. -/
def RuneShortage.message (s : RuneShortage) : String :=
  s!"not enough {s.rune.name} runes: need {s.needed}, have {s.available}"

namespace RuneBar

/-! ### Affording a cost -/

/-- Can the cost of the listed bases be paid from their own runes and `deaths` Death runes? -/
def affordFrom (bar : RuneBar) (cost : RuneCost) (now : Time) :
    List BaseRune → Nat → Except RuneShortage Unit
  | [], _ => .ok ()
  | rune :: rest, deaths =>
    let own := bar.natural rune now
    let shortfall := cost.need rune - own
    if deaths < shortfall then .error ⟨rune, cost.need rune, own + deaths⟩
    else affordFrom bar cost now rest (deaths - shortfall)

/-- Can the cost be paid at `now`? -/
def afford (bar : RuneBar) (cost : RuneCost) (now : Time) : Except RuneShortage Unit :=
  bar.affordFrom cost now BaseRune.all (bar.deaths now)

/-! ### Paying it -/

/-- Slot `i` is spent: it comes back as its base, once its partner is back. -/
def startRegen (bar : RuneBar) (i : Fin 6) (now : Time) : RuneBar :=
  let begun := max now (bar.slot (partner i)).readyAt
  bar.withSlot i ⟨(bar.slot i).base, false, begun + bar.fullCooldown⟩

/-- The slot that pays for one rune of a base: the first ready one of the base, or else
    the first ready Death rune. -/
def payer? (bar : RuneBar) (rune : BaseRune) (now : Time) : Option (Fin 6) :=
  (bar.slots.findFinIdx? (isNatural rune now)).or (bar.slots.findFinIdx? (isReadyDeath now))

/-- Pays for one rune of a base, if a slot can. -/
def payOne (bar : RuneBar) (rune : BaseRune) (now : Time) : RuneBar :=
  match bar.payer? rune now with
  | some i => bar.startRegen i now
  | none => bar

/-- Pays for `n` runes of a base, one after another. -/
def pay (bar : RuneBar) (rune : BaseRune) (now : Time) : Nat → RuneBar
  | 0 => bar
  | n + 1 => (bar.payOne rune now).pay rune now n

/-- Pays for every base in turn, without asking first. -/
def payAll (bar : RuneBar) (cost : RuneCost) (now : Time) : RuneBar :=
  BaseRune.all.foldl (fun bar rune => bar.pay rune now (cost.need rune)) bar

/-- Spends the runes of a cost.  When it cannot be paid in full nothing is spent. -/
def spend (bar : RuneBar) (cost : RuneCost) (now : Time) : Except RuneShortage RuneBar :=
  match bar.afford cost now with
  | .error shortage => .error shortage
  | .ok () => .ok (bar.payAll cost now)

/-! ### Other changes -/

/-- Turns slot `i` into a Death rune, if there is such a slot. -/
def convert? (bar : RuneBar) (i : Nat) : Option RuneBar :=
  if h : i < 6 then some (bar.withSlot ⟨i, h⟩ { bar.slot ⟨i, h⟩ with death := true }) else none

/-- Sets the multiplier of the cooldown; anything but a positive finite number counts as one. -/
def withRegen (bar : RuneBar) (multiplier : Float) : RuneBar :=
  { bar with regen := if multiplier.isFinite && multiplier > 0.0 then multiplier else 1.0 }

end RuneBar

end ActionPriority
