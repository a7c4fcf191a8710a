import ActionPriority.Dice.Keystream

/-! # Dice

    The source of chance of a trial: a keystream, and how many draws have been taken
    from it.  The outcome of a draw is settled by the key and that count alone, so two
    runs that draw equally often from one seed see the same outcomes.
-/

namespace ActionPriority

/-- A keystream with the number of draws already taken. -/
structure Dice where
  key : Keystream.Key
  drawn : Nat
  deriving DecidableEq

namespace Dice

/-! ### Seeding -/

/-- The next state of the congruential generator that spreads a seed over a key. -/
def nextState (state : UInt64) : UInt64 := state * 6364136223846793005 + 11634580027462260723

/-- The word that a state of that generator gives: high bits, turned right by the top five. -/
def stateWord (state : UInt64) : UInt32 :=
  let x := (((state >>> 18) ^^^ state) >>> 27).toUInt32
  let turn := (state >>> 59).toUInt32
  Keystream.rotateLeft x ((32 - turn) % 32)

/-- The state after `n` steps. -/
def stateAfter (seed : UInt64) : Nat → UInt64
  | 0 => seed
  | n + 1 => nextState (stateAfter seed n)

/-- Fresh dice: one word of the key from each of the first eight states after the seed. -/
def ofSeed (seed : UInt64) : Dice :=
  ⟨Vector.ofFn fun i => stateWord (stateAfter seed (i.val + 1)), 0⟩

/-! ### Drawing -/

/-- The word of 64 bits that draw number `n` takes: eight draws to a block, the low half
    of each word first. -/
def word (key : Keystream.Key) (n : Nat) : UInt64 :=
  let block := Keystream.block key (n / 8)
  let low := block[2 * (n % 8)]
  let high := block[2 * (n % 8) + 1]
  high.toUInt64 <<< 32 ||| low.toUInt64

/-- Draw number `n`: the upper 53 bits of its word as a fraction of one. -/
def outcome (key : Keystream.Key) (n : Nat) : Float :=
  (word key n >>> 11).toFloat * (1.0 / 9007199254740992.0)

/-- One draw, a number from zero up to and without one. -/
def draw (d : Dice) : Float × Dice := (outcome d.key d.drawn, { d with drawn := d.drawn + 1 })

@[simp] theorem draw_key (d : Dice) : d.draw.2.key = d.key := rfl

@[simp] theorem draw_drawn (d : Dice) : d.draw.2.drawn = d.drawn + 1 := rfl

end Dice

end ActionPriority
