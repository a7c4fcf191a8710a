/-! # Keystream

    The ChaCha block function with eight rounds: from a key of eight words and a block
    number, sixteen words that look random.  A block is a pure function of its key and
    number, so any place of the stream can be computed on its own.
-/

namespace ActionPriority

namespace Keystream

/-- The sixteen words that a block is computed on. -/
abbrev Block := Vector UInt32 16

/-- The eight words that select a stream. -/
abbrev Key := Vector UInt32 8

/-- `x` with its bits turned left by `n` places. -/
def rotateLeft (x n : UInt32) : UInt32 := (x <<< n) ||| (x >>> (32 - n))

/-- Adds the word at `b` to the one at `a`, mixes the sum into the word at `d`, and turns
    the result left by `n` places. -/
def mix (s : Block) (a b d : Fin 16) (n : UInt32) : Block :=
  let s := s.set a (s[a] + s[b])
  s.set d (rotateLeft (s[d] ^^^ s[a]) n)

/-- The quarter round on four words of the block. -/
def quarterRound (s : Block) (a b c d : Fin 16) : Block :=
  let s := mix s a b d 16
  let s := mix s c d b 12
  let s := mix s a b d 8
  mix s c d b 7

/-- Two rounds: the four columns of the block, then its four diagonals. -/
def doubleRound (s : Block) : Block :=
  let s := quarterRound s 0 4 8 12
  let s := quarterRound s 1 5 9 13
  let s := quarterRound s 2 6 10 14
  let s := quarterRound s 3 7 11 15
  let s := quarterRound s 0 5 10 15
  let s := quarterRound s 1 6 11 12
  let s := quarterRound s 2 7 8 13
  quarterRound s 3 4 9 14

/-- Four fixed words, the key, the block number as two words, and two words of zero. -/
def start (key : Key) (number : Nat) : Block :=
  #v[0x61707865, 0x3320646e, 0x79622d32, 0x6b206574,
     key[0], key[1], key[2], key[3], key[4], key[5], key[6], key[7],
     UInt32.ofNat number, UInt32.ofNat (number / Nat.pow 2 32), 0, 0]

/-- Block `number` of the stream of `key`. -/
def block (key : Key) (number : Nat) : Block :=
  let s := start key number
  let mixed := doubleRound (doubleRound (doubleRound (doubleRound s)))
  Vector.ofFn fun i => s[i] + mixed[i]

end Keystream

end ActionPriority
