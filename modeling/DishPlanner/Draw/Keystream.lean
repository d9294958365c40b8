/-!
# The keystream of a seed

A seed is stretched to eight key words by a linear congruence whose states are
output after an xor-shift and a rotation.  The key and a block counter fill the
sixteen words of a cipher state; six double rounds of additions, exclusive ors
and rotations, added to the state they started from, give the sixteen words of a
block.  The stream is the blocks of counter 0, 1, 2, … in order.
-/

namespace DishPlanner

/-- Rotates a word to the left by an amount from 1 to 31. -/
def rotateLeft (word amount : UInt32) : UInt32 :=
  (word <<< amount) ||| (word >>> (32 - amount))

namespace Keystream

/-- The sixteen words of a cipher state. -/
abbrev Block := Vector UInt32 16

/-- The congruence behind the key words. -/
def advance (state : UInt64) : UInt64 := state * 6364136223846793005 + 11634580027462260723

/-- The key word of a congruence state: its upper bits, folded and rotated by the highest five. -/
def keyWord (state : UInt64) : UInt32 :=
  let folded := (((state >>> 18) ^^^ state) >>> 27).toUInt32
  let amount := (state >>> 59).toUInt32
  (folded >>> amount) ||| (folded <<< ((32 - amount) % 32))

/-- The key of a seed. -/
def keyOfSeed (seed : UInt64) : Vector UInt32 8 :=
  Vector.ofFn fun index => keyWord (Nat.repeat advance (index.val + 1) seed)

/-- Mixes four words of a state. -/
def quarterRound (state : Block) (a b c d : Fin 16) : Block :=
  let wa := state[a] + state[b]
  let wd := rotateLeft (state[d] ^^^ wa) 16
  let wc := state[c] + wd
  let wb := rotateLeft (state[b] ^^^ wc) 12
  let wa := wa + wb
  let wd := rotateLeft (wd ^^^ wa) 8
  let wc := wc + wd
  let wb := rotateLeft (wb ^^^ wc) 7
  (((state.set a wa).set b wb).set c wc).set d wd

/-- Mixes the four columns, then the four diagonals. -/
def doubleRound (state : Block) : Block :=
  let state := quarterRound state 0 4 8 12
  let state := quarterRound state 1 5 9 13
  let state := quarterRound state 2 6 10 14
  let state := quarterRound state 3 7 11 15
  let state := quarterRound state 0 5 10 15
  let state := quarterRound state 1 6 11 12
  let state := quarterRound state 2 7 8 13
  quarterRound state 3 4 9 14

/-- The state that a block starts from: four constants, the key, the counter with its low word
first, and two zero words. -/
def initial (key : Vector UInt32 8) (counter : UInt64) : Block :=
  #v[0x61707865, 0x3320646e, 0x79622d32, 0x6b206574,
    key[0], key[1], key[2], key[3], key[4], key[5], key[6], key[7],
    counter.toUInt32, (counter >>> 32).toUInt32, 0, 0]

/-- The block of a counter. -/
def block (key : Vector UInt32 8) (counter : UInt64) : Block :=
  let start := initial key counter
  start.zipWith (· + ·) (Nat.repeat doubleRound 6 start)

end Keystream

/-- A place in the keystream of a key: the words of the current block that are still unread, and
the counter of the next one. -/
structure Keystream where
  key : Vector UInt32 8
  nextBlock : UInt64
  pending : List UInt32

namespace Keystream

/-- The start of the keystream of a key. -/
def ofKey (key : Vector UInt32 8) : Keystream := ⟨key, 0, []⟩

/-- The start of the keystream of a seed. -/
def ofSeed (seed : UInt64) : Keystream := ofKey (keyOfSeed seed)

/-- The next word. -/
def next32 (stream : Keystream) : UInt32 × Keystream :=
  match stream.pending with
  | word :: rest => (word, { stream with pending := rest })
  | [] =>
      let fresh := block stream.key stream.nextBlock
      (fresh[0], { stream with nextBlock := stream.nextBlock + 1, pending := fresh.toList.tail })

/-- The next two words as one; the first is its low half. -/
def next64 (stream : Keystream) : UInt64 × Keystream :=
  let (low, stream) := stream.next32
  let (high, stream) := stream.next32
  ((high.toUInt64 <<< 32) ||| low.toUInt64, stream)

end Keystream

end DishPlanner
