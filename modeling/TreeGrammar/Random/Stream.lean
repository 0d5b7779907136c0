import TreeGrammar.Binary64
import TreeGrammar.Random.ChaCha
set_option autoImplicit false

namespace TreeGrammar

structure RandomStream where
  key : Vector UInt32 8
  number : UInt64
  block : ChaCha.Words
  place : Fin 16

namespace RandomStream

def ofKey (key : Vector UInt32 8) : RandomStream :=
  ⟨key, 0, ChaCha.block key 0, ⟨0, Nat.zero_lt_succ 15⟩⟩

def stretch (state : UInt64) : UInt64 := state * 6364136223846793005 + 11634580027462260723

def stretchedWord (state : UInt64) : UInt32 :=
  let word := (((state >>> 18) ^^^ state) >>> 27).toUInt32
  let count := (state >>> 59).toUInt32
  (word >>> count) ||| (word <<< ((32 - count) % 32))

def stretchedWords (state : UInt64) : (count : Nat) → Vector UInt32 count
  | 0 => #v[]
  | count + 1 =>
    let next := stretch state
    (#v[stretchedWord next] ++ stretchedWords next count).cast (Nat.add_comm 1 count)

def ofSeed (seed : UInt64) : RandomStream := ofKey (stretchedWords seed 8)

def skip (stream : RandomStream) : RandomStream :=
  if later : stream.place.val + 1 < 16 then { stream with place := ⟨stream.place.val + 1, later⟩ }
  else
    let number := stream.number + 1
    { stream with number, block := ChaCha.block stream.key number, place := ⟨0, Nat.zero_lt_succ 15⟩ }

def next32 (stream : RandomStream) : Nat × RandomStream :=
  (stream.block[stream.place].toNat, stream.skip)

def next64 (stream : RandomStream) : Nat × RandomStream :=
  let (low, stream) := stream.next32
  let (high, stream) := stream.next32
  (low + Nat.pow 2 32 * high, stream)

def draw (width : Nat) (stream : RandomStream) : Nat × RandomStream :=
  if width = 32 then stream.next32 else stream.next64

-- Without bias: a draw whose product with the bound falls into the uneven part at the end of its
-- range is thrown away.
def acceptedBelow (width bound : Nat) : Nat := bound * Nat.pow 2 (width - (bound.log2 + 1)) - 1

def searchBelow (width bound : Nat) : (draws : Nat) → RandomStream → Nat × RandomStream
  | 0, stream => (0, stream)
  | draws + 1, stream =>
    let (value, after) := stream.draw width
    let product := value * bound
    if product % Nat.pow 2 width ≤ acceptedBelow width bound then (product / Nat.pow 2 width, after)
    else searchBelow width bound draws after

-- After this many words a stream starts again, so a longer search would find nothing new.
def period : Nat := Nat.pow 2 68

def below (width bound : Nat) (stream : RandomStream) : Nat × RandomStream :=
  searchBelow width bound period stream

def chance (probability : Binary64) (stream : RandomStream) : Bool × RandomStream :=
  if probability.chance = Nat.pow 2 64 then (true, stream)
  else
    let (value, after) := stream.next64
    (value < probability.chance, after)

end RandomStream

end TreeGrammar
