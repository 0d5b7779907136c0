set_option autoImplicit false

namespace TreeGrammar

namespace ChaCha

abbrev Words := Vector UInt32 16

def rotateLeft (word : UInt32) (count : UInt32) : UInt32 :=
  (word <<< count) ||| (word >>> (32 - count))

def quarterRound (words : Words) (a b c d : Fin 16) : Words :=
  let words := words.set a (words[a] + words[b])
  let words := words.set d (rotateLeft (words[d] ^^^ words[a]) 16)
  let words := words.set c (words[c] + words[d])
  let words := words.set b (rotateLeft (words[b] ^^^ words[c]) 12)
  let words := words.set a (words[a] + words[b])
  let words := words.set d (rotateLeft (words[d] ^^^ words[a]) 8)
  let words := words.set c (words[c] + words[d])
  words.set b (rotateLeft (words[b] ^^^ words[c]) 7)

def doubleRound (words : Words) : Words :=
  let words := quarterRound words 0 4 8 12
  let words := quarterRound words 1 5 9 13
  let words := quarterRound words 2 6 10 14
  let words := quarterRound words 3 7 11 15
  let words := quarterRound words 0 5 10 15
  let words := quarterRound words 1 6 11 12
  let words := quarterRound words 2 7 8 13
  quarterRound words 3 4 9 14

def rounds : Nat → Words → Words
  | 0, words => words
  | count + 1, words => rounds count (doubleRound words)

-- The constants, the key, the block number with its low word first, and two words of zero.
def initial (key : Vector UInt32 8) (number : UInt64) : Words :=
  let constants : Vector UInt32 4 := #v[0x61707865, 0x3320646e, 0x79622d32, 0x6b206574]
  let place : Vector UInt32 4 := #v[number.toUInt32, (number >>> 32).toUInt32, 0, 0]
  constants ++ key ++ place

def block (key : Vector UInt32 8) (number : UInt64) : Words :=
  let start := initial key number
  (rounds 6 start).zipWith (· + ·) start

end ChaCha

end TreeGrammar
