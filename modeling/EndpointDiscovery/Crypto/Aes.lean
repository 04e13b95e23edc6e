import EndpointDiscovery.Bytes.Words

/-!
# The block cipher AES

Decryption of blocks of 16 bytes under keys of 16, 24 or 32 bytes, with each block
added to the encrypted block before it.
-/

namespace EndpointDiscovery.Aes

/-! ## The field of bytes -/

def double (byte : UInt8) : UInt8 :=
  if byte < 0x80 then byte <<< 1 else (byte <<< 1) ^^^ 0x1B

def multiplyBits : Nat → UInt8 → UInt8 → UInt8
  | 0, _, _ => 0
  | count + 1, left, right =>
      (if right &&& 1 = 1 then left else 0) ^^^
        multiplyBits count (double left) (right >>> 1)

def multiply (left right : UInt8) : UInt8 := multiplyBits 8 left right

def allBytes : List UInt8 := (List.range 256).map UInt8.ofNat

def inverse (byte : UInt8) : UInt8 :=
  (allBytes.find? fun other => multiply byte other = 1).getD 0

def rotate (byte count : UInt8) : UInt8 :=
  (byte <<< count) ||| (byte >>> (8 - count))

def substitutionOf (byte : UInt8) : UInt8 :=
  let start := inverse byte
  start ^^^ rotate start 1 ^^^ rotate start 2 ^^^ rotate start 3 ^^^
    rotate start 4 ^^^ 0x63

def substitutionTable : Array UInt8 := (allBytes.map substitutionOf).toArray

def substitute (byte : UInt8) : UInt8 := substitutionTable.getD byte.toNat 0

def restorationTable : Array UInt8 :=
  (allBytes.map fun byte =>
    UInt8.ofNat (substitutionTable.toList.idxOf byte)).toArray

def restore (byte : UInt8) : UInt8 := restorationTable.getD byte.toNat 0

/-! ## Keys -/

def addWords (left right : List UInt8) : List UInt8 :=
  List.zipWith (· ^^^ ·) left right

/-- The words of the key schedule, the last one first; `position` counts them,
`size` is the number of words of the key, and `constant` enters at the start of
every round of the schedule. -/
def extend (size : Nat) : Nat → Nat → UInt8 → List (List UInt8) → List (List UInt8)
  | 0, _, _, words => words
  | count + 1, position, constant, words =>
      let last := words.headD []
      let isStart := position % size = 0
      let changed :=
        if isStart then
          addWords ((last.drop 1 ++ last.take 1).map substitute) [constant, 0, 0, 0]
        else if 6 < size ∧ position % size = 4 then last.map substitute
        else last
      let word := addWords changed (words.getD (size - 1) [])
      extend size count (position + 1)
        (if isStart then double constant else constant) (word :: words)

def roundKeys (key : List UInt8) : List (List UInt8) :=
  let size := key.length / 4
  let words := (Bytes.chunks size 4 key).reverse
  let all := (extend size (4 * (size + 7) - size) size 1 words).reverse
  ((Bytes.chunks (size + 7) 4 all).map List.flatten).reverse

/-! ## Blocks -/

def shiftRows (block : List UInt8) : List UInt8 :=
  (List.range 16).map fun place => block.getD ((place + 12 * (place % 4)) % 16) 0

def mixColumn (column : List UInt8) : List UInt8 :=
  (List.range 4).map fun row =>
    let byte (offset : Nat) := column.getD ((row + offset) % 4) 0
    multiply (byte 0) 14 ^^^ multiply (byte 1) 11 ^^^ multiply (byte 2) 13 ^^^
      multiply (byte 3) 9

def mixColumns (block : List UInt8) : List UInt8 :=
  (Bytes.chunks 4 4 block).flatMap mixColumn

def restoreBlock (block : List UInt8) : List UInt8 :=
  (shiftRows block).map restore

def decryptRounds (block : List UInt8) : List (List UInt8) → List UInt8
  | [] => block
  | [key] => addWords (restoreBlock block) key
  | key :: keys =>
      decryptRounds (mixColumns (addWords (restoreBlock block) key)) keys

def decryptBlock (keys : List (List UInt8)) (block : List UInt8) : List UInt8 :=
  match keys with
  | [] => block
  | key :: keys => decryptRounds (addWords block key) keys

def decryptChain (keys : List (List UInt8)) (before : List UInt8) :
    List (List UInt8) → List UInt8
  | [] => []
  | block :: blocks =>
      addWords (decryptBlock keys block) before ++ decryptChain keys block blocks

def unpad? (text : List UInt8) : Option (List UInt8) :=
  match text.getLast? with
  | none => none
  | some last =>
      let count := last.toNat
      if 1 ≤ count ∧ count ≤ 16 ∧ text.drop (text.length - count) =
        List.replicate count last then
        some (text.take (text.length - count))
      else none

def decrypt? (key start text : List UInt8) : Option (List UInt8) :=
  if text.length % 16 = 0 then
    unpad?
      (decryptChain (roundKeys key) start (Bytes.chunks (text.length / 16) 16 text))
  else none

end EndpointDiscovery.Aes
