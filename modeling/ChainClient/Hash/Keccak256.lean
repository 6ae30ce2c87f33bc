import ChainClient.Bytes

/-!
# Keccak-256

The sponge of rate 136 over the permutation of 25 lanes, with the padding that starts with a one byte.
-/

namespace ChainClient.Keccak256

/-- Lane `x + 5 * y` stands in column `x` of row `y`. -/
abbrev Lanes := Array UInt64

def lane (s : Lanes) (i : Nat) : UInt64 := s.getD i 0

def rotateLeft (x : UInt64) (n : UInt64) : UInt64 := if n = 0 then x else (x <<< n) ||| (x >>> (64 - n))

def roundConstants : List UInt64 :=
  [0x0000000000000001, 0x0000000000008082, 0x800000000000808a, 0x8000000080008000,
   0x000000000000808b, 0x0000000080000001, 0x8000000080008081, 0x8000000000008009,
   0x000000000000008a, 0x0000000000000088, 0x0000000080008009, 0x000000008000000a,
   0x000000008000808b, 0x800000000000008b, 0x8000000000008089, 0x8000000000008003,
   0x8000000000008002, 0x8000000000000080, 0x000000000000800a, 0x800000008000000a,
   0x8000000080008081, 0x8000000000008080, 0x0000000080000001, 0x8000000080008008]

def rotations : Array UInt64 :=
  #[0, 1, 62, 28, 27, 36, 44, 6, 55, 20, 3, 10, 43, 25, 39, 41, 45, 15, 21, 8, 18, 2, 61, 56, 14]

private def build (f : Nat → UInt64) : Lanes := (Array.range 25).map f

/-- Adds to each lane the parities of two columns. -/
def theta (s : Lanes) : Lanes :=
  let parity := (Array.range 5).map fun x =>
    lane s x ^^^ lane s (x + 5) ^^^ lane s (x + 10) ^^^ lane s (x + 15) ^^^ lane s (x + 20)
  build fun i => lane s i ^^^ lane parity ((i + 4) % 5) ^^^ rotateLeft (lane parity ((i + 1) % 5)) 1

/-- Rotates the lanes and moves them: column `y` of row `2x + 3y` receives column `x` of row `y`. -/
def rhoPi (s : Lanes) : Lanes :=
  build fun i =>
    let y := i % 5
    let x := (i / 5 + 2 * y) * 3 % 5
    rotateLeft (lane s (x + 5 * y)) (lane rotations (x + 5 * y))

/-- Combines each lane with the next two of its row. -/
def chi (s : Lanes) : Lanes :=
  build fun i =>
    let row := i / 5 * 5
    lane s i ^^^ (~~~lane s (row + (i + 1) % 5) &&& lane s (row + (i + 2) % 5))

def round (s : Lanes) (constant : UInt64) : Lanes :=
  let t := chi (rhoPi (theta s))
  t.set! 0 (lane t 0 ^^^ constant)

def permute (s : Lanes) : Lanes := roundConstants.foldl round s

/-- The lanes that whole groups of eight bytes make, least significant byte first. -/
def lanesOfBytes : Bytes → List UInt64
  | a :: b :: c :: d :: e :: f :: g :: h :: rest =>
    (a.toUInt64 ||| (b.toUInt64 <<< 8) ||| (c.toUInt64 <<< 16) ||| (d.toUInt64 <<< 24) |||
      (e.toUInt64 <<< 32) ||| (f.toUInt64 <<< 40) ||| (g.toUInt64 <<< 48) ||| (h.toUInt64 <<< 56)) :: lanesOfBytes rest
  | _ => []

def bytesOfLane (w : UInt64) : Bytes :=
  [w.toUInt8, (w >>> 8).toUInt8, (w >>> 16).toUInt8, (w >>> 24).toUInt8,
   (w >>> 32).toUInt8, (w >>> 40).toUInt8, (w >>> 48).toUInt8, (w >>> 56).toUInt8]

/-- Adds a block of 17 lanes and permutes, for each of `n` blocks. -/
def absorb : Nat → Lanes → List UInt64 → Lanes
  | 0, s, _ => s
  | n + 1, s, words =>
    let block := (words.take 17).toArray
    absorb n (permute (build fun i => lane s i ^^^ lane block i)) (words.drop 17)

/-- Pads to a multiple of 136 bytes: a one at the start of the padding, the high bit at its end. -/
def padded (message : Bytes) : Bytes :=
  match 135 - message.length % 136 with
  | 0 => message ++ [0x81]
  | n + 1 => message ++ 0x01 :: List.replicate n 0 ++ [0x80]

def hash (message : Bytes) : Bytes :=
  let s := absorb (message.length / 136 + 1) (Array.replicate 25 0) (lanesOfBytes (padded message))
  [0, 1, 2, 3].flatMap fun i => bytesOfLane (lane s i)

end ChainClient.Keccak256
