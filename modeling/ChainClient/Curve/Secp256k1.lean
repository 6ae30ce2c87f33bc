import ChainClient.Bytes

/-!
# The curve secp256k1

The points of `y² = x³ + 7` over a prime field, in projective coordinates so that a multiple of a point needs one division only, at its end. A point with last coordinate zero is the neutral one.
-/

namespace ChainClient.Secp256k1

attribute [local instance (high + 1)] instPowNat

def fieldSize : Nat := 2 ^ (256 : Nat) - 2 ^ (32 : Nat) - 977

def order : Nat := 0xfffffffffffffffffffffffffffffffebaaedce6af48a03bbfd25e8cd0364141

/-- A power modulo a number, by halving the exponent at most `fuel` times. -/
private def powerFrom (modulus : Nat) : Nat → Nat → Nat → Nat
  | 0, _, _ => 1 % modulus
  | fuel + 1, base, exponent =>
    if exponent = 0 then 1 % modulus
    else
      let half := powerFrom modulus fuel (base * base % modulus) (exponent / 2)
      if exponent % 2 = 1 then base * half % modulus else half

def powerMod (modulus base exponent : Nat) : Nat := powerFrom modulus (Nat.log2 exponent + 1) base exponent

def inverseMod (prime n : Nat) : Nat := powerMod prime n (prime - 2)

private def add (a b : Nat) : Nat := (a + b) % fieldSize

private def sub (a b : Nat) : Nat := (a + fieldSize - b) % fieldSize

private def mul (a b : Nat) : Nat := a * b % fieldSize

/-- Stands for `(x / z², y / z³)`. -/
structure Point where
  x : Nat
  y : Nat
  z : Nat
  deriving Repr

namespace Point

def neutral : Point := ⟨1, 1, 0⟩

def generator : Point :=
  ⟨0x79be667ef9dcbbac55a06295ce870b07029bfcdb2dce28d959f2815b16f81798,
   0x483ada7726a3c4655da4fbfc0e1108a8fd17b448a68554199c47d08ffb10d4b8, 1⟩

def double (p : Point) : Point :=
  let yy := mul p.y p.y
  let s := mul 4 (mul p.x yy)
  let m := mul 3 (mul p.x p.x)
  let x := sub (mul m m) (add s s)
  ⟨x, sub (mul m (sub s x)) (mul 8 (mul yy yy)), mul 2 (mul p.y p.z)⟩

def plus (p q : Point) : Point :=
  if p.z = 0 then q
  else if q.z = 0 then p
  else
    let pzz := mul p.z p.z
    let qzz := mul q.z q.z
    let u := mul p.x qzz
    let h := sub (mul q.x pzz) u
    let s := mul p.y (mul qzz q.z)
    let r := sub (mul q.y (mul pzz p.z)) s
    if h = 0 then if r = 0 then double p else neutral
    else
      let hh := mul h h
      let hhh := mul h hh
      let v := mul u hh
      let x := sub (sub (mul r r) hhh) (add v v)
      ⟨x, sub (mul r (sub v x)) (mul s hhh), mul h (mul p.z q.z)⟩

/-- Adds up the doublings of a point that the bits of a number select. -/
private def timesFrom : Nat → Point → Nat → Point → Point
  | 0, sum, _, _ => sum
  | fuel + 1, sum, n, p =>
    if n = 0 then sum
    else timesFrom fuel (if n % 2 = 1 then plus sum p else sum) (n / 2) (double p)

def times (n : Nat) (p : Point) : Point := timesFrom (Nat.log2 n + 1) neutral n p

/-- The two coordinates of a point other than the neutral one. -/
def affine (p : Point) : Nat × Nat :=
  let inverse := inverseMod fieldSize p.z
  let square := mul inverse inverse
  (mul p.x square, mul p.y (mul square inverse))

/-- The parity of the second coordinate and the first one. -/
def compressed (p : Point) : Bytes :=
  let (x, y) := p.affine
  UInt8.ofNat (2 + y % 2) :: Bytes.ofNat 32 x

def coordinates (p : Point) : Bytes :=
  let (x, y) := p.affine
  Bytes.ofNat 32 x ++ Bytes.ofNat 32 y

end Point

end ChainClient.Secp256k1
