import ChainClient.Encoding.Bech32.Symbol

/-!
# The checksum

A text is read as a polynomial over the field of 32 elements, and six symbols are appended so that its residue modulo a fixed generator is a constant that names the variant. A residue is six symbols packed into thirty bits; one step multiplies it by the variable and adds a symbol.
-/

namespace ChainClient.Bech32

/-- Six symbols, the first in the highest bits. -/
abbrev Residue := BitVec 30

/-- What the symbol shifted out of the residue contributes, by its bits. -/
def feedback (top : BitVec 5) : Residue :=
  (if top.getLsbD 0 then 0x3b6a57b2#30 else 0#30) ^^^
  (if top.getLsbD 1 then 0x26508e6d#30 else 0#30) ^^^
  (if top.getLsbD 2 then 0x1ea119fa#30 else 0#30) ^^^
  (if top.getLsbD 3 then 0x3d4233dd#30 else 0#30) ^^^
  (if top.getLsbD 4 then 0x2a1462b3#30 else 0#30)

/-- Multiplies the residue by the variable. -/
def shift (residue : Residue) : Residue := (residue <<< 5) ^^^ feedback (residue.extractLsb' 25 5)

def step (residue : Residue) (symbol : Symbol) : Residue := shift residue ^^^ BitVec.ofNat 30 symbol.val

/-- The residue of a string of symbols, read after a leading one. -/
def residue (symbols : List Symbol) : Residue := symbols.foldl step 1#30

/-- The symbols that the human readable part contributes: the high bits of all its characters, a zero, the low bits. -/
def expand (hrp : List Char) : List Symbol :=
  hrp.map (fun c => Symbol.ofNat (c.toNat / 32)) ++ Symbol.ofNat 0 :: hrp.map (fun c => Symbol.ofNat (c.toNat % 32))

/-- The residues of complete texts, by variant. -/
def bech32Constant : Residue := 1#30

def bech32mConstant : Residue := 0x2bc830a3#30

def Residue.symbols (r : Residue) : List Symbol :=
  [25, 20, 15, 10, 5, 0].map fun i => Symbol.ofNat (r.extractLsb' i 5).toNat

def checksum (hrp : List Char) (data : List Symbol) : List Symbol :=
  Residue.symbols (residue (expand hrp ++ data ++ List.replicate 6 (Symbol.ofNat 0)) ^^^ bech32Constant)

end ChainClient.Bech32
