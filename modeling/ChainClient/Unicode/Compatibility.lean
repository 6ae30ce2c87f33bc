import ChainClient.Unicode.CodeTable

/-!
# Lettering

Many characters are lower-case Latin letters in another lettering: wide, raised, lowered, circled, ligatures, symbols for units. Their compatibility decomposition are the plain letters.
-/

namespace ChainClient.Unicode

/-- The characters that decompose into nothing but lower-case letters, with these. -/
def lettering : Table := .ofText
  "aa=61 ba=6f 133=69+6a 17f=73 1c9=6c+6a 1cc=6e+6a 1f3=64+7a 2b0=68 2b2=6a 2b3=72 2b7=77 2b8=79 2e1=6c 2e2=73
   2e3=78 1d43=61 1d47=62 1d48-1d49=64 1d4d=67 1d4f=6b 1d50=6d 1d52=6f 1d56=70 1d57-1d58=74 1d5b=76 1d62=69 1d63=72
   1d64-1d65=75 1d9c=63 1da0=66 1dbb=7a 2071=69 207f=6e 2090=61 2091=65 2092=6f 2093=78 2095=68 2096-2099=6b 209a=70
   209b-209c=73 210a=67 210e=68 2113=6c 212f=65 2134=6f 2139=69 2146-2147=64 2148-2149=69 2170=69 2171=69+69
   2172=69+69+69 2173=69+76 2174=76 2175=76+69 2176=76+69+69 2177=76+69+69+69 2178=69+78 2179=78 217a=78+69
   217b=78+69+69 217c=6c 217d-217e=63 217f=6d 24d0-24e9=61 2c7c=6a 32cd=65+72+67 3372=64+61 3374=62+61+72 3376=70+63
   3377=64+6d 3388=63+61+6c 3389=6b+63+61+6c 338e=6d+67 338f=6b+67 3396=6d+6c 3397=64+6c 3398=6b+6c 3399=66+6d
   339a=6e+6d 339c=6d+6d 339d=63+6d 339e=6b+6d 33ad=72+61+64 33b0=70+73 33b1=6e+73 33b3=6d+73 33c4=63+63 33c5=63+64
   33ca=68+61 33cc=69+6e 33cf=6b+74 33d0=6c+6d 33d1=6c+6e 33d2=6c+6f+67 33d3=6c+78 33d4=6d+62 33d5=6d+69+6c
   33d6=6d+6f+6c 33db=73+72 33ff=67+61+6c fb00=66+66 fb01=66+69 fb02=66+6c fb03=66+66+69 fb04=66+66+6c fb05=73+74
   fb06=73+74 ff41-ff5a=61 107a5=71 1d41a-1d433=61 1d44e-1d454=61 1d456-1d467=69 1d482-1d49b=61 1d4b6-1d4b9=61
   1d4bb=66 1d4bd-1d4c3=68 1d4c5-1d4cf=70 1d4ea-1d503=61 1d51e-1d537=61 1d552-1d56b=61 1d586-1d59f=61 1d5ba-1d5d3=61
   1d5ee-1d607=61 1d622-1d63b=61 1d656-1d66f=61 1d68a-1d6a3=61"

/-- The plain letters of a character in another lettering; every other character is left as it is. -/
def plainLetters (c : Char) : List Char :=
  match lettering.find? c with
  | some e => e.image c
  | none => [c]

end ChainClient.Unicode
