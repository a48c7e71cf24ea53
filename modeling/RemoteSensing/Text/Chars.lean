
/-!
Classes of characters, after Unicode 14.
-/

namespace RemoteSensing.Text

def blankRanges : List (Nat × Nat) :=
  [(0x09, 0x0D), (0x1C, 0x20), (0x85, 0x85), (0xA0, 0xA0), (0x1680, 0x1680), (0x2000, 0x200A),
    (0x2028, 0x2029), (0x202F, 0x202F), (0x205F, 0x205F), (0x3000, 0x3000)]

def isBlank (c : Char) : Bool :=
  blankRanges.any fun r => r.1 ≤ c.toNat && c.toNat ≤ r.2

def zeros : List Nat :=
  [0x30, 0x660, 0x6F0, 0x7C0, 0x966, 0x9E6, 0xA66, 0xAE6, 0xB66, 0xBE6, 0xC66, 0xCE6, 0xD66, 0xDE6, 0xE50, 0xED0,
    0xF20, 0x1040, 0x1090, 0x17E0, 0x1810, 0x1946, 0x19D0, 0x1A80, 0x1A90, 0x1B50, 0x1BB0, 0x1C40, 0x1C50, 0xA620,
    0xA8D0, 0xA900, 0xA9D0, 0xA9F0, 0xAA50, 0xABF0, 0xFF10, 0x104A0, 0x10D30, 0x11066, 0x110F0, 0x11136, 0x111D0,
    0x112F0, 0x11450, 0x114D0, 0x11650, 0x116C0, 0x11730, 0x118E0, 0x11950, 0x11C50, 0x11D50, 0x11DA0, 0x16A60,
    0x16AC0, 0x16B50, 0x1D7CE, 0x1D7D8, 0x1D7E2, 0x1D7EC, 0x1D7F6, 0x1E140, 0x1E2F0, 0x1E950, 0x1FBF0]

def decimal? (c : Char) : Option Nat :=
  if c.toNat < 0x80 then
    if c.isDigit then some (c.toNat - '0'.toNat) else none
  else
    (zeros.find? fun z => z ≤ c.toNat && c.toNat < z + 10).map (c.toNat - ·)

/-- Numbers one after the other: a digit or a capital letter ends each, and the small letters before it count thirty-sixes. -/
def numbersFrom (high : Nat) : List Char → List Nat
  | [] => []
  | c :: r =>
    if c.isLower then numbersFrom (26 * high + (c.toNat - 'a'.toNat)) r
    else (36 * high + c.toNat - if c.isDigit then '0'.toNat else 'A'.toNat - 10) :: numbersFrom 0 r

def numbersIn (s : String) : List Nat := numbersFrom 0 s.toList

def inStretches : List Nat → Nat → Bool
  | gap :: length :: rest, n =>
    if n < gap then false
    else if n < gap + length then true
    else inStretches rest (n - (gap + length))
  | _, _ => false

def alphanumerics : List Nat :=
  numbersIn ("bCA7Q6QbB1721132131N1V1mQ4CE57111dL51224116113111K1cB1dV8eM1b2216b5bZR44b9b7LA421cR11F27F21G11UTcHB1Eb7924" ++
    "15M419131NP7B5O16Hb6bMbI31I17A4A1G48222M17113431G1D2134C262186422M17121212V4117A23G9131M17121531I1F24A91B8222M" ++
    "17121531U2134A17B116331432111232333CM1LDI8131N1G31Q321224A871148131N1A1531V2124A12H9131b521G1531A4J165I3O19112" ++
    "7VAHbC12C79Ab3211151O111A129125119A24W1VKC81b0R5d7b7KB66443132734DC11A6b211512b71j9142711142b5142X142711142F1b" ++
    "L142bVEK3GGcE263r82H1Q5c33B7IDJEIED13FbGZ1413A6AMA6cH752Y115bYAVb3b425Bb84Q6Bb1N9bHb7A6AD1cLbBH83Ab5UDbKQb0SA3" ++
    "bD297b723b541612315fCbShQ262b226281111111V2bH1711331734264D5317d72265B6DcT1412A1135611111141B2455411bMu6bOc6Mr" ++
    "IUbfGgD6432912b211512bK71GN9717171717171717c81n13P975254cE631cI145b71cM34AWbCGWAU81FWAb3FiWhb4bSxrHbVbA2hH3SKb" ++
    "BGV2c8b392cV2bS521115OG13141ND6AbGEbESAO631121b2ANPT7bBSB651P1b5N3184A6N313bE1132252111O32B73C6262697171b71E6d" ++
    "7DA6lyCCN4bDjaSk62cYb27C5511A1D151112121d0Xk3IbS2bIb4Cd851dRJA7Q6QBcH36262623ZC1Q1J121F2EYdFCb9CbLH2gST3bDGR4b" ++
    "09U5b2AU2b04815b6eE2A6b04b04b48bGCB1F17121B1F1712bViN9MA8O61b619bX6211b812312N2V2b289bCJ125X4QbYbK4K2bBF4131TA" ++
    "9NV1WW81S65GbIAM2R5QN7c8c1bJbFDbF7b6CAi6V1b662c6b48MB4RIbASKNCbHQU1221Db9WP7A9b0FA41218Z31CbCE4BB114KBI1PcC711" ++
    "141F1A7bBHAB8222M17121531I1C5eEbHI45A53UbCK2118AeMbBb54b0bCK1BAb2b7D17AbIRLC47f5b8d8cBC82128121OF111EAbY82b3G1" ++
    "11S1Ab471L1BbAJ1Ic1hB91b1H1FT5Ud47121b2L19A66121WE17AiMJf91FLb7zMcUd3HfGcv8cPFbdReiHq7jfTpT7V1A6c71A6UIbCG4CA1" ++
    "71L5Jt4cFcXc351bUDbS211SgoG8biEb69jo7417121i3b93H48l0cm4cZ5D397AgcEKd0PdRcD1bZ122122241C11171bT1428171S1415113" ++
    "71jG2P1P1V1P1V1P1V1P1V1P182bEbxSVnDb9A72A41iXUIb84AbiU714121F1fH29bCbW714AvZbN1314c4b91FfE41R1211211A141111614" ++
    "111111312112111111111121124171414111A1H53151Hq4DczFAbcMbtqOWelD7g62ge2EhzLdi7p2bpUfh7")

def isAlphanumeric (c : Char) : Bool :=
  if c.toNat < 0x80 then c.isAlphanum else !isBlank c && inStretches alphanumerics c.toNat

def isWord (c : Char) : Bool := c == '_' || isAlphanumeric c

def isWordAt (c : Option Char) : Bool := c.any isWord

def hiddenPoints : List Nat :=
  numbersIn ("0WcNYC1tU2647111K1l11b22bE231bJ8R46HM1fC1bC2bN2cTEbN2bD2F1S211B5V9c21eH18222M1711342922248142152P2316422M1" ++
    "7121212211542233174117HA319131M1712152A131321F42C771318222M1712152922237342152IA216331432111232333C4533142161E" ++
    "L5D131N1G291314721321242A7M131N1A152913147262142A12DD131bF13164G2Q131I3O191127314611186A23CbM4Tb1211151O111N25" ++
    "11162A24Wc01b04b31b01F1Db1fI11512kH142711142b5142X142711142F1bL142bV2W3Q6cE262rS1S3cH7M9O9KCD1312CcM2A6A6E1B6c" ++
    "H7b75bYAV1C4C413b625Bb84Q6B3bQ2bT1T2B6A6E2VbDc53bB1d88bO3F3bO7b72B8b75oU262b226281111111V2bH1F1E261J2319HO8bBH" ++
    "22R1D3XFXFdW4sFPBLbyC2W1jP5b911512bK72EO97171717171717171dIYQ1cHCfYQC5bR1cE2cV5b71cM1cCCbB1bfhP3bJ9jOKf48fN521" ++
    "115ObN3A6bK8bY8C6d8BU3c61B4X1bJ9E2A2cVOSA6262697171bO4dI2A6lyCCN4bD4ceWgvSk62cYb27C55Q151112121dHGmD2bI71Wb66b" ++
    "F1J14451dR4fA362626233717D22C1Q1J121F2EYdF534b93cG1D31bBbAdMT3bDFS4b09U5b75U1b14Eb6eE2A6b04b04b48bGBC1F17121B1" ++
    "F1712bViN9MA8O61b619bX6211b812312N1c089bCJ125X3R51bSbK4K2bE1258131T234A797bSWb34C9bI3T2R5Q74C7c8c1bJbFDbF7bA8A" ++
    "i6V1b61322c6b48b6MQb2SKN9c64b09bQ15DP7A6bH1I8b39cO1KBI1b8bT711141F1B6bN5A6418222M1712151A22232161572735dVcK15U" ++
    "c08AeMbI2b2YbXBA6DJbM6AbIR2F4Nf5bOcScBC82128121U122C9AbY82bA2BRc08cBDc1hB91b91EAT3W2M1Ec17121b83112198A66121b1" ++
    "12167AiMPf31FbEDzNcUd315BfGcv8cRDbdReiHq7jfTpT7V1A4c91A6U26AbYAA171L5Jt4cJcTc34bL7HbS5B2EgoG8biEb69jo7417121i3" ++
    "b93H48l0cm4cZ5D397A24faObA2N9d8bOgUAb32c28d4LbYeAKCcF9PdRcD1bZ122122241C11171bT1428171S141511371jG2i42tIF51Fbe" ++
    "OVg971H271215fXb93E2A42iWVHbM51biO714121F1fH2Gb5c44A42vTbWc4bPfE41R1211211A14111161411111131211211111111112112" ++
    "4171414111A1H53151HbG2hIb84cSCF2F1F1b1AeUbKTDb84972E6eAbbC5G3D3d8CcH7C41FC4bK8A6b48U22c6jGCE2535379T3B56AA6887" ++
    "9e31bJb1AbcMbtqOWelD7g62ge2EhzLdi7p2bpUfh7bdleTgOibnK")

def isHidden (c : Char) : Bool :=
  if 0x20 ≤ c.toNat && c.toNat < 0x7F then false else inStretches hiddenPoints c.toNat

def otherNumbers : List Nat :=
  numbersIn ("eY25123tF1bu16kG6dC3dP7g17H9f61dJ1dAAbdXKbfNAnC1buT1366AfIGb51u6bOc6MrIUbmH1iH1y24dUAU81FWAb3Fbgd46xaG6lA2" ++
    "d8111111111111111hZ2jZb9bT4H2jHRb04bl08P7b39c35M6eG22G2bAbS9bG2U3c35cW8O8b57j66jSVeEAb64d47dQKkJKblH2lY9y7JxNL" ++
    "ur27w6Nbbl5Kd0PfvI9zTbN1314c4b91FbaQD")

def nameStarts : List Nat := [95, 1, 6181, 2, 2193, 1, 21, 1]

def nameMarks : List Nat :=
  numbersIn ("f31q8d4N1gZ5hDb911121211c0BbCLG1cT7262214Z1URcJBbM991O4191315b73bO8b6O1XbI31I17A2T3bK117222391A2Q123bK1154" ++
    "22331U231B3bK1181313K2M613bK117222373A2U1bN5331491b45bJ117131472B2T3bK117131472B2S4bJ217131491A2T3bY1461118I2b" ++
    "P118C8cQ11AB6c22R1111142bDK125B1b091cSKN443132734DC11A4tJ399zS4S3T2U2bSW91b9311e91dAC4CeE1bO5bLA1T21bCE1GbD5bB" ++
    "Hb29C3UDbKEbCKe831L416123fIbSpZ2J1dFD413CdhA3dX1cOWpE6cX2bgfW14AW2c82hK13141N541cB2bEIQID1b28PDb84bBEb01bVEC18" ++
    "2b93bE113225211b5552gK812vr41uHGGG32O3gN1cM2qT1gA1e55buE31254b4341eL2pX4kR2e9BbD4dE3bHFb5122A4b9B71bP3b0EG2b81" ++
    "C3bCE8412cKC61eGCL4bJ217222391A22735fCIN1c9KgJ729R2cAHcYDcTFh4FgT612241112dX72731SAb4714819BbAGl9818cAM1EdE631" ++
    "121711bU51215jN4uu95bN7bd411bJ74c91B2uz72faPbA2Np25368827U4e43ccZbJ4bE81E1M51FblS71H271215h97kF1bP4bpS7d17bgor" ++
    "XgO")

def startsName (c : Char) : Bool :=
  inStretches nameStarts c.toNat ||
    (isAlphanumeric c && (decimal? c).isNone && !inStretches otherNumbers c.toNat)

def continuesName (c : Char) : Bool :=
  startsName c || (decimal? c).isSome || inStretches nameMarks c.toNat

def isIdentifier (s : String) : Bool :=
  match s.toList with
  | [] => false
  | c :: r => startsName c && r.all continuesName

end RemoteSensing.Text

/-!
Searching, cutting and joining on lists of characters.
-/

namespace RemoteSensing.Chars

open RemoteSensing.Text

def findAt (sub : List Char) (i : Nat) : List Char → Option Nat
  | [] => if sub.isEmpty then some i else none
  | c :: r => if sub.isPrefixOf (c :: r) then some i else findAt sub (i + 1) r

def find? (sub s : List Char) : Option Nat := findAt sub 0 s

def findFrom (sub s : List Char) (start : Nat) : Option Nat :=
  if start ≤ s.length then findAt sub start (s.drop start) else none

def contains (s sub : List Char) : Bool := (find? sub s).isSome

def positionsFrom (sub : List Char) : Nat → Nat → List Char → List Nat
  | _, _, [] => []
  | i, skip + 1, _ :: r => positionsFrom sub (i + 1) skip r
  | i, 0, c :: r =>
    if sub.isPrefixOf (c :: r) then i :: positionsFrom sub (i + 1) (sub.length - 1) r
    else positionsFrom sub (i + 1) 0 r

def positions (sub s : List Char) : List Nat := positionsFrom sub 0 0 s

def replaceFrom (old new : List Char) : Nat → List Char → List Char
  | _, [] => []
  | skip + 1, _ :: r => replaceFrom old new skip r
  | 0, c :: r =>
    if old.isPrefixOf (c :: r) then new ++ replaceFrom old new (old.length - 1) r
    else c :: replaceFrom old new 0 r

def interleave (new : List Char) : List Char → List Char
  | [] => new
  | c :: r => new ++ c :: interleave new r

def replace (old new s : List Char) : List Char :=
  if old.isEmpty then interleave new s else replaceFrom old new 0 s

def replaceFirst (old new : List Char) : List Char → List Char
  | [] => if old.isEmpty then new else []
  | c :: r =>
    if old.isPrefixOf (c :: r) then new ++ (c :: r).drop old.length
    else c :: replaceFirst old new r

def trimLeft (s : List Char) : List Char := s.dropWhile isBlank

def trimRight (s : List Char) : List Char := (s.reverse.dropWhile isBlank).reverse

def trim (s : List Char) : List Char := trimRight (trimLeft s)

def splitFrom (sep : List Char) : Nat → List Char → List Char → List (List Char)
  | _, part, [] => [part.reverse]
  | skip + 1, part, _ :: r => splitFrom sep skip part r
  | 0, part, c :: r =>
    if sep.isPrefixOf (c :: r) then part.reverse :: splitFrom sep (sep.length - 1) [] r
    else splitFrom sep 0 (c :: part) r

def split (sep s : List Char) : List (List Char) := splitFrom sep 0 [] s

def wordsFrom : List Char → List Char → List (List Char)
  | part, [] => if part.isEmpty then [] else [part.reverse]
  | part, c :: r =>
    if isBlank c then
      if part.isEmpty then wordsFrom [] r else part.reverse :: wordsFrom [] r
    else wordsFrom (c :: part) r

def words (s : List Char) : List (List Char) := wordsFrom [] s

def join (sep : List Char) : List (List Char) → List Char
  | [] => []
  | [p] => p
  | p :: q :: r => p ++ sep ++ join sep (q :: r)

def linesFrom : List Char → List Char → List (List Char)
  | part, [] => if part.isEmpty then [] else [part.reverse]
  | part, c :: r => if c = '\n' then (c :: part).reverse :: linesFrom [] r else linesFrom (c :: part) r

def lines (s : List Char) : List (List Char) := linesFrom [] s

def plainNewlines : List Char → List Char
  | [] => []
  | '\r' :: '\n' :: r => '\n' :: plainNewlines r
  | '\r' :: r => '\n' :: plainNewlines r
  | c :: r => c :: plainNewlines r

def clamp (n : Nat) (i : Int) : Nat :=
  if i < 0 then (i + n).toNat else min i.toNat n

def slice (s : List Char) (a b : Int) : List Char :=
  let lo := clamp s.length a
  let hi := clamp s.length b
  (s.take hi).drop lo

def times (n : Nat) (s : List Char) : List Char := (List.replicate n s).flatten

end RemoteSensing.Chars
