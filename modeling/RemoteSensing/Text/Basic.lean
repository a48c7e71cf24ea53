import RemoteSensing.Text.Chars

/-!
Case.
-/

namespace RemoteSensing.Text

structure CaseShift where
  first : Nat
  last : Nat
  step : Nat
  shift : Int

def readShifts (start : Nat) : List Nat → List CaseShift
  | gap :: span :: step :: shift :: rest =>
    let last := start + gap + span
    ⟨start + gap, last, step, if shift % 2 = 0 then shift / 2 else -((shift + 1) / 2 : Nat)⟩ :: readShifts last rest
  | _ => []

def smallShifts : List CaseShift :=
  readShifts 0 (numbersIn ("fCM1bS261bSYbA22201l124223E223b822201gP1422401lO1222201lG1012211lE1012301eE101l8101lA1012201lE101lI201lQ10" ++
    "1lM1012401lQ101lU201lW1422201m41012201m43012201m41012211m21222201m610124012801410122014101220141G223G223014122" ++
    "2201fD101d31b222201h72G22801xbQ1012201j1101xbK3012201kT101dU101dY1822i22224012901gG701c4221c2201dK211dI2G1bS28" ++
    "1bSb001G9M22601dB3012201D1012321h71F1eG1V1bSbDW22AbG22201U1C223cM223b11cOdcAb11pnK201pnK601pnKu3c71dfb4151Gcj7" ++
    "b61gl3321gl3iXe422A01qh12cM22A71F951FB71F971F951FC62F971FP71F971F971F911F111e3101HC31eR101HC11F111fJD11F111g71" ++
    "01DC11h3111gZ101HiA01qbL401rxP101rqZ701bKbAF1WK012wRP1bGbz5bB1cObD012201wyT101idV101wxX3422201xaV101wz5101xb11" ++
    "01xaZ20123012911xcT1cQ2292225012bheMb822KQ22dSC224bO22B222201cxmV18225012201dmiV32224I22201dmkF101dml1101dmkT1" ++
    "01dmk9101dmkF201dmhN101dmiZ101dmhT101bzK1E22201cN101dmkD101cxpR122270126222T012xvWP1bSbhYb31c8dTZ1c8eDA1c62E1c" ++
    "6261c6211c6bx7bE1dKdgUV1bSxk1V1bSbho1X1bW"))

def otherCapitals : List CaseShift :=
  readShifts 0 (numbersIn ("f101bpAdG01mVc601qNbY01130113011b3011jF01eOdH01bPE01dF101d5401cL101cZQ01eR101eF401fBgsJ01njF101njD101niV11" ++
    "1niR101niT101niF101nfD101cxj8oR01d9i301pk9"))

def capitalShifts : List CaseShift :=
  otherCapitals ++ smallShifts.map fun s =>
    ⟨((s.first : Int) + s.shift).toNat, ((s.last : Int) + s.shift).toNat, s.step, -s.shift⟩

/-- Forms of characters: in each word the forms of its first character stand behind it. -/
def formsIn (s : String) : List (Nat × List Nat) :=
  (Chars.split [' '] s.toList).map fun w => ((w.headD ' ').toNat, w.tail.map Char.toNat)

def longCapitals : List (Nat × List Nat) :=
  ((List.range 48).map fun i => (0x1F80 + i, [[0x1F08, 0x1F28, 0x1F68].getD (i / 16) 0 + i % 8, 0x399])) ++
  formsIn ("ßSS ŉʼN ǰJ̌ ΐΪ́ ΰΫ́ ևԵՒ ẖH̱ ẗT̈ ẘW̊ ẙY̊ ẚAʾ ὐΥ̓ ὒΥ̓̀ ὔΥ̓́ ὖΥ̓͂ ᾲᾺΙ ᾳΑΙ ᾴΆΙ ᾶΑ͂ ᾷΑ͂Ι ᾼΑΙ ῂῊΙ ῃΗΙ " ++
    "ῄΉΙ ῆΗ͂ ῇΗ͂Ι ῌΗΙ ῒΪ̀ ΐΪ́ ῖΙ͂ ῗΪ͂ ῢΫ̀ ΰΫ́ ῤΡ̓ ῦΥ͂ ῧΫ͂ ῲῺΙ ῳΩΙ ῴΏΙ ῶΩ͂ ῷΩ͂Ι ῼΩΙ ﬀFF ﬁFI ﬂFL ﬃFFI " ++
    "ﬄFFL ﬅST ﬆST ﬓՄՆ ﬔՄԵ ﬕՄԻ ﬖՎՆ ﬗՄԽ")

def titleForms : List (Nat × List Nat) :=
  ((List.range' 0x10D0 43 ++ List.range' 0x10FD 3).map fun c => (c, [c])) ++
  ((List.range 48).map fun i => (0x1F80 + i, [0x1F88 + 16 * (i / 16) + i % 8])) ++
  formsIn ("ßSs Ǆǅ ǅǅ ǆǅ Ǉǈ ǈǈ ǉǈ Ǌǋ ǋǋ ǌǋ Ǳǲ ǲǲ ǳǲ ևԵւ ᾲᾺͅ ᾳᾼ ᾴΆͅ ᾷᾼ͂ ᾼᾼ ῂῊͅ ῃῌ ῄΉͅ ῇῌ͂ ῌῌ ῲῺͅ ῳῼ ῴΏͅ ῷῼ͂ ῼῼ " ++
    "ﬀFf ﬁFi ﬂFl ﬃFfi ﬄFfl ﬅSt ﬆSt ﬓՄն ﬔՄե ﬕՄի ﬖՎն ﬗՄխ")

def caseKin : List (Nat × List Nat) :=
  formsIn ("iı sſ µμ ıi ſs \u0345ιι ΐΐ ΰΰ βϐ εϵ θϑ ιͅι κϰ μµ πϖ ρϱ ςσ σς φϕ ϐβ ϑθ ϕφ ϖπ ϰκ ϱρ ϵε вᲀ дᲁ оᲂ сᲃ тᲄᲅ " ++
    "ъᲆ ѣᲇ ᲀв ᲁд ᲂо ᲃс ᲄтᲅ ᲅтᲄ ᲆъ ᲇѣ ᲈꙋ ṡẛ ẛṡ ιͅι ΐΐ ΰΰ ꙋᲈ ﬅﬆ ﬆﬅ")

def shiftCase (table : List CaseShift) (c : Char) : Char :=
  match table.find? fun s => s.first ≤ c.toNat && c.toNat ≤ s.last && (c.toNat - s.first) % s.step == 0 with
  | some s => Char.ofNat ((c.toNat : Int) + s.shift).toNat
  | none => c

def smallOf (c : Char) : Char := if c.toNat < 0x80 then c.toLower else shiftCase smallShifts c

def longForm? (table : List (Nat × List Nat)) (c : Char) : Option (List Char) :=
  if c.toNat < 0x80 then none
  else (table.find? (·.1 == c.toNat)).map fun e => e.2.map Char.ofNat

def capitalOf (c : Char) : Char :=
  if c.toNat < 0x80 then c.toUpper
  else match longForm? longCapitals c with
    | some (first :: _) => first
    | _ => shiftCase capitalShifts c

def isCased (c : Char) : Bool := smallOf c != c || capitalOf c != c

def capitalLetters (c : Char) : List Char := (longForm? longCapitals c).getD [capitalOf c]

def titleLetters (c : Char) : List Char := (longForm? titleForms c).getD (capitalLetters c)

def isCaseIgnorable (c : Char) : Bool :=
  [0x27, 0x2E, 0x3A, 0x5E, 0x60, 0xA8, 0xAD, 0xAF, 0xB4, 0xB7, 0xB8, 0x2019].contains c.toNat ||
    (0x300 ≤ c.toNat && c.toNat ≤ 0x36F)

def smallLetters : List Char → List Char → List Char
  | _, [] => []
  | before, c :: r =>
    let small :=
      if c = 'Σ' then
        let left := before.dropWhile isCaseIgnorable
        let right := r.dropWhile isCaseIgnorable
        if (left.head?.any isCased) && !(right.head?.any isCased) then ['ς'] else ['σ']
      else if c = 'İ' then ['i', '\u0307']
      else [smallOf c]
    small ++ smallLetters (c :: before) r

def lower (s : String) : String := String.ofList (smallLetters [] s.toList)

def upper (s : String) : String := String.ofList (s.toList.flatMap capitalLetters)

def capitalise (s : String) : String :=
  match s.toList with
  | [] => ""
  | c :: r => String.ofList (titleLetters c ++ smallLetters [c] r)

/-!
The operations of `Chars` for `String`, and the few that only text of the whole library needs: padding with
zeros, and reading whole numbers in a base.
-/

open String

def find? (s sub : String) : Option Nat := Chars.find? sub.toList s.toList

def contains (s sub : String) : Bool := Chars.contains s.toList sub.toList

def startsWith (s p : String) : Bool := p.toList.isPrefixOf s.toList

def endsWith (s p : String) : Bool := p.toList.isSuffixOf s.toList

def replace (s old new : String) : String :=
  ofList (Chars.replace old.toList new.toList s.toList)

def replaceFirst (s old new : String) : String :=
  ofList (Chars.replaceFirst old.toList new.toList s.toList)

def split (s sep : String) : List String :=
  (Chars.split sep.toList s.toList).map ofList

def words (s : String) : List String := (Chars.words s.toList).map ofList

def join (sep : String) (parts : List String) : String := sep.intercalate parts

def trim (s : String) : String := ofList (Chars.trim s.toList)

def trimRight (s : String) : String := ofList (Chars.trimRight s.toList)

def slice (s : String) (a b : Int) : String := ofList (Chars.slice s.toList a b)

def sliceFrom (s : String) (a : Int) : String := slice s a s.length

def sliceTo (s : String) (b : Int) : String := slice s 0 b

def lines (s : String) : List String := (Chars.lines s.toList).map ofList

def plainNewlines (s : String) : String := ofList (Chars.plainNewlines s.toList)

def times (n : Int) (s : String) : String := ofList (Chars.times n.toNat s.toList)

def zeroFill (s : String) (width : Nat) : String :=
  let zeros := ofList (List.replicate (width - s.length) '0')
  match s.toList with
  | '-' :: r => "-" ++ zeros ++ ofList r
  | '+' :: r => "+" ++ zeros ++ ofList r
  | _ => zeros ++ s

def digitValue? (base : Nat) (c : Char) : Option Nat :=
  let v :=
    if (decimal? c).isSome then decimal? c
    else if 'a' ≤ c && c ≤ 'z' then some (c.toNat - 'a'.toNat + 10)
    else if 'A' ≤ c && c ≤ 'Z' then some (c.toNat - 'A'.toNat + 10)
    else none
  v.filter (· < base)

def readDigits (base : Nat) : Bool → Nat → List Char → Option Nat
  | last, acc, [] => if last then some acc else none
  | last, acc, c :: r =>
    if c = '_' then
      if last && !r.isEmpty then readDigits base false acc r else none
    else
      match digitValue? base c with
      | some d => readDigits base true (acc * base + d) r
      | none => none

def readInt? (base : Nat) (s : String) : Option Int :=
  let unsigned (cs : List Char) : Option Nat :=
    match base, cs with
    | 16, '0' :: 'x' :: r => readDigits base true 0 r |>.filter fun _ => !r.isEmpty
    | 16, '0' :: 'X' :: r => readDigits base true 0 r |>.filter fun _ => !r.isEmpty
    | _, cs => readDigits base false 0 cs
  match Chars.trim s.toList with
  | '-' :: r => (unsigned r).map fun n => -(n : Int)
  | '+' :: r => (unsigned r).map Int.ofNat
  | r => (unsigned r).map Int.ofNat

def hexDigits (n : Nat) : String := ofList (Nat.toDigits 16 n)

def digitLimit : Nat := 4300

/-! Quoted text. -/

def hexPadded (width n : Nat) : String := zeroFill (hexDigits n) width

def literalChar (quote c : Char) : String :=
  if c = quote || c = '\\' then ofList ['\\', c]
  else if c = '\n' then "\\n"
  else if c = '\r' then "\\r"
  else if c = '\t' then "\\t"
  else if isHidden c then
    if c.toNat < 0x100 then "\\x" ++ hexPadded 2 c.toNat
    else if c.toNat < 0x10000 then "\\u" ++ hexPadded 4 c.toNat
    else "\\U" ++ hexPadded 8 c.toNat
  else singleton c

def literal (s : String) : String :=
  let cs := s.toList
  let quote : Char := if cs.contains '\'' && !cs.contains '"' then '"' else '\''
  singleton quote ++ String.join (cs.map (literalChar quote)) ++ singleton quote

def surrogates (n : Nat) : String :=
  "\\u" ++ hexPadded 4 (0xD800 + (n - 0x10000) / 0x400) ++
    "\\u" ++ hexPadded 4 (0xDC00 + (n - 0x10000) % 0x400)

def jsonChar (ascii : Bool) (c : Char) : String :=
  if c = '"' then "\\\""
  else if c = '\\' then "\\\\"
  else if c = '\n' then "\\n"
  else if c = '\r' then "\\r"
  else if c = '\t' then "\\t"
  else if c = '\x08' then "\\b"
  else if c = '\x0c' then "\\f"
  else if c.toNat < 0x20 then "\\u" ++ hexPadded 4 c.toNat
  else if ascii && c.toNat > 0x7E then
    if c.toNat < 0x10000 then "\\u" ++ hexPadded 4 c.toNat else surrogates c.toNat
  else singleton c

def jsonQuoted (ascii : Bool) (s : String) : String :=
  "\"" ++ String.join (s.toList.map (jsonChar ascii)) ++ "\""

end RemoteSensing.Text
