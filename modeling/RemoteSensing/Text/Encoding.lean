import RemoteSensing.Text.Basic

/-!
Encodings of text as bytes.
-/

namespace RemoteSensing.Text

open String

def base64Alphabet : List Char :=
  "ABCDEFGHIJKLMNOPQRSTUVWXYZabcdefghijklmnopqrstuvwxyz0123456789+/".toList

def base64Char (n : Nat) : Char := base64Alphabet.getD (n % 64) 'A'

def base64 : List UInt8 → List Char
  | [] => []
  | [a] =>
    let n := a.toNat * 65536
    [base64Char (n / 262144), base64Char (n / 4096), '=', '=']
  | [a, b] =>
    let n := a.toNat * 65536 + b.toNat * 256
    [base64Char (n / 262144), base64Char (n / 4096), base64Char (n / 64), '=']
  | a :: b :: c :: r =>
    let n := a.toNat * 65536 + b.toNat * 256 + c.toNat
    [base64Char (n / 262144), base64Char (n / 4096), base64Char (n / 64), base64Char n] ++ base64 r

def stretch (first count : Nat) : String := ofList ((List.range count).map fun i => Char.ofNat (first + i))

def easternLetters : String :=
  "ŔÁÂĂÄĹĆÇČÉĘËĚÍÎĎĐŃŇÓÔŐÖ×ŘŮÚŰÜÝŢß" ++
    "ŕáâăäĺćçčéęëěíîďđńňóôőö÷řůúűüýţ˙"

def westernPage : String :=
  "€�‚ƒ„…†‡ˆ‰Š‹Œ�Ž��‘’“”•–—˜™š›œ�žŸ" ++
    stretch 0xA0 96

def latinNinePage : String :=
  stretch 0x80 32 ++
    "\u00a0¡¢£€¥Š§š©ª«¬\u00ad®¯°±²³Žµ¶·ž¹º»ŒœŸ¿" ++
    stretch 0xC0 64

def latinTwoPage : String :=
  stretch 0x80 32 ++
    "\u00a0Ą˘Ł¤ĽŚ§¨ŠŞŤŹ\u00adŽŻ°ą˛ł´ľśˇ¸šşťź˝žż" ++
    easternLetters

def centralPage : String :=
  "€�‚�„…†‡�‰Š‹ŚŤŽŹ�‘’“”•–—�™š›śťžź" ++
    "\u00a0ˇ˘Ł¤Ą¦§¨©Ş«¬\u00ad®Ż°±˛ł´µ¶·¸ąş»Ľ˝ľż" ++
    easternLetters

def cyrillicPage : String :=
  "ЂЃ‚ѓ„…†‡€‰Љ‹ЊЌЋЏђ‘’“”•–—�™љ›њќћџ" ++
    "\u00a0ЎўЈ¤Ґ¦§Ё©Є«¬\u00ad®Ї°±Ііґµ¶·ё№є»јЅѕї" ++
    stretch 0x410 64

def terminalPage : String :=
  "ÇüéâäàåçêëèïîìÄÅÉæÆôöòûùÿÖÜ¢£¥₧ƒ" ++
    "áíóúñÑªº¿⌐¬½¼¡«»░▒▓│┤╡╢╖╕╣║╗╝╜╛┐" ++
    "└┴┬├─┼╞╟╚╔╩╦╠═╬╧╨╤╥╙╘╒╓╫╪┘┌█▄▌▐▀" ++
    "αßΓπΣσµτΦΘΩδ∞φε∩≡±≥≤⌠⌡÷≈°∙·√ⁿ²■\u00a0"

def multilingualPage : String :=
  "ÇüéâäàåçêëèïîìÄÅÉæÆôöòûùÿÖÜø£Ø×ƒ" ++
    "áíóúñÑªº¿®¬½¼¡«»░▒▓│┤ÁÂÀ©╣║╗╝¢¥┐" ++
    "└┴┬├─┼ãÃ╚╔╩╦╠═╬¤ðÐÊËÈıÍÎÏ┘┌█▄¦Ì▀" ++
    "ÓßÔÒõÕµþÞÚÛÙýÝ¯´\u00ad±‗¾¶§÷¸°¨·¹³²■\u00a0"

def desktopRomanPage : String :=
  "ÄÅÇÉÑÖÜáàâäãåçéèêëíìîïñóòôöõúùûü" ++
    "†°¢£§•¶ß®©™´¨≠ÆØ∞±≤≥¥µ∂∑∏π∫ªºΩæø" ++
    "¿¡¬√ƒ≈∆«»…\u00a0ÀÃÕŒœ–—“”‘’÷◊ÿŸ⁄€‹›ﬁﬂ" ++
    "‡·‚„‰ÂÊÁËÈÍÎÏÌÓÔ\uf8ffÒÚÛÙıˆ˜¯˘˙˚¸˝˛ˇ"

inductive ByteOrder where
  | little
  | big
deriving DecidableEq, Repr

inductive Encoding where
  | utf8 (marked : Bool)
  | utf16 (order : Option ByteOrder)
  | utf32 (order : Option ByteOrder)
  | ascii
  | latin
  | page (upper : String)
deriving DecidableEq, Repr

def encodingNames : List (List String × Encoding) :=
  [(["utf_8", "cp65001", "u8", "utf", "utf8", "utf8_ucs2", "utf8_ucs4"], .utf8 false),
    (["utf_8_sig"], .utf8 true),
    (["ascii", "646", "ansi_x3_4_1968", "ansi_x3_4_1986", "cp367", "csascii", "ibm367", "iso646_us",
      "iso_646_irv_1991", "iso_ir_6", "us", "us_ascii"], .ascii),
    (["latin_1", "8859", "cp819", "csisolatin1", "ibm819", "iso8859", "iso8859_1", "iso_8859_1",
      "iso_8859_1_1987", "iso_ir_100", "l1", "latin", "latin1"], .latin),
    (["utf_16", "u16", "utf16"], .utf16 none),
    (["utf_16_le", "unicodelittleunmarked", "utf_16le"], .utf16 (some .little)),
    (["utf_16_be", "unicodebigunmarked", "utf_16be"], .utf16 (some .big)),
    (["utf_32", "u32", "utf32"], .utf32 none),
    (["utf_32_le", "utf_32le"], .utf32 (some .little)),
    (["utf_32_be", "utf_32be"], .utf32 (some .big)),
    (["cp1252", "1252", "windows_1252"], .page westernPage),
    (["iso8859_15", "iso_8859_15", "l9", "latin9"], .page latinNinePage),
    (["iso8859_2", "csisolatin2", "iso_8859_2", "iso_8859_2_1987", "iso_ir_101", "l2", "latin2"], .page
      latinTwoPage),
    (["cp1250", "1250", "windows_1250"], .page centralPage),
    (["cp1251", "1251", "windows_1251"], .page cyrillicPage),
    (["cp437", "437", "cspc8codepage437", "ibm437"], .page terminalPage),
    (["cp850", "850", "cspc850multilingual", "ibm850"], .page multilingualPage),
    (["mac_roman", "macintosh", "macroman"], .page desktopRomanPage)]

def plainName (s : String) : String :=
  let isKept (c : Char) : Bool := c.isAlphanum || c == '.'
  let spaced := ofList (s.toList.map fun c => if isKept c then c.toLower else ' ')
  Text.join "_" ((Text.split spaced " ").filter fun part => !part.isEmpty)

def Encoding.named? (name : String) : Option Encoding :=
  let plain := Text.replace (plainName name) "." "_"
  (encodingNames.find? fun e => e.1.contains plain).map (·.2)

structure Undecodable where
  encoding : String
  first : Nat
  last : Nat
  byte : Nat
  reason : String
deriving DecidableEq, Repr

def Undecodable.message (u : Undecodable) : String :=
  let byte := ofList (Nat.toDigits 16 u.byte)
  let what :=
    if u.first == u.last then
      "byte 0x" ++ (if byte.length < 2 then "0" ++ byte else byte) ++ " in position " ++ toString u.first
    else "bytes in position " ++ toString u.first ++ "-" ++ toString u.last
  "'" ++ u.encoding ++ "' codec can't decode " ++ what ++ ": " ++ u.reason

def decodeBytes (encoding reason : String) (char : Nat → Option Char) :
    Nat → List Nat → Except Undecodable (List Char)
  | _, [] => .ok []
  | i, b :: r =>
    match char b with
    | some c => (decodeBytes encoding reason char (i + 1) r).map (c :: ·)
    | none => .error ⟨encoding, i, i, b, reason⟩

def ByteOrder.unit (order : ByteOrder) (bytes : List Nat) : Nat :=
  (match order with | .little => bytes.reverse | .big => bytes).foldl (fun n b => n * 256 + b) 0

def ByteOrder.suffix : ByteOrder → String
  | .little => "-le"
  | .big => "-be"

def decodeUnits16 (order : ByteOrder) : Nat → List Nat → Except Undecodable (List Char)
  | _, [] => .ok []
  | i, [b] => .error ⟨"utf-16" ++ order.suffix, i, i, b, "truncated data"⟩
  | i, a :: b :: r =>
    let name := "utf-16" ++ order.suffix
    let n := order.unit [a, b]
    if 0xDC00 ≤ n && n < 0xE000 then .error ⟨name, i, i + 1, a, "illegal encoding"⟩
    else if 0xD800 ≤ n && n < 0xDC00 then
      match r with
      | c :: d :: r =>
        let m := order.unit [c, d]
        if 0xDC00 ≤ m && m < 0xE000 then
          (decodeUnits16 order (i + 4) r).map
            (Char.ofNat (0x10000 + (n - 0xD800) * 0x400 + (m - 0xDC00)) :: ·)
        else .error ⟨name, i, i + 1, a, "illegal UTF-16 surrogate"⟩
      | r => .error ⟨name, i, i + 1 + r.length, a, "unexpected end of data"⟩
    else (decodeUnits16 order (i + 2) r).map (Char.ofNat n :: ·)

def decodeUnits32 (order : ByteOrder) : Nat → List Nat → Except Undecodable (List Char)
  | _, [] => .ok []
  | i, a :: b :: c :: d :: r =>
    let name := "utf-32" ++ order.suffix
    let n := order.unit [a, b, c, d]
    if n ≥ 0x110000 then .error ⟨name, i, i + 3, a, "code point not in range(0x110000)"⟩
    else if 0xD800 ≤ n && n < 0xE000 then
      .error ⟨name, i, i + 3, a, "code point in surrogate code point range(0xd800, 0xe000)"⟩
    else (decodeUnits32 order (i + 4) r).map (Char.ofNat n :: ·)
  | i, a :: r => .error ⟨"utf-32" ++ order.suffix, i, i + r.length, a, "truncated data"⟩

def bytesOf (s : String) : List Nat := s.toUTF8.toList.map UInt8.toNat

def shown (bytes : List Nat) : String :=
  match fromUTF8? ⟨(bytes.map Nat.toUInt8).toArray⟩ with
  | some s => s
  | none => ofList (bytes.map fun b => if b < 0x80 then Char.ofNat b else Char.ofNat 0xFFFD)

def Encoding.decode (e : Encoding) (bytes : List Nat) : Except Undecodable String :=
  match e with
  | .utf8 marked => .ok (shown (if marked && [0xEF, 0xBB, 0xBF].isPrefixOf bytes then bytes.drop 3 else bytes))
  | .ascii =>
    (decodeBytes "ascii" "ordinal not in range(128)"
      (fun b => if b < 128 then some (Char.ofNat b) else none) 0 bytes).map ofList
  | .latin => .ok (ofList (bytes.map Char.ofNat))
  | .page upper =>
    let table := upper.toList.toArray
    let char (b : Nat) : Option Char :=
      if b < 128 then some (Char.ofNat b) else (table[b - 128]?).filter (· != Char.ofNat 0xFFFD)
    (decodeBytes "charmap" "character maps to <undefined>" char 0 bytes).map ofList
  | .utf16 (some order) => (decodeUnits16 order 0 bytes).map ofList
  | .utf16 none =>
    (match bytes with
    | 0xFF :: 0xFE :: r => decodeUnits16 .little 2 r
    | 0xFE :: 0xFF :: r => decodeUnits16 .big 2 r
    | r => decodeUnits16 .little 0 r).map ofList
  | .utf32 (some order) => (decodeUnits32 order 0 bytes).map ofList
  | .utf32 none =>
    (match bytes with
    | 0xFF :: 0xFE :: 0 :: 0 :: r => decodeUnits32 .little 4 r
    | 0 :: 0 :: 0xFE :: 0xFF :: r => decodeUnits32 .big 4 r
    | r => decodeUnits32 .little 0 r).map ofList

def Encoding.unmarked? (e : Encoding) (bytes : List Nat) : Option String :=
  match e, bytes with
  | .utf16 none, 0xFF :: 0xFE :: _ | .utf16 none, 0xFE :: 0xFF :: _ => none
  | .utf16 none, _ :: _ :: _ => some "UTF-16 stream does not start with BOM"
  | .utf32 none, 0xFF :: 0xFE :: 0 :: 0 :: _ | .utf32 none, 0 :: 0 :: 0xFE :: 0xFF :: _ => none
  | .utf32 none, _ :: _ :: _ :: _ :: _ => some "UTF-32 stream does not start with BOM"
  | _, _ => none

def Encoding.encode (e : Encoding) (s : String) : List Nat :=
  let little (width : Nat) (b : Nat) : List Nat := b :: List.replicate (width - 1) 0
  match e with
  | .utf8 true => [0xEF, 0xBB, 0xBF] ++ bytesOf s
  | .utf16 none => [0xFF, 0xFE] ++ (bytesOf s).flatMap (little 2)
  | .utf16 (some .little) => (bytesOf s).flatMap (little 2)
  | .utf16 (some .big) => (bytesOf s).flatMap fun b => (little 2 b).reverse
  | .utf32 none => [0xFF, 0xFE, 0, 0] ++ (bytesOf s).flatMap (little 4)
  | .utf32 (some .little) => (bytesOf s).flatMap (little 4)
  | .utf32 (some .big) => (bytesOf s).flatMap fun b => (little 4 b).reverse
  | _ => bytesOf s

end RemoteSensing.Text
