import RemoteSensing.Text.Pattern

/-!
Reading a search pattern.
-/

namespace RemoteSensing.Text.Pattern

structure Mode where
  ignoreCase : Bool := false
  lines : Bool := false
  dotAll : Bool := false
  verbose : Bool := false
  ascii : Bool := false
deriving Repr

def Mode.rule (m : Mode) : CaseRule :=
  if !m.ignoreCase then .exact else if m.ascii then .ascii else .unicode

structure Scan where
  text : Array Char
  index : Nat := 0
  next : Option String := none
  flags : List Char := []
  groups : List (Option Width) := []
  names : List (String × Nat) := []
  behind : Option Nat := none
  awaited : List (Nat × Nat) := []
  loose : Option String := none

abbrev Reading := StateT Scan (Except String)

def located (text : Array Char) (message : String) (position : Int) : String :=
  let before := text.toList.take position.toNat
  let line := before.count '\n' + 1
  let column := (before.reverse.takeWhile (· != '\n')).length + 1
  let place := message ++ " at position " ++ toString position
  if text.contains '\n' then place ++ " (line " ++ toString line ++ ", column " ++ toString column ++ ")" else place

def Scan.position (s : Scan) : Nat := s.index - (s.next.map String.length).getD 0

def refuse {α : Type} (message : String) (back : Nat := 0) : Reading α := do
  let s ← get
  throw (located s.text message ((s.position : Int) - back))

def advance : Reading Unit := do
  let s ← get
  match s.text[s.index]? with
  | none => set { s with next := none }
  | some '\\' =>
    match s.text[s.index + 1]? with
    | none => throw (located s.text "bad escape (end of pattern)" ((s.text.size : Int) - 1))
    | some c => set { s with index := s.index + 2, next := some (String.ofList ['\\', c]) }
  | some c => set { s with index := s.index + 1, next := some (String.singleton c) }

def peek : Reading (Option String) := return (← get).next

def tell : Reading Nat := return (← get).position

def take : Reading (Option String) := do
  let this ← peek
  advance
  pure this

def accept (token : String) : Reading Bool := do
  if (← peek) == some token then
    advance
    pure true
  else pure false

def seek (index : Nat) : Reading Unit := do
  modify ({ · with index := index })
  advance

def among (set : String) (token : Option String) : Bool :=
  match token.map String.toList with
  | some [c] => set.toList.contains c
  | _ => false

def decimals : String := "0123456789"

def octals : String := "01234567"

def hexadecimals : String := "0123456789abcdefABCDEF"

def number (base : Nat) (digits : String) : Nat := (readDigits base false 0 digits.toList).getD 0

def takeSome (set : String) : Nat → Reading String
  | 0 => pure ""
  | n + 1 => do
    match ← peek with
    | some token =>
      if among set (some token) then
        advance
        return token ++ (← takeSome set n)
      else pure ""
    | none => pure ""

def takeUntil (close what : String) : Nat → String → Reading String
  | 0, got => pure got
  | fuel + 1, got => do
    match ← take with
    | none =>
      if got.isEmpty then refuse ("missing " ++ what)
      else refuse ("missing " ++ close ++ ", unterminated name") got.length
    | some token =>
      if token == close then
        if got.isEmpty then refuse ("missing " ++ what) 1 else pure got
      else takeUntil close what fuel (got ++ token)

def nameUntil (close what : String) : Reading String := do
  takeUntil close what ((← get).text.size + 1) ""

def Scan.widthOf? (s : Scan) (n : Nat) : Option Width :=
  if n == 0 then none else (s.groups[n - 1]?).getD none

def Scan.count (s : Scan) : Nat := s.groups.length + 1

def Scan.widths (s : Scan) (n : Nat) : Width := (s.widthOf? n).getD ⟨0, 0⟩

def checkBehind (n : Nat) : Reading Unit := do
  let s ← get
  match s.behind with
  | none => pure ()
  | some first =>
    if (s.widthOf? n).isNone then refuse "cannot refer to an open group"
    if n ≥ first then refuse "cannot refer to group defined in the same lookbehind subpattern"

def openGroup (name : Option String) : Reading Nat := do
  let s ← get
  let n := s.count
  match name with
  | none => set { s with groups := s.groups ++ [none] }
  | some name =>
    match s.names.find? (·.1 == name) with
    | some (_, first) =>
      refuse ("redefinition of group name " ++ literal name ++ " as group " ++ toString n ++ "; was group " ++
        toString first) (name.length + 1)
    | none => set { s with groups := s.groups ++ [none], names := s.names ++ [(name, n)] }
  pure n

def closeGroup (n : Nat) (p : Pattern) : Reading Unit :=
  modify fun s => { s with groups := s.groups.set (n - 1) (some (p.width s.widths)) }

def checkName (name : String) : Reading Unit := do
  unless isIdentifier name do
    refuse ("bad character in group name " ++ literal name) (name.length + 1)

def complain (message : String) : Reading Unit :=
  modify fun s => { s with loose := s.loose.or (some message) }

def controlCodes : List (Char × Nat) :=
  [('a', 7), ('b', 8), ('f', 12), ('n', 10), ('r', 13), ('t', 9), ('v', 11), ('\\', 92)]

def classEscape? (m : Mode) (c : Char) : Option ClassItem :=
  match c with
  | 'd' => some (.digit m.ascii false)
  | 'D' => some (.digit m.ascii true)
  | 's' => some (.blank m.ascii false)
  | 'S' => some (.blank m.ascii true)
  | 'w' => some (.word m.ascii false)
  | 'W' => some (.word m.ascii true)
  | _ => none

def hexEscape (escape : String) (digits : Nat) : Reading Nat := do
  let escape := escape ++ (← takeSome hexadecimals digits)
  if escape.length != digits + 2 then refuse ("incomplete escape " ++ escape) escape.length
  let code := number 16 (String.ofList (escape.toList.drop 2))
  if code > 0x10FFFF then refuse ("bad escape " ++ escape) escape.length
  pure code

def sharedEscape? (escape : String) (c : Char) : Reading (Option Nat) := do
  match c with
  | 'x' => return some (← hexEscape escape 2)
  | 'u' => return some (← hexEscape escape 4)
  | 'U' => return some (← hexEscape escape 8)
  | 'N' =>
    unless ← accept "\x7b" do refuse "missing \x7b"
    let name ← nameUntil "\x7d" "character name"
    refuse ("undefined character name " ++ literal name) (name.length + 4)
  | _ => pure none

def plainEscape (escape : String) (c : Char) : Reading Nat := do
  if c.isAlphanum then refuse ("bad escape " ++ escape) escape.length
  pure c.toNat

def octalByte (escape : String) : Reading Nat := do
  let code := number 8 (String.ofList (escape.toList.drop 1))
  if code > 255 then
    refuse ("octal escape value " ++ escape ++ " outside of range 0-0o377") escape.length
  pure code

def readMember (m : Mode) (token : String) : Reading ClassItem := do
  match token.toList with
  | ['\\', c] =>
    match controlCodes.find? (·.1 == c), classEscape? m c with
    | some (_, code), _ => pure (.one code)
    | none, some item => pure item
    | none, none =>
      match ← sharedEscape? token c with
      | some code => pure (.one code)
      | none =>
        if octals.toList.contains c then
          return .one (← octalByte (token ++ (← takeSome octals 2)))
        else return .one (← plainEscape token c)
  | c :: _ => pure (.one c.toNat)
  | [] => pure (.one 0)

inductive ItemKind where
  | anchor
  | repetition
  | other
deriving DecidableEq

abbrev Item := ItemKind × Pattern

def oneOfItem (m : Mode) (negated : Bool) (items : List ClassItem) : Item :=
  let rule := if items.any (·.isCased m.rule) then m.rule else .exact
  (.other, .oneOf rule negated items)

def charItem (m : Mode) (code : Nat) : Item := oneOfItem m false [.one code]

def referTo (m : Mode) (n back : Nat) : Reading Item := do
  if ((← get).widthOf? n).isNone then refuse "cannot refer to an open group" back
  checkBehind n
  pure (.other, .again m.rule n)

def readEscape (m : Mode) (escape : String) (c : Char) : Reading Item := do
  match c with
  | 'A' => return (.anchor, .place (.start false))
  | 'b' => return (.anchor, .place (.edge m.ascii false))
  | 'B' => return (.anchor, .place (.edge m.ascii true))
  | 'Z' => return (.anchor, .place .veryEnd)
  | _ => pure ()
  if let some item := classEscape? m c then return oneOfItem m false [item]
  if let some (_, code) := controlCodes.find? (·.1 == c) then return charItem m code
  if let some code ← sharedEscape? escape c then return charItem m code
  if c == '0' then
    return charItem m (number 8 ("0" ++ (← takeSome octals 2)))
  if c.isDigit then
    let mut escape := escape
    if among decimals (← peek) then
      escape := escape ++ (← take).getD ""
      if (escape.toList.drop 1).all octals.toList.contains && among octals (← peek) then
        return charItem m (← octalByte (escape ++ (← take).getD ""))
    let n := number 10 (String.ofList (escape.toList.drop 1))
    if n < (← get).count then
      return ← referTo m n escape.length
    refuse ("invalid group reference " ++ toString n) (escape.length - 1)
  return charItem m (← plainEscape escape c)

def readClass (m : Mode) (here : Nat) : Nat → List ClassItem → Reading (List ClassItem)
  | 0, items => pure items
  | fuel + 1, items => do
    let unfinished {α : Type} : Reading α := do
      refuse "unterminated character set" ((← tell) - here)
    let some this ← take | unfinished
    if this == "]" && !items.isEmpty then return items
    let first ← readMember m this
    if ← accept "-" then
      let some that ← take | unfinished
      if that == "]" then return items ++ [first, .one '-'.toNat]
      let second ← readMember m that
      match first, second with
      | .one low, .one high =>
        if high < low then
          refuse ("bad character range " ++ this ++ "-" ++ that) (this.length + 1 + that.length)
        readClass m here fuel (items ++ [.range low high])
      | _, _ => refuse ("bad character range " ++ this ++ "-" ++ that) (this.length + 1 + that.length)
    else readClass m here fuel (items ++ [first])

def flagLetters : String := "iLmsxatu"

def isTypeFlag (c : Char) : Bool := c == 'a' || c == 'L' || c == 'u'

def isLetter (token : String) : Bool :=
  match token.toList with
  | [c] => isWord c && c != '_' && (decimal? c).isNone
  | _ => false

def readFlagsOn : Nat → Char → List Char → Reading (List Char × String)
  | 0, _, flags => pure (flags, ")")
  | fuel + 1, c, flags => do
    if c == 'L' then refuse "bad inline flags: cannot use 'L' flag with a str pattern"
    let flags := flags ++ [c]
    if isTypeFlag c && flags.any fun f => isTypeFlag f && f != c then
      refuse "bad inline flags: flags 'a', 'u' and 'L' are incompatible"
    let some token ← take | refuse "missing -, : or )"
    if among ")-:" (some token) then return (flags, token)
    match token.toList.filter fun _ => among flagLetters (some token) with
    | c :: _ => readFlagsOn fuel c flags
    | [] => refuse (if isLetter token then "unknown flag" else "missing -, : or )") token.length

def readFlagsOff : Nat → Char → List Char → Reading (List Char)
  | 0, _, flags => pure flags
  | fuel + 1, c, flags => do
    if isTypeFlag c then refuse "bad inline flags: cannot turn off flags 'a', 'u' and 'L'"
    let flags := flags ++ [c]
    let some token ← take | refuse "missing :"
    if token == ":" then return flags
    match token.toList.filter fun _ => among flagLetters (some token) with
    | c :: _ => readFlagsOff fuel c flags
    | [] => refuse (if isLetter token then "unknown flag" else "missing :") token.length

def readFlags (token : String) : Reading (Option (List Char × List Char)) := do
  let fuel := (← get).text.size + 1
  let (on, close) ← match token.toList with
    | ['-'] => pure ([], "-")
    | c :: _ => readFlagsOn fuel c []
    | [] => pure ([], "-")
  if close == ")" then
    modify fun s => { s with flags := s.flags ++ on }
    return none
  if on.contains 't' then refuse "bad inline flags: cannot turn on global flag" 1
  let mut off : List Char := []
  if close == "-" then
    let some token ← take | refuse "missing flag"
    match token.toList.filter fun _ => among flagLetters (some token) with
    | c :: _ => off ← readFlagsOff fuel c []
    | [] => refuse (if isLetter token then "unknown flag" else "missing flag") token.length
  if off.contains 't' then refuse "bad inline flags: cannot turn off global flag" 1
  if on.any off.contains then refuse "bad inline flags: flag turned on and off" 1
  return some (on, off)

def Mode.under (m : Mode) (on off : List Char) : Mode :=
  let pick (c : Char) (now : Bool) : Bool := (now || on.contains c) && !off.contains c
  { ignoreCase := pick 'i' m.ignoreCase
    lines := pick 'm' m.lines
    dotAll := pick 's' m.dotAll
    verbose := pick 'x' m.verbose
    ascii := if on.contains 'a' then true else if on.contains 'u' then false else m.ascii }

def roundLimit : Nat := 4294967295

def readRounds (digits : String) : Reading Nat := do
  if digits.length > digitLimit then
    throw ("Exceeds the limit (4300 digits) for integer string conversion: value has " ++
      toString digits.length ++ " digits; use sys.set_int_max_str_digits() to increase the limit")
  let n := number 10 digits
  if n ≥ roundLimit then throw "the repetition number is too large"
  pure n

def readBounds (token : String) (here : Nat) : Reading (Option (Nat × Option Nat)) := do
  match token with
  | "?" => return some (0, some 1)
  | "*" => return some (0, none)
  | "+" => return some (1, none)
  | _ => pure ()
  if (← peek) == some "\x7d" then return none
  let fuel := (← get).text.size
  let low ← takeSome decimals fuel
  let high ← if ← accept "," then takeSome decimals fuel else pure low
  unless ← accept "\x7d" do
    seek here
    return none
  let least ← if low.isEmpty then pure 0 else readRounds low
  if high.isEmpty then return some (least, none)
  let most ← readRounds high
  if most < least then refuse "min repeat greater than max repeat" ((← tell) - here)
  return some (least, some most)

def readAppetite : Reading (Appetite × String) := do
  if ← accept "?" then return (.lazy, "MIN_REPEAT")
  if ← accept "+" then return (.possessive, "POSSESSIVE_REPEAT")
  return (.greedy, "MAX_REPEAT")

def repeatLast (whole : Scan) (here : Nat) (bounds : Nat × Option Nat) (items : List Item) :
    Reading (List Item) := do
  let back := (← tell) - here + 1
  let some last := items.getLast? | refuse "nothing to repeat" back
  if last.1 == .anchor then refuse "nothing to repeat" back
  if last.1 == .repetition then refuse "multiple repeat" back
  let (appetite, word) ← readAppetite
  if whole.flags.contains 't' then complain ("internal: unsupported template operator " ++ word)
  pure (items.dropLast ++ [(.repetition, .rounds appetite bounds.1 bounds.2 last.2)])

def ofItems (items : List Item) : Pattern :=
  match items.map (·.2) with
  | [] => .empty
  | p :: r => r.foldl .sequence p

def ofChoices : List Pattern → Pattern
  | [] => .empty
  | [p] => p
  | p :: r => .either p (ofChoices r)

def isPlain (token : String) : Bool := !(among ".\\[\x7b()*+?^$|" (some token)) && token.length == 1

def isSkipped (token : String) : Bool := among " \t\n\r\x0b\x0c" (some token)

def skipPast (close : String) : Nat → Reading Unit
  | 0 => pure ()
  | fuel + 1 => do
    match ← take with
    | none => pure ()
    | some token => unless token == close do skipPast close fuel

def skipComment (start : Nat) : Nat → Reading Unit
  | 0 => pure ()
  | fuel + 1 => do
    if (← peek).isNone then refuse "missing ), unterminated comment" ((← tell) - start)
    unless (← take) == some ")" do skipComment start fuel

def closeBracket (start : Nat) : Reading Unit := do
  unless ← accept ")" do refuse "missing ), unterminated subpattern" ((← tell) - start)

def readCondition : Reading Nat := do
  let name ← nameUntil ")" "group name"
  let back := name.length + 1
  let n ←
    if isIdentifier name then
      match (← get).names.find? (·.1 == name) with
      | some (_, n) => pure n
      | none => refuse ("unknown group name " ++ literal name) back
    else
      match readInt? 10 name with
      | some (.ofNat n) =>
        if n == 0 then refuse "bad group number" back
        if n ≥ 1073741823 then refuse ("invalid group reference " ++ toString n) back
        let position := (← tell) - name.length - 1
        modify fun s =>
          if s.awaited.any (·.1 == n) then s else { s with awaited := s.awaited ++ [(n, position)] }
        pure n
      | _ => refuse ("bad character in group name " ++ literal name) back
  checkBehind n
  pure n

def takeMark : Reading String := do
  let some token ← take | refuse "unexpected end of pattern"
  pure token

mutual

def readChoices (fuel : Nat) (m : Mode) (outer : Bool) (choices : List Pattern) : Reading Pattern := do
  match fuel with
  | 0 => pure (ofChoices choices)
  | fuel + 1 =>
    let p ← readItems fuel m (outer && choices.isEmpty) []
    let choices := choices ++ [p]
    if ← accept "|" then
      let flags := (← get).flags
      let m := if outer then m.under flags [] else m
      readChoices fuel m outer choices
    else pure (ofChoices choices)

def readItems (fuel : Nat) (m : Mode) (first : Bool) (items : List Item) : Reading Pattern := do
  match fuel with
  | 0 => pure (ofItems items)
  | fuel + 1 =>
    let some this ← peek | pure (ofItems items)
    if this == "|" || this == ")" then return ofItems items
    advance
    if m.verbose && isSkipped this then return ← readItems fuel m first items
    if m.verbose && this == "#" then
      skipPast "\n" ((← get).text.size + 1)
      return ← readItems fuel m first items
    match this.toList with
    | ['\\', c] =>
      let item ← readEscape m this c
      return ← readItems fuel m first (items ++ [item])
    | _ => pure ()
    match this with
    | "." => readItems fuel m first (items ++ [(.other, .any (!m.dotAll))])
    | "^" => readItems fuel m first (items ++ [(.anchor, .place (.start m.lines))])
    | "$" => readItems fuel m first (items ++ [(.anchor, .place (.stop m.lines))])
    | "[" =>
      let here := (← tell) - 1
      let negated ← accept "^"
      let members ← readClass m here ((← get).text.size + 1) []
      readItems fuel m first (items ++ [oneOfItem m negated members.eraseDups])
    | "(" =>
      let start := (← tell) - 1
      match ← readGroup fuel m (first && items.isEmpty) start with
      | some item => readItems fuel m first (items ++ [item])
      | none =>
        let flags := (← get).flags
        let m := if first then m.under flags [] else m
        readItems fuel m first items
    | _ =>
      if isPlain this then
        readItems fuel m first (items ++ [charItem m ((this.toList.head?.map Char.toNat).getD 0)])
      else
        let here ← tell
        match ← readBounds this here with
        | none => readItems fuel m first (items ++ [charItem m '\x7b'.toNat])
        | some bounds =>
          let items ← repeatLast (← get) here bounds items
          readItems fuel m first items

def readGroup (fuel : Nat) (m : Mode) (first : Bool) (start : Nat) : Reading (Option Item) := do
  match fuel with
  | 0 => pure none
  | fuel + 1 =>
    let captured (name : Option String) : Reading (Option Item) := do
      let n ← openGroup name
      let p ← readChoices fuel m false []
      closeBracket start
      closeGroup n p
      pure (some (.other, .group n p))
    unless ← accept "?" do return ← captured none
    let mark ← takeMark
    match mark with
    | "P" =>
      if ← accept "<" then
        let name ← nameUntil ">" "group name"
        checkName name
        captured (some name)
      else if ← accept "=" then
        let name ← nameUntil ")" "group name"
        checkName name
        match (← get).names.find? (·.1 == name) with
        | none => refuse ("unknown group name " ++ literal name) (name.length + 1)
        | some (_, n) => return some (← referTo m n (name.length + 1))
      else
        let token ← takeMark
        refuse ("unknown extension ?P" ++ token) (token.length + 2)
    | ":" =>
      let p ← readChoices fuel m false []
      closeBracket start
      pure (some (.other, p))
    | ">" =>
      let p ← readChoices fuel m false []
      closeBracket start
      pure (some (.other, .atomic p))
    | "#" =>
      skipComment start ((← get).text.size + 1)
      pure none
    | "=" | "!" =>
      let p ← readChoices fuel m false []
      closeBracket start
      pure (some (.other, .ahead (mark == "!") p))
    | "<" =>
      let token ← takeMark
      unless token == "=" || token == "!" do
        refuse ("unknown extension ?<" ++ token) (token.length + 2)
      let outside := (← get).behind
      modify fun s => { s with behind := outside.or (some s.count) }
      let p ← readChoices fuel m false []
      modify ({ · with behind := outside })
      closeBracket start
      let width := p.width (← get).widths
      if width.least ≥ Nat.pow 2 32 then complain "looks too much behind"
      if width.least != width.most then complain "look-behind requires fixed-width pattern"
      pure (some (.other, .behind (token == "!") width.least p))
    | "(" =>
      let n ← readCondition
      let yes ← readItems fuel m false []
      let mut no := Pattern.empty
      if ← accept "|" then
        no ← readItems fuel m false []
        if (← peek) == some "|" then refuse "conditional backref with more than two branches"
      closeBracket start
      pure (some (.other, .ifMatched n yes no))
    | _ =>
      unless among (flagLetters ++ "-") (some mark) do
        refuse ("unknown extension ?" ++ mark) (mark.length + 1)
      match ← readFlags mark with
      | none =>
        unless first do
          refuse "global flags not at the start of the expression" ((← tell) - start)
        pure none
      | some (on, off) =>
        let p ← readChoices fuel (m.under on off) false []
        closeBracket start
        pure (some (.other, p))

end

def readWhole : Reading Pattern := do
  advance
  let p ← readChoices (3 * (← get).text.size + 3) {} true []
  let s ← get
  if s.flags.contains 'a' && s.flags.contains 'u' then throw "ASCII and UNICODE flags are incompatible"
  if s.next.isSome then refuse "unbalanced parenthesis"
  match s.awaited.find? (·.1 ≥ s.count) with
  | some (n, position) => throw (located s.text ("invalid group reference " ++ toString n) position)
  | none => pure ()
  match s.loose with
  | some message => throw message
  | none => pure (p.forget p.references)

def read (text : String) : Except String Pattern :=
  (readWhole.run' { text := text.toList.toArray }).map id

end RemoteSensing.Text.Pattern
