import RemoteSensing.Text.Basic

/-!
Search patterns.
-/

namespace RemoteSensing.Text

inductive CaseRule where
  | exact
  | ascii
  | unicode
deriving Repr, DecidableEq

inductive ClassItem where
  | one (code : Nat)
  | range (low high : Nat)
  | digit (ascii negated : Bool)
  | blank (ascii negated : Bool)
  | word (ascii negated : Bool)
deriving Repr, DecidableEq

def isWordIn (ascii : Bool) (c : Char) : Bool := if ascii then c.isAlphanum || c == '_' else isWord c

def CaseRule.small (rule : CaseRule) (c : Char) : Char :=
  match rule with
  | .exact => c
  | .ascii => c.toLower
  | .unicode => smallOf c

def CaseRule.smallCode (rule : CaseRule) (code : Nat) : Nat :=
  if code.isValidChar then (rule.small (Char.ofNat code)).toNat else code

def CaseRule.agree (rule : CaseRule) (code c : Nat) : Bool :=
  let small := rule.smallCode code
  small == c || (rule == .unicode && (caseKin.any fun kin => kin.1 == small && kin.2.contains c))

def CaseRule.isCased (rule : CaseRule) (code : Nat) : Bool :=
  match rule with
  | .exact => false
  | .ascii => (Char.ofNat code).isAlpha
  | .unicode => code.isValidChar && Text.isCased (Char.ofNat code)

def ClassItem.has (c : Char) : ClassItem → Bool
  | .one d => c.toNat == d
  | .range low high => low ≤ c.toNat && c.toNat ≤ high
  | .digit ascii negated => (if ascii then c.isDigit else (decimal? c).isSome) != negated
  | .blank ascii negated =>
    (if ascii then c == ' ' || (9 ≤ c.toNat && c.toNat ≤ 13) else isBlank c) != negated
  | .word ascii negated => isWordIn ascii c != negated

def ClassItem.hasSmall (rule : CaseRule) (c : Char) : ClassItem → Bool
  | .one d => if d ≤ 0xFFFF then rule.agree d c.toNat else c.toNat == d
  | .range low high =>
    ((List.range (min high 0xFFFF + 1 - low)).any fun i => rule.agree (low + i) c.toNat) ||
      (high > 0xFFFF && (ClassItem.has c (.range low high) || ClassItem.has (capitalOf c) (.range low high)))
  | item => item.has c

def ClassItem.isCased (rule : CaseRule) : ClassItem → Bool
  | .one d => rule.isCased d || (rule != .exact && d > 0xFFFF)
  | .range low high =>
    rule != .exact && (high > 0xFFFF || (List.range (high + 1 - low)).any fun i => rule.isCased (low + i))
  | _ => false

def ClassItem.anyHas (rule : CaseRule) (items : List ClassItem) (c : Char) : Bool :=
  match rule, items with
  | .exact, _ => items.any (·.has c)
  | rule, [.one d] => rule.agree d (rule.small c).toNat
  | rule, _ => items.any (·.hasSmall rule (rule.small c))

inductive Place where
  | start (lines : Bool)
  | stop (lines : Bool)
  | veryEnd
  | edge (ascii negated : Bool)
deriving Repr

inductive Appetite where
  | greedy
  | lazy
  | possessive
deriving Repr, DecidableEq

inductive Pattern where
  | empty
  | oneOf (rule : CaseRule) (negated : Bool) (items : List ClassItem)
  | any (lines : Bool)
  | place (p : Place)
  | sequence (a b : Pattern)
  | either (a b : Pattern)
  | rounds (appetite : Appetite) (least : Nat) (most : Option Nat) (p : Pattern)
  | group (n : Nat) (p : Pattern)
  | again (rule : CaseRule) (n : Nat)
  | ifMatched (n : Nat) (yes no : Pattern)
  | ahead (negated : Bool) (p : Pattern)
  | behind (negated : Bool) (width : Nat) (p : Pattern)
  | atomic (p : Pattern)
deriving Repr

structure Spot where
  position : Nat
  groups : List (Nat × Nat × Nat) := []
deriving Repr, DecidableEq

def Spot.next (s : Spot) : Spot := { s with position := s.position + 1 }

def Spot.close (s : Spot) (n first : Nat) : Spot :=
  { s with groups := (n, first, s.position) :: s.groups.filter (·.1 != n) }

def Spot.stretch? (s : Spot) (n : Nat) : Option (Nat × Nat) := (s.groups.find? (·.1 == n)).map (·.2)

def Spot.distinct (spots : List Spot) : List Spot :=
  (spots.foldl (fun kept s => if kept.contains s then kept else s :: kept) []).reverse

def Place.holds (t : Array Char) (i : Nat) : Place → Bool
  | .start lines => i == 0 || (lines && t[i - 1]? == some '\n')
  | .stop lines => i == t.size || (t[i]? == some '\n' && (lines || i + 1 == t.size))
  | .veryEnd => i == t.size
  | .edge ascii negated =>
    let before := 0 < i && (t[i - 1]?).any (isWordIn ascii)
    let after := (t[i]?).any (isWordIn ascii)
    t.size != 0 && (before != after) != negated

def Pattern.exactly (step : Spot → List Spot) : Nat → List Spot → List Spot
  | 0, spots => spots
  | n + 1, spots =>
    let next := Spot.distinct (spots.flatMap step)
    if next.isEmpty || next == spots then next else exactly step n next

structure Walk where
  reached : List Spot := []
  tried : List (Spot × Option Nat) := []

def Walk.add (w : Walk) (s : Spot) : Walk :=
  if w.reached.contains s then w else { w with reached := s :: w.reached }

def Pattern.further (step : Spot → List Spot) (eager : Bool) : Nat → Option Nat → Spot → Walk → Walk
  | 0, _, s, w => w.add s
  | depth + 1, left, s, w =>
    if w.tried.contains (s, left) then w
    else
      let w := { w with tried := (s, left) :: w.tried }
      let rest (w : Walk) : Walk :=
        if left == some 0 then w
        else
          (step s).foldl (fun w u =>
            if u.position == s.position then w.add u
            else further step eager depth (left.map (· - 1)) u w) w
      if eager then (rest w).add s else rest (w.add s)

def Pattern.hold (step : Spot → List Spot) : Nat → Option Nat → Spot → Spot
  | 0, _, s => s
  | depth + 1, left, s =>
    if left == some 0 then s
    else
      match step s with
      | u :: _ => if u.position == s.position then u else hold step depth (left.map (· - 1)) u
      | [] => s

def Pattern.ends (t : Array Char) : Pattern → Spot → List Spot
  | .empty, s => [s]
  | .oneOf rule negated items, s =>
    match t[s.position]? with
    | some c => if ClassItem.anyHas rule items c != negated then [s.next] else []
    | none => []
  | .any lines, s =>
    match t[s.position]? with
    | some c => if lines && c == '\n' then [] else [s.next]
    | none => []
  | .place p, s => if p.holds t s.position then [s] else []
  | .sequence a b, s => Spot.distinct ((a.ends t s).flatMap (b.ends t))
  | .either a b, s => Spot.distinct (a.ends t s ++ b.ends t s)
  | .rounds .possessive least most p, s =>
    let first (s : Spot) : List Spot := (p.ends t s).take 1
    (exactly first least [s]).map (hold first (t.size + 1) (most.map (· - least)))
  | .rounds appetite least most p, s =>
    ((exactly (p.ends t) least [s]).foldl (fun w u =>
      further (p.ends t) (appetite == .greedy) (t.size + 1) (most.map (· - least)) u w) {}).reached.reverse
  | .group n p, s => Spot.distinct ((p.ends t s).map (·.close n s.position))
  | .again rule n, s =>
    match s.stretch? n with
    | none => []
    | some (first, last) =>
      let told := (t.toList.drop first).take (last - first)
      let here := (t.toList.drop s.position).take (last - first)
      if told.map rule.small == here.map rule.small then
        [{ s with position := s.position + (last - first) }]
      else []
  | .ifMatched n yes no, s => if (s.stretch? n).isSome then yes.ends t s else no.ends t s
  | .ahead negated p, s =>
    match p.ends t s with
    | u :: _ => if negated then [] else [{ u with position := s.position }]
    | [] => if negated then [s] else []
  | .behind negated width p, s =>
    match if width ≤ s.position then p.ends t { s with position := s.position - width } else [] with
    | u :: _ => if negated then [] else [{ u with position := s.position }]
    | [] => if negated then [s] else []
  | .atomic p, s => (p.ends t s).take 1

def Pattern.matchesStart (p : Pattern) (s : String) : Bool := !(p.ends s.toList.toArray { position := 0 }).isEmpty

structure Width where
  least : Nat
  most : Nat
deriving Repr

def Width.limit : Nat := Nat.pow 2 64

def Pattern.width (groups : Nat → Width) : Pattern → Width
  | .empty | .place _ | .ahead .. | .behind .. => ⟨0, 0⟩
  | .oneOf .. | .any _ => ⟨1, 1⟩
  | .sequence a b =>
    let u := a.width groups
    let v := b.width groups
    ⟨min (u.least + v.least) Width.limit, min (u.most + v.most) Width.limit⟩
  | .either a b | .ifMatched _ a b =>
    let u := a.width groups
    let v := b.width groups
    ⟨min u.least v.least, max u.most v.most⟩
  | .rounds _ least most p =>
    let u := p.width groups
    let high := match most with
      | some m => u.most * m
      | none => if u.most == 0 then 0 else Width.limit
    ⟨min (u.least * least) Width.limit, min high Width.limit⟩
  | .group _ p | .atomic p => p.width groups
  | .again _ n => groups n

def Pattern.forget (kept : List Nat) : Pattern → Pattern
  | .sequence a b => .sequence (a.forget kept) (b.forget kept)
  | .either a b => .either (a.forget kept) (b.forget kept)
  | .rounds appetite least most p => .rounds appetite least most (p.forget kept)
  | .group n p => if kept.contains n then .group n (p.forget kept) else p.forget kept
  | .ifMatched n a b => .ifMatched n (a.forget kept) (b.forget kept)
  | .ahead negated p => .ahead negated (p.forget kept)
  | .behind negated width p => .behind negated width (p.forget kept)
  | .atomic p => .atomic (p.forget kept)
  | p => p

def Pattern.references : Pattern → List Nat
  | .sequence a b | .either a b => a.references ++ b.references
  | .rounds _ _ _ p | .group _ p | .ahead _ p | .behind _ _ p | .atomic p => p.references
  | .again _ n => [n]
  | .ifMatched n a b => n :: (a.references ++ b.references)
  | _ => []

end RemoteSensing.Text
