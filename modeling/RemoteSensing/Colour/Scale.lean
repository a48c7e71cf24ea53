import RemoteSensing.Text.Basic

/-!
Colour scales.
-/

namespace RemoteSensing.Colour

structure Corner where
  place : Float
  before : Float
  after : Float

inductive Curve where
  | broken (corners : List Corner)
  | smooth (f : Float → Float)

inductive Scale where
  | listed (colours : List String)
  | curved (red green blue : Curve)

def sampleCount : Nat := 256

def clip (x : Float) : Float := if x < 0.0 then 0.0 else if x > 1.0 then 1.0 else x

def samplePlace (i : Nat) : Float :=
  if i + 1 == sampleCount then 1.0 else i.toFloat * (1.0 / (sampleCount - 1).toFloat)

def brokenAt (x : Float) : List Corner → Float
  | a :: b :: r =>
    let scale := (sampleCount - 1).toFloat
    if b.place * scale < x * scale then brokenAt x (b :: r)
    else
      let share := (scale * x - a.place * scale) / (b.place * scale - a.place * scale)
      share * (b.before - a.after) + a.after
  | [c] => c.before
  | [] => 0.0

def Curve.at (c : Curve) (i : Nat) : Float :=
  clip (match c with
    | .smooth f => f (samplePlace i)
    | .broken corners =>
      if i == 0 then (corners.head?.map Corner.after).getD 0.0
      else if i + 1 == sampleCount then (corners.getLast?.map Corner.before).getD 0.0
      else brokenAt (samplePlace i) corners)

def Curve.reversed : Curve → Curve
  | .broken corners => .broken (corners.reverse.map fun c => ⟨1.0 - c.place, c.after, c.before⟩)
  | .smooth f => .smooth fun x => f (1.0 - x)

def shareDigits (x : Float) : String :=
  let y := x * 255.0
  let n := y.floor.toUInt64.toNat
  let rest := y - y.floor
  let up := rest > 0.5 || (rest == 0.5 && n % 2 == 1)
  Text.hexPadded 2 (if up then n + 1 else n)

def Scale.colours : Scale → List String
  | .listed colours => colours
  | .curved r g b =>
    (List.range sampleCount).map fun i => shareDigits (r.at i) ++ shareDigits (g.at i) ++ shareDigits (b.at i)

def Scale.reversed : Scale → Scale
  | .listed colours => .listed colours.reverse
  | .curved r g b => .curved r.reversed g.reversed b.reversed

def colourAt (colours : List String) (x : Float) : String :=
  let n := colours.length
  let i := if x < 0.0 then 0 else min (x * n.toFloat).floor.toUInt64.toNat (n - 1)
  (colours[i]?).getD ""

def cut (digits : String) : List String :=
  (List.range (digits.length / 6)).map fun (i : Nat) => Text.slice digits (6 * i) (6 * i + 6)

/-- The kinds of steps from one colour to the next, each with its letter: a digit raises red, green or blue, and `3` leaves
it as it is. -/
def stepKinds : List (Char × List Nat) :=
  let digits :=
    "23324224324424524725225325425525625733233333533634234334434534735035135235335435535635735842342442543243343443" ++
    "54364414424434444454464474524534544554575235245255315325335345355365415425435445455465475525566246256316326346" ++
    "41642643644645"
  ("ABCDEFGHIJKLMNOPQRSTUVWXYZabcdefghijklmnopqrstuvwxyz0123456789!#$%&()*+-/:;<=>".toList).mapIdx fun i c =>
    (c, (Text.slice digits (3 * i) (3 * i + 3)).toList.map fun d => d.toNat - '0'.toNat)

/-- Colours in small steps from the first. -/
def gradual (red green blue : Nat) (steps : String) : List String :=
  go [red, green, blue] steps.toList
where
  go (c : List Nat) : List Char → List String
    | letter :: rest =>
      let kind := ((stepKinds.find? (·.1 == letter)).map (·.2)).getD []
      written c :: go (c.zipWith (fun n d => n + d - 3) kind) rest
    | [] => [written c]
  written (c : List Nat) : String := Text.join "" (c.map (Text.hexPadded 2))

def evenly (values : List Float) : Curve :=
  let last := (values.length - 1).toFloat
  .broken (values.mapIdx fun i v => ⟨i.toFloat / last, v, v⟩)

def through (colours : List String) : Scale :=
  let channel (k : Nat) : Curve := evenly (colours.map fun c =>
    let digits := Text.slice c (2 * k) (2 * k + 2)
    (((Text.readInt? 16 digits).getD 0).toNat).toFloat / 255.0)
  .curved (channel 0) (channel 1) (channel 2)

def line (corners : List (Float × Float)) : Curve := .broken (corners.map fun c => ⟨c.1, c.2, c.2⟩)

def viridis : List String :=
  gradual 68 1 84 ("TvTvTZSwSaSZqZSSaSSSZSTZSSSZSDYSSSDYSSDYSDRSHSCSRDYDRCSCRZCRCSCRCSCRHRCSCRCRCRCRDRCRRCRCRCRRCRARRCRCRRCRRCRC" ++
    "RRCRNCRRCRCRQCRRCRRQCNRCQRRRQRCQRoQRRMRnRnRoQnonRninno8nno8n2o8n8n82n8888288882878287;278-78;18+8:2:7-7-7+8+" ++
    ":2:1;+7+;1:+2:-1:-8+-8--9-3</3=4/4=54>5")

def plasma : List String :=
  gradual 13 8 135 (")//*44/44y4444j43z4j344i4zi43j4e43j34e3j3j33f3i3j3i33i3o3i3i9i9i9h9i8oo8o9no8o8nu8no8no8nto8nnn8nunn8nnntnnn" ++
    "n8ontnnnnnnntnnnnonnXnnnnnnunnQnnnnuQnnnnXnonnQtnnRntQnnQunQntQnoXnQnXnoXnQtQnXoQXnQtQYnQXnXQoXQXQtRXQXQYQtQ" ++
    "YQXRXHQXRYXRGRYYBYYCYHSHYCYIYCZHCYHGQGV")

def inferno : List String :=
  gradual 0 0 4 ("jSOkTOkqOrkqkqrkqlq5rk#lk$k6k5l55l50k5504k404j44j!43j!3p3p39j9i!3o9i93o9i93o9i93o3o8i93o2o92o3n38i9n3n38i8n3" ++
    "8i8n2o8h98h8n3n8n2n8n8nh8n8nn8nn8nn8nnt7nnnt8mntnntmtnntmtnXmtntWntWntWntWnXtWnXWtQXtXYtRYYZuZZZTZaaZaaaJbaa" ++
    "aKaabEbbJbKbKbKbKcbLbFccLUccsdsUxss%rs(")

def magma : List String :=
  gradual 0 0 4 ("jSOjTOqPqkqOqqkqqkrq5qqlqkr5ql5rk5lk$k60k6k550k54g544k44p43j!4o4o49p3o4o9j99i9p3o3o93o9i9j9i99h9i93o9i93o2o3" ++
    "9i8i93n39h99h9h93n38i89h9h89h8o28o2n9n8n3n8n8ot8nno&notnotnuunuXouYuoYuYuYvRYvYZuZZuSZZZvZZZZSvZZZaZZSaZZaZZ" ++
    "TZaZaZTZaaZaSaaZaaSJaaZaTaaZaEaaaaaSaaa")

def brewed : List (String × String) :=
  [("Blues", "f7fbffdeebf7c6dbef9ecae16baed64292c62171b508519c08306b"),
    ("BrBG", "5430058c510abf812ddfc27df6e8c3f5f5f5c7eae580cdc135978f01665e003c30"),
    ("BuGn", "f7fcfde5f5f9ccece699d8c966c2a441ae76238b45006d2c00441b"),
    ("BuPu", "f7fcfde0ecf4bfd3e69ebcda8c96c68c6bb188419d810f7c4d004b"),
    ("GnBu", "f7fcf0e0f3dbccebc5a8ddb57bccc44eb3d32b8cbe0868ac084081"),
    ("Greens", "f7fcf5e5f5e0c7e9c0a1d99b74c47641ab5d238b45006d2c00441b"),
    ("Greys", "fffffff0f0f0d9d9d9bdbdbd969696737373525252252525000000"),
    ("Oranges", "fff5ebfee6cefdd0a2fdae6bfd8d3cf16913d94801a636037f2704"),
    ("OrRd", "fff7ecfee8c8fdd49efdbb84fc8d59ef6548d7301fb300007f0000"),
    ("PiYG", "8e0152c51b7dde77aef1b6dafde0eff7f7f7e6f5d0b8e1867fbc414d9221276419"),
    ("PRGn", "40004b762a839970abc2a5cfe7d4e8f7f7f7d9f0d3a6dba05aae611b783700441b"),
    ("PuBu", "fff7fbece7f2d0d1e6a6bddb74a9cf3690c00570b0045a8d023858"),
    ("PuBuGn", "fff7fbece2f0d0d1e6a6bddb67a9cf3690c002818a016c59014636"),
    ("PuOr", "7f3b08b35806e08214fdb863fee0b6f7f7f7d8daebb2abd28073ac5427882d004b"),
    ("PuRd", "f7f4f9e7e1efd4b9dac994c7df65b0e7298ace125698004367001f"),
    ("Purples", "fcfbfdefedf5dadaebbcbddc9e9ac8807dba6a51a354278f3f007d"),
    ("RdBu", "67001fb2182bd6604df4a582fddbc7f7f7f7d1e5f092c5de4393c32166ac053061"),
    ("RdGy", "67001fb2182bd6604df4a582fddbc7ffffffe0e0e0bababa8787874d4d4d1a1a1a"),
    ("RdPu", "fff7f3fde0ddfcc5c0fa9fb5f768a1dd3497ae017e7a017749006a"),
    ("RdYlBu", "a50026d73027f46d43fdae61fee090ffffbfe0f3f8abd9e974add14575b4313695"),
    ("RdYlGn", "a50026d73027f46d43fdae61fee08bffffbfd9ef8ba6d96a66bd631a9850006837"),
    ("Reds", "fff5f0fee0d2fcbba1fc9272fb6a4aef3b2ccb181da50f1567000d"),
    ("Spectral", "9e0142d53e4ff46d43fdae61fee08bffffbfe6f598abdda466c2a53288bd5e4fa2"),
    ("YlGn", "ffffe5f7fcb9d9f0a3addd8e78c67941ab5d238443006837004529"),
    ("YlGnBu", "ffffd9edf8b1c7e9b47fcdbb41b6c41d91c0225ea8253494081d58"),
    ("YlOrBr", "ffffe5fff7bcfee391fec44ffe9929ec7014cc4c02993404662506"),
    ("YlOrRd", "ffffccffeda0fed976feb24cfd8d3cfc4e2ae31a1cbd0026800026")]

def qualitative : List (String × String) :=
  [("Accent", "7fc97fbeaed4fdc086ffff99386cb0f0027fbf5b17666666"),
    ("Dark2", "1b9e77d95f027570b3e7298a66a61ee6ab02a6761d666666"),
    ("Paired", "a6cee31f78b4b2df8a33a02cfb9a99e31a1cfdbf6fff7f00cab2d66a3d9affff99b15928"),
    ("Pastel1", "fbb4aeb3cde3ccebc5decbe4fed9a6ffffcce5d8bdfddaecf2f2f2"),
    ("Pastel2", "b3e2cdfdcdaccbd5e8f4cae4e6f5c9fff2aef1e2cccccccc"),
    ("Set1", "e41a1c377eb84daf4a984ea3ff7f00ffff33a65628f781bf999999"),
    ("Set2", "66c2a5fc8d628da0cbe78ac3a6d854ffd92fe5c494b3b3b3"),
    ("Set3", "8dd3c7ffffb3bebadafb807280b1d3fdb462b3de69fccde5d9d9d9bc80bdccebc5ffed6f"),
    ("tab10", "1f77b4ff7f0e2ca02cd627289467bd8c564be377c27f7f7fbcbd2217becf"),
    ("tab20", "1f77b4aec7e8ff7f0effbb782ca02c98df8ad62728ff98969467bdc5b0d58c564bc49c94e377c2f7b6d2" ++
      "7f7f7fc7c7c7bcbd22dbdb8d17becf9edae5"),
    ("tab20b", "393b795254a36b6ecf9c9ede6379398ca252b5cf6bcedb9c8c6d31bd9e39e7ba52e7cb94843c39ad494a" ++
      "d6616be7969c7b4173a55194ce6dbdde9ed6"),
    ("tab20c", "3182bd6baed69ecae1c6dbefe6550dfd8d3cfdae6bfdd0a231a35474c476a1d99bc7e9c0756bb19e9ac8" ++
      "bcbddcdadaeb636363969696bdbdbdd9d9d9")]

def ramp (first last : Float) : Curve := line [(0.0, first), (1.0, last)]

def alike (c : Curve) : Scale := .curved c c c

def pi : Float := 3.141592653589793

def curvedScales : List (String × Scale) :=
  [("gray", alike (ramp 0.0 1.0)), ("grey", alike (ramp 0.0 1.0)), ("gist_gray", alike (ramp 0.0 1.0)),
    ("gist_grey", alike (ramp 0.0 1.0)), ("binary", alike (ramp 1.0 0.0)),
    ("gist_yarg", alike (ramp 1.0 0.0)), ("gist_yerg", alike (ramp 1.0 0.0)),
    ("autumn", .curved (ramp 1.0 1.0) (ramp 0.0 1.0) (ramp 0.0 0.0)),
    ("spring", .curved (ramp 1.0 1.0) (ramp 0.0 1.0) (ramp 1.0 0.0)),
    ("summer", .curved (ramp 0.0 1.0) (ramp 0.5 1.0) (ramp 0.4 0.4)),
    ("winter", .curved (ramp 0.0 0.0) (ramp 0.0 1.0) (ramp 1.0 0.5)),
    ("cool", .curved (ramp 0.0 1.0) (ramp 1.0 0.0) (ramp 1.0 1.0)),
    ("bwr", .curved (evenly [0.0, 1.0, 1.0]) (evenly [0.0, 1.0, 0.0]) (evenly [1.0, 1.0, 0.0])),
    ("brg", .curved (evenly [0.0, 1.0, 0.0]) (evenly [0.0, 0.0, 1.0]) (evenly [1.0, 0.0, 0.0])),
    ("seismic", .curved (evenly [0.0, 0.0, 1.0, 1.0, 0.5]) (evenly [0.0, 0.0, 1.0, 0.0, 0.0])
      (evenly [0.3, 1.0, 1.0, 0.0, 0.0])),
    ("bone", .curved (line [(0.0, 0.0), (0.746032, 0.652778), (1.0, 1.0)])
      (line [(0.0, 0.0), (0.365079, 0.319444), (0.746032, 0.777778), (1.0, 1.0)])
      (line [(0.0, 0.0), (0.365079, 0.444444), (1.0, 1.0)])),
    ("copper", .curved (line [(0.0, 0.0), (0.809524, 1.0), (1.0, 1.0)]) (ramp 0.0 0.7812)
      (ramp 0.0 0.4975)),
    ("hot", .curved (line [(0.0, 0.0416), (0.365079, 1.0), (1.0, 1.0)])
      (line [(0.0, 0.0), (0.365079, 0.0), (0.746032, 1.0), (1.0, 1.0)])
      (line [(0.0, 0.0), (0.746032, 0.0), (1.0, 1.0)])),
    ("hsv", .curved
      (line [(0.0, 1.0), (0.158730, 1.0), (0.174603, 0.968750), (0.333333, 0.031250), (0.349206, 0.0),
        (0.666667, 0.0), (0.682540, 0.031250), (0.841270, 0.968750), (0.857143, 1.0), (1.0, 1.0)])
      (line [(0.0, 0.0), (0.158730, 0.937500), (0.174603, 1.0), (0.507937, 1.0), (0.666667, 0.062500),
        (0.682540, 0.0), (1.0, 0.0)])
      (line [(0.0, 0.0), (0.333333, 0.0), (0.349206, 0.062500), (0.507937, 1.0), (0.841270, 1.0),
        (0.857143, 0.937500), (1.0, 0.09375)])),
    ("jet", .curved (line [(0.0, 0.0), (0.35, 0.0), (0.66, 1.0), (0.89, 1.0), (1.0, 0.5)])
      (line [(0.0, 0.0), (0.125, 0.0), (0.375, 1.0), (0.64, 1.0), (0.91, 0.0), (1.0, 0.0)])
      (line [(0.0, 0.5), (0.11, 1.0), (0.34, 1.0), (0.65, 0.0), (1.0, 0.0)])),
    ("terrain", .curved
      (line [(0.0, 0.2), (0.15, 0.0), (0.25, 0.0), (0.5, 1.0), (0.75, 0.5), (1.0, 1.0)])
      (line [(0.0, 0.2), (0.15, 0.6), (0.25, 0.8), (0.5, 1.0), (0.75, 0.36), (1.0, 1.0)])
      (line [(0.0, 0.6), (0.15, 1.0), (0.25, 0.4), (0.5, 0.6), (0.75, 0.33), (1.0, 1.0)])),
    ("rainbow", .curved (.smooth fun x => (2.0 * x - 0.5).abs) (.smooth fun x => (x * pi).sin)
      (.smooth fun x => (x * pi / 2.0).cos)),
    ("gnuplot", .curved (.smooth fun x => x.sqrt) (.smooth fun x => x * x * x)
      (.smooth fun x => (x * 2.0 * pi).sin)),
    ("ocean", .curved (.smooth fun x => 3.0 * x - 2.0) (.smooth fun x => ((3.0 * x - 1.0) / 2.0).abs)
      (.smooth fun x => x)),
    ("afmhot", .curved (.smooth fun x => 2.0 * x) (.smooth fun x => 2.0 * x - 0.5)
      (.smooth fun x => 2.0 * x - 1.0))]

def scales : List (String × Scale) :=
  [("viridis", .listed viridis), ("plasma", .listed plasma),
    ("inferno", .listed inferno), ("magma", .listed magma)] ++
    (brewed.map fun s => (s.1, through (cut s.2))) ++
    (qualitative.map fun s => (s.1, .listed (cut s.2))) ++ curvedScales

def scale? (name : String) : Option Scale :=
  let find (n : String) : Option Scale := (scales.find? (·.1 == n)).map (·.2)
  if Text.endsWith name "_r" then (find (Text.slice name 0 (name.length - 2))).map Scale.reversed else find name

end RemoteSensing.Colour
