import Mathlib
import RemoteSensing.Proofs.Session.Run
import RemoteSensing.Stac

/-!
Searching an interval is searching its instants.

How the texts of a catalogue are read as instants is left open. All that is asked of a reader is that the instants it
gives carry an offset, for instants with an offset cannot be compared with those that have none.
-/

namespace RemoteSensing.Stac

open Value List Session

variable {i : Interval} {c : Collection Float}

variable {cs : Listing Float} {read : Reader}

/-- Every instant that is read carries an offset. -/
def Reader.Zoned (read : Reader) : Prop := ∀ s m, read s = some m → m.offset.isSome = true

def Interval.last (now : Moment) (i : Interval) : Moment := i.stop.getD now

/-- Both ends are instants of a known clock. -/
structure Interval.Clocked (i : Interval) : Prop where
  start : i.start.offset.isSome = true
  stop : ∀ m ∈ i.stop, m.offset.isSome = true

theorem Interval.Clocked.last {now : Moment} (h : i.Clocked) (hnow : now.offset.isSome = true) :
    (i.last now).offset.isSome = true := by
  cases hstop : i.stop with
  | none => simpa [Interval.last, hstop] using hnow
  | some m => simpa [Interval.last, hstop] using h.stop m hstop

theorem Reader.Zoned.readInstant {v : Data} {m : Moment} (hread : read.Zoned) (h : readInstant read v = .ok m) :
    m.offset.isSome = true := by
  cases v with
  | str s =>
    simp only [Stac.readInstant] at h
    cases hs : read s with
    | none =>
      rw [hs] at h
      cases h
    | some n =>
      rw [hs] at h
      cases h
      exact hread s m hs
  | _ => cases h

theorem Reader.Zoned.interval {stated : Data} (hread : read.Zoned) (h : c.interval read stated = .ok i) :
    i.Clocked := by
  obtain ⟨first, -, h⟩ := bind_eq_ok.mp h
  split at h
  · -- an interval without a start is refused
    obtain ⟨id, -, h⟩ := bind_eq_ok.mp h
    obtain ⟨message, -, h⟩ := bind_eq_ok.mp h
    cases h
  · obtain ⟨start, hstart, h⟩ := bind_eq_ok.mp h
    obtain ⟨second, -, h⟩ := bind_eq_ok.mp h
    split at h
    · cases h
      exact ⟨hread.readInstant hstart, fun m hm => by cases hm⟩
    · obtain ⟨stop, hstop, h⟩ := bind_eq_ok.mp h
      cases h
      refine ⟨hread.readInstant hstart, fun m hm => ?_⟩
      cases hm
      exact hread.readInstant hstop

section Tests

variable {a b : Moment} {op : String} {f : Num Float → Num Float → Bool} {g : String → String → Bool}

theorem order_moments (h : a.offset.isSome = b.offset.isSome) :
    order op f g (.moment a) (.moment b) = .ok (f (.int a.micros) (.int b.micros)) := by
  simp only [order, h, if_true]

theorem order_unclocked (h : a.offset.isSome ≠ b.offset.isSome) : order op f g (.moment a) (.moment b) =
      .error (.wrongType "can't compare offset-naive and offset-aware datetimes") := by
  simp only [order, if_neg h]

theorem le_moments (h : a.offset.isSome = b.offset.isSome) :
    (moment a : Data).le (.moment b) = .ok (decide (a.micros ≤ b.micros)) := by
  have hle : (Num.int a.micros : Num Float).le (.int b.micros) = decide (a.micros ≤ b.micros) := by
    simp only [Num.le, Num.lt, Num.beq]
    rw [← Bool.decide_or]
    exact decide_eq_decide.mpr Int.le_iff_lt_or_eq.symm
  rw [le, order_moments h, hle]

theorem gt_moments (h : a.offset.isSome = b.offset.isSome) :
    (moment a : Data).gt (.moment b) = .ok (decide (b.micros < a.micros)) := by
  rw [gt, order_moments h]
  rfl

end Tests

namespace Interval

def covers (now instant : Moment) (i : Interval) : Bool :=
  decide (i.start.micros ≤ instant.micros) && decide (instant.micros ≤ (i.last now).micros)

/-- Does the interval have an instant in common with a query interval, whose end does not belong to it? -/
def meets (now from_ to_ : Moment) (i : Interval) : Bool :=
  decide (i.start.micros < to_.micros) && decide (from_.micros ≤ (i.last now).micros)

variable {now : Moment}

/-- **An interval meets a query exactly when an instant of the query lies in it.** -/
theorem meets_iff {s e : Moment} (hquery : s.micros < e.micros) (hi : i.start.micros ≤ (i.last now).micros) :
    i.meets now s e = true ↔
      ∃ t : Moment, t.offset.isSome = true ∧ s.micros ≤ t.micros ∧ t.micros < e.micros ∧ i.covers now t = true := by
  simp only [meets, covers, Bool.and_eq_true, decide_eq_true_eq]
  constructor
  · rintro ⟨hstart, hstop⟩
    -- the later one of the two starts lies in both
    by_cases hlater : s.micros ≤ i.start.micros
    · exact ⟨⟨i.start.micros, some 0⟩, rfl, hlater, hstart, Int.le_refl _, hi⟩
    · exact ⟨⟨s.micros, some 0⟩, rfl, Int.le_refl _, hquery, by simp only; omega, hstop⟩
  · rintro ⟨t, -, hst, hte, hstart, hstop⟩
    exact ⟨by omega, by omega⟩

theorem instantValue_last (i : Interval) (now : Moment) :
    (if (instantValue i.stop : Data).isNull then .moment now else instantValue i.stop : Data) = .moment (i.last now) := by
  cases hstop : i.stop with
  | none => simp [Interval.last, hstop, instantValue, isNull]
  | some m => simp [Interval.last, hstop, instantValue, isNull]

variable (hclock : i.Clocked) (hnow : now.offset.isSome = true)
include hclock hnow

theorem covers_eq {t : Moment} (ht : t.offset.isSome = true) :
    Stac.covers (.moment now : Data) (.moment i.start) (instantValue i.stop) (.moment t) = .ok (i.covers now t) := by
  have hstart : i.start.offset.isSome = t.offset.isSome := by rw [hclock.start, ht]
  have hstop : t.offset.isSome = (i.last now).offset.isSome := by rw [hclock.last hnow, ht]
  simp only [Stac.covers, instantValue_last, le_moments hstart, le_moments hstop, covers]
  cases decide (i.start.micros ≤ t.micros) <;> rfl

theorem meets_eq {s e : Moment} (hs : s.offset.isSome = true) (he : e.offset.isSome = true) :
    Stac.meets (.moment now : Data) (.moment i.start) (instantValue i.stop) (.moment s) (.moment e) = .ok (i.meets now s e) := by
  have hstart : e.offset.isSome = i.start.offset.isSome := by rw [hclock.start, he]
  have hstop : s.offset.isSome = (i.last now).offset.isSome := by rw [hclock.last hnow, hs]
  simp only [Stac.meets, instantValue_last, gt_moments hstart, le_moments hstop, meets]
  cases decide (i.start.micros < e.micros) <;> rfl

omit hnow in
theorem meets_eq_covers {s e t : Moment} (he : e.offset.isSome = false) (ht : t.offset.isSome = false) :
    Stac.meets (.moment now : Data) (.moment i.start) (instantValue i.stop) (.moment s) (.moment e) =
      Stac.covers (.moment now : Data) (.moment i.start) (instantValue i.stop) (.moment t) := by
  have hend : e.offset.isSome ≠ i.start.offset.isSome := by simp [hclock.start, he]
  have hinstant : i.start.offset.isSome ≠ t.offset.isSome := by simp [hclock.start, ht]
  simp only [Stac.meets, Stac.covers, gt, le, order_unclocked hend, order_unclocked hinstant]
  rfl

end Interval

theorem anyM_of_forall₂ {ε α β : Type} {g : α → Except ε β} {f : β → Except ε Bool} {p : β → Bool} {xs : List α} {ys : List β}
    (hmap : Forall₂ (fun x y => g x = .ok y) xs ys) (h : ∀ x y, g x = .ok y → f y = .ok (p y)) :
    (xs.anyM fun x => g x >>= f) = .ok (ys.any p) := by
  induction hmap with
  | nil => rfl
  | @cons x y _ _ hy _ ih =>
    have hx : (g x >>= f) = .ok (p y) := by
      rw [hy]
      exact h x y hy
    rw [anyM, hx, any_cons]
    cases p y with
    | true => rfl
    | false => exact ih

/-- The intervals of the collection can be read, and none of them starts after its end. -/
def Collection.Dated (read : Reader) (now : Moment) (c : Collection Float) : Prop :=
  ∃ is, c.intervals read = .ok is ∧ ∀ i ∈ is, i.start.micros ≤ (i.last now).micros

def Collection.known (read : Reader) (c : Collection Float) : List Interval := (c.intervals read).toOption.getD []

theorem known_eq {is : List Interval} (h : c.intervals read = .ok is) : c.known read = is := by
  rw [Collection.known, h]
  rfl

namespace Listing

variable {now : Moment} (hread : read.Zoned) (hnow : now.offset.isSome = true) (hcs : ∀ c ∈ cs, c.Dated read now)

include hread hcs in
theorem filterM_known {f : Interval → Except Fault Bool} {p : Interval → Bool}
    (h : ∀ i : Interval, i.Clocked → f i = .ok (p i)) :
    (cs.filterM fun c => do (← c.statedIntervals).anyM fun stated => do f (← c.interval read stated)) =
      .ok (cs.filter fun c => (c.known read).any p) := by
  refine filterM_eq_pure fun c hc => ?_
  obtain ⟨is, his, -⟩ := hcs c hc
  obtain ⟨stated, hstated, hmap⟩ := bind_eq_ok.mp his
  rw [hstated, known_eq his]
  exact anyM_of_forall₂ (forall₂_of_mapM hmap) fun x i hi => h i (hread.interval hi)

include hread hnow hcs in
theorem atInstant_eq {t : Moment} (ht : t.offset.isSome = true) :
    cs.atInstant read (.moment now) (.moment t) =
      .ok (cs.filter fun c => (c.known read).any (Interval.covers now t)) :=
  filterM_known hread hcs fun _ hclock => Interval.covers_eq hclock hnow ht

include hread hnow hcs in
theorem during_eq {s e : Moment} (hs : s.offset.isSome = true) (he : e.offset.isSome = true) :
    cs.during read (.moment now) (.tuple [.moment s, .moment e]) =
      .ok (cs.filter fun c => (c.known read).any (Interval.meets now s e)) :=
  filterM_known hread hcs fun _ hclock => Interval.meets_eq hclock hnow hs he

include hread in
omit hcs in
theorem during_eq_atInstant (cs : Listing Float) {s e t : Moment} (he : e.offset.isSome = false)
    (ht : t.offset.isSome = false) :
    cs.during read (.moment now) (.tuple [.moment s, .moment e]) = cs.atInstant read (.moment now) (.moment t) := by
  refine congrArg (filterM · cs) (funext fun c => bind_congr fun stated => ?_)
  refine congrArg (anyM · stated) (funext fun x => ?_)
  cases hx : c.interval read x with
  | error fault => rfl
  | ok i => exact Interval.meets_eq_covers (hread.interval hx) he ht

end Listing

def present (w : World) : Moment := Moment.ofDate w.today

theorem runIn_now (w : World) : now.runIn w = (.ok (.moment (present w)), w) := rfl

theorem atInstantStep_run (w : World) (v : Data) :
    ((atInstantStep read).take cs [v]).runIn w = (cs.atInstant read (.moment (present w)) v, w) := by
  show SessionOn.runIn (now >>= fun n => liftM (cs.atInstant read n v)) w = _
  rw [runIn_bind_of_ok (runIn_now w), runIn_liftM]

theorem duringStep_run (w : World) (v : Data) :
    ((duringStep read).take cs [v]).runIn w = (cs.during read (.moment (present w)) v, w) := by
  show SessionOn.runIn (now >>= fun n => liftM (cs.during read n v)) w = _
  rw [runIn_bind_of_ok (runIn_now w), runIn_liftM]

/-- The interval search keeps what is kept at one of the instants of the query, and every search keeps the order. -/
def FindsUnion (read : Reader) (cs : Listing Float) (now s e : Moment) : Prop :=
  ∃ (kept : Collection Float → Bool) (keptAt : Moment → Collection Float → Bool),
    cs.during read (.moment now) (.tuple [.moment s, .moment e]) = .ok (cs.filter kept) ∧
    (∀ t : Moment, t.offset.isSome = true →
      cs.atInstant read (.moment now) (.moment t) = .ok (cs.filter (keptAt t))) ∧
    ∀ c ∈ cs, kept c = true ↔
      ∃ t : Moment, t.offset.isSome = true ∧ s.micros ≤ t.micros ∧ t.micros < e.micros ∧ keptAt t c = true

theorem findsUnion {now s e : Moment} (hread : read.Zoned) (hnow : now.offset.isSome = true)
    (hcs : ∀ c ∈ cs, c.Dated read now) (hs : s.offset.isSome = true) (he : e.offset.isSome = true)
    (hquery : s.micros < e.micros) : FindsUnion read cs now s e := by
  refine ⟨fun c => (c.known read).any (Interval.meets now s e), fun t c => (c.known read).any (Interval.covers now t),
    Listing.during_eq hread hnow hcs hs he, fun t ht => Listing.atInstant_eq hread hnow hcs ht, fun c hc => ?_⟩
  obtain ⟨is, his, hordered⟩ := hcs c hc
  simp only [known_eq his, any_eq_true]
  constructor
  · rintro ⟨i, hi, hmeets⟩
    obtain ⟨t, ht, hst, hte, hcovers⟩ := (Interval.meets_iff hquery (hordered i hi)).mp hmeets
    exact ⟨t, ht, hst, hte, i, hi, hcovers⟩
  · rintro ⟨t, ht, hst, hte, i, hi, hcovers⟩
    exact ⟨i, hi, (Interval.meets_iff hquery (hordered i hi)).mpr ⟨t, ht, hst, hte, hcovers⟩⟩

/-- **Searching an interval finds what searching one of its instants finds**, whatever the time is now and for every
reader whose instants carry an offset. Instants of an unspecified clock have no place among those of a catalogue, and
then both searches are refused alike. The searches are those that a session makes at its own time. -/
theorem during_union_of_instants {now s e : Moment} (hread : read.Zoned) (hnow : now.offset.isSome = true)
    (hcs : ∀ c ∈ cs, c.Dated read now) (hclock : s.offset.isSome = e.offset.isSome) (hquery : s.micros < e.micros) :
    (s.offset.isSome = true → FindsUnion read cs now s e) ∧
      (s.offset.isSome = false → ∀ t : Moment, t.offset.isSome = false →
        cs.during read (.moment now) (.tuple [.moment s, .moment e]) = cs.atInstant read (.moment now) (.moment t)) ∧
      ∀ w v, present w = now → ((duringStep read).take cs [v]).runIn w = (cs.during read (.moment now) v, w) ∧
        ((atInstantStep read).take cs [v]).runIn w = (cs.atInstant read (.moment now) v, w) := by
  refine ⟨fun hs => findsUnion hread hnow hcs hs (hclock ▸ hs) hquery,
    fun hs t ht => Listing.during_eq_atInstant hread cs (hclock ▸ hs) ht, ?_⟩
  rintro w v rfl
  exact ⟨duringStep_run w v, atInstantStep_run w v⟩

def interrupted : Collection Float :=
  ⟨[("extent", .record [("temporal", .record [("interval", .list
    [.list [.str "2000-01-01", .str "2010-06-01"], .list [.str "2015-01-01", .null]])])])]⟩

/-- A reader takes a text without an offset as universal time, so there is always one. -/
theorem readInstant?_zoned : Reader.Zoned readInstant? := by
  intro s m h
  obtain ⟨⟨year, rest⟩, -, hparts⟩ := Option.bind_eq_some_iff.mp h
  dsimp only at hparts
  split at hparts <;> split at hparts <;> cases hparts <;> rfl

theorem interrupted_dated : interrupted.Dated readInstant? (present {}) := by
  refine ⟨[⟨Moment.ofDate ⟨2000, 1, 1⟩, some (Moment.ofDate ⟨2010, 6, 1⟩)⟩, ⟨Moment.ofDate ⟨2015, 1, 1⟩, none⟩], ?_, ?_⟩
  · cbv
  · decide +kernel

/-- The query starts with the last instant of one interval and ends before the first instant of the next one. -/
theorem during_union_of_instants_interrupted :
    FindsUnion readInstant? [interrupted] (present {}) (Moment.ofDate ⟨2010, 6, 1⟩) (Moment.ofDate ⟨2015, 1, 1⟩) := by
  have hdated : ∀ c ∈ [interrupted], c.Dated readInstant? (present {}) := by
    intro c hc
    rw [List.mem_singleton.mp hc]
    exact interrupted_dated
  have hquery : (Moment.ofDate ⟨2010, 6, 1⟩).micros < (Moment.ofDate ⟨2015, 1, 1⟩).micros := by decide +kernel
  have hofDate : ∀ d : Date, (Moment.ofDate d).offset.isSome = true := fun _ => rfl
  have hclock : (Moment.ofDate ⟨2010, 6, 1⟩).offset.isSome = (Moment.ofDate ⟨2015, 1, 1⟩).offset.isSome := by
    rw [hofDate, hofDate]
  exact (during_union_of_instants readInstant?_zoned (hofDate _) hdated hclock hquery).1 (hofDate _)

end RemoteSensing.Stac
