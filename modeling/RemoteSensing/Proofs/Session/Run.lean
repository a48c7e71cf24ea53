import Mathlib.Data.List.Forall2
import RemoteSensing.Command

/-!
Running a session.
-/

namespace RemoteSensing

open List

variable {ε : Type} {v w : World}

section Results

variable {α β : Type} {x : Except ε α} {b : β} {e : ε}

theorem bind_eq_ok {f : α → Except ε β} : x >>= f = .ok b ↔ ∃ a, x = .ok a ∧ f a = .ok b := by
  cases x <;> simp [bind, Except.bind]

theorem bind_eq_error {f : α → Except ε β} : x >>= f = .error e ↔ x = .error e ∨ ∃ a, x = .ok a ∧ f a = .error e := by
  cases x <;> simp [bind, Except.bind]

theorem map_eq_ok {f : α → β} : x.map f = .ok b ↔ ∃ a, x = .ok a ∧ f a = b := by
  cases x <;> simp [Except.map]

theorem map_eq_error {f : α → β} : x.map f = .error e ↔ x = .error e := by
  cases x <;> simp [Except.map]

end Results

section Lists

theorem pairwise_eraseDups {α : Type} [BEq α] [LawfulBEq α] {R : α → α → Prop} {xs : List α} (h : xs.Pairwise R) :
    xs.eraseDups.Pairwise fun a b => R a b ∧ a ≠ b := by
  match xs, h with
  | [], _ => exact Pairwise.nil
  | x :: r, h =>
    obtain ⟨hx, hr⟩ := pairwise_cons.mp h
    rw [eraseDups_cons, pairwise_cons]
    refine ⟨?_, pairwise_eraseDups (hr.filter _)⟩
    intro y hy
    rw [mem_eraseDups, mem_filter] at hy
    exact ⟨hx y hy.1, by rintro rfl; simp at hy⟩
termination_by xs.length
decreasing_by exact Nat.lt_succ_of_le (length_filter_le _ _)

variable {m : Type → Type} [Monad m] [LawfulMonad m] {α β : Type}

theorem mapM_eq_pure {f : α → m β} {g : α → β} {xs : List α} (h : ∀ x ∈ xs, f x = pure (g x)) :
    xs.mapM f = pure (xs.map g) := by
  induction xs with
  | nil => simp
  | cons x rest ih =>
    rw [mapM_cons, h x mem_cons_self, pure_bind, ih fun y hy => h y (mem_cons_of_mem x hy), pure_bind]
    rfl

theorem mapM_eq_ok {f : α → Except ε β} {g : α → β} {xs : List α} (h : ∀ x ∈ xs, f x = .ok (g x)) :
    xs.mapM f = .ok (xs.map g) := mapM_eq_pure h

theorem forall₂_of_mapM {f : α → Except ε β} {xs : List α} {ys : List β} (h : xs.mapM f = .ok ys) :
    Forall₂ (fun x y => f x = .ok y) xs ys := by
  induction xs generalizing ys with
  | nil =>
    cases h
    exact .nil
  | cons x xs ih =>
    rw [mapM_cons] at h
    obtain ⟨y, hy, h⟩ := bind_eq_ok.mp h
    obtain ⟨rest, hrest, h⟩ := bind_eq_ok.mp h
    cases h
    exact .cons hy (ih hrest)

variable {f : α → m Bool} {p : α → Bool}

theorem filterM_eq_pure {xs : List α} (h : ∀ x ∈ xs, f x = pure (p x)) : xs.filterM f = pure (xs.filter p) := by
  have haux : ∀ (xs kept : List α), (∀ x ∈ xs, f x = pure (p x)) →
      List.filterAuxM f xs kept = pure ((xs.filter p).reverse ++ kept) := by
    intro xs
    induction xs with
    | nil => intro kept _; rfl
    | cons x rest ih =>
      intro kept h
      rw [List.filterAuxM, h x mem_cons_self, pure_bind, filter_cons]
      have hrest : ∀ y ∈ rest, f y = pure (p y) := fun y hy => h y (mem_cons_of_mem x hy)
      cases hx : p x with
      | true => simp [ih _ hrest]
      | false => simp [ih _ hrest]
  rw [List.filterM, haux xs [] h, pure_bind]
  simp

theorem anyM_eq_pure {xs : List α} (h : ∀ x ∈ xs, f x = pure (p x)) : xs.anyM f = pure (xs.any p) := by
  induction xs with
  | nil => rfl
  | cons x rest ih =>
    rw [List.anyM, h x mem_cons_self, pure_bind, any_cons]
    cases p x with
    | true => rfl
    | false => exact ih fun y hy => h y (mem_cons_of_mem x hy)

end Lists

/-- The world after the addresses were asked for. -/
def World.after (w : World) (urls : List String) : World :=
  { w with sent := w.sent ++ urls.map (⟨"GET", ·, none, none⟩), replies := w.replies.drop urls.length }

def SessionOn.runIn {σ α : Type} (s : SessionOn σ α) (w : σ) : Except Fault α × σ := (ExceptT.run s).run w

namespace Session

variable {α β : Type}

section State

variable {σ : Type} {v w : σ}

@[simp] theorem runIn_pure (a : α) (w : σ) : (pure a : SessionOn σ α).runIn w = (.ok a, w) := rfl

@[simp] theorem runIn_throw (e : Fault) (w : σ) : (throw e : SessionOn σ α).runIn w = (.error e, w) := rfl

@[simp] theorem runIn_get (w : σ) : (get : SessionOn σ σ).runIn w = (.ok w, w) := rfl

@[simp] theorem runIn_modify (f : σ → σ) (w : σ) :
    (modify f : SessionOn σ PUnit).runIn w = (.ok ⟨⟩, f w) := rfl

@[simp] theorem runIn_liftM (x : Except Fault α) (w : σ) : (liftM x : SessionOn σ α).runIn w = (x, w) := by
  cases x <;> rfl

theorem runIn_bind (s : SessionOn σ α) (f : α → SessionOn σ β) (w : σ) :
    (s >>= f).runIn w = match s.runIn w with
      | (.ok a, v) => (f a).runIn v
      | (.error e, v) => (.error e, v) := by
  simp only [SessionOn.runIn, bind, ExceptT.run, ExceptT.bind, ExceptT.mk, StateT.run, StateT.bind]
  rcases s w with ⟨r, v⟩
  cases r <;> rfl

theorem runIn_tryCatch (s : SessionOn σ α) (handle : Fault → SessionOn σ α) (w : σ) :
    (tryCatch s handle).runIn w = match s.runIn w with
      | (.ok a, v) => (.ok a, v)
      | (.error e, v) => (handle e).runIn v := by
  show (ExceptT.run (ExceptT.tryCatch s handle)).run w = _
  simp only [SessionOn.runIn, bind, ExceptT.run, ExceptT.tryCatch, ExceptT.mk, StateT.run, StateT.bind]
  rcases s w with ⟨r, v⟩
  cases r <;> rfl

theorem runIn_bind_of_ok {s : SessionOn σ α} {a : α} (h : s.runIn w = (.ok a, v)) (f : α → SessionOn σ β) :
    (s >>= f).runIn w = (f a).runIn v := by
  rw [runIn_bind, h]

theorem runIn_liftM_ok (a : α) (f : α → SessionOn σ β) (w : σ) :
    ((liftM (.ok a : Except Fault α) : SessionOn σ α) >>= f).runIn w = (f a).runIn w :=
  runIn_bind_of_ok (runIn_liftM _ w) f

theorem runIn_bind_of_error {s : SessionOn σ α} {e : Fault} (h : s.runIn w = (.error e, v)) (f : α → SessionOn σ β) :
    (s >>= f).runIn w = (.error e, v) := by
  rw [runIn_bind, h]

/-- **What every part of a session keeps, the session keeps.** -/
theorem runIn_bind_keeps {R : σ → σ → Prop} (htrans : ∀ {u v w}, R u v → R v w → R u w) {s : SessionOn σ α}
    {f : α → SessionOn σ β} (hs : ∀ w, R w (s.runIn w).2) (hf : ∀ a w, R w ((f a).runIn w).2) (w : σ) :
    R w ((s >>= f).runIn w).2 := by
  have hkeep := hs w
  rcases hrun : s.runIn w with ⟨e | a, v⟩
  · rw [hrun] at hkeep
    rw [runIn_bind_of_error hrun]
    exact hkeep
  · rw [hrun] at hkeep
    rw [runIn_bind_of_ok hrun]
    exact htrans hkeep (hf a v)

theorem runIn_liftM_bind (x : Except Fault α) (g : α → β) (w : σ) :
    ((liftM x : SessionOn σ α) >>= fun a => pure (g a)).runIn w = (x.map g, w) := by
  cases x <;> rfl

theorem runIn_bind_ok {s : SessionOn σ α} {f : α → SessionOn σ β} {b : β} :
    (s >>= f).runIn w = (.ok b, v) ↔ ∃ a u, s.runIn w = (.ok a, u) ∧ (f a).runIn u = (.ok b, v) := by
  constructor
  · intro h
    rcases hs : s.runIn w with ⟨r, u⟩
    cases r with
    | error e =>
      rw [runIn_bind_of_error hs] at h
      cases h
    | ok a => exact ⟨a, u, rfl, by rw [runIn_bind_of_ok hs] at h; exact h⟩
  · rintro ⟨a, u, hs, hf⟩
    rw [runIn_bind_of_ok hs, hf]

theorem runIn_forIn (Inv : List α → σ → Prop) (next : β → α → β) {body : α → β → SessionOn σ (ForInStep β)}
    {xs : List α} (hround : ∀ x ∈ xs, ∀ rest b w, Inv (x :: rest) w →
      ∃ v, (body x b).runIn w = (.ok (.yield (next b x)), v) ∧ Inv rest v) (hw : Inv xs w) (b : β) :
    ∃ v, (forIn xs b body : SessionOn σ β).runIn w = (.ok (xs.foldl next b), v) ∧ Inv [] v := by
  induction xs generalizing b w with
  | nil => exact ⟨w, by rw [forIn_nil, runIn_pure, foldl_nil], hw⟩
  | cons x rest ih =>
    obtain ⟨v, hbody, hv⟩ := hround x mem_cons_self rest b w hw
    obtain ⟨u, hrest, hu⟩ := ih (fun y hy => hround y (mem_cons_of_mem x hy)) hv (next b x)
    refine ⟨u, ?_, hu⟩
    rw [forIn_cons, runIn_bind_of_ok hbody]
    exact hrest

end State

/-- A request takes a reply that waits, and fails if there is none or it is a fault. -/
theorem runIn_fetch (url : String) (w : World) :
    (∃ page rest, w.replies = .ok page :: rest ∧
      (fetch url).runIn w = (.ok { page with url := some (page.url.getD url) }, w.after [url])) ∨
    (∀ page rest, w.replies ≠ .ok page :: rest) ∧ ∃ e, (fetch url).runIn w = (.error e, w.after [url]) := by
  rw [fetch, request, runIn_bind_of_ok (runIn_modify _ w), runIn_bind_of_ok (runIn_get _), World.after]
  rcases w.replies with _ | ⟨_ | page, rest⟩
  · exact .inr ⟨nofun, _, rfl⟩
  · exact .inr ⟨nofun, _, rfl⟩
  · exact .inl ⟨page, rest, rfl, rfl⟩

theorem runIn_submit {x : Data} (hw : w.refusals = []) (hx : verify [] x = .ok ()) :
    (submit x).runIn w = (.ok x, w) := by
  unfold submit
  rw [runIn_bind_of_ok (runIn_get w), hw, hx, runIn_liftM_ok]
  rfl

@[simp] theorem runIn_print (s : String) (w : World) :
    (print s).runIn w = (.ok (), { w with printed := w.printed ++ (s ++ "\n") }) := rfl

theorem runIn_orTell (what : String) (d : α) (s : Session α) (w : World) :
    (orTell what d s).runIn w = match s.runIn w with
      | (.ok a, v) => (.ok a, v)
      | (.error e, v) => (.ok d, { v with printed := v.printed ++ what ++ e.message ++ "\n" }) := by
  unfold orTell
  rw [runIn_tryCatch]
  rcases s.runIn w with ⟨r, v⟩
  cases r <;> rfl

end Session

theorem Command.runIn_call {c : Command} {args : List Data} {named : Fields} {a : Arguments}
    (h : c.bind args named = .ok a) (w : World) : (c.call args named).runIn w = (c.run a).runIn w := by
  rw [call, h, Session.runIn_liftM_ok]

def Command.Answers (c : Command) (args : List Data) (v : Data) : Prop :=
  ∀ w, (c.call args []).runIn w = (.ok v, w)

def Command.Refuses (c : Command) (args : List Data) (e : Fault) : Prop :=
  ∀ w, (c.call args []).runIn w = (.error e, w)

end RemoteSensing

namespace RemoteSensing.Session

/-! Sessions that only print. -/

variable {α β : Type} {s : Session α} {f : α → Session β} {t u : String}

def Tells (s : Session α) (t : String) (r : Except Fault α) : Prop :=
  ∀ w, s.runIn w = (r, { w with printed := w.printed ++ t })

theorem Tells.pure (a : α) : Tells (pure a : Session α) "" (.ok a) := by
  intro w
  rw [runIn_pure, String.append_empty]

theorem Tells.liftM (x : Except Fault α) : Tells (liftM x : Session α) "" x := by
  intro w
  rw [runIn_liftM, String.append_empty]

theorem Tells.print (m : String) : Tells (print m) (m ++ "\n") (.ok ()) := by
  intro w
  exact runIn_print m w

theorem Tells.bind {a : α} {r : Except Fault β} (hs : Tells s t (.ok a)) (hf : Tells (f a) u r) :
    Tells (s >>= f) (t ++ u) r := by
  intro w
  rw [runIn_bind_of_ok (hs w), hf, String.append_assoc]

theorem Tells.bind_pure {a : α} {b : β} (hs : Tells s t (.ok a)) (hf : f a = Pure.pure b) : Tells (s >>= f) t (.ok b) := by
  intro w
  rw [runIn_bind_of_ok (hs w), hf, runIn_pure]

theorem Tells.liftM_bind {a : α} {r : Except Fault β} (hf : Tells (f a) u r) :
    Tells ((MonadLiftT.monadLift (.ok a : Except Fault α) : Session α) >>= f) u r := by
  intro w
  rw [runIn_bind_of_ok (runIn_liftM (.ok a) w), hf]

theorem Tells.bind_error {e : Fault} (hs : Tells s t (.error e)) : Tells (s >>= f) t (.error e) := by
  intro w
  rw [runIn_bind_of_error (hs w)]

/-- The session leaves files and folders as they are, and prints behind what was printed. -/
def KeepsDisk (s : Session α) : Prop :=
  ∀ w, (s.runIn w).2.disk = w.disk ∧ ∃ t, (s.runIn w).2.printed = w.printed ++ t

theorem Tells.keepsDisk {r : Except Fault α} (h : Tells s t r) : KeepsDisk s := by
  intro w
  rw [h w]
  exact ⟨rfl, t, rfl⟩

theorem KeepsDisk.trans {w v u : World} (h : v.disk = w.disk ∧ ∃ t, v.printed = w.printed ++ t)
    (h' : u.disk = v.disk ∧ ∃ t, u.printed = v.printed ++ t) : u.disk = w.disk ∧ ∃ t, u.printed = w.printed ++ t := by
  obtain ⟨hdisk, t, ht⟩ := h
  obtain ⟨hdisk', t', ht'⟩ := h'
  exact ⟨hdisk'.trans hdisk, t ++ t', by rw [ht', ht, String.append_assoc]⟩

theorem KeepsDisk.bind (hs : KeepsDisk s) (hf : ∀ a, KeepsDisk (f a)) : KeepsDisk (s >>= f) :=
  runIn_bind_keeps (R := fun w v : World => v.disk = w.disk ∧ ∃ t, v.printed = w.printed ++ t) KeepsDisk.trans hs hf

theorem KeepsDisk.tryCatch {handle : Fault → Session α} (hs : KeepsDisk s) (hhandle : ∀ e, KeepsDisk (handle e)) :
    KeepsDisk (tryCatch s handle) := by
  intro w
  have hkeep := hs w
  rw [runIn_tryCatch]
  rcases hrun : s.runIn w with ⟨e | a, v⟩
  · rw [hrun] at hkeep
    exact KeepsDisk.trans hkeep (hhandle e v)
  · rw [hrun] at hkeep
    exact hkeep

theorem KeepsDisk.foldlM {γ : Type} {step : β → γ → Session β} (h : ∀ b c, KeepsDisk (step b c)) (b : β)
    (cs : List γ) : KeepsDisk (cs.foldlM step b) := by
  induction cs generalizing b with
  | nil => exact (Tells.pure b).keepsDisk
  | cons c cs ih =>
    exact (h b c).bind ih

theorem freshName_keepsDisk (width : Nat) : KeepsDisk (freshName width) :=
  fun w => ⟨rfl, "", (String.append_empty (s := w.printed)).symm⟩

end RemoteSensing.Session
