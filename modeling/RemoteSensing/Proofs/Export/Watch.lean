import RemoteSensing.Export.Task
import RemoteSensing.Proofs.Session.Run
import RemoteSensing.Proofs.Value.Order

/-!
Waiting for a task.
-/

namespace RemoteSensing.Export

open Decimal List Session

/-- What a server answers behind `i` other answers. The last one is repeated. -/
def answered (answers : List (Except String Data)) (i : Nat) : Except Fault Data :=
  match answers[min i (answers.length - 1)]? with
  | some (.ok status) => .ok status
  | some (.error message) => .error (.refused message)
  | none => .error (.refused "no answer queued")

def answerAt (w : World) (task : Data) (i : Nat) : Except Fault Data := do
  verify w.refusals (task.call "status")
  answered w.answers i

/-- The state in an answer with the line that is told of it. -/
def reading (answer : Except Fault Data) : Except Fault (Data × String) := do
  let status ← answer
  let state ← status.item "state"
  let line ← stateText status state
  pure (state, line)

/-- An error while the state is read, or while it is told, is a state of its own. -/
def stateAt (w : World) (task : Data) (i : Nat) : Data :=
  match reading (answerAt w task i) with
  | .ok (state, _) => state
  | .error _ => "ERROR"

def lineAt (w : World) (task : Data) (i : Nat) : String :=
  match reading (answerAt w task i) with
  | .ok (_, line) => line ++ "\n"
  | .error e => "Error checking task status: " ++ e.message ++ "\n"

def told (w : World) (task : Data) : Nat → String
  | 0 => ""
  | n + 1 => told w task n ++ lineAt w task n

def Terminal (state : Data) : Bool := state.isText "COMPLETED" || (state.isText "FAILED" || state.isText "CANCELLED")

/-- The world behind `n` polls and `pauses` pauses of ten seconds. A poll that is refused does not come to the server. -/
def polled (w : World) (task : Data) (n pauses : Nat) : World :=
  let served := (verify w.refusals (task.call "status")).isOk
  { w with
    answers := if served then w.answers.drop (min n (w.answers.length - 1)) else w.answers
    asked := if served then w.asked ++ replicate n "task.status()" else w.asked
    clock := w.clock + 10 * pauses
    printed := w.printed ++ told w task n }

section Polls

variable (w : World) (task : Data)

theorem polled_zero : polled w task 0 0 = w := by
  simp [polled, told]

theorem answerAt_polled (n pauses i : Nat) : answerAt (polled w task n pauses) task i = answerAt w task (n + i) := by
  unfold answerAt polled
  cases hserved : verify w.refusals (task.call "status") with
  | error e => rfl
  | ok _ =>
    have hplace : min n (w.answers.length - 1) + min i (w.answers.length - min n (w.answers.length - 1) - 1) =
        min (n + i) (w.answers.length - 1) := by omega
    simp only [answered, Except.isOk, Except.toBool, if_true, getElem?_drop, length_drop, hplace]

theorem polled_succ (n pauses : Nat) : polled (polled w task n pauses) task 1 0 = polled w task (n + 1) pauses := by
  have hline : lineAt (polled w task n pauses) task 0 = lineAt w task n := by
    rw [lineAt, answerAt_polled, Nat.add_zero, lineAt]
  have hplace : min n (w.answers.length - 1) + min 1 (w.answers.length - min n (w.answers.length - 1) - 1) =
      min (n + 1) (w.answers.length - 1) := by omega
  rw [polled, told, told, hline]
  unfold polled
  cases hserved : verify w.refusals (task.call "status") with
  | error e => simp [Except.isOk, Except.toBool, told, String.append_assoc]
  | ok _ =>
    simp [Except.isOk, Except.toBool, told, String.append_assoc, drop_drop, hplace, replicate_add]

theorem runIn_nextAnswer : nextAnswer.runIn w =
    (answered w.answers 0, { w with answers := w.answers.drop (min 1 (w.answers.length - 1)) }) := by
  rcases w with ⟨answers⟩
  -- an answer is taken out if there is another one
  rcases answers with _ | ⟨a, _ | ⟨b, rest⟩⟩
  · rfl
  · cases a <;> rfl
  · cases a <;> rfl

theorem runIn_taskStatus :
    (taskStatus task).runIn w = (answerAt w task 0, { polled w task 1 0 with printed := w.printed }) := by
  rw [taskStatus, submit, bind_assoc, runIn_bind_of_ok (runIn_get w), bind_assoc]
  unfold answerAt polled
  cases hserved : verify w.refusals (task.call "status") with
  | error e => rfl
  | ok _ =>
    rw [runIn_liftM_ok, pure_bind, ask, runIn_bind_of_ok (runIn_modify _ w), runIn_nextAnswer]
    rfl

theorem polled_one {line : String} (hline : lineAt w task 0 = line) :
    { polled w task 1 0 with printed := w.printed ++ line } = polled w task 1 0 := by
  simp [polled, told, hline]

theorem runIn_checkState : (checkState task).runIn w = (.ok (stateAt w task 0), polled w task 1 0) := by
  -- whatever fails, the fault is told in place of the state
  have hfault : ∀ e, reading (answerAt w task 0) = .error e → stateAt w task 0 = "ERROR" ∧
      { polled w task 1 0 with printed := w.printed ++ "Error checking task status: " ++ e.message ++ "\n" } =
        polled w task 1 0 := by
    intro e he
    refine ⟨by rw [stateAt, he], ?_⟩
    rw [String.append_assoc, String.append_assoc]
    exact polled_one w task (by simp only [lineAt, he, String.append_assoc])
  rw [checkState, runIn_orTell, runIn_bind, runIn_taskStatus]
  cases hanswer : answerAt w task 0 with
  | error e =>
    obtain ⟨hstate, hworld⟩ := hfault e (by rw [hanswer]; rfl)
    rw [hstate, ← hworld]
  | ok status =>
    dsimp only
    rw [runIn_bind, runIn_liftM]
    cases hitem : status.item "state" with
    | error e =>
      obtain ⟨hstate, hworld⟩ := hfault e (by rw [hanswer]; simp [reading, bind, Except.bind, hitem])
      rw [hstate, ← hworld]
    | ok state =>
      dsimp only
      rw [runIn_bind, runIn_liftM]
      cases hline : stateText status state with
      | error e =>
        obtain ⟨hstate, hworld⟩ := hfault e (by rw [hanswer]; simp [reading, bind, Except.bind, hitem, hline])
        rw [hstate, ← hworld]
      | ok line =>
        have hreading : reading (answerAt w task 0) = .ok (state, line) := by
          rw [hanswer]
          simp [reading, bind, Except.bind, hitem, hline, pure, Except.pure]
        have htold : lineAt w task 0 = line ++ "\n" := by rw [lineAt, hreading]
        have hworld := polled_one w task htold
        rw [stateAt, hreading, ← hworld]
        rfl

end Polls

section Loop

variable {w : World} {task timeout : Data} {n : Nat}
  (hlimit : ∀ i : Nat, (Value.int (10 * i : Nat) : Data).lt timeout = .ok (decide (i < n)))

def timedOut (timeout : Data) (w : World) : World :=
  { w with printed := w.printed ++ ("Task timed out after " ++ timeout.display ++ " seconds\n") }

include hlimit

theorem lt_elapsed (i : Nat) :
    (Value.int (((polled w task i i).clock : Int) - w.clock) : Data).lt timeout = .ok (decide (i < n)) := by
  have helapsed : ((polled w task i i).clock : Int) - w.clock = (10 * i : Nat) := by
    show ((w.clock + 10 * i : Nat) : Int) - w.clock = _
    omega
  rw [helapsed, hlimit]

theorem runIn_waitFrom_step {i : Nat} (hi : i < n) (fuel : Nat) :
    (waitFrom task timeout w.clock (fuel + 1)).runIn (polled w task i i) =
      if Terminal (stateAt w task i) then (.ok ((stateAt w task i).isText "COMPLETED"), polled w task (i + 1) i)
      else (waitFrom task timeout w.clock fuel).runIn (polled w task (i + 1) (i + 1)) := by
  have hstate : stateAt (polled w task i i) task 0 = stateAt w task i := by
    rw [stateAt, answerAt_polled, Nat.add_zero, stateAt]
  have hcheck := runIn_checkState (polled w task i i) task
  rw [hstate, polled_succ] at hcheck
  rw [waitFrom, runIn_bind_of_ok (runIn_get _)]
  dsimp only
  rw [lt_elapsed hlimit, decide_eq_true hi, runIn_liftM_ok,
    if_pos rfl, runIn_bind_of_ok hcheck, Terminal]
  cases hcompleted : (stateAt w task i).isText "COMPLETED" with
  | true => rfl
  | false =>
    cases hended : (stateAt w task i).isText "FAILED" || (stateAt w task i).isText "CANCELLED" with
    | true => rfl
    | false => rfl

theorem runIn_waitFrom_over (fuel : Nat) :
    (waitFrom task timeout w.clock fuel).runIn (polled w task n n) = (.ok false, timedOut timeout (polled w task n n)) := by
  have hprinted : ("Task timed out after " ++ timeout.display ++ " seconds") ++ "\n" =
      "Task timed out after " ++ timeout.display ++ " seconds\n" := by
    rw [String.append_assoc]
    rfl
  have htell : (do print ("Task timed out after " ++ timeout.display ++ " seconds"); pure false : Session Bool).runIn
      (polled w task n n) = (.ok false, timedOut timeout (polled w task n n)) := by
    rw [runIn_bind_of_ok (runIn_print _ _), hprinted]
    rfl
  cases fuel with
  | zero => exact htell
  | succ fuel =>
    rw [waitFrom, runIn_bind_of_ok (runIn_get _)]
    dsimp only
    rw [lt_elapsed hlimit, decide_eq_false (Nat.lt_irrefl n), runIn_liftM_ok]
    exact htell

theorem runIn_waitFrom_quiet {k : Nat} (hk : k ≤ n) (hquiet : ∀ j < k, Terminal (stateAt w task j) = false) (fuel : Nat) :
    (waitFrom task timeout w.clock (fuel + k)).runIn w = (waitFrom task timeout w.clock fuel).runIn (polled w task k k) := by
  induction k generalizing fuel with
  | zero => rw [polled_zero, Nat.add_zero]
  | succ k ih =>
    have hround : (waitFrom task timeout w.clock (fuel + 1)).runIn (polled w task k k) = _ :=
      runIn_waitFrom_step hlimit hk fuel
    rw [hquiet k k.lt_succ_self] at hround
    rw [← Nat.add_assoc, Nat.add_right_comm, ih (by omega) (fun j hj => hquiet j (by omega)) (fuel + 1), hround]
    rfl

end Loop

/-- A finite number of seconds. -/
def Lasts (timeout : Data) (seconds : ℚ) : Prop :=
  ∃ u : ℤ, timeout.worth = some (u : EInt) ∧ seconds = u / 2 ^ 1074

theorem lt_rounds {timeout : Data} {u : ℤ} (hu : timeout.worth = some (u : EInt)) {i : Nat}
    (hi : ((10 * i : Nat) : ℤ) * 2 ^ 1074 < u) (answers : Nat) : i < rounds timeout answers := by
  obtain ⟨m, hm, hworth⟩ := Value.worth_eq_some hu
  rw [rounds, hm]
  cases m with
  | int t =>
    have ht : t * 2 ^ 1074 = u := WithBotTop.coe_injective (Option.some.inj hworth)
    rw [← ht] at hi
    show i < (t.toNat + 9) / 10
    omega
  | real x =>
    have hx : (decode x).worth = some (u : EInt) := hworth
    dsimp only
    cases hdecode : decode x with
    | notANumber =>
      rw [hdecode] at hx
      cases hx
    | infinite negative =>
      rw [hdecode] at hx
      cases negative <;> cases hx
    | finite b =>
      rw [hdecode] at hx
      have hb : b.worth = u := WithBotTop.coe_injective (Option.some.inj hx)
      rw [← hb] at hi
      have hcompare := compare_numerator (canonical_of_decode hdecode) ((10 * i : Nat) : ℤ)
      rw [(cmp_eq_lt_iff _ _).mpr hi, compare_lt_iff_lt] at hcompare
      dsimp only
      cases hnegative : b.negative with
      | true =>
        rw [hnegative, if_pos rfl] at hcompare
        have hleft : (0 : ℤ) ≤ ((10 * i : Nat) : ℤ) * b.denominator := by positivity
        omega
      | false =>
        rw [hnegative, if_neg (by decide)] at hcompare
        have hpos : 0 < b.denominator := Nat.two_pow_pos _
        have hnext : (i + 1) * (10 * b.denominator) = 10 * i * b.denominator + 10 * b.denominator := by ring
        rw [if_neg (by decide), Nat.lt_iff_add_one_le, Nat.le_div_iff_mul_le (by omega), hnext]
        omega

section Limit

variable {timeout : Data} {seconds : ℚ}

theorem lt_ceil_iff {u : ℤ} (i : Nat) :
    i < ⌈((u : ℚ) / 2 ^ 1074) / 10⌉.toNat ↔ ((10 * i : Nat) : ℤ) * 2 ^ 1074 < u := by
  -- the power is named, so that it is not computed
  obtain ⟨q, hq⟩ : ∃ q : ℤ, q = 2 ^ 1074 := ⟨_, rfl⟩
  have hpos : 0 < q := by
    rw [hq]
    positivity
  have hcast : (2 : ℚ) ^ 1074 = (q : ℚ) := by
    rw [hq, Int.cast_pow, Int.cast_ofNat]
  rw [hcast, ← hq, Int.lt_toNat, Int.lt_ceil, div_div, lt_div_iff₀ (by positivity)]
  have hproduct : ((i : ℤ) : ℚ) * (q * 10) = ((((10 * i : Nat) : ℤ) * q : ℤ) : ℚ) := by
    push_cast
    ring
  rw [hproduct, Int.cast_lt]

variable (hlasts : Lasts timeout seconds)
include hlasts

theorem lt_lasts (i : Nat) :
    (Value.int (10 * i : Nat) : Data).lt timeout = .ok (decide (i < ⌈seconds / 10⌉.toNat)) := by
  obtain ⟨u, hu, rfl⟩ := hlasts
  rw [Value.lt_eq (x := worthOfInt (10 * i : Nat)) rfl hu]
  refine congrArg Except.ok (decide_eq_decide.mpr ?_)
  rw [lt_ceil_iff, worthOfInt, WithBotTop.coe_lt_coe]

theorem ceil_le_rounds (answers : Nat) : ⌈seconds / 10⌉.toNat ≤ rounds timeout answers := by
  obtain ⟨u, hu, rfl⟩ := hlasts
  by_contra hlt
  exact Nat.lt_irrefl _ (lt_rounds hu ((lt_ceil_iff _).mp (not_le.mp hlt)) answers)

end Limit

theorem runIn_wait_call (task timeout : Data) (w : World) : (waitCommand.call [task, timeout]).runIn w =
    (waitFrom task timeout w.clock (rounds timeout w.answers.length + 1) >>= fun b => pure (.bool b) : Session Data).runIn w := by
  show (wait task timeout >>= fun b => pure (.bool b) : Session Data).runIn w = _
  rw [wait, bind_assoc, runIn_bind_of_ok (runIn_get w)]

/-- **Waiting for a task.** Let `n` be the tenth part of the time limit, rounded up. The wait is over at the first of `n` polls
that tells of an end, and its result is whether the task was completed. If there is none, the state was asked for `n` times,
and the task is told to have timed out. -/
theorem wait_ends_at_first_terminal {timeout : Data} {seconds : ℚ} (hlasts : Lasts timeout seconds) (task : Data) (w : World) :
    (∀ k < ⌈seconds / 10⌉.toNat, Terminal (stateAt w task k) = true → (∀ j < k, Terminal (stateAt w task j) = false) →
      (waitCommand.call [task, timeout]).runIn w =
        (.ok (.bool ((stateAt w task k).isText "COMPLETED")), polled w task (k + 1) k)) ∧
    ((∀ j < ⌈seconds / 10⌉.toNat, Terminal (stateAt w task j) = false) →
      (waitCommand.call [task, timeout]).runIn w =
        (.ok (.bool false), timedOut timeout (polled w task ⌈seconds / 10⌉.toNat ⌈seconds / 10⌉.toNat))) := by
  have hlimit := lt_lasts hlasts
  have hfuel := ceil_le_rounds hlasts w.answers.length
  generalize ⌈seconds / 10⌉.toNat = n at hlimit hfuel ⊢
  constructor
  · intro k hk hterminal hquiet
    obtain ⟨fuel, hrounds⟩ : ∃ fuel, rounds timeout w.answers.length + 1 = fuel + 1 + k :=
      ⟨rounds timeout w.answers.length - k, by omega⟩
    have hrun := runIn_waitFrom_quiet hlimit (Nat.le_of_lt hk) hquiet (fuel + 1)
    rw [runIn_waitFrom_step hlimit hk, if_pos hterminal] at hrun
    rw [runIn_wait_call, hrounds, runIn_bind_of_ok hrun, runIn_pure]
  · intro hquiet
    obtain ⟨fuel, hrounds⟩ : ∃ fuel, rounds timeout w.answers.length + 1 = fuel + n :=
      ⟨rounds timeout w.answers.length + 1 - n, by omega⟩
    have hrun := runIn_waitFrom_quiet hlimit (Nat.le_refl n) hquiet fuel
    rw [runIn_waitFrom_over hlimit] at hrun
    rw [runIn_wait_call, hrounds, runIn_bind_of_ok hrun, runIn_pure]

theorem wait_ends_within_limit :
    Lasts 25 25 ∧ ∃ w, (waitCommand.call [.object .task "task", 25]).runIn
      { answers := [.error "busy", .ok (.record [("state", "READY")]), .ok (.record [("state", "COMPLETED")])] } =
        (.ok (.bool true), w) ∧ w.asked.length = 3 ∧ w.clock = 20 := by
  have hlasts : Lasts 25 25 := by
    refine ⟨25 * 2 ^ 1074, rfl, ?_⟩
    rw [Int.cast_mul, Int.cast_pow, Int.cast_ofNat, Int.cast_ofNat, mul_div_cancel_right₀ _ (by positivity)]
  have hpolls : ⌈(25 : ℚ) / 10⌉.toNat = 3 := by
    rw [show ⌈(25 : ℚ) / 10⌉ = 3 by rw [Int.ceil_eq_iff]; norm_num]
    rfl
  obtain ⟨hends, -⟩ := wait_ends_at_first_terminal hlasts (.object .task "task")
    { answers := [.error "busy", .ok (.record [("state", "READY")]), .ok (.record [("state", "COMPLETED")])] }
  rw [hpolls] at hends
  refine ⟨hlasts, _, hends 2 (by decide) rfl fun j hj => ?_, rfl, rfl⟩
  match j, hj with
  | 0, _ => rfl
  | 1, _ => rfl

end RemoteSensing.Export
