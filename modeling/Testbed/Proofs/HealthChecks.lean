import Mathlib.Logic.Function.Iterate
import Mathlib.Order.Bounds.Basic
import Testbed.Proofs.Transcripts

/-!
# How often health is checked

A wait for health ends with a check that passed, with the last attempt, or with a pause by whose
end the stop signal has fired. If checks and pauses simply took turns without end, each of these
could be read off the turn: which check is the last one is then said without the loop.

**Theorem (`awaitHealth_checks`).** The wait makes exactly as many checks as the number of the first
that may be the last, and gives what that check gave. The same loop with the number of the attempt
in a machine word goes through these attempts one by one, and the number always fits.

The induction is over the attempts that are left. A check after which the loop goes on is followed
by a wait with one attempt less, whose checks are those of the whole wait but for the first
(`mayEnd_succ`).
-/

namespace Testbed

namespace Health

variable {σ ε : Type}

/-! ## Turns -/

/-- A check and the pause after it. -/
def round (check : σ → Except ε Unit × σ) (pause : σ → Bool × σ) (s : σ) : σ :=
  (pause (check s).2).2

/-- The loop may end with the check after `k` rounds, if it may try again `retries` times. -/
def MayEnd (check : σ → Except ε Unit × σ) (pause : σ → Bool × σ) (retries : Nat) (s : σ)
    (k : Nat) : Prop :=
  let checked := check ((round check pause)^[k] s)
  checked.1 = .ok () ∨ k = retries ∨ (pause checked.2).1 = true

/-- Where a loop stands that keeps the number of the attempt in a machine word. -/
inductive Stand (σ ε : Type)
  /-- The next check is this attempt. -/
  | checking (attempt : UInt32) (s : σ)
  | ended (result : Except ε Unit) (s : σ)
  /-- The number of the next attempt does not fit. -/
  | overflowed

/-- One turn of the loop. -/
def turn (check : σ → Except ε Unit × σ) (pause : σ → Bool × σ) (attempts : UInt32) :
    Stand σ ε → Stand σ ε
  | .checking attempt s =>
    match check s with
    | (.ok _, s) => .ended (.ok ()) s
    | (.error e, s) =>
      if attempts ≤ attempt then .ended (.error e) s
      else
        match pause s with
        | (true, s) => .ended (.error e) s
        | (false, s) =>
          if attempt.toNat + 1 < UInt32.size then .checking (attempt + 1) s else .overflowed
  | stand => stand

variable {check : σ → Except ε Unit × σ} {pause : σ → Bool × σ} {s t : σ} {e : ε}
variable {attempts : UInt32} {a k retries : Nat}

/-! ## What one turn does -/

/-- The loop ends after a check that passed. -/
theorem turn_of_passed (passed : check s = (.ok (), t)) (attempt : UInt32) :
    turn check pause attempts (.checking attempt s) = .ended (.ok ()) t := by
  rw [turn, passed]

/-- The loop ends after the last attempt. -/
theorem turn_of_last (failed : check s = (.error e, t)) (last : attempts.toNat = a) :
    turn check pause attempts (.checking (.ofNat a) s) = .ended (.error e) t := by
  have reached : attempts ≤ UInt32.ofNat a := by
    rw [← last, UInt32.ofNat_toNat]
    exact UInt32.le_refl _
  rw [turn, failed]
  exact if_pos reached

/-- Before the last attempt, the loop goes on with the next one unless the pause was stopped. -/
theorem turn_of_failed (failed : check s = (.error e, t)) (more : a < attempts.toNat) :
    turn check pause attempts (.checking (.ofNat a) s) =
      if (pause t).1 then .ended (.error e) (pause t).2
      else .checking (.ofNat (a + 1)) (pause t).2 := by
  have fits : attempts.toNat < UInt32.size := attempts.toNat_lt
  have number : (UInt32.ofNat a).toNat = a := UInt32.toNat_ofNat_of_lt' (by omega)
  have notReached : ¬ attempts ≤ UInt32.ofNat a := by
    rw [UInt32.le_iff_toNat_le, number]
    omega
  have next : (UInt32.ofNat a).toNat + 1 < UInt32.size := by omega
  simp only [turn, failed, if_neg notReached]
  generalize pause t = x
  obtain ⟨fired, u⟩ := x
  cases fired with
  | true => rfl
  | false =>
    simp only [if_pos next, Bool.false_eq_true, if_false]
    rw [UInt32.ofNat_add]
    rfl

/-! ## The whole loop -/

/-- After a check with which the loop may not end, what is left is the loop of the later ones. -/
theorem mayEnd_succ (k : Nat) :
    MayEnd check pause (retries + 1) s (k + 1) ↔
      MayEnd check pause retries (round check pause s) k := by
  simp only [MayEnd, Function.iterate_succ_apply, Nat.add_right_cancel_iff]

/-- The loop with `retries` left, standing before attempt number `a`, ends with the first check with
which it may end, and so does the loop that keeps the number in a word. -/
structure EndsWith (check : σ → Except ε Unit × σ) (pause : σ → Bool × σ) (attempts : UInt32)
    (a retries : Nat) (s : σ) (k : Nat) : Prop where
  least : IsLeast {k | MayEnd check pause retries s k} k
  result : (poll check pause retries s).1 = (check ((round check pause)^[k] s)).1
  /-- The loop ends right after the check, or after the pause that follows it. -/
  state : (poll check pause retries s).2 = (check ((round check pause)^[k] s)).2 ∨
    (poll check pause retries s).2 = (round check pause)^[k + 1] s
  before : ∀ j ≤ k, (turn check pause attempts)^[j] (.checking (.ofNat a) s) =
    .checking (.ofNat (a + j)) ((round check pause)^[j] s)
  after : (turn check pause attempts)^[k + 1] (.checking (.ofNat a) s) =
    .ended (poll check pause retries s).1 (poll check pause retries s).2

/-- The loop ends with the first check. -/
theorem EndsWith.first {x : Except ε Unit × σ} (ends : MayEnd check pause retries s 0)
    (polled : poll check pause retries s = x) (result : x.1 = (check s).1)
    (state : x.2 = (check s).2 ∨ x.2 = round check pause s)
    (turned : turn check pause attempts (.checking (.ofNat a) s) = .ended x.1 x.2) :
    EndsWith check pause attempts a retries s 0 := by
  subst polled
  refine ⟨⟨ends, fun _ _ => Nat.zero_le _⟩, result, state, fun j low => ?_, turned⟩
  obtain rfl : j = 0 := Nat.le_zero.1 low
  rfl

theorem EndsWith.of_passed (passed : check s = (.ok (), t)) :
    EndsWith check pause attempts a retries s 0 := by
  have polled : poll check pause retries s = (.ok (), t) := by
    unfold poll
    rw [passed]
  refine .first (.inl (congrArg Prod.fst passed)) polled ?_ ?_ (turn_of_passed passed _)
  · rw [passed]
  · exact .inl (by rw [passed])

theorem EndsWith.of_last (failed : check s = (.error e, t)) (last : attempts.toNat = a) :
    EndsWith check pause attempts a 0 s 0 := by
  have polled : poll check pause 0 s = (.error e, t) := by rw [poll, failed]
  refine .first (.inr (.inl rfl)) polled ?_ ?_ (turn_of_last failed last)
  · rw [failed]
  · exact .inl (by rw [failed])

theorem EndsWith.of_stopped (failed : check s = (.error e, t)) (more : a < attempts.toNat)
    (fired : (pause t).1 = true) : EndsWith check pause attempts a (retries + 1) s 0 := by
  have polled : poll check pause (retries + 1) s = (.error e, (pause t).2) := by
    rw [poll, failed]
    simp only
    generalize pause t = x at fired
    obtain ⟨f, u⟩ := x
    cases fired
    rfl
  have stopped : (pause (check s).2).1 = true := by rw [failed, fired]
  refine .first (.inr (.inr stopped)) polled ?_ ?_ ?_
  · rw [failed]
  · exact .inr (by rw [round, failed])
  · rw [turn_of_failed failed more, if_pos fired]

/-- The loop goes on after the first check. -/
theorem EndsWith.of_more (failed : check s = (.error e, t)) (more : a < attempts.toNat)
    (calm : (pause t).1 = false)
    (rest : EndsWith check pause attempts (a + 1) retries (round check pause s) k) :
    EndsWith check pause attempts a (retries + 1) s (k + 1) := by
  have after : round check pause s = (pause t).2 := by rw [round, failed]
  have again : poll check pause (retries + 1) s =
      poll check pause retries (round check pause s) := by
    rw [poll, failed, after]
    simp only
    generalize pause t = x at calm
    obtain ⟨f, u⟩ := x
    cases calm
    rfl
  have next : turn check pause attempts (.checking (.ofNat a) s) =
      .checking (.ofNat (a + 1)) (round check pause s) := by
    rw [turn_of_failed failed more, calm, after]
    rfl
  have goesOn : ¬ MayEnd check pause (retries + 1) s 0 := by
    rintro (passed | last | stopped)
    · cases (congrArg Prod.fst failed).symm.trans passed
    · cases last
    · have stopped : (pause (check s).2).1 = true := stopped
      rw [failed, calm] at stopped
      cases stopped
  refine ⟨⟨(mayEnd_succ k).2 rest.least.1, fun j ends => ?_⟩, ?_, ?_, fun j low => ?_, ?_⟩
  · cases j with
    | zero => exact absurd ends goesOn
    | succ j => exact Nat.succ_le_succ (rest.least.2 ((mayEnd_succ j).1 ends))
  · rw [again, Function.iterate_succ_apply]
    exact rest.result
  · rw [again, Function.iterate_succ_apply, Function.iterate_succ_apply _ (k + 1)]
    exact rest.state
  · cases j with
    | zero => rfl
    | succ j =>
      have number : a + 1 + j = a + (j + 1) := by omega
      rw [Function.iterate_succ_apply, next, Function.iterate_succ_apply,
        rest.before j (Nat.le_of_succ_le_succ low), number]
  · rw [again, Function.iterate_succ_apply, next]
    exact rest.after

/-- **The loop ends with the first check with which it may end.** -/
theorem exists_endsWith (retries a : Nat) (s : σ) (left : attempts.toNat = a + retries) :
    ∃ k, EndsWith check pause attempts a retries s k := by
  induction retries generalizing a s with
  | zero =>
    cases checked : check s with
    | mk r t =>
      cases r with
      | ok _ => exact ⟨0, .of_passed checked⟩
      | error e => exact ⟨0, .of_last checked left⟩
  | succ retries ih =>
    cases checked : check s with
    | mk r t =>
      cases r with
      | ok _ => exact ⟨0, .of_passed checked⟩
      | error e =>
        have more : a < attempts.toNat := by omega
        cases fired : (pause t).1 with
        | true => exact ⟨0, .of_stopped checked more fired⟩
        | false =>
          obtain ⟨k, rest⟩ := ih (a + 1) (round check pause s) (by omega)
          exact ⟨k + 1, .of_more checked more fired rest⟩

end Health

namespace Session

variable {ω : Type}

/-! ## Health checks of a session -/

/-- A pause between two health checks, and whether the stop signal has fired by its end. -/
def pauseBetween (h : Host ω) (s : Session ω) : Session ω → Bool × Session ω := fun t =>
  let interval := s.config.timings.healthInterval
  ((t.pause h interval).1 ≠ .elapsed, (t.pause h interval).2)

/-- The session before health check number `n`, counted from 1, if checks and pauses took turns
without end. -/
def beforeCheck (h : Host ω) (s : Session ω) (n : Nat) : Session ω :=
  (Health.round (perform h .checkHealth) (s.pauseBetween h))^[n - 1] s

/-- Health check number `n` may be the last: it passed, or it is the last attempt, of which there is
at least one, or the stop signal has fired by the end of the pause that follows it. -/
def MayBeLast (h : Host ω) (s : Session ω) (n : Nat) : Prop :=
  (perform h .checkHealth (s.beforeCheck h n)).1 = .ok () ∨
    n = max s.config.timings.healthAttempts 1 ∨ (s.beforeCheck h (n + 1)).stop.isFired = true

/-- The attempts that the configuration asks for, but at least one, as a machine word. -/
def attempts (s : Session ω) : UInt32 := max (.ofNat s.config.timings.healthAttempts) 1

/-- Where the loop of health checks that counts its attempts in a machine word stands after some
turns. -/
def countedChecks (h : Host ω) (s : Session ω) (turns : Nat) :
    Health.Stand (Session ω) ProviderError :=
  (Health.turn (perform h .checkHealth) (s.pauseBetween h) s.attempts)^[turns] (.checking 1 s)

/-- From `s` to `t` there were so many health checks and nothing else. -/
def ChecksHealth (n : Nat) (s t : Session ω) : Prop :=
  ∃ es, Grows s t [] es ∧ es.length = n ∧ ∀ e ∈ es, ∃ d f, e = .call .checkHealth d f

section

variable {h : Host ω} {s t u : Session ω} {n m : Nat}

theorem ChecksHealth.refl (s : Session ω) : ChecksHealth 0 s s :=
  ⟨[], .refl s, rfl, fun _ mem => nomatch mem⟩

theorem ChecksHealth.trans (first : ChecksHealth n s t) (later : ChecksHealth m t u) :
    ChecksHealth (n + m) s u := by
  obtain ⟨es, grows, length, checks⟩ := first
  obtain ⟨es', grows', length', checks'⟩ := later
  refine ⟨es ++ es', grows.trans grows', ?_, fun e mem => ?_⟩
  · rw [List.length_append, length, length']
  · exact (List.mem_append.1 mem).elim (checks e) (checks' e)

theorem checksHealth_perform (h : Host ω) (s : Session ω) :
    ChecksHealth 1 s (perform h .checkHealth s).2 :=
  ⟨_, grows_perform h .checkHealth s, rfl, List.forall_mem_singleton.2 ⟨_, _, rfl⟩⟩

theorem checksHealth_pause (h : Host ω) (seconds : Nat) (s : Session ω) :
    ChecksHealth 0 s (s.pause h seconds).2 :=
  ⟨[], grows_pause h seconds s, rfl, fun _ mem => nomatch mem⟩

theorem beforeCheck_next (h : Host ω) (s : Session ω) (k : Nat) :
    s.beforeCheck h (k + 2) = ((perform h .checkHealth (s.beforeCheck h (k + 1))).2.pause h
      s.config.timings.healthInterval).2 :=
  Function.iterate_succ_apply' _ k s

/-- Each turn makes one check. -/
theorem checksHealth_beforeCheck (h : Host ω) (s : Session ω) (k : Nat) :
    ChecksHealth k s (s.beforeCheck h (k + 1)) := by
  induction k with
  | zero => exact .refl s
  | succ k ih =>
    rw [beforeCheck_next]
    exact (ih.trans (checksHealth_perform h _)).trans (checksHealth_pause h _ _)

/-- The pause ends early, or at once, if the stop signal has fired by its end. -/
theorem stopped_pause_iff (h : Host ω) (seconds : Nat) (s : Session ω) :
    (s.pause h seconds).1 ≠ .elapsed ↔ (s.pause h seconds).2.stop.isFired = true := by
  have ended : (s.pause h seconds).1 = (s.pause h seconds).2.stop.pauseEnd := rfl
  rw [ended, Ne, pauseEnd_eq_elapsed, StopSignal.isFired, Option.isSome_iff_ne_none]

theorem mayEnd_iff (h : Host ω) (s : Session ω) (k : Nat) :
    Health.MayEnd (perform h .checkHealth) (s.pauseBetween h)
      (s.config.timings.healthAttempts - 1) s k ↔ s.MayBeLast h (k + 1) := by
  have last : k = s.config.timings.healthAttempts - 1 ↔
      k + 1 = max s.config.timings.healthAttempts 1 := by omega
  have stopped : (s.pauseBetween h (perform h .checkHealth (s.beforeCheck h (k + 1))).2).1 = true ↔
      (s.beforeCheck h (k + 2)).stop.isFired = true := by
    rw [beforeCheck_next, ← stopped_pause_iff, pauseBetween, decide_eq_true_iff]
  exact or_congr Iff.rfl (or_congr last stopped)

theorem toNat_attempts (small : s.config.timings.healthAttempts < UInt32.size) :
    s.attempts.toNat = 1 + (s.config.timings.healthAttempts - 1) := by
  have number : (UInt32.ofNat s.config.timings.healthAttempts).toNat =
      s.config.timings.healthAttempts := UInt32.toNat_ofNat_of_lt' small
  have one : (1 : UInt32).toNat = 1 := rfl
  show (if UInt32.ofNat s.config.timings.healthAttempts ≤ 1 then 1
    else UInt32.ofNat s.config.timings.healthAttempts).toNat = _
  split
  · next few =>
    rw [UInt32.le_iff_toNat_le, number, one] at few
    omega
  · next more =>
    rw [UInt32.le_iff_toNat_le, number, one] at more
    omega

/-- **The wait for health ends with the first check that may be the last.** It gives what that check
gave, and counting the attempts in a machine word never overflows. -/
theorem awaitHealth_checks (h : Host ω) (s : Session ω)
    (small : s.config.timings.healthAttempts < UInt32.size) :
    ∃ n, IsLeast {n | 1 ≤ n ∧ s.MayBeLast h n} n ∧
      (awaitHealth h s).1 = (perform h .checkHealth (s.beforeCheck h n)).1 ∧
      ChecksHealth n s (awaitHealth h s).2 ∧
      (∀ k < n, s.countedChecks h k = .checking (.ofNat (k + 1)) (s.beforeCheck h (k + 1))) ∧
      s.countedChecks h n = .ended (awaitHealth h s).1 (awaitHealth h s).2 := by
  obtain ⟨k, ends⟩ : ∃ k, Health.EndsWith (perform h .checkHealth) (s.pauseBetween h) s.attempts 1
      (s.config.timings.healthAttempts - 1) s k :=
    Health.exists_endsWith _ 1 s (toNat_attempts small)
  refine ⟨k + 1, ⟨⟨Nat.le_add_left 1 k, (mayEnd_iff h s k).1 ends.least.1⟩, ?_⟩, ends.result, ?_,
    fun j low => ?_, ends.after⟩
  · rintro n ⟨positive, last⟩
    obtain ⟨j, rfl⟩ : ∃ j, n = j + 1 := ⟨n - 1, by omega⟩
    exact Nat.succ_le_succ (ends.least.2 ((mayEnd_iff h s j).2 last))
  · have checked := (checksHealth_beforeCheck h s k).trans (checksHealth_perform h _)
    rcases ends.state with after | after
    · exact after ▸ checked
    · have paused := checksHealth_beforeCheck h s (k + 1)
      exact after ▸ paused
  · have stands := ends.before j (Nat.le_of_lt_succ low)
    rw [Nat.add_comm 1 j] at stands
    exact stands

end

/-- The cluster is never well, and a termination signal arrives during the second check. -/
def ailingHost : Host Nat where
  provider :=
    { name := "ailing"
      perform := fun _ n =>
        (⟨.error (.unhealthy "not ready"), if n = 1 then [.signal] else []⟩, n + 1)
      handle? := fun _ _ => none
      hasGpu := fun _ => false }
  load _ := .ok none
  save _ n := (.ok (), n)
  writeResult _ _ n := (.ok (), n)
  pause _ n := ([], n)
  now _ := "noon"

/-- A session that would check as often as a machine word can count. -/
def patientSession : Session Nat where
  config :=
    { version := 1, name := "demo", region := "r", timings := { healthAttempts := 4294967295 } }
  writable := true
  registry := .materialize { version := 1, name := "demo", region := "r" } (.new "demo" "noon")
    fun _ => none
  document := .new "demo" "noon"
  stop := {}
  world := 0

theorem awaitHealth_checks_patientSession :
    patientSession.config.timings.healthAttempts < UInt32.size ∧
      ChecksHealth 2 patientSession (awaitHealth ailingHost patientSession).2 ∧
      patientSession.countedChecks ailingHost 2 =
        .ended (.error (.unhealthy "not ready")) (awaitHealth ailingHost patientSession).2 := by
  have small : patientSession.config.timings.healthAttempts < UInt32.size := by decide
  have second : IsLeast {n | 1 ≤ n ∧ patientSession.MayBeLast ailingHost n} 2 := by
    refine ⟨⟨by decide, .inr (.inr rfl)⟩, ?_⟩
    rintro n ⟨positive, last⟩
    by_contra early
    obtain rfl : n = 1 := by omega
    rcases last with passed | last | fired
    · cases passed
    · cases last
    · cases fired
  obtain ⟨n, least, result, checks, -, counted⟩ :=
    awaitHealth_checks ailingHost patientSession small
  obtain rfl : n = 2 := least.unique second
  refine ⟨small, checks, ?_⟩
  rw [counted, result]
  rfl

end Session

end Testbed
