/-!
# Waiting for health

A check is repeated until it passes, the attempts are used up, or the stop signal has fired by
the end of a pause between two checks.
-/

namespace Testbed.Health

variable {σ ε : Type}

/-- Check, and check again up to `retries` times. `pause` waits between two checks and says
whether the stop signal has fired by its end. The last failure is the result if no check
passes. -/
def poll (check : σ → Except ε Unit × σ) (pause : σ → Bool × σ) : Nat → σ → Except ε Unit × σ
  | retries, s =>
    match check s with
    | (.ok (), s) => (.ok (), s)
    | (.error e, s) =>
      match retries with
      | 0 => (.error e, s)
      | retries + 1 =>
        match pause s with
        | (true, s) => (.error e, s)
        | (false, s) => poll check pause retries s

/-- Check up to `attempts` times, but at least once. -/
def wait (check : σ → Except ε Unit × σ) (pause : σ → Bool × σ) (attempts : Nat) (s : σ) :
    Except ε Unit × σ :=
  poll check pause (attempts - 1) s

end Testbed.Health
