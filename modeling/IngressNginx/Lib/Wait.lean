import Mathlib.Logic.Basic

/-!
# Retrying with backoff

`wait.ExponentialBackoff` of `k8s.io/apimachinery` is a library the program calls, not part of
it: it tries a condition up to `Steps` times, sleeping longer between the tries. Here it is a
parameter (`ExponentialBackoff`), over a condition that answers whether it is done and an error
and runs on an explicit state, the sleeps changing nothing but the time. What a caller may rely
on is its documented behaviour (`StopsAtFirst`): a try that returns an error ends the loop with
that error, and a try that is done ends it with `nil`.

Where every answer of the condition is done or an error, the loop is its first try
(`StopsAtFirst.of_decisive`). A backoff that tries the condition once meets the contract
(`tryOnce_stopsAtFirst`). Nothing here mentions the program being modelled.
-/

namespace Wait

/-- The error `wait.ExponentialBackoff` returns: the condition's own, or `ErrWaitTimeout`. -/
inductive Failure (ε : Type) where
  | condition (e : ε)
  | timeout
deriving DecidableEq, Repr

/-- `wait.ExponentialBackoff` with `Steps` tries of a condition, which answers `(done, err)`
and updates the state: the error returned, and the state left. -/
abbrev ExponentialBackoff (σ ε : Type) :=
  Nat → (σ → (Bool × Option ε) × σ) → σ → Except (Failure ε) Unit × σ

/-- What the loop returns after a decisive answer: the condition's error, or success. -/
def settle {ε : Type} : Option ε → Except (Failure ε) Unit
  | some e => .error (.condition e)
  | none => .ok ()

variable {σ ε : Type}

/-- The documented behaviour of `wait.ExponentialBackoff` given at least one step. -/
structure StopsAtFirst (backoff : ExponentialBackoff σ ε) : Prop where
  /-- A try that returns an error ends the loop with it. -/
  error : ∀ steps condition s done e s', condition s = ((done, some e), s') →
    backoff (steps + 1) condition s = (.error (.condition e), s')
  /-- A try that is done ends the loop with `nil`. -/
  done : ∀ steps condition s s', condition s = ((true, none), s') →
    backoff (steps + 1) condition s = (.ok (), s')

/-- A condition that never answers "not done" without an error is tried once: the loop
returns what its first answer settles, in the state that answer left. -/
lemma StopsAtFirst.of_decisive {backoff : ExponentialBackoff σ ε} (h : StopsAtFirst backoff)
    {condition : σ → (Bool × Option ε) × σ}
    (hdecisive : ∀ s, (condition s).1 ≠ (false, none))
    (steps : Nat) (s : σ) :
    backoff (steps + 1) condition s = (settle (condition s).1.2, (condition s).2) := by
  have hs := hdecisive s
  rcases hc : condition s with ⟨⟨done, err⟩, s'⟩
  rw [hc] at hs
  cases err with
  | some e => exact h.error steps condition s done e s' hc
  | none =>
    cases done with
    | false => exact absurd rfl hs
    | true => exact h.done steps condition s s' hc

/-! ### A backoff that meets the contract -/

/-- A backoff that tries the condition once whatever `Steps` says, and gives `ErrWaitTimeout`
when it is not done. -/
def tryOnce : ExponentialBackoff σ ε
  | 0, _, s => (.error .timeout, s)
  | _ + 1, condition, s =>
    match condition s with
    | ((_, some e), s') => (.error (.condition e), s')
    | ((true, none), s') => (.ok (), s')
    | ((false, none), s') => (.error .timeout, s')

lemma tryOnce_stopsAtFirst : StopsAtFirst (tryOnce : ExponentialBackoff σ ε) where
  error steps condition s done e s' hc := by
    rw [tryOnce, hc]
  done steps condition s s' hc := by
    rw [tryOnce, hc]

end Wait
