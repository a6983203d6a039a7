import Mathlib.Data.List.Basic

/-!
# Sequential transducers

A `step : σ → α → σ × List β` reads one symbol in a state and writes a list of symbols; `run`
feeds it a whole input, concatenating what each step writes. A byte loop that keeps a few
variables across iterations and writes to a buffer is such a machine.

Three rules about whole runs, each from a fact about one step:

* `run_invariant_output`: a relation between the state and the output written so far that
  every step keeps holds after the whole run;
* `run_filter`: when every step writes what it reads up to the symbols a filter drops, so does
  the run;
* `run_run`: when, from every reachable state, reading back what one step wrote gives the
  same output and the same state, reading back a whole run's output gives it again. A
  transducer of that kind is idempotent.
-/

namespace Transducer

variable {σ α β : Type*}

/-- Run `step` over an input from state `s`: the final state and everything written. -/
def run (step : σ → α → σ × List β) : σ → List α → σ × List β
  | s, [] => (s, [])
  | s, a :: as =>
    let (s₁, out₁) := step s a
    let (s₂, out₂) := run step s₁ as
    (s₂, out₁ ++ out₂)

variable {step : σ → α → σ × List β}

@[simp] lemma run_nil (s : σ) : run step s [] = (s, []) := rfl

@[simp] lemma run_cons (s : σ) (a : α) (as : List α) :
    run step s (a :: as) =
      ((run step (step s a).1 as).1, (step s a).2 ++ (run step (step s a).1 as).2) := rfl

/-- A run over two inputs in turn is the second run from where the first one stopped. -/
lemma run_append (s : σ) (xs ys : List α) :
    run step s (xs ++ ys) =
      ((run step (run step s xs).1 ys).1, (run step s xs).2 ++ (run step (run step s xs).1 ys).2) := by
  induction xs generalizing s with
  | nil => rfl
  | cons a xs ih => simp [ih]

/-- A relation between the state and the output written so far, kept by every step, holds at
the end of every run. -/
theorem run_invariant_output (Q : σ → List β → Prop)
    (hstep : ∀ s out a, Q s out → Q (step s a).1 (out ++ (step s a).2))
    {s : σ} {out : List β} (hs : Q s out) (xs : List α) :
    Q (run step s xs).1 (out ++ (run step s xs).2) := by
  induction xs generalizing s out with
  | nil => simpa using hs
  | cons a xs ih =>
    have hnext := ih (hstep s out a hs)
    simpa [List.append_assoc] using hnext

/-- A run writes its input up to the symbols that `p` drops, when each step does. -/
theorem run_filter {step : σ → α → σ × List α} (p : α → Bool)
    (hstep : ∀ s a, (step s a).2.filter p = [a].filter p) (s : σ) (xs : List α) :
    (run step s xs).2.filter p = xs.filter p := by
  induction xs generalizing s with
  | nil => rfl
  | cons a xs ih =>
    rw [run_cons, List.filter_append, hstep, ih, ← List.filter_append]
    rfl

/-- Reading back the output of a run from the state it started in gives the same output and
the same final state, when it holds for the output of each step from every state of an
invariant. -/
theorem run_run {step : σ → α → σ × List α} (P : σ → Prop)
    (hP : ∀ s a, P s → P (step s a).1)
    (hstep : ∀ s a, P s → run step s (step s a).2 = step s a)
    {s : σ} (hs : P s) (xs : List α) :
    run step s (run step s xs).2 = run step s xs := by
  induction xs generalizing s with
  | nil => rfl
  | cons a xs ih =>
    rw [run_cons, run_append, hstep s a hs, ih (hP s a hs)]

end Transducer
