import Mathlib.Data.List.Basic

/-!
# A rate-limited work queue, as its clients see it

client-go's `workqueue.RateLimitingInterface` is a library the program calls, not part of it:
here it is a parameter, the calls `Add`, `Get`, `Done` and `AddRateLimited` on a state `Q` that
the queue keeps, and `ready`, the queue's own step that adds an item once its rate-limit delay
has ended. What a client may rely on is the queue's documented behaviour (`WorkQueue.Contract`),
stated over the items the queue will hand out: `Add` marks an item as needing processing,
`AddRateLimited` adds it once its delay ends, `Get` hands out one item and keeps the others,
`Done` keeps them all (an item added again while it was processed is queued again), and so does
the end of a delay. Shutting the queue down is not modelled.

A list that every call appends an item to at most once meets the contract (`fifo_contract`).
-/

/-- The calls on a rate-limited work queue over the state `Q` it keeps; `get` is `none` where
`Get` would block. -/
structure WorkQueue (Q α : Type) where
  empty : Q
  add : Q → α → Q
  get : Q → Option (α × Q)
  done : Q → α → Q
  addRateLimited : Q → α → Q
  ready : Q → α → Q

namespace WorkQueue

variable {Q α : Type}

/-- The documented behaviour of the queue, over the items it will hand out (`willHandOut`). -/
structure Contract (wq : WorkQueue Q α) (willHandOut : Q → α → Prop) : Prop where
  /-- `Add` marks the item as needing processing and keeps every other. -/
  add : ∀ q x y, y = x ∨ willHandOut q y → willHandOut (wq.add q x) y
  /-- `Get` hands out one item and keeps every other. -/
  get : ∀ q q' x y, wq.get q = some (x, q') → willHandOut q y → y ≠ x → willHandOut q' y
  /-- `Done` keeps every item: one added while it was processed is queued again. -/
  done : ∀ q x y, willHandOut q y → willHandOut (wq.done q x) y
  /-- `AddRateLimited` adds the item once its delay ends, and keeps every other. -/
  addRateLimited : ∀ q x y, y = x ∨ willHandOut q y → willHandOut (wq.addRateLimited q x) y
  /-- The end of a delay keeps every item. -/
  ready : ∀ q x y, willHandOut q y → willHandOut (wq.ready q x) y

/-! ### A queue that meets the contract -/

section Fifo

variable [DecidableEq α]

/-- The list with the item appended, unless it is in it already. -/
def pushNew (q : List α) (x : α) : List α := if x ∈ q then q else q ++ [x]

lemma mem_pushNew {q : List α} {x y : α} : y ∈ pushNew q x ↔ y = x ∨ y ∈ q := by
  unfold pushNew
  split_ifs with hx
  · exact ⟨Or.inr, fun h => h.elim (fun hyx => hyx ▸ hx) id⟩
  · rw [List.mem_append, List.mem_singleton, or_comm]

/-- A queue that keeps its items in a list: `Add` and `AddRateLimited` append an item not
queued yet, `Done` and the end of a delay do nothing. -/
def fifo : WorkQueue (List α) α where
  empty := []
  add := pushNew
  get q := match q with
    | [] => none
    | x :: rest => some (x, rest)
  done q _ := q
  addRateLimited := pushNew
  ready q _ := q

lemma fifo_contract : (fifo : WorkQueue (List α) α).Contract fun q x => x ∈ q where
  add _ _ _ h := mem_pushNew.mpr h
  get q q' x y hget hy hne := by
    match q, hget with
    | x' :: rest, hget =>
      obtain ⟨rfl, rfl⟩ := Prod.mk.inj (Option.some.inj hget)
      exact (List.mem_cons.mp hy).resolve_left hne
  done _ _ _ h := h
  addRateLimited _ _ _ h := mem_pushNew.mpr h
  ready _ _ _ h := h

end Fifo

end WorkQueue
