import Mathlib.Data.List.Induction
import IngressNginx.Lib.WorkQueue

/-!
# The task queue (`task.Queue`)

The controller's changes reach `syncIngress` through a `Queue` (`internal/task/queue.go`): the
event handlers `EnqueueTask` or `EnqueueSkippableTask` the key of an object, and one worker
goroutine takes the elements out of client-go's rate-limited work queue one at a time. An
element carries the time of its enqueue, or that time and a day for one that may not be
skipped; the worker reads the clock after `Get`, skips an element older than the start of the
last successful sync, and otherwise syncs it, adding the key again with the time of the
failure when `sync` fails.

The model is the queue with its worker and a clock that only advances (`Queue.step`); a
worker turn is cut at `sync`, so that enqueues and ticks of the clock fall anywhere in it,
and `sync` succeeds or fails as the event says. The work queue is a parameter that keeps its
documented contract (`WorkQueue.Contract`). Over any run, the worker skips an element only for
a successful sync that started after it was enqueued, and the update of every enqueue event is
covered by a successful sync that started at or after it, or is still to be synced
(`skips_never_lose_updates`). Both are stated over the events of the run.
-/

namespace IngressNginx

namespace Task

/-- `Element`: one item of the queue. -/
structure Element (K : Type) where
  key : K
  timestamp : Nat
  isSkippable : Bool
deriving DecidableEq

/-- A day of `time.Now().UnixNano()`. -/
def day : Nat := 24 * 60 * 60 * 1000000000

/-- The task queue with its worker and the clock: the work queue, `lastSync`, the element the
worker is syncing with the time it read after its `Get`, and the time now. -/
structure Queue (Q K : Type) where
  queue : Q
  lastSync : Nat
  syncing : Option (Element K × Nat)
  clock : Nat

/-- What happens next: an enqueue, a step of the worker, the end of the delay of an element
waiting to be retried, or the clock advancing. -/
inductive Event (Obj K : Type) where
  | enqueueTask (obj : Obj)
  | enqueueSkippableTask (obj : Obj)
  | get
  | synced (ok : Bool)
  | ready (item : Element K)
  | tick (d : Nat)

/-- `EnqueueSkippableTask` of `obj` when `skippable`, `EnqueueTask` otherwise. -/
def Event.enqueue {Obj K : Type} (obj : Obj) (skippable : Bool) : Event Obj K :=
  if skippable then .enqueueSkippableTask obj else .enqueueTask obj

namespace Queue

variable {Q Obj K : Type} (wq : WorkQueue Q (Element K)) (fn : Obj → Except String K)

/-- `NewTaskQueue`, at time zero. -/
def init : Queue Q K := ⟨wq.empty, 0, none, 0⟩

/-- `enqueue`: the key of the object is queued with the time of the call, or a day later for
an element that may not be skipped; an object without a key is dropped. -/
def enqueue (t : Queue Q K) (obj : Obj) (skippable : Bool) : Queue Q K :=
  let ts := if skippable then t.clock else t.clock + day
  match fn obj with
  | .error _ => t
  | .ok key => { t with queue := wq.add t.queue ⟨key, ts, false⟩ }

/-- `EnqueueTask`. -/
def enqueueTask (t : Queue Q K) (obj : Obj) : Queue Q K := t.enqueue wq fn obj false

/-- `EnqueueSkippableTask`. -/
def enqueueSkippableTask (t : Queue Q K) (obj : Obj) : Queue Q K := t.enqueue wq fn obj true

/-- A turn of `worker` up to `sync`: `Get` the first element and read the clock; an element
older than `lastSync` is skipped (`Forget`, `Done`), another is synced. The worker is one
goroutine, so it gets nothing while it syncs, and `Get` blocks on an empty queue. -/
def workerGet (t : Queue Q K) : Queue Q K :=
  match t.syncing with
  | some _ => t
  | none =>
    match wq.get t.queue with
    | none => t
    | some (item, q) =>
      let ts := t.clock
      if t.lastSync > item.timestamp then { t with queue := wq.done q item }
      else { t with queue := q, syncing := some (item, ts) }

/-- The rest of the turn once `sync` returns: after an error the key is added again, rate
limited, with the time of the error; after a success `lastSync` is the time read after `Get`.
Then `Done`. -/
def workerSynced (t : Queue Q K) (ok : Bool) : Queue Q K :=
  match t.syncing with
  | none => t
  | some (item, ts) =>
    if ok then { t with queue := wq.done t.queue item, lastSync := ts, syncing := none }
    else
      { t with queue := wq.done (wq.addRateLimited t.queue ⟨item.key, t.clock, false⟩) item,
               syncing := none }

/-- One event. -/
def step (t : Queue Q K) : Event Obj K → Queue Q K
  | .enqueueTask obj => t.enqueueTask wq fn obj
  | .enqueueSkippableTask obj => t.enqueueSkippableTask wq fn obj
  | .get => t.workerGet wq
  | .synced ok => t.workerSynced wq ok
  | .ready item => { t with queue := wq.ready t.queue item }
  | .tick d => { t with clock := t.clock + d }

/-- A run of events, in order. -/
def run (t : Queue Q K) (events : List (Event Obj K)) : Queue Q K :=
  events.foldl (step wq fn) t

/-! ### What happened along a run -/

/-- The state before the `i`-th event of a run from `init`. -/
def before (events : List (Event Obj K)) (i : Nat) : Queue Q K :=
  (init wq).run wq fn (events.take i)

/-- The `k`-th event of the run ends a successful `sync` that started at `ts`. -/
def SucceedsAt (events : List (Event Obj K)) (k ts : Nat) : Prop :=
  events[k]? = some (.synced true) ∧ ∃ item, (before wq fn events k).syncing = some (item, ts)

/-- A successful `sync` of the run started at or after `time`. -/
def Covered (events : List (Event Obj K)) (time : Nat) : Prop :=
  ∃ k ts, SucceedsAt wq fn events k ts ∧ time ≤ ts

/-- The `j`-th event of the run is a `Get` after which the worker skips `item`. -/
def SkipsAt (events : List (Event Obj K)) (j : Nat) (item : Element K) : Prop :=
  events[j]? = some .get ∧ (before wq fn events j).syncing = none ∧
    (∃ q, wq.get (before wq fn events j).queue = some (item, q)) ∧
    item.timestamp < (before wq fn events j).lastSync

/-- An update of `key` made at `time` is still to be synced: the worker syncs the key since
`time` or later, or the queue will hand out an element of the key stamped `time` or later. -/
def Pending (willHandOut : Q → Element K → Prop) (t : Queue Q K) (key : K) (time : Nat) : Prop :=
  (∃ item ts, t.syncing = some (item, ts) ∧ item.key = key ∧ time ≤ ts) ∨
    ∃ item : Element K, item.key = key ∧ time ≤ item.timestamp ∧ willHandOut t.queue item

/-- The times the queue holds are not in the future. -/
def Clocked (t : Queue Q K) : Prop :=
  t.lastSync ≤ t.clock ∧ ∀ item ts, t.syncing = some (item, ts) → ts ≤ t.clock

/-! ### What each step can do -/

section Cases

variable (t : Queue Q K)

lemma enqueue_cases (obj : Obj) (skippable : Bool) :
    (∃ err, fn obj = .error err ∧ t.enqueue wq fn obj skippable = t) ∨
      ∃ key, fn obj = .ok key ∧
        t.enqueue wq fn obj skippable =
          { t with
            queue :=
              wq.add t.queue ⟨key, if skippable then t.clock else t.clock + day, false⟩ } := by
  unfold enqueue
  cases fn obj with
  | error err => exact .inl ⟨err, rfl, rfl⟩
  | ok key => exact .inr ⟨key, rfl, rfl⟩

@[simp] lemma step_enqueue (obj : Obj) (skippable : Bool) :
    t.step wq fn (.enqueue obj skippable) = t.enqueue wq fn obj skippable := by
  cases skippable <;> rfl

lemma workerGet_cases :
    t.workerGet wq = t ∨
      ∃ item q, t.syncing = none ∧ wq.get t.queue = some (item, q) ∧
        (item.timestamp < t.lastSync ∧ t.workerGet wq = { t with queue := wq.done q item } ∨
          t.lastSync ≤ item.timestamp ∧
            t.workerGet wq = { t with queue := q, syncing := some (item, t.clock) }) := by
  unfold workerGet
  cases hs : t.syncing with
  | some _ => exact .inl rfl
  | none =>
    cases hg : wq.get t.queue with
    | none => exact .inl rfl
    | some r =>
      obtain ⟨item, q⟩ := r
      refine .inr ⟨item, q, rfl, rfl, ?_⟩
      by_cases hlt : item.timestamp < t.lastSync
      · exact .inl ⟨hlt, if_pos hlt⟩
      · exact .inr ⟨Nat.le_of_not_lt hlt, if_neg hlt⟩

lemma workerSynced_cases (ok : Bool) :
    t.workerSynced wq ok = t ∨
      ∃ item ts, t.syncing = some (item, ts) ∧
        (ok = true ∧
            t.workerSynced wq ok =
              { t with queue := wq.done t.queue item, lastSync := ts, syncing := none } ∨
          ok = false ∧
            t.workerSynced wq ok =
              { t with queue := wq.done (wq.addRateLimited t.queue ⟨item.key, t.clock, false⟩) item,
                       syncing := none }) := by
  unfold workerSynced
  cases hs : t.syncing with
  | none => exact .inl rfl
  | some r =>
    obtain ⟨item, ts⟩ := r
    refine .inr ⟨item, ts, rfl, ?_⟩
    cases ok with
    | true => exact .inl ⟨rfl, rfl⟩
    | false => exact .inr ⟨rfl, rfl⟩

/-- Only a successful `sync` moves `lastSync`, to the time its worker turn started. -/
lemma lastSync_step (ev : Event Obj K) :
    (t.step wq fn ev).lastSync = t.lastSync ∨
      ev = .synced true ∧ ∃ item, t.syncing = some (item, (t.step wq fn ev).lastSync) := by
  cases ev with
  | enqueueTask obj =>
    rcases enqueue_cases wq fn t obj false with ⟨-, -, h⟩ | ⟨key, -, h⟩ <;>
      exact .inl (by simp [step, enqueueTask, h])
  | enqueueSkippableTask obj =>
    rcases enqueue_cases wq fn t obj true with ⟨-, -, h⟩ | ⟨key, -, h⟩ <;>
      exact .inl (by simp [step, enqueueSkippableTask, h])
  | get =>
    rcases workerGet_cases wq t with h | ⟨item, q, -, -, ⟨-, h⟩ | ⟨-, h⟩⟩ <;>
      exact .inl (by simp [step, h])
  | synced ok =>
    rcases workerSynced_cases wq t ok with h | ⟨item, ts, hs, ⟨rfl, h⟩ | ⟨-, h⟩⟩
    · exact .inl (by simp [step, h])
    · exact .inr ⟨rfl, item, by simp [step, h, hs]⟩
    · exact .inl (by simp [step, h])
  | ready item => exact .inl rfl
  | tick d => exact .inl rfl

/-- No event moves the clock back. -/
lemma clock_le_step (ev : Event Obj K) : t.clock ≤ (t.step wq fn ev).clock := by
  cases ev with
  | enqueueTask obj =>
    rcases enqueue_cases wq fn t obj false with ⟨-, -, h⟩ | ⟨key, -, h⟩ <;>
      simp [step, enqueueTask, h]
  | enqueueSkippableTask obj =>
    rcases enqueue_cases wq fn t obj true with ⟨-, -, h⟩ | ⟨key, -, h⟩ <;>
      simp [step, enqueueSkippableTask, h]
  | get =>
    rcases workerGet_cases wq t with h | ⟨item, q, -, -, ⟨-, h⟩ | ⟨-, h⟩⟩ <;> simp [step, h]
  | synced ok =>
    rcases workerSynced_cases wq t ok with h | ⟨item, ts, -, ⟨-, h⟩ | ⟨-, h⟩⟩ <;> simp [step, h]
  | ready item => exact Nat.le_refl _
  | tick d => exact Nat.le_add_right _ _

/-- Every event keeps the times the queue holds in the past. -/
lemma Clocked.step {t : Queue Q K} (hc : t.Clocked) (ev : Event Obj K) :
    (t.step wq fn ev).Clocked := by
  cases ev with
  | enqueueTask obj =>
    show (t.enqueue wq fn obj false).Clocked
    rcases enqueue_cases wq fn t obj false with ⟨-, -, h⟩ | ⟨key, -, h⟩ <;> rw [h] <;> exact hc
  | enqueueSkippableTask obj =>
    show (t.enqueue wq fn obj true).Clocked
    rcases enqueue_cases wq fn t obj true with ⟨-, -, h⟩ | ⟨key, -, h⟩ <;> rw [h] <;> exact hc
  | get =>
    show (t.workerGet wq).Clocked
    rcases workerGet_cases wq t with h | ⟨item, q, -, -, ⟨-, h⟩ | ⟨-, h⟩⟩ <;> rw [h]
    · exact hc
    · exact hc
    · -- the worker starts a sync now
      refine ⟨hc.1, fun _ _ hs => ?_⟩
      cases hs
      exact Nat.le_refl _
  | synced ok =>
    show (t.workerSynced wq ok).Clocked
    rcases workerSynced_cases wq t ok with h | ⟨item, ts, hs, ⟨-, h⟩ | ⟨-, h⟩⟩ <;> rw [h]
    · exact hc
    · exact ⟨hc.2 item ts hs, fun _ _ h => by cases h⟩
    · exact ⟨hc.1, fun _ _ h => by cases h⟩
  | ready item => exact hc
  | tick d =>
    exact ⟨Nat.le_trans hc.1 (Nat.le_add_right _ _),
      fun item ts hs => Nat.le_trans (hc.2 item ts hs) (Nat.le_add_right _ _)⟩

end Cases

/-! ### Runs and their prefixes -/

section Runs

variable {wq fn}

@[simp] lemma run_nil (t : Queue Q K) : t.run wq fn [] = t := rfl

lemma run_append (t : Queue Q K) (events rest : List (Event Obj K)) :
    t.run wq fn (events ++ rest) = (t.run wq fn events).run wq fn rest :=
  List.foldl_append

lemma run_append_singleton (t : Queue Q K) (events : List (Event Obj K)) (ev : Event Obj K) :
    t.run wq fn (events ++ [ev]) = (t.run wq fn events).step wq fn ev := by
  rw [run_append]
  rfl

/-- No run moves the clock back. -/
lemma clock_le_run : ∀ (t : Queue Q K) (events : List (Event Obj K)),
    t.clock ≤ (t.run wq fn events).clock
  | _, [] => Nat.le_refl _
  | t, ev :: events => Nat.le_trans (clock_le_step wq fn t ev) (clock_le_run _ events)

lemma clocked_run : ∀ (events : List (Event Obj K)) (t : Queue Q K), t.Clocked →
    (t.run wq fn events).Clocked
  | [], _, h => h
  | ev :: events, _, h => clocked_run events _ (h.step wq fn ev)

lemma before_length (events : List (Event Obj K)) :
    before wq fn events events.length = (init wq).run wq fn events := by
  rw [before, List.take_length]

/-- Appending events changes nothing before them. -/
lemma before_append {events : List (Event Obj K)} (rest : List (Event Obj K)) {i : Nat}
    (hi : i ≤ events.length) : before wq fn (events ++ rest) i = before wq fn events i := by
  rw [before, before, List.take_append_of_le_length hi]

lemma clock_before_le (events : List (Event Obj K)) (i : Nat) :
    (before wq fn events i).clock ≤ ((init wq).run wq fn events).clock := by
  conv_rhs => rw [← List.take_append_drop i events, run_append]
  exact clock_le_run _ _

lemma SucceedsAt.lt_length {events : List (Event Obj K)} {k ts : Nat}
    (h : SucceedsAt wq fn events k ts) : k < events.length :=
  (List.getElem?_eq_some_iff.mp h.1).1

/-- A successful sync of a run is one of every longer run. -/
lemma SucceedsAt.append {events : List (Event Obj K)} {k ts : Nat}
    (h : SucceedsAt wq fn events k ts) (rest : List (Event Obj K)) :
    SucceedsAt wq fn (events ++ rest) k ts := by
  obtain ⟨hev, item, hs⟩ := h
  have hk : k < events.length := (List.getElem?_eq_some_iff.mp hev).1
  refine ⟨by rw [List.getElem?_append_left hk, hev], item, ?_⟩
  rw [before_append rest (Nat.le_of_lt hk), hs]

lemma Covered.append {events : List (Event Obj K)} {time : Nat} (h : Covered wq fn events time)
    (rest : List (Event Obj K)) : Covered wq fn (events ++ rest) time := by
  obtain ⟨k, ts, hk, hle⟩ := h
  exact ⟨k, ts, hk.append rest, hle⟩

/-- An event appended to a run that ends a sync the worker was running is a successful sync. -/
lemma succeedsAt_length {events : List (Event Obj K)} {item : Element K} {ts : Nat}
    (hs : ((init wq).run wq fn events).syncing = some (item, ts)) :
    SucceedsAt wq fn (events ++ [.synced true]) events.length ts := by
  refine ⟨List.getElem?_concat_length, item, ?_⟩
  rw [before_append _ (Nat.le_refl _), before_length, hs]

lemma getElem?_append_singleton {events : List (Event Obj K)} {ev e : Event Obj K} {i : Nat}
    (h : (events ++ [ev])[i]? = some e) :
    (i < events.length ∧ events[i]? = some e) ∨ (i = events.length ∧ e = ev) := by
  rcases Nat.lt_or_ge i events.length with hi | hi
  · exact .inl ⟨hi, by rwa [List.getElem?_append_left hi] at h⟩
  · rw [List.getElem?_append_right hi] at h
    have hzero : i - events.length = 0 := by
      have := (List.getElem?_eq_some_iff.mp h).1
      simp only [List.length_singleton] at this
      omega
    rw [hzero, List.getElem?_cons_zero, Option.some.injEq] at h
    exact .inr ⟨by omega, h.symm⟩

end Runs

/-! ### Pending updates -/

section Pending

variable {wq fn} {willHandOut : Q → Element K → Prop} (hwq : wq.Contract willHandOut)
  {t : Queue Q K} {key : K} {time : Nat}
include hwq

/-- An enqueue of a key leaves its update pending since the time of the call. -/
lemma pending_enqueue {obj : Obj} {skippable : Bool} (hkey : fn obj = .ok key) :
    Pending willHandOut (t.enqueue wq fn obj skippable) key t.clock := by
  rcases enqueue_cases wq fn t obj skippable with ⟨err, herr, -⟩ | ⟨key', hkey', h⟩
  · rw [hkey] at herr
    cases herr
  · rw [hkey] at hkey'
    cases hkey'
    rw [h]
    refine .inr ⟨_, rfl, ?_, hwq.add _ _ _ (.inl rfl)⟩
    split_ifs <;> simp

/-- `Get` hands out the element an update is pending in, or leaves it pending in the queue. -/
lemma Pending.of_get {item : Element K} {q : Q} (hp : Pending willHandOut t key time)
    (hs : t.syncing = none) (hg : wq.get t.queue = some (item, q)) :
    (item.key = key ∧ time ≤ item.timestamp) ∨
      ∃ item' : Element K, item'.key = key ∧ time ≤ item'.timestamp ∧ willHandOut q item' := by
  rcases hp with ⟨item', ts, hs', -⟩ | ⟨item', hkey, hle, hout⟩
  · rw [hs] at hs'
    cases hs'
  · by_cases hitem : item' = item
    · subst hitem
      exact .inl ⟨hkey, hle⟩
    · exact .inr ⟨item', hkey, hle, hwq.get _ _ _ _ hg hout hitem⟩

omit hwq in
/-- A step that keeps the element being synced and every element the queue will hand out
keeps every pending update. -/
lemma Pending.of_queue {t' : Queue Q K} (hp : Pending willHandOut t key time)
    (hsyncing : t'.syncing = t.syncing)
    (hq : ∀ item, willHandOut t.queue item → willHandOut t'.queue item) :
    Pending willHandOut t' key time := by
  rcases hp with ⟨item, ts, hs, hkey, hle⟩ | ⟨item, hkey, hle, hout⟩
  · exact .inl ⟨item, ts, hsyncing.trans hs, hkey, hle⟩
  · exact .inr ⟨item, hkey, hle, hq item hout⟩

/-- An enqueue keeps every pending update. -/
lemma Pending.enqueue (hp : Pending willHandOut t key time) (obj : Obj) (skippable : Bool) :
    Pending willHandOut (t.enqueue wq fn obj skippable) key time := by
  rcases enqueue_cases wq fn t obj skippable with ⟨-, -, h⟩ | ⟨key', -, h⟩ <;> rw [h]
  · exact hp
  · exact hp.of_queue rfl fun _ hout => hwq.add _ _ _ (.inr hout)

/-- What one event does to an update pending since `time`: it stays pending; or the event
ends the successful sync of it; or `Get` hands it out and skips it for a `lastSync` later than
`time`. -/
lemma Pending.step (hp : Pending willHandOut t key time) (hc : t.Clocked) (htime : time ≤ t.clock)
    (ev : Event Obj K) :
    Pending willHandOut (t.step wq fn ev) key time ∨
      (ev = .synced true ∧ ∃ item ts, t.syncing = some (item, ts) ∧ time ≤ ts) ∨
      (ev = .get ∧ time < t.lastSync) := by
  cases ev with
  | enqueueTask obj => exact .inl (hp.enqueue hwq obj false)
  | enqueueSkippableTask obj => exact .inl (hp.enqueue hwq obj true)
  | get =>
    show Pending willHandOut (t.workerGet wq) key time ∨ _
    rcases workerGet_cases wq t with h | ⟨item, q, hs, hg, ⟨hlt, h⟩ | ⟨-, h⟩⟩ <;> rw [h]
    · exact .inl hp
    · -- a skip: the update goes with the element skipped, or stays in the queue
      rcases hp.of_get hwq hs hg with ⟨-, hle⟩ | ⟨item', hkey, hle, hout⟩
      · exact .inr (.inr ⟨rfl, Nat.lt_of_le_of_lt hle hlt⟩)
      · exact .inl (.inr ⟨item', hkey, hle, hwq.done _ _ _ hout⟩)
    · -- the start of a sync takes the update of the element handed out
      rcases hp.of_get hwq hs hg with ⟨hkey, -⟩ | hout
      · exact .inl (.inl ⟨item, t.clock, rfl, hkey, htime⟩)
      · exact .inl (.inr hout)
  | synced ok =>
    show Pending willHandOut (t.workerSynced wq ok) key time ∨ _
    rcases workerSynced_cases wq t ok with h | ⟨item, ts, hs, ⟨rfl, h⟩ | ⟨rfl, h⟩⟩ <;> rw [h]
    · exact .inl hp
    · rcases hp with ⟨item', ts', hs', -, hle⟩ | ⟨item', hkey, hle, hout⟩
      · rw [hs] at hs'
        cases hs'
        exact .inr (.inl ⟨rfl, item, ts, hs, hle⟩)
      · exact .inl (.inr ⟨item', hkey, hle, hwq.done _ _ _ hout⟩)
    · -- a failed sync adds the key again, stamped with the time of the failure
      rcases hp with ⟨item', ts', hs', hkey, hle⟩ | ⟨item', hkey, hle, hout⟩
      · rw [hs] at hs'
        cases hs'
        have hts : ts ≤ t.clock := hc.2 item ts hs
        exact .inl (.inr ⟨⟨item.key, t.clock, false⟩, hkey, Nat.le_trans hle hts,
          hwq.done _ _ _ (hwq.addRateLimited _ _ _ (.inl rfl))⟩)
      · exact .inl (.inr ⟨item', hkey, hle,
          hwq.done _ _ _ (hwq.addRateLimited _ _ _ (.inr hout))⟩)
  | ready item => exact .inl (hp.of_queue rfl fun _ hout => hwq.ready _ _ _ hout)
  | tick d => exact .inl (hp.of_queue rfl fun _ hout => hout)

end Pending

/-! ### The invariant of a run -/

/-- What holds after every run from `init`: `lastSync` is the start of a successful sync of the
run, and the update of every enqueue event is covered or pending. -/
structure Inv (willHandOut : Q → Element K → Prop) (events : List (Event Obj K)) : Prop where
  lastSync_synced : ((init wq).run wq fn events).lastSync = 0 ∨
    ∃ k, SucceedsAt wq fn events k ((init wq).run wq fn events).lastSync
  not_lost : ∀ i obj skippable key, events[i]? = some (.enqueue obj skippable) →
    fn obj = .ok key →
    Covered wq fn events (before wq fn events i).clock ∨
      Pending willHandOut ((init wq).run wq fn events) key (before wq fn events i).clock

section Inv

variable {wq fn} {willHandOut : Q → Element K → Prop}

lemma clocked_init : (init wq : Queue Q K).Clocked :=
  ⟨Nat.le_refl _, fun _ _ h => by cases h⟩

lemma inv_nil : Inv wq fn willHandOut [] where
  lastSync_synced := .inl rfl
  not_lost _ _ _ _ h := by cases h

variable (hwq : wq.Contract willHandOut)
include hwq

/-- An event appended to a run keeps the invariant. -/
lemma Inv.append_singleton {events : List (Event Obj K)} (h : Inv wq fn willHandOut events)
    (ev : Event Obj K) : Inv wq fn willHandOut (events ++ [ev]) where
  lastSync_synced := by
    rw [run_append_singleton]
    rcases lastSync_step wq fn ((init wq).run wq fn events) ev with heq | ⟨rfl, item, hs⟩
    · rw [heq]
      exact h.lastSync_synced.imp_right fun ⟨k, hk⟩ => ⟨k, hk.append _⟩
    · exact .inr ⟨events.length, succeedsAt_length hs⟩
  not_lost i obj skippable key hi hkey := by
    rcases getElem?_append_singleton hi with ⟨hlt, hold⟩ | ⟨rfl, rfl⟩
    · rw [before_append _ (Nat.le_of_lt hlt), run_append_singleton]
      have hc : ((init wq).run wq fn events).Clocked := clocked_run events _ clocked_init
      rcases h.not_lost i obj skippable key hold hkey with hcov | hp
      · exact .inl (hcov.append _)
      · rcases hp.step hwq hc (clock_before_le events i) ev with
          hp' | ⟨rfl, item, ts, hs, hle⟩ | ⟨rfl, hlt⟩
        · exact .inr hp'
        · exact .inl ⟨events.length, ts, succeedsAt_length hs, hle⟩
        · -- the update was skipped for `lastSync`, the start of a successful sync
          rcases h.lastSync_synced with hzero | ⟨k, hk⟩
          · omega
          · exact .inl ⟨k, _, hk.append _, Nat.le_of_lt hlt⟩
    · -- the appended event is the enqueue
      rw [before_append _ (Nat.le_refl _), before_length, run_append_singleton, step_enqueue]
      exact .inr (pending_enqueue hwq hkey)

/-- Every run keeps the invariant. -/
lemma inv_run (events : List (Event Obj K)) : Inv wq fn willHandOut events := by
  induction events using List.reverseRecOn with
  | nil => exact inv_nil
  | append_singleton events ev ih => exact ih.append_singleton hwq ev

end Inv

/-- For every work queue that keeps client-go's contract and every run of enqueues, worker
turns whose `sync` succeeds or fails, ends of retry delays and ticks of the clock: the worker
skips an element only after a successful sync that started after the element's timestamp,
and so after each enqueue of it; and the update of every enqueue event is covered by a
successful sync that started at or after it, or is still to be synced. -/
theorem skips_never_lose_updates (wq : WorkQueue Q (Element K))
    (willHandOut : Q → Element K → Prop) (hwq : wq.Contract willHandOut)
    (fn : Obj → Except String K) (events : List (Event Obj K)) :
    (∀ j item, SkipsAt wq fn events j item →
      ∃ k < j, ∃ ts, SucceedsAt wq fn events k ts ∧ item.timestamp < ts ∧
        ∀ i obj skippable, events[i]? = some (.enqueue obj skippable) → fn obj = .ok item.key →
          item.timestamp = (if skippable then (before wq fn events i).clock
            else (before wq fn events i).clock + day) →
          (before wq fn events i).clock < ts) ∧
    ∀ i obj skippable key, events[i]? = some (.enqueue obj skippable) → fn obj = .ok key →
      Covered wq fn events (before wq fn events i).clock ∨
        Pending willHandOut ((init wq).run wq fn events) key (before wq fn events i).clock := by
  refine ⟨fun j item hskip => ?_, (inv_run hwq events).not_lost⟩
  obtain ⟨-, -, -, hlt⟩ := hskip
  -- `lastSync` before the skip is the start of a successful sync of the run up to it
  rcases (inv_run hwq (events.take j) : Inv wq fn willHandOut _).lastSync_synced with
    hzero | ⟨k, hk⟩
  · rw [before] at hlt
    omega
  · have hkj : k < j := Nat.lt_of_lt_of_le hk.lt_length (List.length_take_le j events)
    have hk' := hk.append (events.drop j)
    rw [List.take_append_drop] at hk'
    refine ⟨k, hkj, _, hk', hlt, fun i obj skippable _ _ hstamp => ?_⟩
    have hle : (before wq fn events i).clock ≤ item.timestamp := by
      rw [hstamp]
      split_ifs <;> simp
    exact Nat.lt_of_le_of_lt hle hlt

/-- `b` is enqueued while `a` waits, and is skipped once the sync of `a`, which started after
it, succeeds. -/
def skipRun : List (Event String String) :=
  [.enqueueSkippableTask "a", .tick 1, .enqueueSkippableTask "b", .tick 1, .get, .synced true, .get]

example :
    let t := (init WorkQueue.fifo : Queue (List (Element String)) String).run WorkQueue.fifo
      Except.ok skipRun
    t.queue = [] ∧ t.syncing = none ∧ t.lastSync = 2 := by
  decide

theorem skips_never_lose_updates_fifo :
    (WorkQueue.fifo : WorkQueue (List (Element String)) (Element String)).Contract
        (fun q x => x ∈ q) ∧
      ((∀ j item, SkipsAt WorkQueue.fifo Except.ok skipRun j item →
        ∃ k < j, ∃ ts, SucceedsAt WorkQueue.fifo Except.ok skipRun k ts ∧ item.timestamp < ts ∧
          ∀ i obj skippable, skipRun[i]? = some (.enqueue obj skippable) →
            (Except.ok obj : Except String String) = .ok item.key →
            item.timestamp = (if skippable then (before WorkQueue.fifo Except.ok skipRun i).clock
              else (before WorkQueue.fifo Except.ok skipRun i).clock + day) →
            (before WorkQueue.fifo Except.ok skipRun i).clock < ts) ∧
      ∀ i obj skippable key, skipRun[i]? = some (.enqueue obj skippable) →
        (Except.ok obj : Except String String) = .ok key →
        Covered WorkQueue.fifo Except.ok skipRun (before WorkQueue.fifo Except.ok skipRun i).clock ∨
          Pending (fun q x => x ∈ q) ((init WorkQueue.fifo).run WorkQueue.fifo Except.ok skipRun)
            key (before WorkQueue.fifo Except.ok skipRun i).clock) :=
  ⟨WorkQueue.fifo_contract,
    skips_never_lose_updates WorkQueue.fifo _ WorkQueue.fifo_contract Except.ok skipRun⟩

end Queue

end Task

end IngressNginx
