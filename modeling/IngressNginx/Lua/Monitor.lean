import IngressNginx.Lib.Lua

/-!
# The metrics batch of `monitor.lua`

Each request's `log_by_lua` calls `monitor.call()`, which encodes the request's metrics with
`cjson.encode` and stores the object and its encoding under the next index of
`metrics_batch` and `metrics_raw_batch`, unless `MAX_BATCH_SIZE` of them are waiting. A timer
calls `flush()` every second: unless nothing waits, it resets the count, clears the batch,
writes the encodings into one JSON array by hand (a comma after each but the one at index
`table.getn`), clears the raw batch and sends the array to the collector's socket. Sending
happens after every change of state, so the events of one worker are atomic: a `call`, or a
`flush` up to its `send`.

What the monitor is for is `Batch`: the encodings recorded since the last flush, in order,
and a flush that finds some sends their JSON array (`jsonArray`). When `pairs` visits the raw
batch in index order, as LuaJIT does for a table's array part, every run of calls and flushes
from `init_worker` sends what `Batch` sends and never counts more metrics than
`MAX_BATCH_SIZE` (`flush_sends_recorded_batches`), from one step lemma per event
(`holds_call`, `holds_flush`). The metrics object and its encoding are parameters: `metrics()`
reads the request's variables, and `cjson.safe` returns `nil` on an error.
-/

namespace IngressNginx

namespace Monitor

variable {μ : Type}

/-- The state of `monitor.lua` in one worker. -/
structure State (μ : Type) where
  maxBatchSize : ℤ
  metricsCount : ℕ
  metricsBatch : Go.Map ℕ μ
  metricsRawBatch : Go.Map ℕ String

/-- The state the module starts in. -/
def init : State μ := ⟨10000, 0, ∅, ∅⟩

/-- `set_metrics_max_batch_size`: a size above `10000` replaces `MAX_BATCH_SIZE`. -/
def setMetricsMaxBatchSize (s : State μ) (maxBatchSize : ℤ) : State μ :=
  if maxBatchSize > 10000 then { s with maxBatchSize := maxBatchSize } else s

/-- `init_worker`: the batch size; the timer it starts is the `flush` events. -/
def initWorker (maxBatchSize : ℤ) : State μ := setMetricsMaxBatchSize init maxBatchSize

/-- `call`: the metrics object `obj` of the request, encoded by `encode`, under the next index
of both batches, unless the batch is full or the encoding fails. -/
def call (encode : μ → Option String) (s : State μ) (obj : μ) : State μ :=
  if s.maxBatchSize ≤ s.metricsCount then s
  else
    match encode obj with
    | none => s
    | some payload =>
      let metricsCount := s.metricsCount + 1
      { s with metricsCount := metricsCount
               metricsBatch := s.metricsBatch.insert metricsCount obj
               metricsRawBatch := s.metricsRawBatch.insert metricsCount payload }

/-- `table.getn(t)`: the border of `t` after the run of keys `1, 2, …`, the only border of a
sequence. -/
def getn {ν : Type} (t : Go.Map ℕ ν) : ℕ :=
  ((List.range t.keys.length).takeWhile fun k => (t.lookup (k + 1)).isSome).length

/-- The item `flush` writes for the entry `(i, raw)` of a raw batch whose border is `n`: the
encoding, followed by a comma unless `i` is the border. -/
def item (n : ℕ) (e : ℕ × String) : String := if e.1 = n then e.2 else e.2 ++ ","

@[simp] lemma item_self (n : ℕ) (raw : String) : item n (n, raw) = raw := if_pos rfl

lemma item_of_ne {n i : ℕ} (h : i ≠ n) (raw : String) : item n (i, raw) = raw ++ "," := if_neg h

/-- `flush(premature)`: the state after it and the payload it sends, if any; `pairs` visits the
raw batch in the order `ord` chooses. -/
def flush (ord : Go.RangeOrder Unit ℕ) (s : State μ) (premature : Bool) :
    State μ × Option String :=
  if premature then (s, none)
  else if s.metricsCount = 0 then (s, none)
  else
    let s := { s with metricsCount := 0, metricsBatch := ∅ }
    let items := (s.metricsRawBatch.range ord ()).map (item (getn s.metricsRawBatch))
    let payload := String.join (["["] ++ items ++ ["]"])
    ({ s with metricsRawBatch := ∅ }, some payload)

/-- What happens in a worker: a request is logged, or the flush timer fires. -/
inductive Event (μ : Type) where
  | call (obj : μ)
  | flush (premature : Bool)

/-- One event: the state after it and the payload it sends, if any. -/
def step (encode : μ → Option String) (ord : Go.RangeOrder Unit ℕ) (s : State μ) :
    Event μ → State μ × Option String
  | .call obj => (call encode s obj, none)
  | .flush premature => flush ord s premature

/-- A run of events: the state after them and the payloads sent, in order. -/
def run (encode : μ → Option String) (ord : Go.RangeOrder Unit ℕ) (s : State μ) :
    List (Event μ) → State μ × List String
  | [] => (s, [])
  | e :: evs =>
    let r := step encode ord s e
    let rest := run encode ord r.1 evs
    (rest.1, r.2.toList ++ rest.2)

/-! ### What the batch is for -/

/-- The text of the JSON array of the values whose texts are `items` (RFC 8259, section 5),
without insignificant whitespace. -/
def jsonArray (items : List String) : String := "[" ++ ",".intercalate items ++ "]"

/-- The encodings recorded since the last flush, in order, and the cap on their number. -/
structure Batch where
  maxBatchSize : ℤ
  recorded : List String

namespace Batch

/-- The batch after `init_worker`. -/
def initWorker (maxBatchSize : ℤ) : Batch :=
  ⟨if maxBatchSize > 10000 then maxBatchSize else 10000, []⟩

/-- A request's encoding is recorded when the batch has room and the encoding succeeds. -/
def call (encode : μ → Option String) (b : Batch) (obj : μ) : Batch :=
  if b.maxBatchSize ≤ b.recorded.length then b
  else
    match encode obj with
    | none => b
    | some e => { b with recorded := b.recorded ++ [e] }

/-- A flush that finds encodings sends their JSON array and forgets them. -/
def flush (b : Batch) (premature : Bool) : Batch × Option String :=
  if premature ∨ b.recorded = [] then (b, none)
  else ({ b with recorded := [] }, some (jsonArray b.recorded))

def step (encode : μ → Option String) (b : Batch) : Event μ → Batch × Option String
  | .call obj => (b.call encode obj, none)
  | .flush premature => b.flush premature

def run (encode : μ → Option String) (b : Batch) : List (Event μ) → Batch × List String
  | [] => (b, [])
  | e :: evs =>
    let r := b.step encode e
    let rest := run encode r.1 evs
    (rest.1, r.2.toList ++ rest.2)

/-- No more encodings are recorded than the cap allows. -/
def Capped (b : Batch) : Prop := (b.recorded.length : ℤ) ≤ b.maxBatchSize

lemma capped_initWorker (maxBatchSize : ℤ) : (initWorker maxBatchSize).Capped := by
  unfold Capped initWorker
  split_ifs <;> simp only [List.length_nil, Nat.cast_zero] <;> omega

lemma Capped.step {encode : μ → Option String} {b : Batch} (h : b.Capped) (e : Event μ) :
    (b.step encode e).1.Capped := by
  cases e with
  | call obj =>
    show (b.call encode obj).Capped
    unfold call
    split_ifs with hfull
    · exact h
    · -- the batch had room for one more
      cases encode obj with
      | none => exact h
      | some e =>
        show ((b.recorded ++ [e]).length : ℤ) ≤ b.maxBatchSize
        rw [List.length_append, List.length_singleton, Nat.cast_add, Nat.cast_one]
        omega
  | flush premature =>
    show (b.flush premature).1.Capped
    unfold flush
    split_ifs
    · exact h
    · show (([] : List String).length : ℤ) ≤ b.maxBatchSize
      have hnonneg : (0 : ℤ) ≤ b.recorded.length := Int.natCast_nonneg _
      unfold Capped at h
      simp only [List.length_nil, Nat.cast_zero]
      omega

lemma Capped.run (encode : μ → Option String) {b : Batch} (h : b.Capped)
    (evs : List (Event μ)) :
    (run encode b evs).1.Capped := by
  induction evs generalizing b with
  | nil => exact h
  | cons e evs ih => exact ih (h.step e)

end Batch

/-! ### The state holds the batch -/

/-- The state holds the batch: the same cap, one metric counted per recorded encoding, and the
`k`-th encoding under index `k` of the raw batch. -/
structure Holds (s : State μ) (b : Batch) : Prop where
  maxBatchSize_eq : s.maxBatchSize = b.maxBatchSize
  count_eq : s.metricsCount = b.recorded.length
  lookup_raw : ∀ k, s.metricsRawBatch.lookup k = if k = 0 then none else b.recorded[k - 1]?

lemma holds_initWorker (maxBatchSize : ℤ) :
    Holds (initWorker maxBatchSize : State μ) (Batch.initWorker maxBatchSize) := by
  unfold initWorker setMetricsMaxBatchSize Batch.initWorker
  split_ifs <;> exact ⟨rfl, rfl, fun k => by simp [init]⟩

section Raw

variable {raw : Go.Map ℕ String} {rec : List String}

/-- A raw batch holding the encodings has exactly the keys `1, …, n`. -/
lemma keys_perm_of_lookup (h : ∀ k, raw.lookup k = if k = 0 then none else rec[k - 1]?) :
    raw.keys.Perm (List.range' 1 rec.length) := by
  rw [List.perm_ext_iff_of_nodup raw.keys_nodup (List.nodup_range' ..)]
  intro k
  rw [← AList.mem_keys, ← AList.lookup_isSome, h k, List.mem_range'_1]
  by_cases hk : k = 0
  · simp [hk]
  · rw [if_neg hk, Option.isSome_iff_exists]
    constructor
    · rintro ⟨e, he⟩
      have hlt := (List.getElem?_eq_some_iff.mp he).1
      omega
    · intro hrange
      exact ⟨rec[k - 1], List.getElem?_eq_getElem (by omega)⟩

/-- Pairing the indices from `s` on with what a lookup finds there. -/
lemma filterMap_range' {f : ℕ → Option String} (s : ℕ) :
    ∀ rec : List String, (∀ j < rec.length, f (s + j) = rec[j]?) →
      (List.range' s rec.length).filterMap (fun k => (f k).map (k, ·)) =
        (List.range' s rec.length).zip rec
  | [], _ => rfl
  | e :: rec, hf => by
    have hhead : f s = some e := by simpa using hf 0 (by simp)
    have htail : ∀ j < rec.length, f (s + 1 + j) = rec[j]? := fun j hj => by
      simpa [Nat.add_assoc, Nat.add_comm 1 j] using hf (j + 1) (by simp; omega)
    rw [List.length_cons, List.range'_succ, List.filterMap_cons, hhead, Option.map_some,
      List.zip_cons_cons, filterMap_range' (s + 1) rec htail]

/-- `pairs` in index order visits the encodings with their indices. -/
lemma range_arrayOrder (h : ∀ k, raw.lookup k = if k = 0 then none else rec[k - 1]?) :
    raw.range Lua.arrayOrder () = (List.range' 1 rec.length).zip rec := by
  rw [Go.Map.range, Lua.arrayOrder_arrange () (keys_perm_of_lookup h)]
  apply filterMap_range' 1 rec
  intro j hj
  rw [h, if_neg (by omega), Nat.add_sub_cancel_left]

lemma getn_of_lookup (h : ∀ k, raw.lookup k = if k = 0 then none else rec[k - 1]?) :
    getn raw = rec.length := by
  have hlen : raw.keys.length = rec.length := by
    rw [(keys_perm_of_lookup h).length_eq, List.length_range']
  unfold getn
  rw [hlen, List.takeWhile_eq_self_iff.mpr, List.length_range]
  intro k hk
  rw [h, if_neg (Nat.succ_ne_zero k), Nat.add_sub_cancel]
  exact Option.isSome_iff_exists.mpr ⟨_, List.getElem?_eq_getElem (List.mem_range.mp hk)⟩

/-- The items of the payload, a comma after each but the last, join to the array's elements
separated by commas. -/
lemma join_items (s : ℕ) : ∀ rec : List String, rec ≠ [] →
    String.join (((List.range' s rec.length).zip rec).map (item (s + rec.length - 1))) =
      ",".intercalate rec
  | [], hne => absurd rfl hne
  | [e], _ => by simp
  | e :: e' :: rec, _ => by
    -- the first item is not the last, and the rest keeps the same last index
    have hlast : s + ((e' :: rec).length + 1) - 1 = s + 1 + (e' :: rec).length - 1 := by omega
    have hfirst : s ≠ s + 1 + (e' :: rec).length - 1 := by simp only [List.length_cons]; omega
    rw [List.length_cons, List.range'_succ, List.zip_cons_cons, List.map_cons, String.join_cons,
      hlast, item_of_ne hfirst, join_items (s + 1) (e' :: rec) (List.cons_ne_nil _ _),
      String.intercalate_cons_cons, String.append_assoc]

/-- `flush` sends the JSON array of the encodings its raw batch holds. -/
lemma payload_eq_jsonArray (h : ∀ k, raw.lookup k = if k = 0 then none else rec[k - 1]?)
    (hne : rec ≠ []) :
    String.join (["["] ++ (raw.range Lua.arrayOrder ()).map (item (getn raw)) ++ ["]"]) =
      jsonArray rec := by
  have hitems := join_items 1 rec hne
  rw [show 1 + rec.length - 1 = rec.length by omega] at hitems
  rw [range_arrayOrder h, getn_of_lookup h, String.join_append, String.join_append,
    String.join_cons, String.join_nil, String.join_cons, String.join_nil, String.append_empty,
    String.append_empty, hitems, jsonArray]

end Raw

section Steps

variable (encode : μ → Option String) {s : State μ} {b : Batch}

lemma holds_call (h : Holds s b) (obj : μ) : Holds (call encode s obj) (b.call encode obj) := by
  have hfull : (s.maxBatchSize ≤ s.metricsCount) ↔ (b.maxBatchSize ≤ b.recorded.length) := by
    rw [h.maxBatchSize_eq, h.count_eq]
  unfold call Batch.call
  by_cases hf : b.maxBatchSize ≤ b.recorded.length
  · rw [if_pos (hfull.mpr hf), if_pos hf]
    exact h
  · rw [if_neg (fun h' => hf (hfull.mp h')), if_neg hf]
    cases encode obj with
    | none => exact h
    | some e =>
      refine ⟨h.maxBatchSize_eq, by simp [h.count_eq], fun k => ?_⟩
      -- the new encoding is under the next index, and the others stay
      show ((s.metricsRawBatch.insert (s.metricsCount + 1) e)).lookup k = _
      by_cases hk : k = s.metricsCount + 1
      · subst hk
        rw [AList.lookup_insert, h.count_eq, if_neg (Nat.succ_ne_zero _), Nat.add_sub_cancel,
          List.getElem?_concat_length]
      · rw [AList.lookup_insert_ne hk, h.lookup_raw k]
        split_ifs with hk0
        · rfl
        · rw [h.count_eq] at hk
          by_cases hlt : k - 1 < b.recorded.length
          · rw [List.getElem?_append_left hlt]
          · rw [List.getElem?_eq_none (by omega), List.getElem?_eq_none (by simp; omega)]

lemma holds_flush (h : Holds s b) (premature : Bool) :
    Holds (flush Lua.arrayOrder s premature).1 (b.flush premature).1 ∧
      (flush Lua.arrayOrder s premature).2 = (b.flush premature).2 := by
  have hempty : s.metricsCount = 0 ↔ b.recorded = [] := by
    rw [h.count_eq, List.length_eq_zero_iff]
  unfold flush Batch.flush
  by_cases hp : premature = true
  · rw [if_pos hp, if_pos (.inl hp)]
    exact ⟨h, rfl⟩
  · by_cases he : b.recorded = []
    · rw [if_neg hp, if_pos (hempty.mpr he), if_pos (.inr he)]
      exact ⟨h, rfl⟩
    · rw [if_neg hp, if_neg (fun h' => he (hempty.mp h')), if_neg (by tauto)]
      refine ⟨⟨h.maxBatchSize_eq, rfl, fun k => ?_⟩, ?_⟩
      · simp
      · exact congrArg some (payload_eq_jsonArray h.lookup_raw he)

lemma holds_step (h : Holds s b) (e : Event μ) :
    Holds (step encode Lua.arrayOrder s e).1 (b.step encode e).1 ∧
      (step encode Lua.arrayOrder s e).2 = (b.step encode e).2 := by
  cases e with
  | call obj => exact ⟨holds_call encode h obj, rfl⟩
  | flush premature => exact holds_flush h premature

/-- Along any run of events the state holds the batch, and both send the same payloads. -/
lemma holds_run (h : Holds s b) (evs : List (Event μ)) :
    Holds (run encode Lua.arrayOrder s evs).1 (Batch.run encode b evs).1 ∧
      (run encode Lua.arrayOrder s evs).2 = (Batch.run encode b evs).2 := by
  induction evs generalizing s b with
  | nil => exact ⟨h, rfl⟩
  | cons e evs ih =>
    obtain ⟨hstep, hout⟩ := holds_step encode h e
    obtain ⟨hrun, hsent⟩ := ih hstep
    exact ⟨hrun, by simp only [run, Batch.run, hsent, hout, Batch.step]⟩

end Steps

/-- For every run of calls and flushes in one worker after `init_worker`, with `pairs` visiting
the raw batch in index order: every payload sent is the one the batch sends, the JSON array of
the encodings recorded since the previous flush in order, and the count of waiting metrics
never exceeds `MAX_BATCH_SIZE`. -/
theorem flush_sends_recorded_batches (encode : μ → Option String) (maxBatchSize : ℤ)
    (evs : List (Event μ)) :
    (run encode Lua.arrayOrder (initWorker maxBatchSize) evs).2 =
        (Batch.run encode (Batch.initWorker maxBatchSize) evs).2 ∧
      ((run encode Lua.arrayOrder (initWorker maxBatchSize) evs).1.metricsCount : ℤ) ≤
        (run encode Lua.arrayOrder (initWorker maxBatchSize) evs).1.maxBatchSize := by
  obtain ⟨hholds, hsent⟩ := holds_run encode (holds_initWorker maxBatchSize) evs
  have hcapped := (Batch.capped_initWorker maxBatchSize).run encode evs
  refine ⟨hsent, ?_⟩
  rw [hholds.count_eq, hholds.maxBatchSize_eq]
  exact hcapped

end Monitor

end IngressNginx
