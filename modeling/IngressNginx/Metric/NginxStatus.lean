import IngressNginx.Lib.Go
import IngressNginx.Lib.Submatch

/-!
# The counters of nginx's stub_status page

`metric/collectors/nginx_status.go`: the collector reads nginx's `stub_status` page, and `parse`
takes its seven counters out of it with five regular expressions, each counter by
`FindStringSubmatch` and `toInt`, which reads a group by `strconv.Atoi` and makes every failure
`0`.

The expressions are sequences of letters, `\s` and groups `(\d+)`, so `FindStringSubmatch` is
`Submatch.findSubmatch` of their pieces. `parse` never panics (`parse_isSome`): a match has as
many groups as its expression, so no group `toInt` reads is past the end of the slice.

On the page nginx serves (`stubStatus`), the search for `(\d+)\s(\d+)\s(\d+)` passes over the
active count, which a space and a line break follow, and stops at the accepted, handled and
requests counters; each labelled search stops at its label; and `Atoi` reads back what nginx
printed. So `parse` gives back every counter in `[0, 2^63)` (`parse_stubStatus`).
-/

namespace IngressNginx

namespace Collectors

open Submatch

/-- `basicStatus`: the counters of the stub_status page. -/
structure BasicStatus where
  active : ℤ
  accepted : ℤ
  handled : ℤ
  requests : ℤ
  reading : ℤ
  writing : ℤ
  waiting : ℤ
  deriving DecidableEq, Repr

/-- The counters, in the order of the page and of `basicStatus`. -/
def BasicStatus.counters (s : BasicStatus) : List ℤ :=
  [s.active, s.accepted, s.handled, s.requests, s.reading, s.writing, s.waiting]

lemma BasicStatus.forall_mem_counters {s : BasicStatus} {P : ℤ → Prop} :
    (∀ f ∈ s.counters, P f) ↔ P s.active ∧ P s.accepted ∧ P s.handled ∧ P s.requests ∧
      P s.reading ∧ P s.writing ∧ P s.waiting := by
  simp [BasicStatus.counters]

/-- `(\d+)`: a group of one or more of `\d`, which is `[0-9]`. -/
def digitsGroup : Piece Char × Bool := (.plus Char.isDigit, true)

/-- `\s`: one of `[\t\n\f\r ]`. -/
def perlSpace : Piece Char × Bool :=
  (.cls fun c => c = '\t' || c = '\n' || c = '\x0c' || c = '\r' || c = ' ', false)

/-- A label and the counter after it: `label(\d+)`. -/
def counter (label : String) : List (Piece Char × Bool) := word label.toList ++ [digitsGroup]

/-- `ac`: `Active connections: (\d+)`. -/
def ac : List (Piece Char × Bool) := counter "Active connections: "

/-- `sahr`: `(\d+)\s(\d+)\s(\d+)`. -/
def sahr : List (Piece Char × Bool) :=
  [digitsGroup, perlSpace, digitsGroup, perlSpace, digitsGroup]

/-- `reading`: `Reading: (\d+)`. -/
def reading : List (Piece Char × Bool) := counter "Reading: "

/-- `writing`: `Writing: (\d+)`. -/
def writing : List (Piece Char × Bool) := counter "Writing: "

/-- `waiting`: `Waiting: (\d+)`. -/
def waiting : List (Piece Char × Bool) := counter "Waiting: "

/-- `re.FindStringSubmatch(s)`: the text of the leftmost match and of its groups; the `nil`
slice, with no element, when nothing matches. -/
def findStringSubmatch (re : List (Piece Char × Bool)) (s : String) : List String :=
  ((findSubmatch re s.toList).getD []).map String.ofList

/-- `toInt(data, pos)`: `strconv.Atoi` of `data[pos]`, and `0` for an empty slice, a position
past its end or a failed conversion; `none` is the panic of `data[pos]` at `pos = len(data)`. -/
def toInt (data : List String) (pos : ℕ) : Option ℤ :=
  if data.length = 0 then some 0
  else if pos > data.length then some 0
  else data[pos]?.map fun d => (Go.atoi d).getD 0

/-- `parse`: the counters the five expressions find in the page. -/
def parse (data : String) : Option BasicStatus := do
  let acr := findStringSubmatch ac data
  let sahrr := findStringSubmatch sahr data
  let readingr := findStringSubmatch reading data
  let writingr := findStringSubmatch writing data
  let waitingr := findStringSubmatch waiting data
  return ⟨← toInt acr 1, ← toInt sahrr 1, ← toInt sahrr 2, ← toInt sahrr 3,
    ← toInt readingr 1, ← toInt writingr 1, ← toInt waitingr 1⟩

/-- The page nginx's `stub_status` serves for the counters `s`, line by line as its module
prints them. -/
def stubStatus (s : BasicStatus) : String :=
  "Active connections: " ++ toString s.active ++ " \n" ++
    "server accepts handled requests\n" ++
    " " ++ toString s.accepted ++ " " ++ toString s.handled ++ " " ++ toString s.requests ++
    " \n" ++
    "Reading: " ++ toString s.reading ++ " Writing: " ++ toString s.writing ++
    " Waiting: " ++ toString s.waiting ++ " \n"

/-! ### `parse` never panics -/

section Total

@[simp] lemma groups_counter (label : String) : (counter label).filter (·.2) = [digitsGroup] := by
  simp [counter, word, List.filter_map, digitsGroup, Function.comp_def]

/-- `FindStringSubmatch` gives the `nil` slice or the match and one text per group. -/
lemma length_findStringSubmatch (re : List (Piece Char × Bool)) (s : String) :
    (findStringSubmatch re s).length = 0 ∨
      (findStringSubmatch re s).length = (re.filter (·.2)).length + 1 := by
  cases h : findSubmatch re s.toList with
  | none => simp [findStringSubmatch, h]
  | some l => simp [findStringSubmatch, h, length_findSubmatch h]

/-- `toInt` returns at every group of the expression. -/
lemma toInt_findStringSubmatch_isSome (re : List (Piece Char × Bool)) (s : String) (pos : ℕ)
    (hpos : pos ≤ (re.filter (·.2)).length) : (toInt (findStringSubmatch re s) pos).isSome := by
  rcases length_findStringSubmatch re s with h | h
  · simp [toInt, h]
  · have hlt : pos < (findStringSubmatch re s).length := by omega
    have hin : ¬ pos > (findStringSubmatch re s).length := by omega
    rw [toInt, if_neg (by omega), if_neg hin, List.getElem?_eq_getElem hlt, Option.map_some]
    rfl

end Total

/-- `parse` returns for every text: none of its `toInt` calls panics. -/
theorem parse_isSome (data : String) : (parse data).isSome := by
  have hsome : ∀ re pos, pos ≤ (re.filter (·.2)).length →
      ∃ v, toInt (findStringSubmatch re data) pos = some v := fun re pos hpos =>
    Option.isSome_iff_exists.mp (toInt_findStringSubmatch_isSome re data pos hpos)
  obtain ⟨a, ha⟩ := hsome ac 1 (by simp [ac])
  obtain ⟨x, hx⟩ := hsome sahr 1 (by simp [sahr, digitsGroup, perlSpace])
  obtain ⟨y, hy⟩ := hsome sahr 2 (by simp [sahr, digitsGroup, perlSpace])
  obtain ⟨z, hz⟩ := hsome sahr 3 (by simp [sahr, digitsGroup, perlSpace])
  obtain ⟨r, hr⟩ := hsome reading 1 (by simp [reading])
  obtain ⟨w, hw⟩ := hsome writing 1 (by simp [writing])
  obtain ⟨v, hv⟩ := hsome waiting 1 (by simp [waiting])
  simp [parse, ha, hx, hy, hz, hr, hw, hv]

/-! ### The page nginx serves -/

/-- A run that `\d+` reads whole: one digit or more. -/
def IsDecimal (d : List Char) : Prop := d ≠ [] ∧ ∀ c ∈ d, c.isDigit = true

/-- nginx prints a counter that is not negative in decimal digits. -/
lemma isDecimal_toString {n : ℤ} (h : 0 ≤ n) : IsDecimal (toString n).toList := by
  obtain ⟨m, rfl⟩ := Int.eq_ofNat_of_zero_le h
  have hdigits : (toString (m : ℤ)).toList = Nat.toDigits 10 m := by
    show (toString m).toList = _
    simp
  rw [hdigits]
  exact ⟨Nat.toDigits_ne_nil, fun c hc =>
    Nat.isDigit_of_mem_toDigits (by decide) (by decide) hc⟩

/-- The page as the letters of its labels and of its counters. -/
lemma toList_stubStatus (s : BasicStatus) : (stubStatus s).toList =
    "Active connections: ".toList ++ ((toString s.active).toList ++ (' ' :: '\n' ::
      ("server accepts handled requests\n".toList ++ (' ' :: ((toString s.accepted).toList ++
      (' ' :: ((toString s.handled).toList ++ (' ' :: ((toString s.requests).toList ++
      (' ' :: '\n' :: ("Reading: ".toList ++ ((toString s.reading).toList ++
      (' ' :: ("Writing: ".toList ++ ((toString s.writing).toList ++
      (' ' :: ("Waiting: ".toList ++ ((toString s.waiting).toList ++
      [' ', '\n'])))))))))))))))))) := by
  have hbreak : " \n".toList = [' ', '\n'] := rfl
  have hspace : " ".toList = [' '] := rfl
  have hwriting : " Writing: ".toList = ' ' :: "Writing: ".toList := rfl
  have hwaiting : " Waiting: ".toList = ' ' :: "Waiting: ".toList := rfl
  unfold stubStatus
  simp only [String.toList_append, List.append_assoc, hbreak, hspace, hwriting, hwaiting,
    List.cons_append, List.nil_append]

section Search

variable {d u x y z rest : List Char}

lemma not_mem_of_isDecimal {a : Char} (hd : IsDecimal d) (ha : a.isDigit = false) : a ∉ d := by
  intro h
  simpa [ha] using hd.2 a h

lemma isDecimal_of_suffix (hd : IsDecimal d) (hu : u <:+ d) (hne : u ≠ []) : IsDecimal u :=
  ⟨hne, fun c hc => hd.2 c (hu.subset hc)⟩

@[simp] lemma digitsGroup_accepts (c : Char) : digitsGroup.1.accepts c = c.isDigit := rfl

/-- `\s` reads no digit. -/
lemma perlSpace_accepts_of_isDigit {c : Char} (h : c.isDigit = true) :
    perlSpace.1.accepts c = false := by
  simp only [perlSpace, Piece.accepts, Bool.or_eq_false_iff, decide_eq_false_iff_not]
  refine ⟨⟨⟨⟨?_, ?_⟩, ?_⟩, ?_⟩, ?_⟩ <;> rintro rfl <;> exact absurd h (by decide)

/-- `\s` reads a space. -/
lemma matchHere_perlSpace_space (ps : List (Piece Char × Bool)) (s : List Char) :
    matchHere (perlSpace :: ps) (' ' :: s) = (matchHere ps s).map (extend false [' ']) := by
  rw [perlSpace, matchHere_cls_cons, if_pos (by decide)]

/-- `(\d+)` reads a whole counter that something other than a digit follows. -/
lemma matchHere_digitsGroup {ps : List (Piece Char × Bool)} {r : List Char × List (List Char)}
    (hd : IsDecimal d) (hrest : ∀ c ∈ rest.head?, c.isDigit = false)
    (h : matchHere ps rest = some r) :
    matchHere (digitsGroup :: ps) (d ++ rest) = some (d ++ r.1, d :: r.2) :=
  matchHere_plus_of_run hd.1 hd.2 hrest h

/-- A labelled search reads its label and the counter after it. -/
lemma leftmost_counter (w : List Char) (hd : IsDecimal d)
    (hrest : ∀ c ∈ rest.head?, c.isDigit = false) :
    leftmost (word w ++ [digitsGroup]) (w ++ (d ++ rest)) = some (w ++ d, [d]) := by
  apply leftmost_of_matchHere
  rw [matchHere_word_append, matchHere_digitsGroup hd hrest (matchHere_nil rest), Option.map_some]
  simp

/-- A labelled search passes over text where its label's first letter does not stand, and reads
the label and the counter after it. -/
lemma leftmost_counter_after {pre : List Char} {a : Char} (w : List Char) (hpre : a ∉ pre)
    (hd : IsDecimal d) (hrest : ∀ c ∈ rest.head?, c.isDigit = false) :
    leftmost (word (a :: w) ++ [digitsGroup]) (pre ++ (a :: w ++ (d ++ rest))) =
      some (a :: w ++ d, [d]) := by
  rw [leftmost_word_append_of_not_mem hpre]
  exact leftmost_counter _ hd hrest

/-- `sahr` reads three counters with a space between each two. -/
lemma matchHere_sahr (hx : IsDecimal x) (hy : IsDecimal y) (hz : IsDecimal z)
    (hrest : ∀ c ∈ rest.head?, c.isDigit = false) :
    matchHere sahr (x ++ (' ' :: (y ++ (' ' :: (z ++ rest))))) =
      some (x ++ (' ' :: (y ++ (' ' :: z))), [x, y, z]) := by
  have hz' : matchHere [digitsGroup] (z ++ rest) = some (z ++ [], [z]) :=
    matchHere_digitsGroup hz hrest (matchHere_nil rest)
  have hz'' : matchHere [perlSpace, digitsGroup] (' ' :: (z ++ rest)) = some (' ' :: z, [z]) := by
    rw [matchHere_perlSpace_space, hz', Option.map_some]
    simp
  have hy' : matchHere [digitsGroup, perlSpace, digitsGroup] (y ++ (' ' :: (z ++ rest))) =
      some (y ++ (' ' :: z), [y, z]) :=
    matchHere_digitsGroup hy (by simp) hz''
  have hy'' : matchHere [perlSpace, digitsGroup, perlSpace, digitsGroup]
      (' ' :: (y ++ (' ' :: (z ++ rest)))) = some (' ' :: (y ++ (' ' :: z)), [y, z]) := by
    rw [matchHere_perlSpace_space, hy', Option.map_some]
    simp
  exact matchHere_digitsGroup hx (by simp) hy''

/-- No match of `sahr` starts inside a counter that a space and a line break follow: the
second `\d+` would have to start at the line break. -/
lemma matchHere_sahr_eq_none (hu : IsDecimal u) :
    matchHere sahr (u ++ (' ' :: '\n' :: rest)) = none := by
  apply matchHere_plus_eq_none
  rw [takeWhile_append_of_stop hu.2 (by simp)]
  intro k hk hku
  rcases hku.lt_or_eq with hlt | rfl
  · -- a shorter run leaves a digit where `\s` must read
    rw [List.drop_append_of_le_length hlt.le, List.drop_eq_getElem_cons hlt, List.cons_append]
    exact matchHere_eq_none_of_not_accepts
      (perlSpace_accepts_of_isDigit (hu.2 _ (List.getElem_mem hlt)))
  · -- the whole run leaves the line break where the second counter must start
    rw [List.drop_left, matchHere_perlSpace_space,
      matchHere_eq_none_of_not_accepts (by decide), Option.map_none]

end Search

/-! ### `parse` reads the page back -/

/-- What `parse` reports for a counter nginx printed: the counter below `2^63`, and from there
on, where `Atoi` fails with a range error, `toInt`'s `0`. -/
def reportedCounter (f : ℤ) : ℤ := if f < 2 ^ 63 then f else 0

/-- The counters `parse` reports for a page. -/
def BasicStatus.reported (s : BasicStatus) : BasicStatus :=
  ⟨reportedCounter s.active, reportedCounter s.accepted, reportedCounter s.handled,
    reportedCounter s.requests, reportedCounter s.reading, reportedCounter s.writing,
    reportedCounter s.waiting⟩

lemma reportedCounter_of_lt {f : ℤ} (h : f < 2 ^ 63) : reportedCounter f = f := if_pos h

/-- Below `2^63` every counter is reported as it is. -/
lemma BasicStatus.reported_eq_self {s : BasicStatus} (hs : ∀ f ∈ s.counters, f < 2 ^ 63) :
    s.reported = s := by
  obtain ⟨h₁, h₂, h₃, h₄, h₅, h₆, h₇⟩ := BasicStatus.forall_mem_counters.mp hs
  rw [BasicStatus.reported, reportedCounter_of_lt h₁, reportedCounter_of_lt h₂,
    reportedCounter_of_lt h₃, reportedCounter_of_lt h₄, reportedCounter_of_lt h₅,
    reportedCounter_of_lt h₆, reportedCounter_of_lt h₇]

section Page

variable {s : BasicStatus}

/-- `toInt` of a group of the leftmost match is `Atoi` of the group's text. -/
lemma toInt_findStringSubmatch_of_leftmost {re : List (Piece Char × Bool)} {t : String}
    {w : List Char} {gs : List (List Char)} {i : ℕ} (h : leftmost re t.toList = some (w, gs))
    (hi : i < gs.length) :
    toInt (findStringSubmatch re t) (i + 1) = some ((Go.atoi (String.ofList gs[i])).getD 0) := by
  have hfind : findStringSubmatch re t = String.ofList w :: gs.map String.ofList := by
    rw [findStringSubmatch, findSubmatch_of_leftmost h, Option.getD_some, List.map_cons]
  have hin : ¬ i + 1 > (findStringSubmatch re t).length := by
    simp only [hfind, List.length_cons, List.length_map]
    omega
  rw [toInt, if_neg (by simp [hfind]), if_neg hin, hfind]
  simp [hi]

/-- `toInt` reports a counter nginx printed, in a group of the leftmost match. -/
lemma toInt_findStringSubmatch_printed {re : List (Piece Char × Bool)} {t : String}
    {w : List Char} {gs : List (List Char)} {i : ℕ} {n : ℤ}
    (h : leftmost re t.toList = some (w, gs)) (hi : i < gs.length)
    (hgroup : gs[i] = (toString n).toList) (hn : 0 ≤ n) :
    toInt (findStringSubmatch re t) (i + 1) = some (reportedCounter n) := by
  rw [toInt_findStringSubmatch_of_leftmost h hi, hgroup, String.ofList_toList,
    Go.atoi_toString_eq hn, reportedCounter]
  split_ifs <;> rfl

/-- The active count is the first thing on the page, after its label. -/
lemma leftmost_ac_stubStatus (hdec : ∀ f ∈ s.counters, IsDecimal (toString f).toList) :
    leftmost ac (stubStatus s).toList = some ("Active connections: ".toList ++
      (toString s.active).toList, [(toString s.active).toList]) := by
  rw [toList_stubStatus]
  exact leftmost_counter _ (BasicStatus.forall_mem_counters.mp hdec).1 (by simp)

lemma sahr_head : sahr.head? = some digitsGroup := rfl

/-- `sahr` passes over the active count and reads the second line's three counters. -/
lemma leftmost_sahr_stubStatus (hdec : ∀ f ∈ s.counters, IsDecimal (toString f).toList) :
    leftmost sahr (stubStatus s).toList =
      some ((toString s.accepted).toList ++ (' ' :: ((toString s.handled).toList ++
        (' ' :: (toString s.requests).toList))),
        [(toString s.accepted).toList, (toString s.handled).toList,
          (toString s.requests).toList]) := by
  obtain ⟨hactive, haccepted, hhandled, hrequests, -⟩ :=
    BasicStatus.forall_mem_counters.mp hdec
  -- no digit before the active count, no start inside it, no digit up to the second line
  rw [toList_stubStatus, leftmost_append_of_not_accepts sahr_head (by simp [digitsGroup]),
    leftmost_append_of_none fun u hu hne =>
      matchHere_sahr_eq_none (isDecimal_of_suffix hactive hu hne),
    leftmost_cons_of_not_accepts sahr_head (by simp [digitsGroup]),
    leftmost_cons_of_not_accepts sahr_head (by simp [digitsGroup]),
    leftmost_append_of_not_accepts sahr_head (by simp [digitsGroup]),
    leftmost_cons_of_not_accepts sahr_head (by simp [digitsGroup])]
  exact leftmost_of_matchHere (matchHere_sahr haccepted hhandled hrequests (by simp))

/-- The first three lines of the page, up to the reading counter. -/
lemma toList_stubStatus_reading (s : BasicStatus) : (stubStatus s).toList =
    ("Active connections: ".toList ++ (toString s.active).toList ++ [' ', '\n'] ++
      "server accepts handled requests\n".toList ++ [' '] ++ (toString s.accepted).toList ++
      [' '] ++ (toString s.handled).toList ++ [' '] ++ (toString s.requests).toList ++
      [' ', '\n']) ++ ("Reading: ".toList ++ ((toString s.reading).toList ++
      (' ' :: ("Writing: ".toList ++ ((toString s.writing).toList ++
      (' ' :: ("Waiting: ".toList ++ ((toString s.waiting).toList ++ [' ', '\n'])))))))) := by
  rw [toList_stubStatus]
  simp

/-- Neither `R` nor `W` stands in the first three lines. -/
lemma not_mem_firstLines (hdec : ∀ f ∈ s.counters, IsDecimal (toString f).toList) {c : Char}
    (hc : c = 'R' ∨ c = 'W') :
    c ∉ "Active connections: ".toList ++ (toString s.active).toList ++ [' ', '\n'] ++
      "server accepts handled requests\n".toList ++ [' '] ++ (toString s.accepted).toList ++
      [' '] ++ (toString s.handled).toList ++ [' '] ++ (toString s.requests).toList ++
      [' ', '\n'] := by
  obtain ⟨hactive, haccepted, hhandled, hrequests, -⟩ := BasicStatus.forall_mem_counters.mp hdec
  have hdigit : c.isDigit = false := by
    rcases hc with rfl | rfl <;> rfl
  -- the counters as digit runs, out of reach of `simp`'s normal form for `toString`
  generalize (toString s.active).toList = a at hactive ⊢
  generalize (toString s.accepted).toList = x at haccepted ⊢
  generalize (toString s.handled).toList = y at hhandled ⊢
  generalize (toString s.requests).toList = z at hrequests ⊢
  rcases hc with rfl | rfl <;>
    simp [not_mem_of_isDecimal hactive hdigit, not_mem_of_isDecimal haccepted hdigit,
      not_mem_of_isDecimal hhandled hdigit, not_mem_of_isDecimal hrequests hdigit]

/-- `reading` passes over the first three lines, where no `R` stands, and reads its counter. -/
lemma leftmost_reading_stubStatus (hdec : ∀ f ∈ s.counters, IsDecimal (toString f).toList) :
    leftmost reading (stubStatus s).toList = some ("Reading: ".toList ++
      (toString s.reading).toList, [(toString s.reading).toList]) := by
  have hreading := (BasicStatus.forall_mem_counters.mp hdec).2.2.2.2.1
  have hlabel : "Reading: ".toList = 'R' :: "eading: ".toList := rfl
  rw [toList_stubStatus_reading, reading, counter, hlabel]
  exact leftmost_counter_after _ (not_mem_firstLines hdec (.inl rfl)) hreading (by simp)

/-- The page up to the writing counter. -/
lemma toList_stubStatus_writing (s : BasicStatus) : (stubStatus s).toList =
    ("Active connections: ".toList ++ (toString s.active).toList ++ [' ', '\n'] ++
      "server accepts handled requests\n".toList ++ [' '] ++ (toString s.accepted).toList ++
      [' '] ++ (toString s.handled).toList ++ [' '] ++ (toString s.requests).toList ++
      [' ', '\n'] ++ "Reading: ".toList ++ (toString s.reading).toList ++ [' ']) ++
      ("Writing: ".toList ++ ((toString s.writing).toList ++
      (' ' :: ("Waiting: ".toList ++ ((toString s.waiting).toList ++ [' ', '\n']))))) := by
  rw [toList_stubStatus]
  simp

/-- No `W` stands before the writing label. -/
lemma not_mem_before_writing (hdec : ∀ f ∈ s.counters, IsDecimal (toString f).toList) :
    'W' ∉ "Active connections: ".toList ++ (toString s.active).toList ++ [' ', '\n'] ++
      "server accepts handled requests\n".toList ++ [' '] ++ (toString s.accepted).toList ++
      [' '] ++ (toString s.handled).toList ++ [' '] ++ (toString s.requests).toList ++
      [' ', '\n'] ++ "Reading: ".toList ++ (toString s.reading).toList ++ [' '] := by
  have hreading := (BasicStatus.forall_mem_counters.mp hdec).2.2.2.2.1
  refine List.not_mem_append (List.not_mem_append (List.not_mem_append ?_ (by simp))
    (not_mem_of_isDecimal hreading rfl)) (by simp)
  exact not_mem_firstLines hdec (.inr rfl)

/-- `writing` passes over the page up to its label and reads its counter. -/
lemma leftmost_writing_stubStatus (hdec : ∀ f ∈ s.counters, IsDecimal (toString f).toList) :
    leftmost writing (stubStatus s).toList = some ("Writing: ".toList ++
      (toString s.writing).toList, [(toString s.writing).toList]) := by
  have hwriting := (BasicStatus.forall_mem_counters.mp hdec).2.2.2.2.2.1
  have hlabel : "Writing: ".toList = 'W' :: "riting: ".toList := rfl
  rw [toList_stubStatus_writing, writing, counter, hlabel]
  exact leftmost_counter_after _ (not_mem_before_writing hdec) hwriting (by simp)

/-- `waiting` passes over the page up to its label: the one `W` before it starts `Writing`, where
the label's second letter fails. -/
lemma leftmost_waiting_stubStatus (hdec : ∀ f ∈ s.counters, IsDecimal (toString f).toList) :
    leftmost waiting (stubStatus s).toList = some ("Waiting: ".toList ++
      (toString s.waiting).toList, [(toString s.waiting).toList]) := by
  obtain ⟨-, -, -, -, -, hwriting, hwaiting⟩ := BasicStatus.forall_mem_counters.mp hdec
  have hlabel : "Waiting: ".toList = 'W' :: "aiting: ".toList := rfl
  have hwriting_label : "Writing: ".toList = 'W' :: "riting: ".toList := rfl
  rw [toList_stubStatus_writing, waiting, counter, hlabel,
    leftmost_word_append_of_not_mem (not_mem_before_writing hdec), hwriting_label]
  generalize (toString s.writing).toList = w at hwriting ⊢
  -- at `Writing` the label's `a` meets `r`
  have hstart : ¬ ('W' :: "aiting: ".toList) <+: 'W' :: ("riting: ".toList ++
      (w ++ (' ' :: ('W' :: "aiting: ".toList ++ ((toString s.waiting).toList ++
      [' ', '\n']))))) := by
    simp [List.cons_prefix_cons]
  have hmid : 'W' ∉ "riting: ".toList ++ w ++ [' '] :=
    List.not_mem_append (List.not_mem_append (by simp) (not_mem_of_isDecimal hwriting rfl))
      (by simp)
  have hrest : "riting: ".toList ++ (w ++ (' ' :: ('W' :: "aiting: ".toList ++
      ((toString s.waiting).toList ++ [' ', '\n'])))) = ("riting: ".toList ++ w ++ [' ']) ++
      ('W' :: "aiting: ".toList ++ ((toString s.waiting).toList ++ [' ', '\n'])) := by
    simp
  rw [List.cons_append, leftmost_cons_of_none (matchHere_word_eq_none hstart), hrest]
  exact leftmost_counter_after _ hmid hwaiting (by simp)

end Page

/-- `parse` reports every counter of the page nginx serves, none of them negative: as printed
below `2^63`, as `0` from there on. -/
lemma parse_stubStatus_reported (s : BasicStatus) (hs : ∀ f ∈ s.counters, 0 ≤ f) :
    parse (stubStatus s) = some s.reported := by
  have hdec : ∀ f ∈ s.counters, IsDecimal (toString f).toList := fun f hf =>
    isDecimal_toString (hs f hf)
  obtain ⟨hact, hacc, hhan, hreq, hrea, hwri, hwai⟩ := BasicStatus.forall_mem_counters.mp hs
  -- each counter is the group its expression finds, read by `Atoi`
  have hactive :
      toInt (findStringSubmatch ac (stubStatus s)) 1 = some (reportedCounter s.active) :=
    toInt_findStringSubmatch_printed (i := 0) (leftmost_ac_stubStatus hdec) (by simp) rfl hact
  have haccepted :
      toInt (findStringSubmatch sahr (stubStatus s)) 1 = some (reportedCounter s.accepted) :=
    toInt_findStringSubmatch_printed (i := 0) (leftmost_sahr_stubStatus hdec) (by simp) rfl hacc
  have hhandled :
      toInt (findStringSubmatch sahr (stubStatus s)) 2 = some (reportedCounter s.handled) :=
    toInt_findStringSubmatch_printed (i := 1) (leftmost_sahr_stubStatus hdec) (by simp) rfl hhan
  have hrequests :
      toInt (findStringSubmatch sahr (stubStatus s)) 3 = some (reportedCounter s.requests) :=
    toInt_findStringSubmatch_printed (i := 2) (leftmost_sahr_stubStatus hdec) (by simp) rfl hreq
  have hreading :
      toInt (findStringSubmatch reading (stubStatus s)) 1 = some (reportedCounter s.reading) :=
    toInt_findStringSubmatch_printed (i := 0) (leftmost_reading_stubStatus hdec) (by simp) rfl
      hrea
  have hwriting :
      toInt (findStringSubmatch writing (stubStatus s)) 1 = some (reportedCounter s.writing) :=
    toInt_findStringSubmatch_printed (i := 0) (leftmost_writing_stubStatus hdec) (by simp) rfl
      hwri
  have hwaiting :
      toInt (findStringSubmatch waiting (stubStatus s)) 1 = some (reportedCounter s.waiting) :=
    toInt_findStringSubmatch_printed (i := 0) (leftmost_waiting_stubStatus hdec) (by simp) rfl
      hwai
  simp only [parse, hactive, haccepted, hhandled, hrequests, hreading, hwriting, hwaiting]
  rfl

example : parse (stubStatus ⟨2 ^ 63, 1, 2, 3, 4, 5, 6⟩) = some ⟨0, 1, 2, 3, 4, 5, 6⟩ := by
  rw [parse_stubStatus_reported _ (by simp [BasicStatus.counters])]
  simp [BasicStatus.reported, reportedCounter]

/-- For all counters in `[0, 2^63)`, `parse` reads back from the page nginx serves exactly the
counters printed on it. -/
theorem parse_stubStatus (s : BasicStatus) (hs : ∀ f ∈ s.counters, 0 ≤ f ∧ f < 2 ^ 63) :
    parse (stubStatus s) = some s := by
  rw [parse_stubStatus_reported s fun f hf => (hs f hf).1,
    BasicStatus.reported_eq_self fun f hf => (hs f hf).2]

theorem parse_stubStatus_collector_test :
    (∀ f ∈ (⟨15, 1, 2, 3, 4, 5, 6⟩ : BasicStatus).counters, 0 ≤ f ∧ f < 2 ^ 63) ∧
      parse (stubStatus ⟨15, 1, 2, 3, 4, 5, 6⟩) = some ⟨15, 1, 2, 3, 4, 5, 6⟩ :=
  have hs : ∀ f ∈ (⟨15, 1, 2, 3, 4, 5, 6⟩ : BasicStatus).counters,
      0 ≤ f ∧ f < 2 ^ 63 := by
    simp [BasicStatus.counters]
  ⟨hs, parse_stubStatus _ hs⟩

end Collectors

end IngressNginx
