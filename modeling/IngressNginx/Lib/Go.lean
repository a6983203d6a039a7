import Mathlib.Algebra.Group.Int.Defs
import Mathlib.Data.List.Sort
import Mathlib.Data.List.AList

/-!
# Go runtime semantics

The parts of the Go language and standard library that a translated program leans on,
stated over Lean's own types so that a shallow embedding can use them by name:

* strings as their sequence of characters (`strings.HasPrefix`, `HasSuffix`, `TrimPrefix`,
  `TrimSuffix`, `len`);
* slices and maps that may be `nil`, which Go distinguishes from empty ones, and maps as
  Mathlib's association lists with their `reflect.DeepEqual`;
* pointers, whose `==` compares identity rather than the value pointed to;
* `sort.SliceStable`, as Mathlib's stable insertion sort.

Nothing here mentions the program being modelled.
-/

namespace Go

/-! ### Strings -/

/-- `strings.HasPrefix s p`. -/
def hasPrefix (s p : String) : Bool := p.toList.isPrefixOf s.toList

/-- `strings.HasSuffix s p`. -/
def hasSuffix (s p : String) : Bool := p.toList.isSuffixOf s.toList

/-- `strings.TrimPrefix s p`: `s` without the leading `p`, or `s` itself. -/
def trimPrefix (s p : String) : String :=
  if hasPrefix s p then String.ofList (s.toList.drop p.length) else s

/-- `strings.TrimSuffix s p`: `s` without the trailing `p`, or `s` itself. -/
def trimSuffix (s p : String) : String :=
  if hasSuffix s p then String.ofList (s.toList.take (s.length - p.length)) else s

/-- `strings.EqualFold` on ASCII text: equal up to the case of ASCII letters. Go also folds
the case of other letters, which DNS names written in ASCII do not contain. -/
def equalFold (s t : String) : Bool := s.toList.map Char.toLower == t.toList.map Char.toLower

/-- Equality up to case is an equivalence. -/
lemma equalFold_equivalence : Equivalence fun s t => equalFold s t = true := by
  simp only [equalFold, beq_iff_eq]
  exact ⟨fun _ => rfl, fun h => h.symm, fun h₁ h₂ => h₁.trans h₂⟩

/-- `strings.Split(s, sep)` for a one-character separator: the pieces between the
separators, one more than there are separators. -/
def split (s : String) (sep : Char) : List String := (s.toList.splitOn sep).map String.ofList

/-- `strings.SplitN(s, sep, n)` for a one-character separator: at most `n` pieces, the last
holding the rest of `s`; none for `n = 0`. -/
def splitN (s : String) (sep : Char) (n : Nat) : List String :=
  let pieces := s.toList.splitOn sep
  if n = 0 then []
  else if pieces.length ≤ n then pieces.map String.ofList
  else (pieces.take (n - 1) ++ [List.intercalate [sep] (pieces.drop (n - 1))]).map String.ofList

/-- A string without the separator is one piece. -/
lemma splitN_of_not_mem {s : String} {sep : Char} {n : Nat} (hs : sep ∉ s.toList) (hn : 0 < n) :
    splitN s sep n = [s] := by
  have hpieces : s.toList.splitOn sep = [s.toList] := by
    apply List.splitOnP_eq_singleton
    intro c hc
    simpa using ne_of_mem_of_not_mem hc hs
  simp [splitN, hpieces, Nat.ne_zero_of_lt hn, Nat.one_le_iff_ne_zero]

/-- A string split in two at a first separator. -/
lemma splitN_two {a b : String} {sep : Char} (ha : sep ∉ a.toList) :
    splitN (a ++ String.singleton sep ++ b) sep 2 = [a, b] := by
  have hpieces : (a ++ String.singleton sep ++ b).toList.splitOn sep =
      a.toList :: b.toList.splitOn sep := by
    simpa using List.splitOn_append_cons_self_of_not_mem ha b.toList
  obtain ⟨rest, hrest⟩ : ∃ rest, b.toList.splitOn sep = rest := ⟨_, rfl⟩
  have hjoin : [sep].intercalate rest = b.toList := hrest ▸ List.intercalate_splitOn sep
  have hne : rest ≠ [] := hrest ▸ List.splitOn_ne_nil sep b.toList
  unfold splitN
  rw [hpieces, hrest]
  -- the rest of `b` is one piece, or several that `SplitN` joins again
  rcases rest with _ | ⟨l, _ | ⟨l', ls⟩⟩
  · exact absurd rfl hne
  · simp only [List.intercalate_singleton] at hjoin
    simp [hjoin]
  · simp [hjoin]

/-- `unicode.IsSpace`: the white space of Latin-1 and the other Unicode space separators. -/
def isSpace (c : Char) : Bool :=
  c ∈ ['\t', '\n', '\x0B', '\x0C', '\r', ' ', '\x85', '\xA0', '\u1680', '\u2028', '\u2029',
    '\u202F', '\u205F', '\u3000'] || ('\u2000' ≤ c && c ≤ '\u200A')

/-- `strings.TrimSpace`: `s` without leading and trailing white space. -/
def trimSpace (s : String) : String :=
  String.ofList ((s.toList.dropWhile isSpace).reverse.dropWhile isSpace).reverse

/-- `strings.FieldsFunc(s, f)`: the maximal runs of characters outside `f`, empty ones left
out. -/
def fieldsFunc (s : String) (f : Char → Bool) : List String :=
  ((s.toList.splitOnP f).filter (!·.isEmpty)).map String.ofList

/-- `len(s)` for a string: its length in bytes. -/
def len (s : String) : Nat := s.utf8ByteSize

/-- `strconv.Atoi(s)`: an optional sign and decimal digits whose value fits in 64 bits;
`none` is the error result. -/
def atoi (s : String) : Option Int :=
  let (neg, ds) : Bool × List Char :=
    match s.toList with
    | '-' :: r => (true, r)
    | '+' :: r => (false, r)
    | r => (false, r)
  if ds.isEmpty || !ds.all Char.isDigit then none
  else
    let n : Nat := ds.foldl (fun acc c => acc * 10 + (c.toNat - '0'.toNat)) 0
    let v : Int := if neg then -n else n
    if -2 ^ 63 ≤ v ∧ v < 2 ^ 63 then some v else none

/-- `strconv.ParseBool(s)`; `none` is the syntax error. -/
def parseBool (s : String) : Option Bool :=
  if s ∈ ["1", "t", "T", "TRUE", "true", "True"] then some true
  else if s ∈ ["0", "f", "F", "FALSE", "false", "False"] then some false
  else none

/-- `net.JoinHostPort(host, port)`: an IPv6 host is bracketed. -/
def joinHostPort (host port : String) : String :=
  if host.toList.contains ':' then "[" ++ host ++ "]:" ++ port else host ++ ":" ++ port

/-- `[]byte(s)`: the UTF-8 encoding of a string. -/
def bytes (s : String) : List UInt8 := s.toList.flatMap String.utf8EncodeChar

/-- The alphabet of `base64.URLEncoding`. -/
def base64URLAlphabet : List Char :=
  "ABCDEFGHIJKLMNOPQRSTUVWXYZabcdefghijklmnopqrstuvwxyz0123456789-_".toList

/-- The character of the low six bits of `n`. -/
def base64URLChar (n : Nat) : Char := base64URLAlphabet.getD (n % 64) 'A'

/-- `base64.URLEncoding.EncodeToString`: every three bytes as four characters, a last group
of one or two bytes padded with `=`. -/
def base64URLEncode : List UInt8 → List Char
  | b₀ :: b₁ :: b₂ :: rest =>
    let n := b₀.toNat * 65536 + b₁.toNat * 256 + b₂.toNat
    [base64URLChar (n / 262144), base64URLChar (n / 4096), base64URLChar (n / 64),
      base64URLChar n] ++ base64URLEncode rest
  | [b₀, b₁] =>
    let n := b₀.toNat * 65536 + b₁.toNat * 256
    [base64URLChar (n / 262144), base64URLChar (n / 4096), base64URLChar (n / 64), '=']
  | [b₀] =>
    let n := b₀.toNat * 65536
    [base64URLChar (n / 262144), base64URLChar (n / 4096), '=', '=']
  | [] => []

example : String.ofList (base64URLEncode (bytes "/foo/")) = "L2Zvby8=" := by decide

@[simp] lemma hasPrefix_iff (s p : String) : hasPrefix s p = true ↔ p.toList <+: s.toList := by
  simp [hasPrefix]

@[simp] lemma hasSuffix_iff (s p : String) : hasSuffix s p = true ↔ p.toList <:+ s.toList := by
  simp [hasSuffix]

/-- A prefix put in front is the prefix `TrimPrefix` takes off. -/
@[simp] lemma trimPrefix_append (p s : String) : trimPrefix (p ++ s) p = s := by
  have hpre : hasPrefix (p ++ s) p = true := by simp
  simp [trimPrefix, hpre, String.length]

/-! ### Numbers -/

lemma foldl_digits_eq_ofDigitChars (ds : List Char) (init : Nat) :
    ds.foldl (fun acc c => acc * 10 + (c.toNat - '0'.toNat)) init =
      Nat.ofDigitChars 10 ds init := by
  rw [Nat.ofDigitChars_eq_foldl]
  congr 1
  funext acc c
  rw [Nat.mul_comm]

/-- `Atoi` reads decimal digits without a sign as their value when it fits in 64 bits, and
fails with a range error when it does not. -/
lemma atoi_ofList_digits {ds : List Char} (hne : ds ≠ []) (hdig : ∀ c ∈ ds, c.isDigit = true) :
    atoi (String.ofList ds) = if (Nat.ofDigitChars 10 ds 0 : Int) < 2 ^ 63
      then some (Nat.ofDigitChars 10 ds 0 : Int) else none := by
  obtain ⟨c, cs, rfl⟩ := List.exists_cons_of_ne_nil hne
  have hc := hdig c List.mem_cons_self
  have hall : (c :: cs).all Char.isDigit = true := List.all_eq_true.mpr hdig
  -- the value has no sign, so only the upper bound of the range can fail
  have hrange : (-2 ^ 63 ≤ (Nat.ofDigitChars 10 (c :: cs) 0 : Int) ∧
      (Nat.ofDigitChars 10 (c :: cs) 0 : Int) < 2 ^ 63) ↔
      (Nat.ofDigitChars 10 (c :: cs) 0 : Int) < 2 ^ 63 := by omega
  -- a digit is no sign
  have hsign : ∀ r, c :: cs ≠ '-' :: r ∧ c :: cs ≠ '+' :: r := by
    intro r
    constructor <;> rintro ⟨⟩ <;> simp at hc
  simp only [atoi, String.toList_ofList]
  split
  · rename_i r h
    exact absurd h (hsign r).1
  · rename_i r h
    exact absurd h (hsign r).2
  · simp only [List.isEmpty_cons, hall, Bool.not_true, Bool.or_false, Bool.false_eq_true,
      if_false, foldl_digits_eq_ofDigitChars, hrange]

/-- `Atoi` reads back what `strconv.Itoa` writes for a number that is not negative, and fails
from `2^63` on. -/
lemma atoi_toString_eq {n : Int} (h0 : 0 ≤ n) :
    atoi (toString n) = if n < 2 ^ 63 then some n else none := by
  obtain ⟨m, rfl⟩ := Int.eq_ofNat_of_zero_le h0
  have hdigits : (toString (m : Int)) = String.ofList (Nat.toDigits 10 m) := rfl
  have hdig : ∀ c ∈ Nat.toDigits 10 m, c.isDigit = true :=
    fun c hc => Nat.isDigit_of_mem_toDigits (by decide) (by decide) hc
  rw [hdigits, atoi_ofList_digits Nat.toDigits_ne_nil hdig, Nat.ofDigitChars_ten_toDigits]

/-- `Atoi` reads back what `strconv.Itoa` writes for a number in `[0, 2^63)`. -/
lemma atoi_toString {n : Int} (h0 : 0 ≤ n) (h1 : n < 2 ^ 63) : atoi (toString n) = some n := by
  rw [atoi_toString_eq h0, if_pos h1]

/-! ### Slices -/

/-- A slice, with `nil` kept apart from the empty slice: `reflect.Value.IsNil` tells them
apart, and so does every comparison built on it. -/
abbrev Slice (α : Type) := Option (List α)

/-- The elements of a slice; a `nil` slice ranges over nothing. -/
def Slice.elems {α : Type} : Slice α → List α
  | none => []
  | some l => l

/-- `append(s, xs...)`: appending nothing returns `s` itself, `nil` included. -/
def append {α : Type} (s : Slice α) (xs : List α) : Slice α :=
  if xs.isEmpty then s else some (s.elems ++ xs)

/-- Overwriting the first element equal to `a` by `b`, as a loop that breaks after
assigning through its element pointer does, changes nothing `f` reads of elements when
`f b = f a`. -/
lemma map_replace {α β : Type} [BEq α] [LawfulBEq α] (f : α → β) {a b : α} (hf : f b = f a)
    (l : List α) : (l.replace a b).map f = l.map f := by
  induction l with
  | nil => rfl
  | cons x l ih =>
    rw [List.replace_cons]
    by_cases hx : a = x
    · subst hx
      simp [hf]
    · simp [beq_false_of_ne hx, ih]

/-! ### Maps -/

/-- `map[κ]ν`: each key at most once, in some order that a `range` must not depend on. -/
abbrev Map (κ ν : Type) := AList (fun _ : κ => ν)

/-- The order of the `range` statements of a program over its maps. Go leaves it
unspecified; here it is any permutation of the keys, chosen per statement `i` of the
program (`ι` names them) and per key list. -/
structure RangeOrder (ι κ : Type) where
  arrange : ι → List κ → List κ
  perm : ∀ i keys, (arrange i keys).Perm keys

/-- The order of the keys as the association list holds them. -/
def RangeOrder.keyOrder {ι κ : Type} : RangeOrder ι κ := ⟨fun _ keys => keys, fun _ _ => .refl _⟩

/-- The order that visits `k` first, then the other keys as the list holds them. -/
def RangeOrder.front {ι κ : Type} [DecidableEq κ] (k : κ) : RangeOrder ι κ :=
  ⟨fun _ keys => if k ∈ keys then k :: keys.erase k else keys, fun _ keys => by
    split_ifs with hk
    · exact (List.perm_cons_erase hk).symm
    · exact .refl _⟩

/-- `for k, v := range m` at statement `i`: the entries in the order `ord` chooses. -/
def Map.range {ι κ ν : Type} [DecidableEq κ] (ord : RangeOrder ι κ) (i : ι) (m : Map κ ν) :
    List (κ × ν) :=
  (ord.arrange i m.keys).filterMap fun k => (m.lookup k).map (k, ·)

/-- What a lookup finds after an assignment `m[k] = v`. -/
lemma Map.lookup_insert_eq_some {κ ν : Type} [DecidableEq κ] {m : Map κ ν} {k k' : κ} {v v' : ν} :
    (m.insert k v).lookup k' = some v' ↔ k' = k ∧ v = v' ∨ k' ≠ k ∧ m.lookup k' = some v' := by
  by_cases hk : k' = k
  · subst hk
    simp [AList.lookup_insert]
  · simp [AList.lookup_insert_ne hk, hk]

section Range

variable {ι κ ν : Type} [DecidableEq κ] {ord : RangeOrder ι κ} {i : ι} {m : Map κ ν}

/-- A `range` visits exactly the entries of the map. -/
@[simp] lemma Map.mem_range {k : κ} {v : ν} : (k, v) ∈ m.range ord i ↔ m.lookup k = some v := by
  simp only [Map.range, List.mem_filterMap, Option.map_eq_some_iff, Prod.mk.injEq]
  constructor
  · rintro ⟨k', -, v', hv', rfl, rfl⟩
    exact hv'
  · intro hv
    have hk : k ∈ m.keys := AList.mem_keys.mp (AList.lookup_isSome.mp (by simp [hv]))
    exact ⟨k, (ord.perm i m.keys).mem_iff.mpr hk, v, hv, rfl, rfl⟩

/-- A `range` visits every key once, in the order `ord` chooses. -/
lemma Map.range_keys : (m.range ord i).map Prod.fst = ord.arrange i m.keys := by
  have hsome : ∀ k ∈ ord.arrange i m.keys, (m.lookup k).isSome := fun k hk =>
    AList.lookup_isSome.mpr (AList.mem_keys.mpr ((ord.perm i m.keys).mem_iff.mp hk))
  simp only [Map.range, List.map_filterMap]
  conv_rhs => rw [← List.filterMap_some (l := ord.arrange i m.keys)]
  refine List.filterMap_congr fun k hk => ?_
  obtain ⟨v, hv⟩ := Option.isSome_iff_exists.mp (hsome k hk)
  simp [hv]

lemma Map.range_keys_nodup : ((m.range ord i).map Prod.fst).Nodup := by
  rw [Map.range_keys]
  exact (ord.perm i m.keys).nodup_iff.mpr m.keys_nodup

lemma Map.length_range : (m.range ord i).length = m.keys.length := by
  rw [← List.length_map Prod.fst, Map.range_keys, (ord.perm i m.keys).length_eq]

/-- A `range` in the order that puts `k` first starts with the entry of `k`. -/
lemma Map.range_front {k : κ} {v : ν} (h : m.lookup k = some v) :
    ∃ rest, m.range (RangeOrder.front k) i = (k, v) :: rest := by
  have hk : k ∈ m.keys := AList.mem_keys.mp (AList.lookup_isSome.mp (by simp [h]))
  have hhead : (m.lookup k).map (k, ·) = some (k, v) := by simp [h]
  simp only [Map.range, RangeOrder.front, if_pos hk]
  exact ⟨_, List.filterMap_cons_some hhead⟩

/-- In the order that puts `k` first, a `range` is the entry of `k` followed by every other
entry of the map, each once. -/
lemma Map.range_front_rest {k : κ} {v : ν} (h : m.lookup k = some v) :
    ∃ rest, m.range (RangeOrder.front k) i = (k, v) :: rest ∧
      (∀ e ∈ rest, m.lookup e.1 = some e.2) ∧
      (∀ k' v', m.lookup k' = some v' → k' ≠ k → k' ∈ rest.map Prod.fst) ∧
      k ∉ rest.map Prod.fst ∧ (rest.map Prod.fst).Nodup ∧ rest.length + 1 = m.keys.length := by
  obtain ⟨rest, hrange⟩ := Map.range_front (i := i) h
  have hnodup : (((k, v) :: rest).map Prod.fst).Nodup := by
    rw [← hrange]
    exact Map.range_keys_nodup
  rw [List.map_cons, List.nodup_cons] at hnodup
  refine ⟨rest, hrange, ?_, ?_, hnodup.1, hnodup.2, ?_⟩
  · rintro ⟨k', v'⟩ he
    apply Map.mem_range.mp
    rw [hrange]
    exact List.mem_cons_of_mem _ he
  · intro k' v' hk' hne
    have hmem : (k', v') ∈ (k, v) :: rest := by
      rw [← hrange]
      exact Map.mem_range.mpr hk'
    rcases List.mem_cons.mp hmem with heq | hmem
    · exact absurd (congrArg Prod.fst heq) hne
    · exact List.mem_map_of_mem hmem
  · have hlen := congrArg List.length hrange
    rw [Map.length_range, List.length_cons] at hlen
    exact hlen.symm

end Range

/-- `reflect.DeepEqual` on two non-`nil` maps of comparable values: the same number of keys,
and every key of the first bound to the same value in the second. -/
def Map.deepEqual {κ ν : Type} [DecidableEq κ] [DecidableEq ν] (m₁ m₂ : Map κ ν) : Bool :=
  m₁.entries.length == m₂.entries.length && m₁.entries.all (fun e => m₂.lookup e.1 == some e.2)

/-- `reflect.DeepEqual` on two maps that may be `nil`. -/
def Map.deepEqualNil {κ ν : Type} [DecidableEq κ] [DecidableEq ν] :
    Option (Map κ ν) → Option (Map κ ν) → Bool
  | none, none => true
  | some m₁, some m₂ => m₁.deepEqual m₂
  | _, _ => false

lemma Map.deepEqual_refl {κ ν : Type} [DecidableEq κ] [DecidableEq ν] (m : Map κ ν) :
    m.deepEqual m = true := by
  simp only [Map.deepEqual, beq_self_eq_true, Bool.true_and, List.all_eq_true, beq_iff_eq]
  intro e he
  exact AList.mem_lookup_iff.mpr he

@[simp] lemma Map.deepEqualNil_refl {κ ν : Type} [DecidableEq κ] [DecidableEq ν]
    (m : Option (Map κ ν)) : Map.deepEqualNil m m = true := by
  cases m with
  | none => rfl
  | some m => exact m.deepEqual_refl

/-! ### Pointers -/

/-- A pointer: the address of a cell and the value stored there. Go's `==` on pointers
compares the address only. -/
structure Ptr (α : Type) where
  addr : Nat
  val : α
deriving DecidableEq, Repr

/-- `p == q` on two possibly `nil` pointers. -/
def Ptr.same {α : Type} : Option (Ptr α) → Option (Ptr α) → Bool
  | none, none => true
  | some p, some q => p.addr == q.addr
  | _, _ => false

@[simp] lemma Ptr.same_refl {α : Type} (p : Option (Ptr α)) : Ptr.same p p = true := by
  cases p <;> simp [Ptr.same]

/-! ### Panics

A function that may panic returns `Option`, `none` being the panic; a loop over a slice in
such a function is `List.foldlM` in `Option`.
-/

section Panics

variable {α β : Type} {f : β → α → Option β} {l : List α}

/-- A loop panics if one of its elements panics whatever the state it is reached in. -/
lemma foldlM_eq_none_of_mem {x : α} (hx : x ∈ l) (hf : ∀ b, f b x = none) (b : β) :
    l.foldlM f b = none := by
  induction l generalizing b with
  | nil => cases hx
  | cons y l ih =>
    rw [List.foldlM_cons]
    rcases List.mem_cons.mp hx with rfl | hx
    · simp [hf]
    · cases h : f b y with
      | none => rfl
      | some b' => exact ih hx b'

/-- An invariant of every step that returns is an invariant of a loop that returns. -/
lemma foldlM_invariant (P : β → Prop)
    (hstep : ∀ b x b', x ∈ l → P b → f b x = some b' → P b') {b b' : β} (hb : P b)
    (h : l.foldlM f b = some b') : P b' := by
  induction l generalizing b with
  | nil => simp_all
  | cons y l ih =>
    rw [List.foldlM_cons] at h
    cases hy : f b y with
    | none => simp [hy] at h
    | some c =>
      rw [hy] at h
      exact ih (fun b x b' hx => hstep b x b' (List.mem_cons_of_mem y hx))
        (hstep b y c List.mem_cons_self hb hy) h

end Panics

/-! ### Loops that collect -/

section Collect

variable {α β γ : Type} {f : β → α → β}

/-- A loop whose every pass appends one value to a part of its state appends the values of
the elements, in order. -/
lemma foldl_append_map (p : β → List γ) (g : α → γ) (hstep : ∀ b x, p (f b x) = p b ++ [g x])
    (l : List α) (b : β) : p (l.foldl f b) = p b ++ l.map g := by
  induction l generalizing b with
  | nil => simp
  | cons x l ih => simp [ih, hstep]

/-- A loop whose every pass appends a list to a part of its state appends the lists of the
elements, in order. -/
lemma foldl_append_flatMap (p : β → List γ) (g : α → List γ) (hstep : ∀ b x, p (f b x) = p b ++ g x)
    (l : List α) (b : β) : p (l.foldl f b) = p b ++ l.flatMap g := by
  induction l generalizing b with
  | nil => simp
  | cons x l ih => simp [ih, hstep]

/-- The one element a filter keeps passes it, and is every element of the list that does. -/
lemma filter_eq_singleton {l : List α} {p : α → Bool} {a : α} (h : l.filter p = [a]) :
    p a = true ∧ ∀ x ∈ l, p x = true → x = a := by
  have hmem : ∀ x, x ∈ l ∧ p x = true ↔ x = a := fun x => by
    rw [← List.mem_filter, h, List.mem_singleton]
  refine ⟨((hmem a).mpr rfl).2, fun x hx hp => (hmem x).mp ⟨hx, hp⟩⟩

/-- What the pass of one element makes true, and every pass keeps, holds after the loop. -/
lemma foldl_of_pass {l : List α} {P : β → Prop} {x : α} (hx : x ∈ l) (hpass : ∀ b, P (f b x))
    (hkeep : ∀ b y, y ∈ l → P b → P (f b y)) (b : β) : P (l.foldl f b) := by
  induction l generalizing b with
  | nil => cases hx
  | cons y l ih =>
    rw [List.foldl_cons]
    rcases List.mem_cons.mp hx with rfl | hx
    · -- the pass of `x` comes first; the later passes keep what it made true
      exact List.foldlRecOn (motive := P) l f (hpass b)
        fun b hb z hz => hkeep b z (List.mem_cons_of_mem x hz) hb
    · exact ih hx (fun b z hz => hkeep b z (List.mem_cons_of_mem y hz)) _

end Collect

/-- A loop over a `range` that writes every entry back under its key, its value changed by
`g`: afterwards each key of the map is bound to its value changed. -/
lemma Map.lookup_foldl_range_insert {ι κ ν β : Type} [DecidableEq κ] {ord : RangeOrder ι κ}
    {i : ι} {m : Map κ ν} {f : β → κ × ν → β} (p : β → Map κ ν) (g : ν → ν)
    (hstep : ∀ b e, p (f b e) = (p b).insert e.1 (g e.2)) {b : β} (hb : p b = m) (k : κ) :
    (p ((m.range ord i).foldl f b)).lookup k = (m.lookup k).map g := by
  cases hk : m.lookup k with
  | none =>
    -- no pass writes `k`, which is no key of the map
    have hb' : (p b).lookup k = none := by rw [hb, hk]
    refine List.foldlRecOn (motive := fun c => (p c).lookup k = none) _ _ hb' ?_
    rintro c hc ⟨k', v'⟩ he
    have hne : k ≠ k' := by
      rintro rfl
      rw [Map.mem_range.mp he] at hk
      cases hk
    rw [hstep, AList.lookup_insert_ne hne, hc]
  | some v =>
    -- the pass of `k` writes its value changed, and the other passes keep it
    refine foldl_of_pass (P := fun c => (p c).lookup k = some (g v)) (Map.mem_range.mpr hk)
      (fun c => by rw [hstep, AList.lookup_insert]) ?_ b
    rintro c ⟨k', v'⟩ he hc
    rw [hstep]
    by_cases hkk : k = k'
    · subst hkk
      rw [Map.mem_range.mp he] at hk
      cases hk
      exact AList.lookup_insert _
    · rw [AList.lookup_insert_ne hkk, hc]

/-! ### Loops that return

A loop whose body may `return` from the enclosing function, and the loop that calls it:
each body ends by going on to the next element or by returning a value, and the loop
stops at the first return.
-/

/-- How one pass of a loop body ends. -/
inductive Flow (β : Type) where
  | next
  | ret (b : β)
deriving DecidableEq, Repr

/-- What the function returns after the loop: the returned value, or `d` when the loop
ran to its end and the function falls through to `return d`. -/
def Flow.getD {β : Type} (d : β) : Flow β → β
  | .next => d
  | .ret b => b

/-- `for _, x := range xs { body }` in a function that may panic (`none`). -/
def Flow.loop {α β : Type} (body : α → Option (Flow β)) : List α → Option (Flow β)
  | [] => some .next
  | x :: xs => do
    match ← body x with
    | .next => Flow.loop body xs
    | .ret b => return .ret b

section Flow

variable {α β : Type} {body : α → Option (Flow β)} {x : α} {xs : List α}

@[simp] lemma Flow.loop_nil : Flow.loop body [] = some .next := rfl

/-- A body that returns ends the loop. -/
lemma Flow.loop_cons_ret {b : β} (h : body x = some (.ret b)) :
    Flow.loop body (x :: xs) = some (.ret b) := by
  simp [Flow.loop, h]

end Flow

/-! ### Sorting -/

/-- `sort.SliceStable(l, less)`: the stable sort of `l` by the strict order `less`. An
element is placed before every later element it is not greater than. -/
def sliceStable {α : Type} (less : α → α → Bool) (l : List α) : List α :=
  l.insertionSort (fun a b => less b a = false)

lemma sliceStable_perm {α : Type} (less : α → α → Bool) (l : List α) :
    (sliceStable less l).Perm l :=
  List.perm_insertionSort _ l

section Keys

variable {α κ : Type} [LinearOrder κ] {key : α → κ} {less : α → α → Bool}

/-- Sorting by a comparison of keys leaves the keys in order. -/
lemma sliceStable_sorted (hless : ∀ a b, less a b = true ↔ key a < key b) (l : List α) :
    ((sliceStable less l).map key).Pairwise (· ≤ ·) := by
  -- the order `insertionSort` is given, `less b a = false`, is `key a ≤ key b`
  have hle : ∀ a b, less b a = false ↔ key a ≤ key b := by
    intro a b
    rw [← not_lt, ← hless, Bool.not_eq_true]
  have : Std.Total (fun a b : α => less b a = false) :=
    ⟨fun a b => by simpa only [hle] using le_total (key a) (key b)⟩
  have : IsTrans α (fun a b : α => less b a = false) :=
    ⟨fun a b c hab hbc => (hle a c).mpr (((hle a b).mp hab).trans ((hle b c).mp hbc))⟩
  rw [List.pairwise_map]
  exact (List.pairwise_insertionSort _ l).imp fun h => (hle _ _).mp h

/-- Two lists sort to the same keys exactly when their keys are permutations of each other. -/
lemma map_sliceStable_eq_iff (hless : ∀ a b, less a b = true ↔ key a < key b)
    {l₁ l₂ : List α} :
    (sliceStable less l₁).map key = (sliceStable less l₂).map key ↔
      (l₁.map key).Perm (l₂.map key) := by
  have h₁ := (sliceStable_perm less l₁).map key
  have h₂ := (sliceStable_perm less l₂).map key
  constructor
  · intro h
    rw [h] at h₁
    exact h₁.symm.trans h₂
  · intro h
    apply List.Perm.eq_of_pairwise (fun a b _ _ hab hba => le_antisymm hab hba)
      (sliceStable_sorted hless l₁) (sliceStable_sorted hless l₂)
    exact h₁.trans (h.trans h₂.symm)

end Keys

end Go
