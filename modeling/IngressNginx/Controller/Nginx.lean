import Mathlib.Algebra.Order.Floor.Div
import Mathlib.GroupTheory.GroupAction.Ring
import IngressNginx.Lib.Bits
import IngressNginx.Types

/-!
# Sizing the server-name hash (`nginxHashBucketSize`, `nextPowerOf2`)

NGINX cannot resize the hash of server names, so `generateTemplate` (`nginx.go`) raises
`server_names_hash_bucket_size` to `nginxHashBucketSize` of the longest server name and
`server_names_hash_max_size` to `nextPowerOf2` of the bytes of all host names. Go's `int` is
64 bits wide here (`BitVec 64`, `>>` an arithmetic shift).

`nextPowerOf2` rounds up with the bit trick: `v - 1` smeared by shifts of 1, 2, 4, 8 and 16,
then one more. The shifts spread each bit 31 places down, which fills every bit below the top
one only when the top bit is at most 31 places above the lowest clear bit: every `v` up to
`2 ^ 32` is rounded to the least power of two above it, but `nextPowerOf2 (2 ^ 32 + 1)` is
`2 ^ 33 - 1`. A bucket size is `16` plus the name length rounded up to a multiple of `8`, whose
three low bits are set once one is taken away, so `nginxHashBucketSize` is right while that size
is at most `2 ^ 35` (`nextPowerOf2_rounds_up_to_2_pow_32`).
-/

namespace IngressNginx

/-- `nextPowerOf2`. -/
def nextPowerOf2 (v : BitVec 64) : BitVec 64 :=
  let v := v - 1
  let v := v ||| v.sshiftRight 1
  let v := v ||| v.sshiftRight 2
  let v := v ||| v.sshiftRight 4
  let v := v ||| v.sshiftRight 8
  let v := v ||| v.sshiftRight 16
  v + 1

/-- `nginxHashBucketSize`: two machine words and the key with its two length bytes, aligned to
a word, rounded up to a power of two. -/
def nginxHashBucketSize (longestString : BitVec 64) : BitVec 64 :=
  let wordSize : BitVec 64 := 8
  let n := longestString + 2
  let aligned := (n + wordSize - 1) &&& ~~~(wordSize - 1)
  let rawSize := wordSize + wordSize + aligned
  nextPowerOf2 rawSize

/-- One server of the loop of `generateTemplate` over the servers: the longest server name so
far, counting `www.` for a redirect and the aliases, and the bytes of the host names. -/
def serverNameStep (acc : ℕ × ℕ) (srv : Server) : ℕ × ℕ :=
  let hostnameLength := Go.len srv.hostname + if srv.redirectFromToWWW then 4 else 0
  let longestName := if acc.1 < hostnameLength then hostnameLength else acc.1
  let longestName := srv.aliases.foldl
    (fun longestName name => if longestName < Go.len name then Go.len name else longestName)
    longestName
  (longestName, acc.2 + hostnameLength)

/-- The sizes of the server-name hash `generateTemplate` writes: the configured ones, each
raised to what the server names need. -/
def serverNameHashSizes (servers : List Server) (bucketSize maxSize : BitVec 64) :
    BitVec 64 × BitVec 64 :=
  let (longestName, serverNameBytes) := servers.foldl serverNameStep (0, 0)
  let nameHashBucketSize := nginxHashBucketSize (BitVec.ofNat 64 longestName)
  let bucketSize := if bucketSize.slt nameHashBucketSize then nameHashBucketSize else bucketSize
  let serverNameHashMaxSize := nextPowerOf2 (BitVec.ofNat 64 serverNameBytes)
  let maxSize := if maxSize.slt serverNameHashMaxSize then serverNameHashMaxSize else maxSize
  (bucketSize, maxSize)

section Smear

variable {x w : ℕ}

/-- On a non-negative `int`, `v |= v >> k` shifts in zeros. -/
lemma toNat_or_sshiftRight {b : BitVec 64} (hb : b.toNat < 2 ^ 63) (k : ℕ) :
    (b ||| b.sshiftRight k).toNat = b.toNat ||| b.toNat >>> k := by
  have hmsb : b.msb = false := BitVec.msb_eq_false_iff_two_mul_lt.mpr (by omega)
  rw [BitVec.sshiftRight_eq_of_msb_false hmsb, BitVec.toNat_or, BitVec.toNat_ushiftRight]

/-- Each line `v |= v >> k` of `nextPowerOf2` doubles the window of the bits it has spread. -/
lemma window_or_sshiftRight {b : BitVec 64} {k : ℕ} (h : Nat.Window x b.toNat k)
    (hx : x < 2 ^ 63) : Nat.Window x (b ||| b.sshiftRight k).toNat (2 * k) := by
  rw [toNat_or_sshiftRight (h.lt_two_pow hx)]
  exact h.or_shiftRight

/-- `nextPowerOf2` of a positive `v` is `2 ^ size (v - 1)`, as long as every bit of `v - 1`
more than 32 places below its top bit is set. -/
lemma nextPowerOf2_toNat {v : BitVec 64} (hv : 1 ≤ v.toNat) (hv' : v.toNat ≤ 2 ^ 63)
    (hlow : ∀ i, i + 32 < Nat.size (v.toNat - 1) → (v.toNat - 1).testBit i = true) :
    (nextPowerOf2 v).toNat = 2 ^ Nat.size (v.toNat - 1) := by
  have hx : v.toNat - 1 < 2 ^ 63 := by omega
  have hsub : (v - 1).toNat = v.toNat - 1 := by
    rw [BitVec.toNat_sub, show (1 : BitVec 64).toNat = 1 from rfl]
    omega
  -- the five lines spread the bits of `v - 1` over windows of 2, 4, 8, 16 and 32 bits
  have h1 : Nat.Window (v.toNat - 1) (v - 1).toNat 1 := by
    rw [hsub]
    exact Nat.window_one _
  have h2 : Nat.Window (v.toNat - 1) _ 2 := window_or_sshiftRight h1 hx
  have h4 : Nat.Window (v.toNat - 1) _ 4 := window_or_sshiftRight h2 hx
  have h8 : Nat.Window (v.toNat - 1) _ 8 := window_or_sshiftRight h4 hx
  have h16 : Nat.Window (v.toNat - 1) _ 16 := window_or_sshiftRight h8 hx
  have h32 : Nat.Window (v.toNat - 1) _ 32 := window_or_sshiftRight h16 hx
  have hall := h32.eq_two_pow_size_sub_one (by omega) hlow
  have hsize : 2 ^ Nat.size (v.toNat - 1) ≤ 2 ^ 63 :=
    Nat.pow_le_pow_right Nat.two_pos (Nat.size_le.mpr hx)
  have hpos : 0 < 2 ^ Nat.size (v.toNat - 1) := Nat.two_pow_pos _
  simp only [nextPowerOf2]
  rw [BitVec.toNat_add, hall, show (1 : BitVec 64).toNat = 1 from rfl]
  omega

/-- A bucket size of `nginxHashBucketSize`: two words and the key with its length bytes,
rounded up to a word. -/
lemma nginxHashBucketSize_toNat {longestString : BitVec 64}
    (h : 16 + 8 * ((longestString.toNat + 2) ⌈/⌉ 8) ≤ 2 ^ 35) :
    (nginxHashBucketSize longestString).toNat =
      2 ^ Nat.size (16 + 8 * ((longestString.toNat + 2) ⌈/⌉ 8) - 1) := by
  have hceil : 8 * ((longestString.toNat + 2) ⌈/⌉ 8) = (longestString.toNat + 9) / 8 * 8 := by
    rw [Nat.ceilDiv_eq_add_pred_div]
    omega
  -- the word alignment masks off the three low bits of `n + 7`
  have haligned : ((longestString + 2 + 8 - 1) &&& ~~~(8 - 1 : BitVec 64)).toNat =
      (longestString.toNat + 9) / 8 * 8 := by
    have hsum : (longestString + 2 + 8 - 1).toNat = longestString.toNat + 9 := by
      simp only [BitVec.toNat_sub, BitVec.toNat_add, show (2 : BitVec 64).toNat = 2 from rfl,
        show (8 : BitVec 64).toNat = 8 from rfl, show (1 : BitVec 64).toNat = 1 from rfl]
      omega
    rw [BitVec.toNat_and, BitVec.toNat_not, hsum,
      show (8 - 1 : BitVec 64).toNat = 2 ^ 3 - 1 from rfl]
    exact Nat.land_two_pow_sub_two_pow (by omega) (by omega)
  have hraw : (8 + 8 + ((longestString + 2 + 8 - 1) &&& ~~~(8 - 1 : BitVec 64)) : BitVec 64).toNat =
      16 + 8 * ((longestString.toNat + 2) ⌈/⌉ 8) := by
    rw [BitVec.toNat_add, haligned, show (8 + 8 : BitVec 64).toNat = 16 from rfl, hceil]
    omega
  -- `rawSize - 1` ends in three set bits, the bits the smearing does not reach
  have hlow : ∀ i, i + 32 < Nat.size (16 + 8 * ((longestString.toNat + 2) ⌈/⌉ 8) - 1) →
      (16 + 8 * ((longestString.toNat + 2) ⌈/⌉ 8) - 1).testBit i = true := by
    intro i hi
    have hsize := Nat.size_le.mpr
      (show 16 + 8 * ((longestString.toNat + 2) ⌈/⌉ 8) - 1 < 2 ^ 35 by omega)
    have hmod : (16 + 8 * ((longestString.toNat + 2) ⌈/⌉ 8) - 1) % 2 ^ 3 = 7 := by omega
    have hbit := Nat.testBit_mod_two_pow (16 + 8 * ((longestString.toNat + 2) ⌈/⌉ 8) - 1) 3 i
    rw [hmod, show decide (i < 3) = true from decide_eq_true (by omega), Bool.true_and] at hbit
    rw [← hbit]
    rcases (show i = 0 ∨ i = 1 ∨ i = 2 by omega) with rfl | rfl | rfl <;> rfl
  unfold nginxHashBucketSize
  dsimp only
  rw [nextPowerOf2_toNat (by rw [hraw]; omega) (by rw [hraw]; omega) (by rw [hraw]; exact hlow),
    hraw]

/-- A setting raised to a value, as `generateTemplate` raises the configured sizes, is at least
that value. -/
lemma toInt_le_raise (setting v : BitVec 64) :
    v.toInt ≤ (if setting.slt v then v else setting).toInt := by
  split_ifs with hlt
  · exact le_refl _
  · rw [BitVec.slt_iff_toInt_lt] at hlt
    omega

/-- `generateTemplate` writes sizes no smaller than those the server names need. -/
lemma serverNameHashSizes_ge (servers : List Server) (bucketSize maxSize : BitVec 64) :
    (nginxHashBucketSize (.ofNat 64 (servers.foldl serverNameStep (0, 0)).1)).toInt ≤
        (serverNameHashSizes servers bucketSize maxSize).1.toInt ∧
      (nextPowerOf2 (.ofNat 64 (servers.foldl serverNameStep (0, 0)).2)).toInt ≤
        (serverNameHashSizes servers bucketSize maxSize).2.toInt := by
  unfold serverNameHashSizes
  exact ⟨toInt_le_raise _ _, toInt_le_raise _ _⟩

end Smear

/-- For every `int` from `1` to `2 ^ 32`, `nextPowerOf2` is the least power of two at or above
it; for every name length whose raw bucket size `16 + 8 * ceil((n + 2) / 8)` is at most
`2 ^ 35`, `nginxHashBucketSize` is the least power of two at or above that size; and
`generateTemplate` writes server-name hash sizes no smaller than these two values. -/
theorem nextPowerOf2_rounds_up_to_2_pow_32 :
    (∀ v : BitVec 64, 1 ≤ v.toNat → v.toNat ≤ 2 ^ 32 →
      IsLeast {p | (∃ k, p = 2 ^ k) ∧ v.toNat ≤ p} (nextPowerOf2 v).toNat) ∧
    (∀ longestString : BitVec 64, 16 + 8 * ((longestString.toNat + 2) ⌈/⌉ 8) ≤ 2 ^ 35 →
      IsLeast {p | (∃ k, p = 2 ^ k) ∧ 16 + 8 * ((longestString.toNat + 2) ⌈/⌉ 8) ≤ p}
        (nginxHashBucketSize longestString).toNat) ∧
    ∀ (servers : List Server) (bucketSize maxSize : BitVec 64),
      (nginxHashBucketSize (.ofNat 64 (servers.foldl serverNameStep (0, 0)).1)).toInt ≤
          (serverNameHashSizes servers bucketSize maxSize).1.toInt ∧
        (nextPowerOf2 (.ofNat 64 (servers.foldl serverNameStep (0, 0)).2)).toInt ≤
          (serverNameHashSizes servers bucketSize maxSize).2.toInt := by
  refine ⟨fun v hv hv' => ?_, fun longestString h => ?_, serverNameHashSizes_ge⟩
  · -- below `2 ^ 32` the window of 32 bits reaches every bit
    have hsize : Nat.size (v.toNat - 1) ≤ 32 := Nat.size_le.mpr (by omega)
    rw [nextPowerOf2_toNat hv (by omega) (fun i hi => absurd hi (by omega))]
    have hleast := Nat.isLeast_two_pow_size (v.toNat - 1)
    rwa [Nat.sub_add_cancel hv] at hleast
  · rw [nginxHashBucketSize_toNat h]
    have hleast := Nat.isLeast_two_pow_size (16 + 8 * ((longestString.toNat + 2) ⌈/⌉ 8) - 1)
    rwa [Nat.sub_add_cancel (by omega)] at hleast

/-- `nextPowerOf2 (2 ^ 32 + 1)` is `2 ^ 33 - 1`, where the least power of two is `2 ^ 33`; and
the bucket size of a name of `2 ^ 35 - 10` bytes, whose raw size is `2 ^ 35 + 8`, is
`2 ^ 36 - 8`, where it is `2 ^ 36`. -/
theorem nextPowerOf2_misses_above_2_pow_32 :
    (nextPowerOf2 (.ofNat 64 (2 ^ 32 + 1))).toNat = 2 ^ 33 - 1 ∧
      IsLeast {p | (∃ k, p = 2 ^ k) ∧ 2 ^ 32 + 1 ≤ p} (2 ^ 33) ∧
      (nginxHashBucketSize (.ofNat 64 (2 ^ 35 - 10))).toNat = 2 ^ 36 - 8 ∧
      IsLeast {p | (∃ k, p = 2 ^ k) ∧ 16 + 8 * ((2 ^ 35 - 10 + 2) ⌈/⌉ 8) ≤ p}
        (2 ^ 36) := by
  refine ⟨by decide, Nat.isLeast_two_pow_succ (by omega) (by omega), by decide,
    Nat.isLeast_two_pow_succ ?_ ?_⟩
  · rw [Nat.ceilDiv_eq_add_pred_div]
    omega
  · rw [Nat.ceilDiv_eq_add_pred_div]
    omega

end IngressNginx
