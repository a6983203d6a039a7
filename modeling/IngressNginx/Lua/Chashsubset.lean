import Mathlib.Algebra.Order.Floor.Div
import IngressNginx.Lib.Chunks
import IngressNginx.Lua.Balancer
import IngressNginx.Annotations.Upstreamhashby

/-!
# The subsets of `chashsubset`

`build_subset_map` (`balancer/chashsubset.lua`) cuts the endpoints of a backend into
`ceil(n / s)` subsets of `s` endpoints each, `s` the `upstream-hash-by-subset-size` that
`upstreamhashby.Parse` read. When the endpoints do not fill the last subset it appends
endpoints from the first on, reading the list it is growing: past the end of the original
list it starts over, so the endpoints are read cyclically (`List.cycleTake`).

For every positive size, the subsets are `ceil(n / s)`, each of `s` endpoints, and read in
order they are the endpoints followed by the first `ceil(n / s) * s - n` of them read
cyclically (`buildSubsetMap_layout`): every endpoint is in a subset and no subset is empty.
The padding is the first `ceil(n / s) * s - n` endpoints themselves only when there are that
many: one endpoint with the default size `3` fills its subset with three copies of itself
(`buildSubsetMap_pads_single_endpoint`).
-/

namespace IngressNginx

/-- `build_subset_map` for a positive size: the chunks of `s` endpoints of the endpoints read
cyclically up to `ceil(n / s) * s`. -/
lemma buildSubsetMap_of_pos {size : Int} (hpos : 0 < size) (endpoints : List Endpoint) :
    buildSubsetMap endpoints (some size) =
      some ((List.range (endpoints.length ⌈/⌉ size.toNat)).map fun i =>
        ((endpoints.cycleTake (endpoints.length ⌈/⌉ size.toNat * size.toNat)).drop
          (i * size.toNat)).take size.toNat) := by
  simp [buildSubsetMap, not_le.mpr hpos, List.cycleTake, Nat.ceilDiv_eq_add_pred_div]

section Layout

variable {n s : Nat}

/-- `ceil(n / s)` subsets of `s` hold the `n` endpoints. -/
lemma le_ceilDiv_mul (hs : 0 < s) (n : Nat) : n ≤ n ⌈/⌉ s * s := by
  rw [Nat.mul_comm, ← ceilDiv_le_iff_le_mul hs]

end Layout

/-- For every backend whose subset size comes from `upstreamhashby.Parse` and is positive, and
every non-empty list of `n` endpoints, `build_subset_map` makes `ceil(n / s)` subsets of `s`
endpoints each; read in order they are the endpoints followed by the first
`ceil(n / s) * s - n` endpoints read cyclically, so every endpoint is in a subset and no
subset is empty. -/
theorem buildSubsetMap_layout (annotationsPrefix : String) (ing : Networking.Ingress)
    (backend : Backend)
    (hsize : backend.upstreamHashBy.upstreamHashBySubsetSize =
      (Upstreamhashby.parse annotationsPrefix ing).upstreamHashBySubsetSize)
    (hpos : 0 < (Upstreamhashby.parse annotationsPrefix ing).upstreamHashBySubsetSize)
    (hne : backend.luaEndpoints ≠ []) :
    ∃ subsets, buildSubsetMap backend.luaEndpoints backend.luaSubsetSize = some subsets ∧
      subsets.length = backend.luaEndpoints.length ⌈/⌉ backend.upstreamHashBy.upstreamHashBySubsetSize.toNat ∧
      (∀ subset ∈ subsets, subset.length = backend.upstreamHashBy.upstreamHashBySubsetSize.toNat) ∧
      subsets.flatten = backend.luaEndpoints ++ backend.luaEndpoints.cycleTake
        (backend.luaEndpoints.length ⌈/⌉ backend.upstreamHashBy.upstreamHashBySubsetSize.toNat *
          backend.upstreamHashBy.upstreamHashBySubsetSize.toNat - backend.luaEndpoints.length) ∧
      (∀ endpoint ∈ backend.luaEndpoints, ∃ subset ∈ subsets, endpoint ∈ subset) ∧
      ∀ subset ∈ subsets, subset ≠ [] := by
  set endpoints := backend.luaEndpoints
  set size := backend.upstreamHashBy.upstreamHashBySubsetSize
  have hsizepos : 0 < size := hsize ▸ hpos
  have hs : 0 < size.toNat := Int.lt_toNat.mpr hsizepos
  have hlua : backend.luaSubsetSize = some size := by
    simp [Backend.luaSubsetSize, size, ne_of_gt hsizepos]
  set c := endpoints.length ⌈/⌉ size.toNat
  -- the endpoints read cyclically are the endpoints and the padding after them
  have hcover : endpoints.length ≤ c * size.toNat := le_ceilDiv_mul hs _
  have hpadded : endpoints.cycleTake (c * size.toNat) =
      endpoints ++ endpoints.cycleTake (c * size.toNat - endpoints.length) := by
    rw [← List.cycleTake_length_add, Nat.add_sub_cancel' hcover]
  have hlen : (endpoints.cycleTake (c * size.toNat)).length = c * size.toNat :=
    List.length_cycleTake hne _
  -- every subset lies in the padded list
  have hchunk : ∀ subset ∈ (List.range c).map (fun i =>
      ((endpoints.cycleTake (c * size.toNat)).drop (i * size.toNat)).take size.toNat),
      subset.length = size.toNat := by
    intro subset hmem
    obtain ⟨i, hi, rfl⟩ := List.mem_map.mp hmem
    apply List.length_drop_take
    rw [hlen]
    exact Nat.mul_le_mul_right _ (List.mem_range.mp hi)
  have hflat : ((List.range c).map fun i =>
      ((endpoints.cycleTake (c * size.toNat)).drop (i * size.toNat)).take size.toNat).flatten =
      endpoints ++ endpoints.cycleTake (c * size.toNat - endpoints.length) := by
    rw [List.flatten_map_range_drop_take, List.take_of_length_le hlen.le, hpadded]
  refine ⟨_, by rw [hlua, buildSubsetMap_of_pos hsizepos], by rw [List.length_map, List.length_range],
    hchunk, hflat, fun endpoint hmem => ?_, fun subset hmem hnil => ?_⟩
  · have hin : endpoint ∈ ((List.range c).map fun i =>
        ((endpoints.cycleTake (c * size.toNat)).drop (i * size.toNat)).take size.toNat).flatten := by
      rw [hflat]
      exact List.mem_append_left _ hmem
    exact List.mem_flatten.mp hin
  · have hzero := hchunk subset hmem
    rw [hnil, List.length_nil] at hzero
    omega

/-- A backend hashing to subsets by `$request_uri`, at the size `Parse` gives an ingress without
the size annotation, with the one endpoint `10.0.0.1:8080`. -/
def singleEndpointBackend : Backend :=
  { (default : Backend) with
    endpoints := some [⟨"10.0.0.1", "8080", none⟩]
    upstreamHashBy := ⟨"$request_uri", true, Upstreamhashby.defaultSubsetSize⟩ }

/-- The same backend with the four endpoints `10.0.0.1` to `10.0.0.4`, port `8080`: two
subsets at the default size, the second padded with the first two endpoints. -/
def fourEndpointBackend : Backend :=
  { singleEndpointBackend with
    endpoints := some [⟨"10.0.0.1", "8080", none⟩, ⟨"10.0.0.2", "8080", none⟩,
      ⟨"10.0.0.3", "8080", none⟩, ⟨"10.0.0.4", "8080", none⟩] }

theorem buildSubsetMap_layout_four_endpoints :
    fourEndpointBackend.upstreamHashBy.upstreamHashBySubsetSize =
        (Upstreamhashby.parse Parser.defaultAnnotationsPrefix default).upstreamHashBySubsetSize ∧
      0 < (Upstreamhashby.parse Parser.defaultAnnotationsPrefix default).upstreamHashBySubsetSize ∧
      fourEndpointBackend.luaEndpoints ≠ [] ∧
      ∃ subsets, buildSubsetMap fourEndpointBackend.luaEndpoints
          fourEndpointBackend.luaSubsetSize = some subsets ∧
        subsets.length = fourEndpointBackend.luaEndpoints.length ⌈/⌉
          fourEndpointBackend.upstreamHashBy.upstreamHashBySubsetSize.toNat ∧
        (∀ subset ∈ subsets,
          subset.length = fourEndpointBackend.upstreamHashBy.upstreamHashBySubsetSize.toNat) ∧
        subsets.flatten = fourEndpointBackend.luaEndpoints ++
          fourEndpointBackend.luaEndpoints.cycleTake
            (fourEndpointBackend.luaEndpoints.length ⌈/⌉
                fourEndpointBackend.upstreamHashBy.upstreamHashBySubsetSize.toNat *
              fourEndpointBackend.upstreamHashBy.upstreamHashBySubsetSize.toNat -
              fourEndpointBackend.luaEndpoints.length) ∧
        (∀ endpoint ∈ fourEndpointBackend.luaEndpoints, ∃ subset ∈ subsets, endpoint ∈ subset) ∧
        ∀ subset ∈ subsets, subset ≠ [] := by
  have hsize : fourEndpointBackend.upstreamHashBy.upstreamHashBySubsetSize =
      (Upstreamhashby.parse Parser.defaultAnnotationsPrefix default).upstreamHashBySubsetSize := by
    decide
  have hpos : 0 <
      (Upstreamhashby.parse Parser.defaultAnnotationsPrefix default).upstreamHashBySubsetSize := by
    decide
  have hne : fourEndpointBackend.luaEndpoints ≠ [] := by
    decide
  exact ⟨hsize, hpos, hne, buildSubsetMap_layout Parser.defaultAnnotationsPrefix default
    fourEndpointBackend hsize hpos hne⟩

/-- One endpoint at the default size fills its subset with three copies of itself, not with
the endpoint list followed by its first `ceil(1 / 3) * 3 - 1 = 2` endpoints, of which there
is one. -/
theorem buildSubsetMap_pads_single_endpoint :
    singleEndpointBackend.upstreamHashBy.upstreamHashBySubsetSize =
        (Upstreamhashby.parse Parser.defaultAnnotationsPrefix default).upstreamHashBySubsetSize ∧
      (buildSubsetMap singleEndpointBackend.luaEndpoints singleEndpointBackend.luaSubsetSize).map
          List.flatten ≠
        some (singleEndpointBackend.luaEndpoints ++ singleEndpointBackend.luaEndpoints.take
          (singleEndpointBackend.luaEndpoints.length ⌈/⌉
              singleEndpointBackend.upstreamHashBy.upstreamHashBySubsetSize.toNat *
            singleEndpointBackend.upstreamHashBy.upstreamHashBySubsetSize.toNat -
            singleEndpointBackend.luaEndpoints.length)) := by
  constructor
  · decide
  · decide

end IngressNginx
