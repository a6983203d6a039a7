import IngressNginx.Api
import Mathlib.Data.Prod.Lex
import Mathlib.Data.String.Basic
import Mathlib.Data.List.Perm.Basic

/-!
# The status updater

`statusSync.updateStatus` (`internal/ingress/status`) publishes the controller's addresses in
the `Status.LoadBalancer.Ingress` of every ingress: it sorts the new addresses and each
ingress's current ones with `lessLoadBalancerIngress` (by hostname, then IP), compares them
with `ingressSliceEqual`, which looks at the IP and the hostname only, and queues an
`UpdateStatus` call for the ingresses whose addresses differ.

Sorting by the pair (hostname, IP) puts two lists with the same pairs in the same order, so an
ingress is written exactly when its pairs and the new ones differ as multisets
(`updateStatus_queues_iff`): a permutation of the addresses never causes a write, and a real
change is never skipped.
-/

namespace IngressNginx

namespace Status

/-- `apiv1.PortStatus`. -/
structure PortStatus where
  port : Int
  protocol : String
  error : Option String
deriving DecidableEq

/-- `apiv1.LoadBalancerIngress`. -/
structure LoadBalancerIngress where
  ip : String
  hostname : String
  ports : List PortStatus
deriving DecidableEq

/-- An ingress of the lister with the `Status.LoadBalancer.Ingress` it carries. -/
structure StatusIngress where
  ingress : Networking.Ingress
  loadBalancer : List LoadBalancerIngress

/-- `lessLoadBalancerIngress`: by hostname (`strings.Compare`), then by IP. Go compares
strings byte by byte, which is the order of their characters. -/
def lessLoadBalancerIngress (a b : LoadBalancerIngress) : Bool :=
  if a.hostname < b.hostname then true
  else if b.hostname < a.hostname then false
  else a.ip < b.ip

/-- `ingressSliceEqual`: the same length, and at each index the same IP and hostname. -/
def ingressSliceEqual (lhs rhs : List LoadBalancerIngress) : Bool :=
  lhs.length == rhs.length &&
    (lhs.zip rhs).all fun (l, r) => l.ip == r.ip && l.hostname == r.hostname

/-- `updateStatus`: the `runUpdate` calls it queues, each an ingress with the status written
to it. -/
def updateStatus (ings : List StatusIngress) (newIngressPoint : List LoadBalancerIngress) :
    List (StatusIngress × List LoadBalancerIngress) :=
  let newIngressPoint := Go.sliceStable lessLoadBalancerIngress newIngressPoint
  ings.filterMap fun ing =>
    let curIPs := Go.sliceStable lessLoadBalancerIngress ing.loadBalancer
    if ingressSliceEqual curIPs newIngressPoint then none else some (ing, newIngressPoint)

/-! ### What the comparison sees -/

/-- The hostname and the IP of an address, ordered as `lessLoadBalancerIngress` orders them. -/
def addressKey (a : LoadBalancerIngress) : Lex (String × String) := toLex (a.hostname, a.ip)

lemma lessLoadBalancerIngress_iff (a b : LoadBalancerIngress) :
    lessLoadBalancerIngress a b = true ↔ addressKey a < addressKey b := by
  rw [addressKey, addressKey, Prod.Lex.toLex_lt_toLex]
  unfold lessLoadBalancerIngress
  by_cases hlt : a.hostname < b.hostname
  · simp [hlt]
  · by_cases hgt : b.hostname < a.hostname
    · have hne : a.hostname ≠ b.hostname := ne_of_gt hgt
      simp [hlt, hgt, hne]
    · have heq : a.hostname = b.hostname := le_antisymm (not_lt.mp hgt) (not_lt.mp hlt)
      simp [heq]

/-- `ingressSliceEqual` compares the hostnames and IPs of two lists, in order. -/
lemma ingressSliceEqual_iff :
    ∀ lhs rhs : List LoadBalancerIngress,
      ingressSliceEqual lhs rhs = true ↔ lhs.map addressKey = rhs.map addressKey
  | [], [] => by simp [ingressSliceEqual]
  | [], _ :: _ => by simp [ingressSliceEqual]
  | _ :: _, [] => by simp [ingressSliceEqual]
  | l :: lhs, r :: rhs => by
    have ih := ingressSliceEqual_iff lhs rhs
    have hkey : addressKey l = addressKey r ↔ l.ip = r.ip ∧ l.hostname = r.hostname := by
      simp only [addressKey, toLex_inj, Prod.mk.injEq]
      exact and_comm
    simp only [ingressSliceEqual, List.length_cons, Nat.add_right_cancel_iff, List.zip_cons_cons,
      List.all_cons, Bool.and_eq_true, beq_iff_eq] at ih ⊢
    rw [List.map_cons, List.map_cons, List.cons_eq_cons, hkey, ← ih]
    constructor
    · rintro ⟨hlen, ⟨hip, hhost⟩, hall⟩
      exact ⟨⟨hip, hhost⟩, hlen, hall⟩
    · rintro ⟨⟨hip, hhost⟩, hlen, hall⟩
      exact ⟨hlen, ⟨hip, hhost⟩, hall⟩

/-- The sorted lists of two address lists compare equal exactly when their (hostname, IP)
pairs are the same multiset. -/
lemma ingressSliceEqual_sliceStable_iff (l₁ l₂ : List LoadBalancerIngress) :
    ingressSliceEqual (Go.sliceStable lessLoadBalancerIngress l₁)
        (Go.sliceStable lessLoadBalancerIngress l₂) = true ↔
      (l₁.map addressKey).Perm (l₂.map addressKey) := by
  rw [ingressSliceEqual_iff]
  exact Go.map_sliceStable_eq_iff lessLoadBalancerIngress_iff

/-! ### The writes -/

/-- For every ingress of the lister and every new address list, `updateStatus` queues a write
of that ingress exactly when the multiset of (hostname, IP) pairs of its addresses differs
from that of the new list; the status written is the new list, sorted. -/
theorem updateStatus_queues_iff (ings : List StatusIngress)
    (newIngressPoint : List LoadBalancerIngress) {ing : StatusIngress} (hing : ing ∈ ings) :
    ((∃ status, (ing, status) ∈ updateStatus ings newIngressPoint) ↔
        ¬ ((ing.loadBalancer.map fun a => (a.hostname, a.ip)).Perm
          (newIngressPoint.map fun a => (a.hostname, a.ip)))) ∧
      ∀ status, (ing, status) ∈ updateStatus ings newIngressPoint →
        status = Go.sliceStable lessLoadBalancerIngress newIngressPoint := by
  -- the pairs and their `Lex` copies are permutations together
  have hperm : (ing.loadBalancer.map addressKey).Perm (newIngressPoint.map addressKey) ↔
      (ing.loadBalancer.map fun a => (a.hostname, a.ip)).Perm
        (newIngressPoint.map fun a => (a.hostname, a.ip)) := by
    have hcomp : ∀ l : List LoadBalancerIngress,
        l.map addressKey = (l.map fun a => (a.hostname, a.ip)).map toLex := by
      intro l
      simp [addressKey]
    rw [hcomp, hcomp]
    exact List.map_perm_map_iff toLex.injective
  have hmem : ∀ status, (ing, status) ∈ updateStatus ings newIngressPoint ↔
      ingressSliceEqual (Go.sliceStable lessLoadBalancerIngress ing.loadBalancer)
          (Go.sliceStable lessLoadBalancerIngress newIngressPoint) = false ∧
        status = Go.sliceStable lessLoadBalancerIngress newIngressPoint := by
    intro status
    rw [updateStatus, List.mem_filterMap]
    constructor
    · rintro ⟨a, -, ha⟩
      dsimp only at ha
      split_ifs at ha with heq
      cases ha
      exact ⟨by simpa using heq, rfl⟩
    · rintro ⟨hne, rfl⟩
      exact ⟨ing, hing, by simp [hne]⟩
  refine ⟨?_, fun status h => ((hmem status).mp h).2⟩
  rw [← hperm, ← ingressSliceEqual_sliceStable_iff]
  constructor
  · rintro ⟨status, h⟩
    simp [((hmem status).mp h).1]
  · intro h
    exact ⟨_, (hmem _).mpr ⟨by simpa using h, rfl⟩⟩

/-- An ingress published at two addresses, listed the other way round from the controller's. -/
def shopStatusIngress : StatusIngress :=
  ⟨default, [⟨"10.0.0.2", "", []⟩, ⟨"10.0.0.1", "", []⟩]⟩

theorem updateStatus_queues_iff_shop :
    shopStatusIngress ∈ [shopStatusIngress] ∧
      ((∃ status, (shopStatusIngress, status) ∈
          updateStatus [shopStatusIngress] [⟨"10.0.0.1", "", []⟩, ⟨"10.0.0.2", "", []⟩]) ↔
        ¬ ((shopStatusIngress.loadBalancer.map fun a => (a.hostname, a.ip)).Perm
          (([⟨"10.0.0.1", "", []⟩, ⟨"10.0.0.2", "", []⟩] : List LoadBalancerIngress).map
            fun a => (a.hostname, a.ip)))) ∧
      ∀ status, (shopStatusIngress, status) ∈
          updateStatus [shopStatusIngress] [⟨"10.0.0.1", "", []⟩, ⟨"10.0.0.2", "", []⟩] →
        status = Go.sliceStable lessLoadBalancerIngress
          [⟨"10.0.0.1", "", []⟩, ⟨"10.0.0.2", "", []⟩] :=
  ⟨List.mem_singleton_self _, updateStatus_queues_iff [shopStatusIngress]
    [⟨"10.0.0.1", "", []⟩, ⟨"10.0.0.2", "", []⟩] (List.mem_singleton_self _)⟩

end Status

end IngressNginx
