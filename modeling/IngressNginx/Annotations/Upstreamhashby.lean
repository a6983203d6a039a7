import IngressNginx.Annotations.Parser

/-!
# Consistent hashing (`upstreamhashby`)

`upstreamhashby.Parse` reads the hash key, whether to hash to subsets, and the size of a
subset. Each reader's error is dropped, so an absent or unreadable annotation is its zero value;
a subset size of `0` becomes `3`. Every other integer, negative ones included, is kept
(`parse_subsetSize_of_get?`): the size is never `0`, but it can be below it.
-/

namespace IngressNginx

namespace Upstreamhashby

/-- The subset size `Parse` uses when the annotation gives none. -/
def defaultSubsetSize : Int := 3

/-- `upstreamhashby.Parse`. -/
def parse (annotationsPrefix : String) (ing : Networking.Ingress) : Config :=
  let upstreamHashBy := (Parser.getStringAnnotation annotationsPrefix "upstream-hash-by" ing).1
  let upstreamHashBySubset :=
    (Parser.getBoolAnnotation annotationsPrefix "upstream-hash-by-subset" ing).1
  let upstreamHashbySubsetSize :=
    (Parser.getIntAnnotation annotationsPrefix "upstream-hash-by-subset-size" ing).1
  let upstreamHashbySubsetSize :=
    if upstreamHashbySubsetSize = 0 then defaultSubsetSize else upstreamHashbySubsetSize
  ⟨upstreamHashBy, upstreamHashBySubset, upstreamHashbySubsetSize⟩

section Size

variable {annotationsPrefix : String} {ing : Networking.Ingress}

/-- An annotation that reads as a nonzero integer is the subset size, whatever its sign. -/
lemma parse_subsetSize_of_get? {val : String} {v : Int}
    (h : ing.annotations.get?
      (Parser.getAnnotationWithPrefix annotationsPrefix "upstream-hash-by-subset-size") = some val)
    (hv : Go.atoi val = some v) (hv0 : v ≠ 0) :
    (parse annotationsPrefix ing).upstreamHashBySubsetSize = v := by
  have hread : Parser.getIntAnnotation annotationsPrefix "upstream-hash-by-subset-size" ing =
      (v, none) :=
    Parser.getAnnotationWith_of_get? h hv
  simp [parse, hread, hv0]

end Size

end Upstreamhashby

end IngressNginx
