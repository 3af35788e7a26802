import ProtoApi.Model.Format
import ProtoApi.Sha256

namespace ProtoApi

/-!
# Digests of models

The digest of a model is that of its written form without blanks. Tables and sets are ordered, so
that equal models have the same digest.
-/

/-- The digest of a model, marked with the name of the algorithm. -/
def Api.digest (a : Api) : String := "sha256:" ++ Sha256.digest a.toJson.compact

end ProtoApi
