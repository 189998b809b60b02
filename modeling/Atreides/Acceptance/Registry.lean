import Mathlib.Data.List.Sort
import Atreides.Messaging.Canonical

/-!
# The participant registry

Attested reference data: which institution stands behind which cash account. A registry is
versioned and digested, so that an obligation can name the version it was formed against.

## Main definitions

* `ParticipantRegistry` — one version of the mapping, each account mapped once
* `ParticipantRegistry.digest` — the digest of the version and the sorted entries
* `ParticipantRegistry.institution` — who stands behind an account
-/

namespace Atreides

/-- The checks a registry passes when it is built. -/
def ParticipantRegistry.validate (version : String)
    (entries : List (String × FinancialInstitution)) : Outcome Unit := do
  Outcome.refuseIf (version = "") (.valueError "a participant registry needs a version")
  Outcome.refuseIf (¬ (entries.map Prod.fst).Nodup)
    (.valueError "a participant registry maps each account once")
  Outcome.refuseIf ("" ∈ entries.map Prod.fst)
    (.valueError "a participant registry account id cannot be empty")

/-- One version of the mapping from accounts to institutions. -/
structure ParticipantRegistry where
  version : String
  entries : List (String × FinancialInstitution)
  valid : ParticipantRegistry.validate version entries = .ok ()

/-- What the digest of a registry is taken of: the version, and for each account its
institution's identifier and name. -/
structure RegistryBody where
  version : String
  entries : List (String × String × String)

namespace ParticipantRegistry

/-- The version and the entries in the order of their accounts. -/
def body (registry : ParticipantRegistry) : RegistryBody where
  version := registry.version
  entries := (registry.entries.insertionSort fun a b => a.1 ≤ b.1).map fun entry =>
    (entry.1, entry.2.bicfi, entry.2.name.getD "")

/-- The digest of a registry, by the kernel's canonical bytes of its body. -/
def digest (kernel : Kernel) (canonicalBytesOf : RegistryBody → Bytes)
    (registry : ParticipantRegistry) : String :=
  kernel.digestBytes (canonicalBytesOf registry.body)

/-- Who stands behind an account. -/
def institution (registry : ParticipantRegistry) (accountId : Option String) :
    Option FinancialInstitution := do
  let accountId ← accountId
  let entry ← registry.entries.find? fun entry => entry.1 = accountId
  some entry.2

end ParticipantRegistry

end Atreides
