import ResearchPlatform.Application.Artifacts
import ResearchPlatform.Application.JobService

/-!
# The stores of a deployment

The repository of the jobs and the store of the artifacts, one call at a time.
-/

namespace ResearchPlatform

open Foundation

/-- The repository and the artifact store of a deployment. -/
structure TenantStores where
  jobs : InMemoryJobRepository := {}
  artifacts : InMemoryArtifactStore := {}

/-- A call of either store, with what is fresh in it. -/
inductive StoreCall where
  | job (call : RepositoryCall) (stamps : Stamps)
  | put (tenantId name : String) (data : List UInt8) (contentType : String)
  | get (tenantId name : String)

def StoreCall.tenant : StoreCall → String
  | job call _ => call.tenant
  | put tenantId .. => tenantId
  | get tenantId _ => tenantId

inductive StoreAnswer where
  | job (answer : Except JobError JobAnswer)
  | stored (answer : Except ArtifactError StoredArtifact)
  | data (answer : Except ArtifactError (List UInt8))

namespace TenantStores

/-- The answer to a `put`. -/
def storing (stores : TenantStores) :
    Except ArtifactError (StoredArtifact × InMemoryArtifactStore) →
      StoreAnswer × TenantStores
  | .ok (stored, artifacts) =>
      (.stored (.ok stored), { stores with artifacts := artifacts })
  | .error error => (.stored (.error error), stores)

/-- The stores, one call at a time. -/
def serve : Service TenantStores StoreCall StoreAnswer := fun stores call =>
  match call with
  | .job call stamps =>
      let (answer, jobs) := JobRepository.inMemory.serve stores.jobs (call, stamps)
      (.job answer, { stores with jobs := jobs })
  | .put tenantId name data contentType =>
      storing stores (stores.artifacts.put tenantId name data contentType)
  | .get tenantId name => (.data (stores.artifacts.get tenantId name), stores)

end TenantStores

end ResearchPlatform
