import FleetCompliance.Batch.Run
import FleetCompliance.Batch.Sink
import FleetCompliance.Batch.Store

/-!
# Batches in memory

The adapters of a store whose snapshots go into memory. Reading never fails and every batch is
accepted, so only the policies themselves can keep such a batch from succeeding.
-/

namespace FleetCompliance

/-- **A store as the source of a batch**, with the memory sink as the state. -/
def Store.adapters {m : Type → Type} [Monad m] (s : Store) (newId : m (Identifier .snapshot)) :
    Adapters (StateT MemorySink m) where
  policies := return s.policies
  geographies := return s.geographies
  fleets provider := return s.fleet provider
  submit batch := modify (·.submit batch)
  newId := newId

end FleetCompliance
