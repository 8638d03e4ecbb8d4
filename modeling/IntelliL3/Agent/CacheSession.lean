import IntelliL3.Core.ObjectStore

/-! # A cache and its store

The caches of `agent/` keep an index in memory and their objects in a store: an
operation works on both, and an exception leaves both as they are then.
-/

namespace IntelliL3

open Lib

/-- A cache, and the store it was built over. -/
structure CacheSession (β η κ : Type) where
  store : UnifiedObjectStore β η
  cache : κ

abbrev CacheM (β η κ : Type) := EStateM PyError (CacheSession β η κ)

namespace CacheSession

variable {β η κ α : Type}

/-- `self._store` -/
def onStore (action : StoreM β η α) : CacheM β η κ α :=
  zoom store (fun self store => { self with store }) action

/-- The fields of the cache itself. -/
def onCache (action : EStateM PyError κ α) : CacheM β η κ α :=
  zoom cache (fun self cache => { self with cache }) action

/-- The body of a constructor, run on the cache being built. -/
def building (cache : κ) (body : CacheM β η κ Unit) : StoreM β η κ := fun store =>
  match body { store, cache } with
  | .ok _ self => .ok self.cache self.store
  | .error e self => .error e self.store

theorem onStore_ok {action : StoreM β η α} {self : CacheSession β η κ} {a : α}
    {store : UnifiedObjectStore β η} (done : action self.store = .ok a store) :
    onStore action self = .ok a { self with store } := by
  rw [onStore, zoom_run, done]

theorem onStore_error {action : StoreM β η α} {self : CacheSession β η κ} {e : PyError}
    {store : UnifiedObjectStore β η} (raised : action self.store = .error e store) :
    onStore action self = .error e { self with store } := by
  rw [onStore, zoom_run, raised]

end CacheSession

end IntelliL3
