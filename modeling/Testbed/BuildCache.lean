import Testbed.StringMap

namespace Testbed

/-!
Images that have been pushed, by the hash of their content. An entry, once made, stays as it is.
-/

/-- Images by content hash. -/
structure BuildCache where
  images : StringMap := .empty
  deriving DecidableEq

namespace BuildCache

/-- The image pushed for a hash. -/
def get? (cache : BuildCache) (hash : String) : Option String :=
  cache.images.get? hash

/-- Records an image unless there is one already, and gives the one that now belongs to the hash. -/
def record (cache : BuildCache) (hash image : String) : String × BuildCache :=
  match cache.get? hash with
  | some existing => (existing, cache)
  | none => (image, ⟨cache.images.insert hash image⟩)

def size (cache : BuildCache) : Nat :=
  cache.images.size

end BuildCache
end Testbed
