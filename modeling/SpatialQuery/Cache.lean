import SpatialQuery.Assoc
import SpatialQuery.Number
import SpatialQuery.Text.Basic

/-!
# A bounded store whose entries expire

Entries are kept in the order of their last use, the oldest first.  Setting a key and finding it count
as uses.  An entry expires a fixed time after it was set, however often it was read.  Setting a new key
in a full store drops the entry whose last use is the oldest.  Readings of the clock are numbers, and
the difference of two whole readings is exact.
-/

set_option autoImplicit false

namespace SpatialQuery

structure Cache.Entry (α : Type) where
  value : α
  setAt : Number

structure Cache (α : Type) where
  maxSize : Nat
  lifetime : Number
  /-- By key, the entry that was used last at the end. -/
  entries : List (Text × Cache.Entry α)
  hits : Nat
  misses : Nat

namespace Cache

variable {α : Type}

def create? (maxSize : Int) (lifetime : Number) : Option (Cache α) :=
  if maxSize < 1 then none else some ⟨maxSize.toNat, lifetime, [], 0, 0⟩

def sizeMessage : String := "max_size must be at least 1"

def size (cache : Cache α) : Nat := cache.entries.length

def Entry.isExpired (entry : Entry α) (lifetime now : Number) : Bool :=
  lifetime.lt (now.sub entry.setAt)

/-- Looks a key up.  An expired entry is dropped, a current one becomes the one used last. -/
def get (key : Text) (now : Number) (cache : Cache α) : Option α × Cache α :=
  match Assoc.get? key cache.entries with
  | none => (none, { cache with misses := cache.misses + 1 })
  | some entry =>
    let others := Assoc.erase key cache.entries
    if entry.isExpired cache.lifetime now then
      (none, { cache with entries := others, misses := cache.misses + 1 })
    else
      (some entry.value, { cache with entries := others ++ [(key, entry)], hits := cache.hits + 1 })

def retained (key : Text) (cache : Cache α) : List (Text × Entry α) :=
  match Assoc.get? key cache.entries with
  | some _ => Assoc.erase key cache.entries
  | none => if cache.maxSize ≤ cache.entries.length then cache.entries.drop 1 else cache.entries

def set (key : Text) (value : α) (now : Number) (cache : Cache α) : Cache α :=
  { cache with entries := cache.retained key ++ [(key, ⟨value, now⟩)] }

def clear (cache : Cache α) : Cache α := { cache with entries := [], hits := 0, misses := 0 }

def hitRate (cache : Cache α) : Float :=
  if cache.hits + cache.misses = 0 then 0
  else Float.ofNat cache.hits / Float.ofNat (cache.hits + cache.misses)

end Cache

end SpatialQuery
