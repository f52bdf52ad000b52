import MessageBus.Catalog
import MessageBus.Table

/-! A cache of message types, by name and by number. Each index keeps a row for a bounded time and
holds a bounded number of rows; when it is full a new row takes the place of the oldest one. -/
namespace MessageBus

structure CacheSettings where
  /-- How long a row is kept. -/
  ttl : Duration
  /-- The number of rows in each index. -/
  capacity : Nat
  deriving DecidableEq

def CacheSettings.default : CacheSettings := ⟨.ofSecs 300, 1024⟩

structure CacheEntry where
  row : MessageType
  inserted : Instant
  deriving DecidableEq

/-- Younger than the time for which rows are kept. After a clock has gone back an entry may come
from the future; it is fresh. -/
def CacheEntry.isFresh (e : CacheEntry) (ttl : Duration) (now : Instant) : Bool :=
  now.since e.inserted < ttl.nanos

/-- One way into a cache. -/
abbrev CacheIndex (κ : Type) := Table κ CacheEntry

namespace CacheIndex
variable {κ : Type} [DecidableEq κ]

/-- The fresh row under a key. An entry that is no longer fresh is dropped. -/
def get (index : CacheIndex κ) (ttl : Duration) (key : κ) (now : Instant) :
    Option MessageType × CacheIndex κ :=
  match Table.get? index key with
  | none => (none, index)
  | some entry =>
    if entry.isFresh ttl now then (some entry.row, index) else (none, Table.erase index key)

/-- The key of the oldest entry; of several the first. -/
def oldest? : List (κ × CacheEntry) → Option (κ × CacheEntry)
  | [] => none
  | (key, entry) :: rest =>
    match oldest? rest with
    | some (k, e) => if e.inserted < entry.inserted then some (k, e) else some (key, entry)
    | none => some (key, entry)

/-- Whether `key` can be set without making the index larger than `capacity`. -/
def hasRoom (index : CacheIndex κ) (capacity : Nat) (key : κ) : Bool :=
  Table.contains index key || Table.size index < capacity

def dropOldest (index : CacheIndex κ) : CacheIndex κ :=
  match oldest? index.rows with
  | some (key, _) => Table.erase index key
  | none => index

/-- Sets a row. In an index without room the entries that are no longer fresh go first, and if that
is not enough the oldest one goes. -/
def set (index : CacheIndex κ) (settings : CacheSettings) (key : κ) (row : MessageType)
    (now : Instant) : CacheIndex κ :=
  if settings.capacity = 0 then index
  else
    let fresh :=
      if index.hasRoom settings.capacity key then index
      else Table.filter index fun _ entry => entry.isFresh settings.ttl now
    let room := if fresh.hasRoom settings.capacity key then fresh else fresh.dropOldest
    Table.insert room key ⟨row, now⟩

end CacheIndex

/-- Two indexes of the same rows, and how often they were asked. The counts are exact: counters of 64
bits hold them modulo `2 ^ 64`. That these begin anew there is left out, since no answer and no entry
depends on the counts. -/
structure Cache where
  settings : CacheSettings
  byName : CacheIndex String
  byId : CacheIndex MessageTypeId
  /-- Lookups that were answered. -/
  hits : Nat
  /-- Lookups that were not. -/
  misses : Nat

namespace Cache

def empty (settings : CacheSettings) : Cache where
  settings := settings
  byName := .empty
  byId := .empty
  hits := 0
  misses := 0

instance : Inhabited Cache := ⟨empty .default⟩

def count (c : Cache) (hit : Bool) : Cache :=
  if hit then { c with hits := c.hits + 1 } else { c with misses := c.misses + 1 }

def lookupName (c : Cache) (name : String) (now : Instant) : Option MessageType × Cache :=
  let (row, byName) := c.byName.get c.settings.ttl name now
  (row, { c with byName }.count row.isSome)

def lookupId (c : Cache) (id : MessageTypeId) (now : Instant) : Option MessageType × Cache :=
  let (row, byId) := c.byId.get c.settings.ttl id now
  (row, { c with byId }.count row.isSome)

/-- Takes a row into both indexes. -/
def remember (c : Cache) (row : MessageType) (now : Instant) : Cache :=
  { c with
    byName := c.byName.set c.settings row.name row now
    byId := c.byId.set c.settings row.id row now }

/-- Drops a name, and the number that it stands for. -/
def invalidate (c : Cache) (name : String) : Cache :=
  match Table.get? c.byName name with
  | some entry =>
    { c with byName := Table.erase c.byName name, byId := Table.erase c.byId entry.row.id }
  | none => c

def clear (c : Cache) : Cache :=
  { c with byName := .empty, byId := .empty }

/-- The number of names. -/
def entries (c : Cache) : Nat := Table.size c.byName

/-- The counts with the names under which they are reported. -/
def counts (c : Cache) : List (String × Nat) :=
  [("hits", c.hits), ("misses", c.misses), ("entries", c.entries)]

end Cache
end MessageBus
