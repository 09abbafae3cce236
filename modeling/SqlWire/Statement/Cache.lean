import SqlWire.Command
import SqlWire.Reply.Column

/-!
# Prepared statements and their cache

Every prepared statement of a session has an entry under its handle, with the number of references
that were given out and not given back. SQL texts are mapped to entries, at most `capacity` of them;
an entry without a text is detached and leaves with its last reference. When there are too many
texts, the one that was used longest ago leaves, and one that nobody holds before one that somebody
holds.
-/

namespace SqlWire

/-- A statement that the server has prepared. The handle names it on this connection for good; the
id is the server's and changes with the session. -/
structure PreparedStatement where
  handle : UInt32
  id : UInt32
  sql : String
  params : Array Column
  columns : Array Column
  deriving DecidableEq, Repr

def PreparedStatement.execute (s : PreparedStatement) (params : List Value) : Command :=
  .execute s.handle s.id s.sql params

/-- A statement in the cache. -/
structure CacheEntry where
  statement : PreparedStatement
  refCount : Nat
  lastUsed : UInt64
  /-- No text is mapped to the entry; it leaves with its last reference. -/
  detached : Bool
  deriving DecidableEq, Repr

/-- The statements of a session. -/
structure StatementCache where
  enabled : Bool
  capacity : Nat
  entries : List CacheEntry
  bySql : List (String × UInt32)
  nextHandle : UInt32
  tick : UInt64
  deriving DecidableEq, Repr

namespace StatementCache

/-- An empty cache; one without capacity keeps no texts. -/
def new (capacity : Nat) (enabled : Bool) : StatementCache :=
  ⟨enabled && 0 < capacity, capacity, [], [], 1, 0⟩

def entry? (cache : StatementCache) (handle : UInt32) : Option CacheEntry :=
  cache.entries.find? (·.statement.handle == handle)

def modify (cache : StatementCache) (handle : UInt32) (f : CacheEntry → CacheEntry) :
    StatementCache :=
  { cache with
    entries := cache.entries.map fun e => if e.statement.handle == handle then f e else e }

def drop (cache : StatementCache) (handle : UInt32) : StatementCache :=
  { cache with entries := cache.entries.filter (·.statement.handle != handle) }

/-- The statement of a text, held once more. -/
def acquire (cache : StatementCache) (sql : String) :
    Option PreparedStatement × StatementCache :=
  match cache.bySql.lookup sql with
  | none => (none, cache)
  | some handle =>
    let tick := cache.tick + 1
    let cache := { cache with tick }
    match cache.entry? handle with
    | none => (none, cache)
    | some e =>
      (some e.statement,
        cache.modify handle fun e => { e with refCount := e.refCount + 1, lastUsed := tick })

/-- The entry that was used longest ago. -/
def oldest? : List CacheEntry → Option CacheEntry
  | [] => none
  | e :: entries =>
    match oldest? entries with
    | none => some e
    | some f => if f.lastUsed < e.lastUsed then some f else some e

def mapped (cache : StatementCache) : List CacheEntry :=
  cache.bySql.filterMap fun (_, handle) => cache.entry? handle

def victim? (cache : StatementCache) : Option CacheEntry :=
  (oldest? (cache.mapped.filter (·.refCount == 0))).or (oldest? cache.mapped)

/-- Takes away the text of an entry. The entry itself leaves if nobody holds it; then its id is to
be closed. -/
def evict (cache : StatementCache) (e : CacheEntry) : Option UInt32 × StatementCache :=
  let cache := { cache with bySql := cache.bySql.filter (·.1 != e.statement.sql) }
  if e.refCount == 0 then (some e.statement.id, cache.drop e.statement.handle)
  else (none, cache.modify e.statement.handle fun e => { e with detached := true })

/-- Takes texts away until the capacity is kept, at most `n` of them; gives the ids to close. -/
def shrink : Nat → StatementCache → List UInt32 × StatementCache
  | 0, cache => ([], cache)
  | n + 1, cache =>
    if cache.bySql.length ≤ cache.capacity then ([], cache)
    else match cache.victim? with
      | none => ([], cache)
      | some e =>
        let (id, cache) := cache.evict e
        let (ids, cache) := shrink n cache
        (id.toList ++ ids, cache)

def handleAfter (handle : UInt32) : UInt32 := if handle + 1 == 0 then 1 else handle + 1

/-- Adds a statement with one reference. Gives it with its handle, and the ids to close. -/
def insert (cache : StatementCache) (statement : PreparedStatement) :
    PreparedStatement × List UInt32 × StatementCache :=
  let statement := { statement with handle := cache.nextHandle }
  let tick := cache.tick + 1
  let isMapped := cache.enabled && (cache.bySql.lookup statement.sql).isNone
  let cache := cache.drop statement.handle
  let cache :=
    { cache with
      tick
      nextHandle := handleAfter statement.handle
      bySql := if isMapped then cache.bySql ++ [(statement.sql, statement.handle)] else cache.bySql
      entries := cache.entries ++ [⟨statement, 1, tick, !isMapped⟩] }
  if isMapped then (statement, cache.shrink cache.bySql.length)
  else (statement, [], cache)

/-- Gives back one reference. Gives the id to close if the statement left. -/
def release (cache : StatementCache) (handle : UInt32) : Option UInt32 × StatementCache :=
  match cache.entry? handle with
  | none => (none, cache)
  | some e =>
    let left := e.refCount - 1
    if left == 0 && e.detached then (some e.statement.id, cache.drop handle)
    else (none, cache.modify handle fun e => { e with refCount := left })

def serverId? (cache : StatementCache) (handle : UInt32) : Option UInt32 :=
  (cache.entry? handle).map (·.statement.id)

def rebind (cache : StatementCache) (handle id : UInt32) : StatementCache :=
  cache.modify handle fun e => { e with statement := { e.statement with id } }

/-- Drops the entries that nobody holds, and their texts. -/
def forgetUnreferenced (cache : StatementCache) : StatementCache :=
  let entries := cache.entries.filter (0 < ·.refCount)
  { cache with
    entries
    bySql := cache.bySql.filter fun (_, handle) => entries.any (·.statement.handle == handle) }

def referenced (cache : StatementCache) : List PreparedStatement :=
  (cache.entries.filter (0 < ·.refCount)).map (·.statement)

/-- Drops every entry; gives the ids that they had. -/
def clear (cache : StatementCache) : List UInt32 × StatementCache :=
  (cache.entries.map (·.statement.id), { cache with entries := [], bySql := [] })

def size (cache : StatementCache) : Nat := cache.bySql.length

end StatementCache

end SqlWire
