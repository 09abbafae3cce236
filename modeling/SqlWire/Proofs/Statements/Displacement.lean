import SqlWire.Proofs.Statements.Lending
import SqlWire.Proofs.Statements.Order

/-!
# Which text leaves when a new one comes

A cache stamps an entry with a reading of its clock whenever the statement is inserted or acquired.
`Traced` is a cache together with the list of these uses, and `Reached` says what the operations make of
it, with the maps in any order at any time. As long as handles and readings last, a stamp is the place of
the last use in the list (`Clocked`), so no two stamps are the same.

Hence a new text takes the place of at most one other, and this is the one that was used longest ago: among
those that nobody holds, or among all if there are none (`displaces_of_reached`). The order of the maps
has no part in it.
-/

namespace SqlWire.StatementCache

variable {cache cache' : StatementCache} {e e' : CacheEntry} {f : CacheEntry → CacheEntry}
  {statement : PreparedStatement} {uses : List UInt32} {handle handle' : UInt32} {n n' : Nat}
  {capacity : Nat} {enabled : Bool}

/-! ## Uses -/

/-- The last use of a statement is the one of this number. -/
def LastUse (uses : List UInt32) (handle : UInt32) (n : Nat) : Prop :=
  uses[n]? = some handle ∧ handle ∉ uses.drop (n + 1)

/-- Since some moment the second statement has been used and the first has not. -/
def UsedBefore (uses : List UInt32) (handle handle' : UInt32) : Prop :=
  ∃ n, handle ∉ uses.drop n ∧ handle' ∈ uses.drop n

namespace LastUse

theorem lt (last : LastUse uses handle n) : n < uses.length :=
  (List.getElem?_eq_some_iff.mp last.1).1

theorem unique (last : LastUse uses handle n) (last' : LastUse uses handle' n) : handle = handle' :=
  Option.some_inj.mp (last.1.symm.trans last'.1)

theorem usedBefore (last : LastUse uses handle n) (last' : LastUse uses handle' n') (lt : n < n') :
    UsedBefore uses handle handle' := by
  refine ⟨n + 1, last.2, List.mem_iff_getElem?.mpr ⟨n' - (n + 1), ?_⟩⟩
  rw [List.getElem?_drop, Nat.add_sub_cancel' lt]
  exact last'.1

theorem new (uses : List UInt32) (handle : UInt32) : LastUse (uses ++ [handle]) handle uses.length := by
  constructor
  · simp
  · rw [List.drop_eq_nil_of_le (by simp)]
    exact List.not_mem_nil

theorem append (last : LastUse uses handle n) (other : handle ≠ handle') :
    LastUse (uses ++ [handle']) handle n := by
  constructor
  · rw [List.getElem?_append_left last.lt]
    exact last.1
  · rw [List.drop_append_of_le_length last.lt, List.mem_append, List.mem_singleton]
    exact not_or.mpr ⟨last.2, other⟩

end LastUse

/-- The stamp of an entry is the number of its last use, counted from one. -/
def Stamped (uses : List UInt32) (e : CacheEntry) : Prop :=
  ∃ n, e.lastUsed.toNat = n + 1 ∧ LastUse uses e.statement.handle n

theorem Stamped.usedBefore (stamped : Stamped uses e) (stamped' : Stamped uses e')
    (lt : e.lastUsed < e'.lastUsed) : UsedBefore uses e.statement.handle e'.statement.handle := by
  obtain ⟨n, stamp, last⟩ := stamped
  obtain ⟨n', stamp', last'⟩ := stamped'
  rw [UInt64.lt_iff_toNat_lt] at lt
  exact last.usedBefore last' (by omega)

/-- An entry that is not used keeps its stamp. -/
theorem Stamped.append (stamped : Stamped uses e) (other : e.statement.handle ≠ handle) :
    Stamped (uses ++ [handle]) e := by
  obtain ⟨n, stamp, last⟩ := stamped
  exact ⟨n, stamp, last.append other⟩

/-- The clock shows the number of uses, and the stamps are right. -/
structure Clocked (uses : List UInt32) (cache : StatementCache) : Prop where
  tick : cache.tick.toNat = uses.length
  stamped : ∀ e ∈ cache.entries, Stamped uses e

/-- What is stamped right was used in turn. -/
theorem inTurn_of_stamped (nodup : cache.handles.Nodup)
    (stamped : ∀ e ∈ cache.entries, Stamped uses e) : InTurn cache.entries := by
  intro e mem e' mem' same
  obtain ⟨n, stamp, last⟩ := stamped e mem
  obtain ⟨n', stamp', last'⟩ := stamped e' mem'
  rw [same, stamp'] at stamp
  obtain rfl : n' = n := by omega
  exact List.inj_on_of_nodup_map nodup mem mem' (last.unique last')

/-! ## What operations make of the stamps -/

/-- Each entry has been there before, with its handle and its stamp. -/
def Inherits (cache cache' : StatementCache) : Prop :=
  cache'.tick = cache.tick ∧ ∀ e' ∈ cache'.entries, ∃ e ∈ cache.entries,
    e'.statement.handle = e.statement.handle ∧ e'.lastUsed = e.lastUsed

namespace Inherits

theorem of_subset (tick : cache'.tick = cache.tick) (fewer : cache'.entries ⊆ cache.entries) :
    Inherits cache cache' :=
  ⟨tick, fun e mem => ⟨e, fewer mem, rfl, rfl⟩⟩

theorem trans {cache'' : StatementCache} (h : Inherits cache cache') (h' : Inherits cache' cache'') :
    Inherits cache cache'' := by
  refine ⟨h'.1.trans h.1, fun e'' mem => ?_⟩
  obtain ⟨e', mem', handle', stamp'⟩ := h'.2 e'' mem
  obtain ⟨e, own, handle, stamp⟩ := h.2 e' mem'
  exact ⟨e, own, handle'.trans handle, stamp'.trans stamp⟩

theorem modify (cache : StatementCache) (handle : UInt32)
    (names : ∀ e, (f e).statement.handle = e.statement.handle)
    (stamps : ∀ e, (f e).lastUsed = e.lastUsed) : Inherits cache (cache.modify handle f) := by
  refine ⟨rfl, fun e' mem => ?_⟩
  obtain ⟨e, own, rfl⟩ := List.mem_map.mp mem
  refine ⟨e, own, ?_⟩
  split
  · exact ⟨names e, stamps e⟩
  · exact ⟨rfl, rfl⟩

theorem drop (cache : StatementCache) (handle : UInt32) : Inherits cache (cache.drop handle) :=
  of_subset rfl (List.filter_subset_self _)

theorem evict (cache : StatementCache) (e : CacheEntry) : Inherits cache (cache.evict e).2 := by
  have fewer : Inherits cache { cache with bySql := cache.bySql.filter (·.1 != e.statement.sql) } :=
    of_subset rfl (List.Subset.refl _)
  unfold StatementCache.evict
  dsimp only
  split
  · exact fewer.trans (drop _ _)
  · exact fewer.trans (modify _ _ (fun _ => rfl) fun _ => rfl)

theorem shrink (n : Nat) (cache : StatementCache) : Inherits cache (cache.shrink n).2 := by
  induction n generalizing cache with
  | zero => exact of_subset rfl (List.Subset.refl _)
  | succ n ih =>
    unfold StatementCache.shrink
    split
    · exact of_subset rfl (List.Subset.refl _)
    · split
      · exact of_subset rfl (List.Subset.refl _)
      · next e _ => exact (evict cache e).trans (ih _)

theorem release (cache : StatementCache) (handle : UInt32) : Inherits cache (cache.release handle).2 := by
  unfold StatementCache.release
  split
  · exact of_subset rfl (List.Subset.refl _)
  · dsimp only
    split
    · exact drop _ _
    · exact modify _ _ (fun _ => rfl) fun _ => rfl

end Inherits

theorem Clocked.inherits (clocked : Clocked uses cache) (inherits : Inherits cache cache') :
    Clocked uses cache' := by
  refine ⟨inherits.1 ▸ clocked.tick, fun e' mem => ?_⟩
  obtain ⟨e, own, handle, stamp⟩ := inherits.2 e' mem
  rw [Stamped, handle, stamp]
  exact clocked.stamped e own

theorem toNat_tick (clocked : Clocked uses cache) (few : uses.length + 1 < UInt64.size) :
    (cache.tick + 1).toNat = uses.length + 1 := by
  rw [UInt64.toNat_add, clocked.tick]
  exact Nat.mod_eq_of_lt few

/-- A statement that is acquired gets a new stamp. -/
theorem Clocked.acquire {sql : String} (clocked : Clocked uses cache) (indexed : cache.Indexed)
    (few : (uses ++ ((cache.acquire sql).1.map (·.handle)).toList).length < UInt64.size) :
    Clocked (uses ++ ((cache.acquire sql).1.map (·.handle)).toList) (cache.acquire sql).2 := by
  unfold StatementCache.acquire at few ⊢
  cases found : cache.bySql.lookup sql with
  | none =>
    dsimp only [Option.map, Option.toList]
    rw [List.append_nil]
    exact clocked
  | some handle =>
    -- A text that is found leads to an entry.
    obtain ⟨before, after, split, -⟩ := List.lookup_eq_some_iff.mp found
    obtain ⟨e, held, -, -⟩ := indexed.entry (split ▸ List.mem_append_right before (.head after))
    have held' : StatementCache.entry? { cache with tick := cache.tick + 1 } handle = some e := held
    simp only [found] at few
    dsimp only at few ⊢
    rw [held'] at few ⊢
    dsimp only [Option.map, Option.toList] at few ⊢
    rw [List.length_append, List.length_singleton] at few
    have own := handle_of_find held
    refine ⟨?_, fun e' mem => ?_⟩
    · rw [List.length_append, List.length_singleton]
      exact toNat_tick clocked few
    · obtain ⟨e₀, mem₀, rfl⟩ := List.mem_map.mp mem
      split
      · next here =>
        refine ⟨uses.length, toNat_tick clocked few, ?_⟩
        rw [own, ← beq_iff_eq.mp here]
        exact .new _ _
      · next other =>
        refine (clocked.stamped e₀ mem₀).append fun same => other ?_
        rw [beq_iff_eq, same, own]

/-! ## A text that comes -/

section

variable (statement) (detached : Bool)

theorem clocked_withNew (clocked : Clocked uses cache) (distinct : cache.Distinct)
    (few : uses.length + 1 < UInt64.size) :
    Clocked (uses ++ [cache.nextHandle]) (cache.withNew statement detached) := by
  refine ⟨?_, fun e mem => ?_⟩
  · rw [List.length_append, List.length_singleton]
    exact toNat_tick clocked few
  · rw [entries_withNew statement detached distinct, List.mem_append, List.mem_singleton] at mem
    rcases mem with mem | rfl
    · exact (clocked.stamped e mem).append (distinct.ne_nextHandle mem)
    · exact ⟨uses.length, toNat_tick clocked few, .new _ _⟩

end

theorem Clocked.insert (clocked : Clocked uses cache) (distinct : cache.Distinct)
    (few : uses.length + 1 < UInt64.size) (statement : PreparedStatement) :
    Clocked (uses ++ [(cache.insert statement).1.handle]) (cache.insert statement).2.2 := by
  have added (detached : Bool) := clocked_withNew statement detached clocked distinct few
  rcases insert_cases cache statement with ⟨_, _, same⟩ | same
  · rw [same]
    exact (added false).inherits (.shrink _ _)
  · rw [same]
    exact added true

/-! ## Caches with their uses -/

/-- A cache, and what has been done with it. -/
structure Traced where
  cache : StatementCache
  /-- The statements that were inserted or acquired, in turn. The clock has ticked once for each. -/
  uses : List UInt32
  /-- How many statements were inserted. -/
  inserted : Nat

/-- What a session does with its cache. -/
inductive Operation where
  | insert (statement : PreparedStatement)
  | acquire (sql : String)
  | release (handle : UInt32)
  | rebind (handle id : UInt32)
  | forgetUnreferenced
  | clear

namespace Traced

def start (capacity : Nat) (enabled : Bool) : Traced := ⟨new capacity enabled, [], 0⟩

def after (t : Traced) : Operation → Traced
  | .insert statement =>
    let (given, _, cache) := t.cache.insert statement
    ⟨cache, t.uses ++ [given.handle], t.inserted + 1⟩
  | .acquire sql =>
    let (given, cache) := t.cache.acquire sql
    { t with cache, uses := t.uses ++ (given.map (·.handle)).toList }
  | .release handle => { t with cache := (t.cache.release handle).2 }
  | .rebind handle id => { t with cache := t.cache.rebind handle id }
  | .forgetUnreferenced => { t with cache := t.cache.forgetUnreferenced }
  | .clear => { t with cache := t.cache.clear.2 }

/-- What operations lead to from a new cache. The maps may have another order at any time. -/
inductive Reached (capacity : Nat) (enabled : Bool) : Traced → Prop where
  | new : Reached capacity enabled (start capacity enabled)
  | after {t : Traced} (operation : Operation) : Reached capacity enabled t →
      Reached capacity enabled (t.after operation)
  | rearranged {t : Traced} {cache : StatementCache} : t.cache.Rearranged cache →
      Reached capacity enabled t → Reached capacity enabled { t with cache }

variable {t : Traced}

/-- What holds of a cache as long as there are handles and readings of the clock. -/
structure Regular (capacity : Nat) (enabled : Bool) (t : Traced) : Prop where
  orderly : Ledger.Orderly capacity enabled t.cache
  distinct : t.cache.Distinct
  next : t.cache.nextHandle.toNat = t.inserted + 1
  clocked : Clocked t.uses t.cache

namespace Regular

theorem start (capacity : Nat) (enabled : Bool) : Regular capacity enabled (start capacity enabled) :=
  ⟨Ledger.orderly_new .., distinct_new .., rfl, rfl, nofun⟩

/-- Entries may leave, or change in ways that play no role here. -/
theorem inherits (regular : Regular capacity enabled t) (orderly : Ledger.Orderly capacity enabled cache)
    (distinct : cache.Distinct) (same : cache.nextHandle = t.cache.nextHandle)
    (inherits : Inherits t.cache cache) : Regular capacity enabled { t with cache } :=
  ⟨orderly, distinct, same ▸ regular.next, regular.clocked.inherits inherits⟩

theorem insert (regular : Regular capacity enabled t) (statement : PreparedStatement)
    (handles : t.inserted + 1 < UInt32.size - 1) (readings : t.uses.length + 1 < UInt64.size) :
    Regular capacity enabled (t.after (.insert statement)) := by
  have room : t.cache.nextHandle.toNat + 1 < UInt32.size := by
    rw [regular.next]
    omega
  obtain ⟨cache₁, added, passes⟩ : ∃ cache₁, Added statement t.cache cache₁ ∧
      Passes (t.cache.insert statement).2.1 cache₁ (t.cache.insert statement).2.2 :=
    passes_insert regular.distinct room
  refine ⟨regular.orderly.insert regular.distinct room statement, passes.distinct, ?_,
    regular.clocked.insert regular.distinct readings statement⟩
  exact (congrArg UInt32.toNat passes.nextHandle).trans
    (added.nextHandle.trans (congrArg (· + 1) regular.next))

theorem acquire (regular : Regular capacity enabled t) (sql : String)
    (readings : (t.after (.acquire sql)).uses.length < UInt64.size) :
    Regular capacity enabled (t.after (.acquire sql)) := by
  have clocked := regular.clocked.acquire regular.orderly.indexed readings
  have orderly := regular.orderly.acquire sql
  cases given : (t.cache.acquire sql).1 with
  | some statement =>
    have counted := (recounted_acquire regular.distinct given).1
    exact ⟨orderly, counted.distinct, counted.nextHandle ▸ regular.next, clocked⟩
  | none =>
    obtain ⟨tick, ticked⟩ := Ledger.acquire_of_none given
    refine ⟨orderly, ?_, ?_, clocked⟩
    · change (t.cache.acquire sql).2.Distinct
      rw [ticked]
      exact ⟨regular.distinct.nodup, regular.distinct.below⟩
    · change (t.cache.acquire sql).2.nextHandle.toNat = _
      rw [ticked]
      exact regular.next

theorem release (regular : Regular capacity enabled t) (handle : UInt32) :
    Regular capacity enabled (t.after (.release handle)) :=
  have counted := recounted_release regular.distinct handle
  regular.inherits (regular.orderly.release handle) counted.distinct counted.nextHandle
    (.release _ _)

theorem rebind (regular : Regular capacity enabled t) (handle id : UInt32) :
    Regular capacity enabled (t.after (.rebind handle id)) := by
  have orderly : Ledger.Orderly capacity enabled (t.cache.rebind handle id) :=
    regular.orderly.of_same (regular.orderly.indexed.rebind handle id) ⟨rfl, rfl, rfl⟩
  have handles : (t.cache.rebind handle id).handles = t.cache.handles := handles_modify fun _ => rfl
  refine regular.inherits orderly ⟨?_, ?_⟩ rfl (.modify _ _ (fun _ => rfl) fun _ => rfl)
  · rw [handles]
    exact regular.distinct.nodup
  · rw [handles]
    exact regular.distinct.below

theorem forgetUnreferenced (regular : Regular capacity enabled t) :
    Regular capacity enabled (t.after .forgetUnreferenced) := by
  have fewer : t.cache.forgetUnreferenced.prepared ⊆ t.cache.prepared :=
    (List.filter_sublist.map _).subset
  refine regular.inherits ⟨?_, regular.orderly.isEnabled, regular.orderly.room, ?_⟩ ⟨?_, ?_⟩ rfl
    (.of_subset rfl (List.filter_subset_self _))
  · exact regular.orderly.indexed.forgetUnreferenced regular.distinct.nodup
  · exact Nat.le_trans (List.length_filter_le _ _) regular.orderly.fits
  · exact regular.distinct.nodup.sublist (List.filter_sublist.map _)
  · exact fun handle mem => regular.distinct.below handle (handles_subset fewer mem)

theorem clear (regular : Regular capacity enabled t) :
    Regular capacity enabled (t.after .clear) :=
  regular.inherits regular.orderly.clear ⟨.nil, nofun⟩ rfl (.of_subset rfl (List.nil_subset _))

theorem rearranged (regular : Regular capacity enabled t) (h : t.cache.Rearranged cache) :
    Regular capacity enabled { t with cache } := by
  refine regular.inherits ⟨?_, ?_, ?_, ?_⟩ (regular.distinct.rearranged h) h.nextHandle
    (.of_subset h.tick h.entries.subset)
  · exact regular.orderly.indexed.rearranged h regular.distinct.nodup
  · exact h.enabled.trans regular.orderly.isEnabled
  · exact h.capacity.trans regular.orderly.room
  · exact h.bySql.length_eq ▸ regular.orderly.fits

/-- One operation keeps it. -/
theorem after (regular : Regular capacity enabled t) (operation : Operation)
    (handles : (t.after operation).inserted < UInt32.size - 1)
    (readings : (t.after operation).uses.length < UInt64.size) :
    Regular capacity enabled (t.after operation) := by
  cases operation with
  | insert statement =>
    have length : (t.after (.insert statement)).uses.length = t.uses.length + 1 := by
      exact List.length_append
    exact regular.insert statement handles (length ▸ readings)
  | acquire sql => exact regular.acquire sql readings
  | release handle => exact regular.release handle
  | rebind handle id => exact regular.rebind handle id
  | forgetUnreferenced => exact regular.forgetUnreferenced
  | clear => exact regular.clear

end Regular

/-- What was done stays done. -/
theorem grows_after (t : Traced) (operation : Operation) :
    t.inserted ≤ (t.after operation).inserted ∧ t.uses.length ≤ (t.after operation).uses.length := by
  cases operation with
  | insert statement => exact ⟨Nat.le_succ _, (List.prefix_append _ _).length_le⟩
  | acquire sql => exact ⟨Nat.le_refl _, (List.prefix_append _ _).length_le⟩
  | release | rebind | forgetUnreferenced | clear => exact ⟨Nat.le_refl _, Nat.le_refl _⟩

theorem Reached.regular (reached : Reached capacity enabled t)
    (handles : t.inserted < UInt32.size - 1) (readings : t.uses.length < UInt64.size) :
    Regular capacity enabled t := by
  induction reached with
  | new => exact .start capacity enabled
  | @after t operation _ ih =>
    obtain ⟨fewer, shorter⟩ := t.grows_after operation
    exact (ih (Nat.lt_of_le_of_lt fewer handles) (Nat.lt_of_le_of_lt shorter readings)).after
      operation handles readings
  | rearranged h _ ih => exact (ih handles readings).rearranged h

end Traced

/-! ## The text that leaves -/

/-- The entry of a list that was used longest ago. -/
structure LongestUnused (uses : List UInt32) (entries : List CacheEntry) (e : CacheEntry) : Prop where
  mem : e ∈ entries
  before : ∀ e' ∈ entries, e' ≠ e → UsedBefore uses e.statement.handle e'.statement.handle

/-- The entry whose text is to leave: the one that was used longest ago, of those that nobody holds or,
where each is held, of all. -/
def Due (uses : List UInt32) (entries : List CacheEntry) (e : CacheEntry) : Prop :=
  LongestUnused uses (entries.filter (·.refCount == 0)) e ∨
    (∀ e' ∈ entries, e'.refCount ≠ 0) ∧ LongestUnused uses entries e

theorem longestUnused_of_oldest? {entries : List CacheEntry} (inTurn : InTurn entries)
    (stamped : ∀ e ∈ entries, Stamped uses e) (oldest : oldest? entries = some e) :
    LongestUnused uses entries e where
  mem := mem_of_oldest? oldest
  before e' mem' other := by
    have mem := mem_of_oldest? oldest
    refine (stamped e mem).usedBefore (stamped e' mem') ?_
    refine UInt64.lt_of_le_of_ne (le_of_oldest? oldest mem') fun same => other ?_
    exact (inTurn e mem e' mem' same).symm

theorem due_of_victim (inTurn : InTurn cache.mapped) (stamped : ∀ e ∈ cache.mapped, Stamped uses e)
    (victim : cache.victim? = some e) : Due uses cache.mapped e := by
  rcases Option.or_eq_some_iff.mp victim with unheld | ⟨none, any⟩
  · refine .inl (longestUnused_of_oldest? (inTurn.of_subset (List.filter_subset_self _)) ?_ unheld)
    exact fun e mem => stamped e (List.mem_filter.mp mem).1
  · refine .inr ⟨fun e' mem free => ?_, longestUnused_of_oldest? inTurn stamped any⟩
    have unheld : e' ∈ cache.mapped.filter (·.refCount == 0) :=
      List.mem_filter.mpr ⟨mem, beq_iff_eq.mpr free⟩
    rw [oldest?_eq_none none] at unheld
    cases unheld

/-- What is used now was not used longest ago. -/
theorem not_usedBefore_last : ¬ UsedBefore (uses ++ [handle]) handle handle' := by
  rintro ⟨n, unused, used⟩
  by_cases behind : n ≤ uses.length
  · rw [List.drop_append_of_le_length behind] at unused
    exact unused (List.mem_append_right _ (.head _))
  · rw [List.drop_eq_nil_of_le (by simp; omega)] at used
    cases used

/-- The newest entry is held, and where it is not the only one it is not due. -/
theorem Due.ne_newest {entries : List CacheEntry} {newest old : CacheEntry}
    (due : Due (uses ++ [newest.statement.handle]) (entries ++ [newest]) e) (held : newest.refCount ≠ 0)
    (mem : old ∈ entries) (other : old ≠ newest) : e ≠ newest := by
  rintro rfl
  rcases due with unheld | ⟨-, longest⟩
  · exact held (beq_iff_eq.mp (List.mem_filter.mp unheld.mem).2)
  · exact not_usedBefore_last (longest.before old (List.mem_append_left _ mem) other)

section

variable (statement)

theorem mapped_withNew (indexed : cache.Indexed) (distinct : cache.Distinct) :
    (cache.withNew statement false).mapped = cache.mapped ++ [cache.newEntry statement false] := by
  have others : (cache.bySql.filterMap fun text =>
      StatementCache.entry? (cache.withNew statement false) text.2) = cache.mapped := by
    refine List.filterMap_congr fun text mem => ?_
    obtain ⟨e, held, -⟩ := indexed.entry mem
    rw [find_withNew_of_find statement false distinct held]
    exact held.symm
  refine List.filterMap_append.trans (congrArg₂ _ others ?_)
  dsimp only [List.filterMap]
  rw [find_withNew statement false distinct, if_pos rfl]

theorem Rearranged.withNew (h : cache.Rearranged cache') (detached : Bool) :
    (cache.withNew statement detached).Rearranged (cache'.withNew statement detached) := by
  refine ⟨h.enabled, h.capacity, ?_, ?_, congrArg handleAfter h.nextHandle, congrArg (· + 1) h.tick⟩
  · have entry : cache'.newEntry statement detached = cache.newEntry statement detached := by
      rw [newEntry, h.nextHandle, h.tick, newEntry]
    refine List.Perm.append ?_ (.of_eq (by rw [entry]))
    rw [h.nextHandle]
    exact (h.drop _).entries
  · unfold StatementCache.withNew
    dsimp only
    rw [h.nextHandle]
    split
    · exact h.bySql
    · exact h.bySql.append_right _

end

theorem shrink_of_fits (fits : cache.bySql.length ≤ cache.capacity) (n : Nat) :
    cache.shrink n = ([], cache) := by
  cases n with
  | zero => rfl
  | succ n => rw [shrink, if_pos fits]

/-- One text leaves. -/
theorem perm_evict (once : (cache.bySql.map Prod.fst).Nodup)
    (mem : (e.statement.sql, handle) ∈ cache.bySql) :
    cache.bySql.Perm ((e.statement.sql, handle) :: (cache.evict e).2.bySql) := by
  have others : cache.bySql.erase (e.statement.sql, handle) =
      cache.bySql.filter (·.1 != e.statement.sql) := by
    rw [(List.Nodup.of_map _ once).erase_eq_filter]
    refine List.filter_congr fun pair own => Bool.eq_iff_iff.mpr ?_
    rw [bne_iff_ne, bne_iff_ne]
    exact not_congr ⟨congrArg Prod.fst, List.inj_on_of_nodup_map once own mem⟩
  rw [bySql_evict, ← others]
  exact List.perm_cons_erase mem

/-- With one text too many, one leaves. -/
theorem shrink_of_victim (indexed : cache.Indexed) (victim : cache.victim? = some e) {n : Nat}
    (excess : cache.bySql.length = cache.capacity + 1) :
    cache.shrink (n + 1) = ((cache.evict e).1.toList, (cache.evict e).2) := by
  have text : (e.statement.sql, e.statement.handle) ∈ cache.bySql :=
    indexed.mapped e (mem_of_find (find_of_victim victim)) (indexed.attached_of_victim victim)
  have fits : (cache.evict e).2.bySql.length ≤ (cache.evict e).2.capacity := by
    have fewer := length_evict text
    rw [limits_evict.2]
    omega
  rw [shrink, if_neg (by omega), victim]
  dsimp only
  rw [shrink_of_fits fits, List.append_nil]

/-- What becomes of a cache when a statement with a new text is inserted, these uses included. -/
structure Displaces (uses : List UInt32) (cache : StatementCache) (statement : PreparedStatement) :
    Prop where
  /-- Below the capacity all texts stay. -/
  room : cache.size < cache.capacity →
    (cache.insert statement).2 = ([], cache.withNew statement false)
  /-- Else one text leaves, which was there before. With it the entry leaves if nobody holds it. -/
  full : cache.capacity ≤ cache.size → ∃ e ∈ cache.mapped,
    e.statement.handle ≠ (cache.insert statement).1.handle ∧
    Due uses (cache.withNew statement false).mapped e ∧
    (cache.withNew statement false).bySql.Perm
      ((e.statement.sql, e.statement.handle) :: (cache.insert statement).2.2.bySql) ∧
    (cache.insert statement).2 = (((cache.withNew statement false).evict e).1.toList,
      ((cache.withNew statement false).evict e).2)
  /-- It is all the same in which order the maps are, before and when a text is to leave. -/
  order : ∀ cache' arranged, cache.Rearranged cache' →
    (cache'.withNew statement false).Rearranged arranged →
      (cache'.insert statement).1 = (cache.insert statement).1 ∧
      arranged.victim? = (cache.withNew statement false).victim? ∧
      (arranged.shrink arranged.size).1 = (cache.insert statement).2.1 ∧
      (cache.insert statement).2.2.Rearranged (arranged.shrink arranged.size).2

namespace Traced

variable {t : Traced}

/-- What is due was there before the new statement came. -/
theorem Regular.mem_mapped_of_due (regular : Regular capacity enabled t)
    (some : t.cache.bySql ≠ [])
    (due : Due (t.uses ++ [t.cache.nextHandle]) (t.cache.withNew statement false).mapped e) :
    e ∈ t.cache.mapped := by
  obtain ⟨orderly, distinct, -, -⟩ := regular
  rw [mapped_withNew statement orderly.indexed distinct] at due
  cases before : t.cache.victim? with
  | none => exact absurd (orderly.indexed.nil_of_victim before) some
  | some old =>
    have mem : old ∈ t.cache.mapped := mem_mapped_of_victim before
    have other : old ≠ t.cache.newEntry statement false := fun same =>
      distinct.ne_nextHandle (mem_of_mapped mem) (same ▸ rfl)
    have own : e ≠ t.cache.newEntry statement false := due.ne_newest nofun mem other
    have among : e ∈ t.cache.mapped ++ [t.cache.newEntry statement false] := by
      rcases due with unheld | ⟨-, longest⟩
      · exact (List.mem_filter.mp unheld.mem).1
      · exact longest.mem
    exact (List.mem_append.mp among).resolve_right fun last => own (List.mem_singleton.mp last)

theorem Regular.displaces (regular : Regular capacity enabled t)
    (readings : t.uses.length + 1 < UInt64.size) (on : t.cache.enabled = true)
    (new : t.cache.bySql.lookup statement.sql = none) :
    Displaces (t.uses ++ [t.cache.nextHandle]) t.cache statement := by
  have ⟨orderly, distinct, _, clocked⟩ := regular
  have indexed := indexed_withNew statement false orderly.indexed distinct fun _ => new
  have nodup := nodup_withNew statement false distinct
  have stamped := (clocked_withNew statement false clocked distinct readings).stamped
  have apart : (t.cache.withNew statement false).Apart := ⟨nodup, inTurn_of_stamped nodup stamped⟩
  have longer : (t.cache.withNew statement false).bySql.length = t.cache.bySql.length + 1 :=
    List.length_append
  have positive : 0 < t.cache.capacity ∧ t.cache.bySql.length ≤ t.cache.capacity := by
    have fits := orderly.fits
    have both := orderly.isEnabled.symm.trans on
    rw [Bool.and_eq_true, decide_eq_true_eq] at both
    rw [orderly.room]
    rw [both.1, if_pos rfl] at fits
    exact ⟨both.2, fits⟩
  have inserted := insert_of_new on new
  refine ⟨fun room => ?_, fun full => ?_, fun cache' arranged h h' => ?_⟩
  · rw [inserted]
    exact shrink_of_fits (longer ▸ room) _
  · -- There is an entry to be taken, since texts were there before.
    have exact : t.cache.bySql.length = t.cache.capacity := Nat.le_antisymm positive.2 full
    cases victim : (t.cache.withNew statement false).victim? with
    | none =>
      rw [indexed.nil_of_victim victim] at longer
      cases longer
    | some e =>
      have due := due_of_victim (apart.uses.of_subset fun _ => mem_of_mapped)
        (fun e mem => stamped e (mem_of_mapped mem)) victim
      have text : (e.statement.sql, e.statement.handle) ∈ (t.cache.withNew statement false).bySql :=
        indexed.mapped e (mem_of_find (find_of_victim victim)) (indexed.attached_of_victim victim)
      have shrunk := shrink_of_victim indexed victim (n := t.cache.bySql.length)
        (longer.trans (congrArg (· + 1) exact))
      rw [← longer] at shrunk
      have left : (t.cache.insert statement).2 = _ := (congrArg Prod.snd inserted).trans shrunk
      have some : t.cache.bySql ≠ [] := by
        rw [← List.length_pos_iff, exact]
        exact positive.1
      have old := regular.mem_mapped_of_due some due
      refine ⟨e, old, ?_, due, ?_, left⟩
      · rw [handle_insert]
        exact distinct.ne_nextHandle (mem_of_mapped old)
      · rw [left]
        exact perm_evict indexed.once text
  · have same := h.withNew statement false
    have shrunk := shrink_rearranged apart (same.trans h') arranged.size
    have length : arranged.size = (t.cache.withNew statement false).bySql.length :=
      (same.trans h').bySql.length_eq
    refine ⟨?_, victim?_rearranged apart (same.trans h'), ?_⟩
    · rw [handle_insert, handle_insert, h.nextHandle]
    · rw [inserted, ← length]
      exact shrunk

/-- Whatever was done with a cache that keeps texts, and in whatever order its maps are: a new text takes
the place of at most one other, which is the one that was used longest ago of those that nobody holds or,
where each is held, of all. There must be a handle for the statement, and a reading of the clock for each
use, this one included. -/
theorem displaces_of_reached (reached : Reached capacity enabled t)
    (handles : t.inserted < UInt32.size - 1)
    (readings : (t.after (.insert statement)).uses.length < UInt64.size)
    (on : t.cache.enabled = true) (new : t.cache.bySql.lookup statement.sql = none) :
    Displaces (t.after (.insert statement)).uses t.cache statement := by
  have uses : (t.after (.insert statement)).uses = t.uses ++ [t.cache.nextHandle] :=
    congrArg (t.uses ++ [·.handle]) (handle_insert statement)
  rw [uses] at readings ⊢
  rw [List.length_append, List.length_singleton] at readings
  have regular := reached.regular handles (Nat.lt_of_succ_lt readings)
  exact regular.displaces readings on new

theorem Reached.foldl (reached : Reached capacity enabled t) (operations : List Operation) :
    Reached capacity enabled (operations.foldl Traced.after t) := by
  induction operations generalizing t with
  | nil => exact reached
  | cons operation operations ih => exact ih (reached.after operation)

/-- Two texts fill a cache, and the first is used again. Then the maps are turned round. -/
def refilled : Traced :=
  let statement (id : UInt32) (sql : String) : PreparedStatement := ⟨0, id, sql, #[], #[]⟩
  let t := [.insert (statement 7 "a"), .insert (statement 8 "b"), .release 1, .release 2, .acquire "a",
    .release 1, .rebind 2 9].foldl Traced.after (start 2 true)
  { t with cache := { t.cache with entries := t.cache.entries.reverse, bySql := t.cache.bySql.reverse } }

theorem displaces_refilled :
    Reached 2 true refilled ∧ refilled.inserted < UInt32.size - 1 ∧
      (refilled.after (.insert ⟨0, 5, "c", #[], #[]⟩)).uses.length < UInt64.size ∧
      refilled.cache.enabled = true ∧ refilled.cache.bySql.lookup "c" = none ∧
      (refilled.cache.insert ⟨0, 5, "c", #[], #[]⟩).2.1 = [9] ∧
      Displaces (refilled.after (.insert ⟨0, 5, "c", #[], #[]⟩)).uses refilled.cache
        ⟨0, 5, "c", #[], #[]⟩ := by
  have reached : Reached 2 true refilled :=
    .rearranged ⟨rfl, rfl, List.reverse_perm _, List.reverse_perm _, rfl, rfl⟩ (.foldl .new _)
  refine ⟨reached, by decide, by decide, rfl, by decide, by decide, ?_⟩
  exact displaces_of_reached reached (by decide) (by decide) rfl (by decide)

end Traced

end SqlWire.StatementCache
