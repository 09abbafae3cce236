import Mathlib.Data.List.Perm.Basic
import SqlWire.Proofs.Statements.Texts

/-!
# The order of entries and texts plays no role

A cache finds its entries by handle and by text. Only where a text is to be taken away it goes through
all of them, and then it may meet them in any order: `Rearranged` says that two caches differ in nothing
else. Of two entries the one that was used longer ago is preferred, so the order decides nothing as long as
no two were used at one time (`Apart`). Then the same entry is found, the same ids are passed on and
the same cache is left, up to the order (`shrink_rearranged`).
-/

namespace SqlWire.StatementCache

variable {cache cache' cache'' : StatementCache} {e e' : CacheEntry} {entries entries' : List CacheEntry}
  {handle : UInt32} {f : CacheEntry → CacheEntry}

/-- The same cache, but for the order of its entries and of its texts. -/
structure Rearranged (cache cache' : StatementCache) : Prop where
  enabled : cache'.enabled = cache.enabled
  capacity : cache'.capacity = cache.capacity
  entries : cache'.entries.Perm cache.entries
  bySql : cache'.bySql.Perm cache.bySql
  nextHandle : cache'.nextHandle = cache.nextHandle
  tick : cache'.tick = cache.tick

namespace Rearranged

theorem trans (h : cache.Rearranged cache') (h' : cache'.Rearranged cache'') :
    cache.Rearranged cache'' where
  enabled := h'.enabled.trans h.enabled
  capacity := h'.capacity.trans h.capacity
  entries := h'.entries.trans h.entries
  bySql := h'.bySql.trans h.bySql
  nextHandle := h'.nextHandle.trans h.nextHandle
  tick := h'.tick.trans h.tick

theorem drop (h : cache.Rearranged cache') (handle : UInt32) :
    (cache.drop handle).Rearranged (cache'.drop handle) :=
  ⟨h.enabled, h.capacity, h.entries.filter _, h.bySql, h.nextHandle, h.tick⟩

theorem modify (h : cache.Rearranged cache') (handle : UInt32) (f : CacheEntry → CacheEntry) :
    (cache.modify handle f).Rearranged (cache'.modify handle f) :=
  ⟨h.enabled, h.capacity, h.entries.map _, h.bySql, h.nextHandle, h.tick⟩

theorem evict (h : cache.Rearranged cache') (e : CacheEntry) :
    (cache.evict e).1 = (cache'.evict e).1 ∧ (cache.evict e).2.Rearranged (cache'.evict e).2 := by
  have fewer : Rearranged { cache with bySql := cache.bySql.filter (·.1 != e.statement.sql) }
      { cache' with bySql := cache'.bySql.filter (·.1 != e.statement.sql) } :=
    ⟨h.enabled, h.capacity, h.entries, h.bySql.filter _, h.nextHandle, h.tick⟩
  unfold StatementCache.evict
  dsimp only
  split
  · exact ⟨rfl, fewer.drop _⟩
  · exact ⟨rfl, fewer.modify _ _⟩

theorem handles (h : cache.Rearranged cache') : cache'.handles.Perm cache.handles := h.entries.map _

end Rearranged

/-- What is found under a handle is the entry that has it. -/
theorem find_iff (nodup : cache.handles.Nodup) :
    cache.entry? handle = some e ↔ e ∈ cache.entries ∧ e.statement.handle = handle :=
  ⟨fun held => ⟨mem_of_find held, handle_of_find held⟩, fun ⟨mem, own⟩ => own ▸ find_of_nodup nodup mem⟩

theorem find_rearranged (h : cache.Rearranged cache') (nodup : cache.handles.Nodup) (handle : UInt32) :
    cache'.entry? handle = cache.entry? handle := by
  refine Option.ext fun e => ?_
  rw [find_iff (h.handles.nodup_iff.mpr nodup), find_iff nodup, h.entries.mem_iff]

theorem mapped_rearranged (h : cache.Rearranged cache') (nodup : cache.handles.Nodup) :
    cache'.mapped.Perm cache.mapped := by
  have same : cache'.mapped = cache'.bySql.filterMap fun text => cache.entry? text.2 :=
    List.filterMap_congr fun text _ => find_rearranged h nodup text.2
  rw [same]
  exact h.bySql.filterMap _

theorem Distinct.rearranged (distinct : cache.Distinct) (h : cache.Rearranged cache') :
    cache'.Distinct where
  nodup := h.handles.nodup_iff.mpr distinct.nodup
  below handle mem := h.nextHandle ▸ distinct.below handle (h.handles.subset mem)

theorem Indexed.rearranged (indexed : cache.Indexed) (h : cache.Rearranged cache')
    (nodup : cache.handles.Nodup) : cache'.Indexed where
  once := (h.bySql.map Prod.fst).nodup_iff.mpr indexed.once
  entry mem := by
    rw [find_rearranged h nodup]
    exact indexed.entry (h.bySql.subset mem)
  mapped e mem attached := h.bySql.symm.subset (indexed.mapped e (h.entries.subset mem) attached)

/-! ## The entry that was used longest ago -/

/-- No two entries were used at one time. -/
def InTurn (entries : List CacheEntry) : Prop :=
  ∀ e ∈ entries, ∀ e' ∈ entries, e.lastUsed = e'.lastUsed → e = e'

theorem InTurn.of_subset (inTurn : InTurn entries) (fewer : entries' ⊆ entries) : InTurn entries' :=
  fun e mem e' mem' => inTurn e (fewer mem) e' (fewer mem')

theorem le_of_oldest? (oldest : oldest? entries = some e) (mem : e' ∈ entries) :
    e.lastUsed ≤ e'.lastUsed := by
  induction entries generalizing e with
  | nil => cases oldest
  | cons first entries ih =>
    unfold oldest? at oldest
    split at oldest
    · next none =>
      cases oldest
      rw [oldest?_eq_none none, List.mem_singleton] at mem
      exact mem ▸ UInt64.le_refl _
    · next f found =>
      have behind (later : e' ∈ entries) : f.lastUsed ≤ e'.lastUsed := ih found later
      split at oldest
      · next older =>
        cases oldest
        rcases List.mem_cons.mp mem with rfl | later
        · exact UInt64.le_of_lt older
        · exact behind later
      · next younger =>
        cases oldest
        rcases List.mem_cons.mp mem with rfl | later
        · exact UInt64.le_refl _
        · exact UInt64.le_trans (UInt64.not_lt.mp younger) (behind later)

/-- The order in which entries are met does not matter if they were used in turn. -/
theorem oldest?_perm (inTurn : InTurn entries) (perm : entries'.Perm entries) :
    oldest? entries' = oldest? entries := by
  cases found : oldest? entries with
  | none =>
    obtain rfl := oldest?_eq_none found
    rw [perm.eq_nil]
    rfl
  | some e =>
    cases found' : oldest? entries' with
    | none =>
      obtain rfl := oldest?_eq_none found'
      rw [perm.symm.eq_nil] at found
      cases found
    | some e' =>
      have mem := mem_of_oldest? found
      have mem' := perm.subset (mem_of_oldest? found')
      have le := le_of_oldest? found mem'
      have le' := le_of_oldest? found' (perm.symm.subset mem)
      rw [inTurn e' mem' e mem (UInt64.le_antisymm le' le)]

/-- Handles and times of use tell the entries of a cache apart. -/
structure Apart (cache : StatementCache) : Prop where
  handles : cache.handles.Nodup
  uses : InTurn cache.entries

theorem mem_of_mapped (mapped : e ∈ cache.mapped) : e ∈ cache.entries := by
  obtain ⟨⟨_, handle⟩, _, held⟩ := List.mem_filterMap.mp mapped
  exact mem_of_find held

theorem victim?_rearranged (apart : cache.Apart) (h : cache.Rearranged cache') :
    cache'.victim? = cache.victim? := by
  have inTurn : InTurn cache.mapped := apart.uses.of_subset fun _ => mem_of_mapped
  have perm := mapped_rearranged h apart.handles
  have unheld : InTurn (cache.mapped.filter (·.refCount == 0)) :=
    inTurn.of_subset (List.filter_subset_self _)
  rw [victim?, victim?, oldest?_perm unheld (perm.filter _), oldest?_perm inTurn perm]

/-- Entries may change in other ways. -/
theorem InTurn.map (inTurn : InTurn entries) (keeps : ∀ e, (f e).lastUsed = e.lastUsed) :
    InTurn (entries.map f) := by
  intro e mem e' mem' same
  obtain ⟨e₀, own, rfl⟩ := List.mem_map.mp mem
  obtain ⟨e₀', own', rfl⟩ := List.mem_map.mp mem'
  rw [keeps, keeps] at same
  rw [inTurn e₀ own e₀' own' same]

theorem Apart.drop (apart : cache.Apart) (handle : UInt32) : (cache.drop handle).Apart where
  handles := apart.handles.sublist (List.filter_sublist.map _)
  uses := apart.uses.of_subset (List.filter_subset_self _)

theorem Apart.modify (apart : cache.Apart) (handle : UInt32)
    (keeps : ∀ e, (f e).statement.handle = e.statement.handle)
    (same : ∀ e, (f e).lastUsed = e.lastUsed) : (cache.modify handle f).Apart where
  handles := by
    rw [handles_modify keeps]
    exact apart.handles
  uses := apart.uses.map fun e => by
    split
    · exact same e
    · rfl

theorem Apart.evict (apart : cache.Apart) (e : CacheEntry) : (cache.evict e).2.Apart := by
  have fewer : Apart { cache with bySql := cache.bySql.filter (·.1 != e.statement.sql) } :=
    ⟨apart.handles, apart.uses⟩
  unfold StatementCache.evict
  dsimp only
  split
  · exact fewer.drop _
  · exact fewer.modify _ (fun _ => rfl) fun _ => rfl

/-- The same texts leave, whatever the order. -/
theorem shrink_rearranged (apart : cache.Apart) (h : cache.Rearranged cache') (n : Nat) :
    (cache'.shrink n).1 = (cache.shrink n).1 ∧ (cache.shrink n).2.Rearranged (cache'.shrink n).2 := by
  induction n generalizing cache cache' with
  | zero => exact ⟨rfl, h⟩
  | succ n ih =>
    unfold shrink
    rw [h.bySql.length_eq, h.capacity, victim?_rearranged apart h]
    split
    · exact ⟨rfl, h⟩
    · split
      · exact ⟨rfl, h⟩
      · next e _ =>
        obtain ⟨id, evicted⟩ := h.evict e
        obtain ⟨ids, left⟩ := ih (apart.evict e) evicted
        dsimp only
        rw [id, ids]
        exact ⟨rfl, left⟩

end SqlWire.StatementCache
