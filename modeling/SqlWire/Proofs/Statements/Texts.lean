import Mathlib.Data.List.Nodup
import SqlWire.Proofs.Statements.Cache

/-!
# The texts of the statement cache

A cache finds statements in two ways: by handle among the entries, and by text through `bySql`.
`Indexed` says that the two agree: a text leads to at most one entry, the entry is there, bears the
text and is not detached, and each entry that is not detached is found by its text.

Every operation keeps this. Where texts leave, the one that is taken away belongs to an entry
(`indexed_evict`), so that a text is there to take as long as there are too many, and the capacity
is kept in the end (`length_shrink`).
-/

namespace SqlWire.StatementCache

variable {cache cache' : StatementCache} {e : CacheEntry} {handle : UInt32} {sql : String}
  {statement : PreparedStatement} {f : CacheEntry → CacheEntry} {n : Nat}

/-- Texts and entries agree. -/
structure Indexed (cache : StatementCache) : Prop where
  once : (cache.bySql.map Prod.fst).Nodup
  entry : ∀ {sql handle}, (sql, handle) ∈ cache.bySql →
    ∃ e, cache.entry? handle = some e ∧ e.statement.sql = sql ∧ e.detached = false
  mapped : ∀ e ∈ cache.entries, e.detached = false →
    (e.statement.sql, e.statement.handle) ∈ cache.bySql

theorem indexed_new (capacity : Nat) (enabled : Bool) : (new capacity enabled).Indexed :=
  ⟨.nil, nofun, nofun⟩

theorem indexed_clear (cache : StatementCache) : cache.clear.2.Indexed := ⟨.nil, nofun, nofun⟩

/-- A text leads to one handle. -/
theorem Indexed.handle_eq {handle' : UInt32} (indexed : cache.Indexed)
    (mem : (sql, handle) ∈ cache.bySql) (mem' : (sql, handle') ∈ cache.bySql) :
    handle = handle' := by
  have same := List.inj_on_of_nodup_map indexed.once mem mem' rfl
  cases same
  rfl

/-- Changes of an entry that leave its handle and its text in place. -/
theorem Indexed.modify_of_names (indexed : cache.Indexed)
    (keeps : ∀ e, (f e).statement.handle = e.statement.handle)
    (keepsText : ∀ e, (f e).statement.sql = e.statement.sql)
    (same : ∀ e, (f e).detached = e.detached) : (cache.modify handle f).Indexed where
  once := indexed.once
  entry {sql handle'} mem := by
    obtain ⟨e, held, text, attached⟩ := indexed.entry mem
    refine ⟨if handle' = handle then f e else e, ?_, ?_, ?_⟩
    · rw [find_modify_of_handle keeps, held]
      rfl
    · split
      · rw [keepsText, text]
      · exact text
    · split
      · rw [same, attached]
      · exact attached
  mapped e' mem attached := by
    obtain ⟨e, own, rfl⟩ := List.mem_map.mp mem
    by_cases here : (e.statement.handle == handle) = true
    · rw [if_pos here, same] at attached
      rw [if_pos here, keeps, keepsText]
      exact indexed.mapped e own attached
    · rw [if_neg here] at attached ⊢
      exact indexed.mapped e own attached

theorem Indexed.modify (indexed : cache.Indexed) (keeps : ∀ e, (f e).statement = e.statement)
    (same : ∀ e, (f e).detached = e.detached) : (cache.modify handle f).Indexed :=
  indexed.modify_of_names (fun e => congrArg (·.handle) (keeps e))
    (fun e => congrArg (·.sql) (keeps e)) same

theorem Indexed.rebind (indexed : cache.Indexed) (handle id : UInt32) :
    (cache.rebind handle id).Indexed :=
  indexed.modify_of_names (fun _ => rfl) (fun _ => rfl) fun _ => rfl

/-- A detached entry may leave. -/
theorem Indexed.drop (indexed : cache.Indexed) (held : cache.entry? handle = some e)
    (detached : e.detached = true) : (cache.drop handle).Indexed where
  once := indexed.once
  entry {sql handle'} mem := by
    obtain ⟨e', held', text, attached⟩ := indexed.entry mem
    have other : handle' ≠ handle := by
      rintro rfl
      rw [held] at held'
      cases held'
      rw [detached] at attached
      cases attached
    refine ⟨e', ?_, text, attached⟩
    rw [find_drop, if_neg other]
    exact held'
  mapped e' mem attached := indexed.mapped e' (List.mem_filter.mp mem).1 attached

/-- Entries that nobody holds leave together with their texts. -/
theorem Indexed.forgetUnreferenced (indexed : cache.Indexed) (nodup : cache.handles.Nodup) :
    cache.forgetUnreferenced.Indexed where
  once := indexed.once.sublist (List.filter_sublist.map _)
  entry {sql handle} mem := by
    obtain ⟨before, kept⟩ := List.mem_filter.mp mem
    obtain ⟨e, held, text, attached⟩ := indexed.entry before
    obtain ⟨e', mem', own⟩ := List.any_eq_true.mp kept
    have own : e'.statement.handle = handle := beq_iff_eq.mp own
    have same : cache.entry? e'.statement.handle = some e' :=
      find_of_nodup nodup (List.mem_filter.mp mem').1
    rw [own, held] at same
    cases same
    have nodup' : cache.forgetUnreferenced.handles.Nodup := nodup.sublist (List.filter_sublist.map _)
    exact ⟨e, own ▸ find_of_nodup nodup' mem', text, attached⟩
  mapped e mem attached := List.mem_filter.mpr
    ⟨indexed.mapped e (List.mem_filter.mp mem).1 attached,
      List.any_eq_true.mpr ⟨e, mem, beq_self_eq_true _⟩⟩

/-! ## Texts that leave -/

/-- What is left when a text is taken away, but for the entry that bore it. -/
theorem Indexed.others (indexed : cache.Indexed) (held : cache.entry? handle = some e)
    (attached : e.detached = false) {e' : CacheEntry} (mem : e' ∈ cache.entries)
    (attached' : e'.detached = false) (other : e'.statement.handle ≠ handle) :
    (e'.statement.sql, e'.statement.handle) ∈
      cache.bySql.filter (·.1 != e.statement.sql) := by
  refine List.mem_filter.mpr ⟨indexed.mapped e' mem attached', bne_iff_ne.mpr fun same => other ?_⟩
  dsimp only at same
  have own := indexed.mapped e (mem_of_find held) attached
  have own' := indexed.mapped e' mem attached'
  rw [same] at own'
  rw [indexed.handle_eq own' own, handle_of_find held]

/-- The texts that are left lead to other entries. -/
theorem Indexed.handle_ne {handle' : UInt32} (indexed : cache.Indexed)
    (held : cache.entry? handle = some e)
    (mem : (sql, handle') ∈ cache.bySql.filter (·.1 != e.statement.sql)) : handle' ≠ handle := by
  rintro rfl
  obtain ⟨before, other⟩ := List.mem_filter.mp mem
  obtain ⟨e', held', text, _⟩ := indexed.entry before
  rw [held] at held'
  cases held'
  exact bne_iff_ne.mp other text.symm

theorem indexed_evict (indexed : cache.Indexed) (held : cache.entry? e.statement.handle = some e)
    (attached : e.detached = false) : (cache.evict e).2.Indexed := by
  have once : ((cache.bySql.filter (·.1 != e.statement.sql)).map Prod.fst).Nodup :=
    indexed.once.sublist (List.filter_sublist.map _)
  unfold evict
  dsimp only
  split
  · refine ⟨once, fun {sql handle} mem => ?_, fun e' mem attached' => ?_⟩
    · obtain ⟨e', held', text, attached'⟩ := indexed.entry (List.mem_filter.mp mem).1
      refine ⟨e', ?_, text, attached'⟩
      rw [find_drop, if_neg (indexed.handle_ne held mem)]
      exact held'
    · obtain ⟨before, other⟩ := List.mem_filter.mp mem
      exact indexed.others held attached before attached' (bne_iff_ne.mp other)
  · have keeps (e : CacheEntry) : { e with detached := true }.statement = e.statement := rfl
    refine ⟨once, fun {sql handle} mem => ?_, fun e' mem attached' => ?_⟩
    · obtain ⟨e', held', text, attached'⟩ := indexed.entry (List.mem_filter.mp mem).1
      refine ⟨e', ?_, text, attached'⟩
      refine (find_modify keeps).trans ?_
      show Option.map _ (cache.entry? handle) = some e'
      rw [held', Option.map_some, if_neg (indexed.handle_ne held mem)]
    · obtain ⟨e₀, before, rfl⟩ := List.mem_map.mp mem
      by_cases own : (e₀.statement.handle == e.statement.handle) = true
      · rw [if_pos own] at attached'
        cases attached'
      · rw [if_neg own] at attached' ⊢
        exact indexed.others held attached before attached' fun same => own (beq_iff_eq.mpr same)

theorem bySql_evict : (cache.evict e).2.bySql = cache.bySql.filter (·.1 != e.statement.sql) := by
  unfold evict
  dsimp only
  split <;> rfl

theorem limits_evict : (cache.evict e).2.enabled = cache.enabled ∧
    (cache.evict e).2.capacity = cache.capacity := by
  unfold evict
  dsimp only
  split <;> exact ⟨rfl, rfl⟩

/-- A text leaves. -/
theorem length_evict (mem : (e.statement.sql, handle) ∈ cache.bySql) :
    (cache.evict e).2.bySql.length < cache.bySql.length := by
  rw [bySql_evict]
  exact List.length_filter_lt_length_iff_exists.mpr ⟨_, mem, by simp⟩

theorem oldest?_eq_none {entries : List CacheEntry} (none : oldest? entries = none) :
    entries = [] := by
  cases entries with
  | nil => rfl
  | cons first entries =>
    unfold oldest? at none
    split at none
    · cases none
    · split at none <;> cases none

/-- The entry whose text is to be taken away is not detached. -/
theorem Indexed.attached_of_victim (indexed : cache.Indexed) (victim : cache.victim? = some e) :
    e.detached = false := by
  obtain ⟨⟨sql, handle⟩, mem, held⟩ := List.mem_filterMap.mp (mem_mapped_of_victim victim)
  obtain ⟨e', held', _, attached⟩ := indexed.entry mem
  cases held'.symm.trans held
  exact attached

/-- A text can be taken away unless there is none. -/
theorem Indexed.nil_of_victim (indexed : cache.Indexed) (none : cache.victim? = none) :
    cache.bySql = [] := by
  have unmapped : cache.mapped = [] := oldest?_eq_none (Option.or_eq_none_iff.mp none).2
  refine List.eq_nil_iff_forall_not_mem.mpr fun ⟨sql, handle⟩ mem => ?_
  obtain ⟨e, held, _⟩ := indexed.entry mem
  have mapped : e ∈ cache.mapped := List.mem_filterMap.mpr ⟨_, mem, held⟩
  rw [unmapped] at mapped
  cases mapped

theorem limits_shrink (n : Nat) (cache : StatementCache) :
    (cache.shrink n).2.enabled = cache.enabled ∧ (cache.shrink n).2.capacity = cache.capacity := by
  induction n generalizing cache with
  | zero => exact ⟨rfl, rfl⟩
  | succ n ih =>
    unfold shrink
    split
    · exact ⟨rfl, rfl⟩
    · split
      · exact ⟨rfl, rfl⟩
      · next e _ =>
        obtain ⟨enabled, capacity⟩ := ih (cache.evict e).2
        exact ⟨enabled.trans limits_evict.1, capacity.trans limits_evict.2⟩

/-- When there are too many texts, they leave until the capacity is kept. -/
theorem length_shrink (indexed : cache.Indexed) (distinct : cache.Distinct)
    (enough : cache.bySql.length ≤ n + cache.capacity) :
    (cache.shrink n).2.Indexed ∧ (cache.shrink n).2.bySql.length ≤ cache.capacity := by
  induction n generalizing cache with
  | zero => exact ⟨indexed, by rwa [Nat.zero_add] at enough⟩
  | succ n ih =>
    unfold shrink
    split
    · next fits => exact ⟨indexed, fits⟩
    · next exceeds =>
      split
      · next none =>
        rw [indexed.nil_of_victim none] at exceeds
        exact absurd (Nat.zero_le _) exceeds
      · next e victim =>
        have held := find_of_victim victim
        have attached := indexed.attached_of_victim victim
        have fewer : (cache.evict e).2.bySql.length < cache.bySql.length :=
          length_evict (indexed.mapped e (mem_of_find held) attached)
        have capacity : (cache.evict e).2.capacity = cache.capacity := limits_evict.2
        have shrunk := ih (indexed_evict indexed held attached)
          (passes_evict distinct held).distinct (by omega)
        rwa [capacity] at shrunk

/-! ## Statements that come -/

/-- A new entry at the end, with its text if it has one. -/
theorem indexed_withNew (statement : PreparedStatement) (detached : Bool) (indexed : cache.Indexed)
    (distinct : cache.Distinct)
    (unknown : detached = false → cache.bySql.lookup statement.sql = none) :
    (cache.withNew statement detached).Indexed := by
  have entries := entries_withNew statement detached distinct
  have stays {handle : UInt32} {e : CacheEntry} (held : cache.entry? handle = some e) :
      StatementCache.entry? (cache.withNew statement detached) handle = some e :=
    find_withNew_of_find statement detached distinct held
  have new : StatementCache.entry? (cache.withNew statement detached) cache.nextHandle =
      some (cache.newEntry statement detached) := by
    rw [find_withNew statement detached distinct, if_pos rfl]
  cases detached with
  | true =>
    refine ⟨indexed.once, fun {sql handle} mem => ?_, fun e mem attached => ?_⟩
    · obtain ⟨e, held, known⟩ := indexed.entry mem
      exact ⟨e, stays held, known⟩
    · rw [entries] at mem
      rcases List.mem_append.mp mem with before | last
      · exact indexed.mapped e before attached
      · rw [List.mem_singleton.mp last] at attached
        cases attached
  | false =>
    have bySql : (cache.withNew statement false).bySql =
        cache.bySql ++ [(statement.sql, cache.nextHandle)] := rfl
    have absent : statement.sql ∉ cache.bySql.map Prod.fst := fun mem => by
      obtain ⟨⟨sql, handle⟩, mem, same⟩ := List.mem_map.mp mem
      have missing := List.lookup_eq_none_iff.mp (unknown rfl) _ mem
      exact bne_iff_ne.mp missing same.symm
    refine ⟨?_, fun {sql handle} mem => ?_, fun e mem attached => ?_⟩
    · rw [bySql, List.map_append]
      refine List.nodup_append.mpr ⟨indexed.once, by simp, fun sql mem last new same => absent ?_⟩
      rw [← show last = statement.sql from List.mem_singleton.mp new, ← same]
      exact mem
    · rcases List.mem_append.mp mem with before | last
      · obtain ⟨e, held, known⟩ := indexed.entry before
        exact ⟨e, stays held, known⟩
      · cases List.mem_singleton.mp last
        exact ⟨_, new, rfl, rfl⟩
    · rw [entries] at mem
      rw [bySql]
      rcases List.mem_append.mp mem with before | last
      · exact List.mem_append_left _ (indexed.mapped e before attached)
      · rw [List.mem_singleton.mp last]
        exact List.mem_append_right _ (.head _)

end SqlWire.StatementCache
