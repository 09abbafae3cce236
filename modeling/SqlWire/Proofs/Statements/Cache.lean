import SqlWire.Statement.Cache

/-!
# The books of the statement cache

Each entry of the cache is bound to one id of the server, and holds the references that were given out.
`Passes out cache cache'` says that the cache passes the ids `out` on to its caller and keeps the
others, with all references: this is how texts leave when there are too many of them (`passes_evict`,
`passes_shrink`). A new statement comes with one reference (`passes_insert`), and with its last
reference a statement may leave (`recounted_release`).
-/

namespace SqlWire.StatementCache

variable {cache cache' cache'' : StatementCache} {e : CacheEntry} {handle handle' id : UInt32}
  {statement statement' : PreparedStatement} {f : CacheEntry → CacheEntry} {out out' : List UInt32}

/-- The statements of the entries. -/
def prepared (cache : StatementCache) : List PreparedStatement := cache.entries.map (·.statement)

/-- The ids that entries are bound to. -/
def ids (cache : StatementCache) : List UInt32 := cache.entries.map (·.statement.id)

def handles (cache : StatementCache) : List UInt32 := cache.entries.map (·.statement.handle)

/-- The references to a statement; there are none to one that is not there. -/
def refs (cache : StatementCache) (handle : UInt32) : Nat :=
  ((cache.entry? handle).map (·.refCount)).getD 0

/-- No handle is used twice, and the next one is new. -/
structure Distinct (cache : StatementCache) : Prop where
  nodup : cache.handles.Nodup
  below : ∀ handle ∈ cache.handles, handle.toNat < cache.nextHandle.toNat

theorem handles_eq (cache : StatementCache) : cache.handles = cache.prepared.map (·.handle) :=
  List.map_map.symm

theorem handles_subset (fewer : cache'.prepared ⊆ cache.prepared) : cache'.handles ⊆ cache.handles := by
  rw [handles_eq, handles_eq]
  exact List.map_subset _ fewer

theorem distinct_new (capacity : Nat) (enabled : Bool) : (new capacity enabled).Distinct :=
  ⟨.nil, nofun⟩

/-! ## Single entries -/

theorem handle_of_find (held : cache.entry? handle = some e) : e.statement.handle = handle := by
  simpa using List.find?_some held

theorem mem_of_find (held : cache.entry? handle = some e) : e ∈ cache.entries :=
  List.mem_of_find?_eq_some held

theorem find_of_nodup (nodup : cache.handles.Nodup) (mem : e ∈ cache.entries) :
    cache.entry? e.statement.handle = some e := by
  have found {entries : List CacheEntry} (nodup : (entries.map (·.statement.handle)).Nodup)
      (mem : e ∈ entries) : entries.find? (·.statement.handle == e.statement.handle) = some e := by
    induction entries with
    | nil => cases mem
    | cons first entries ih =>
      obtain ⟨once, nodup⟩ := List.nodup_cons.mp nodup
      rcases List.mem_cons.mp mem with rfl | later
      · exact List.find?_cons_of_pos (beq_self_eq_true _)
      · have other : first.statement.handle ≠ e.statement.handle := fun same =>
          once (List.mem_map.mpr ⟨e, later, same.symm⟩)
        rw [List.find?_cons_of_neg (by simpa using other)]
        exact ih nodup later
  exact found nodup mem

theorem find_of_mem (distinct : cache.Distinct) (mem : e ∈ cache.entries) :
    cache.entry? e.statement.handle = some e := find_of_nodup distinct.nodup mem

theorem refs_of_find (held : cache.entry? handle = some e) : cache.refs handle = e.refCount := by
  rw [refs, held]
  rfl

/-- A handle stands for one statement. -/
theorem eq_of_handle (distinct : cache.Distinct) (mem : statement ∈ cache.prepared)
    (mem' : statement' ∈ cache.prepared) (same : statement.handle = statement'.handle) :
    statement = statement' := by
  obtain ⟨e, own, rfl⟩ := List.mem_map.mp mem
  obtain ⟨e', own', rfl⟩ := List.mem_map.mp mem'
  have found := find_of_mem distinct own
  rw [same, find_of_mem distinct own'] at found
  cases found
  rfl

theorem refs_of_none (none : cache.entry? handle = none) : cache.refs handle = 0 := by
  rw [refs, none]
  rfl

/-- A statement with references stays. -/
theorem mem_prepared_of_refs (distinct : cache.Distinct) (fewer : cache'.prepared ⊆ cache.prepared)
    (own : statement ∈ cache.prepared) (positive : 0 < cache'.refs statement.handle) :
    statement ∈ cache'.prepared := by
  cases found : cache'.entry? statement.handle with
  | none =>
    rw [refs_of_none found] at positive
    cases positive
  | some e =>
    have stays : e.statement ∈ cache'.prepared := List.mem_map_of_mem (mem_of_find found)
    rwa [← eq_of_handle distinct (fewer stays) own (handle_of_find found)]

/-- Entries are found as before when they keep their handles. -/
theorem find_modify_of_handle (keeps : ∀ e, (f e).statement.handle = e.statement.handle) :
    entry? (cache.modify handle f) handle' =
      (cache.entry? handle').map fun e => if handle' = handle then f e else e := by
  unfold entry? modify
  rw [List.find?_map]
  have alike : ((·.statement.handle == handle') ∘ fun e =>
      if e.statement.handle == handle then f e else e) = (·.statement.handle == handle') := by
    funext e
    dsimp only [Function.comp]
    split
    · rw [keeps]
    · rfl
  rw [alike]
  cases held : cache.entries.find? (·.statement.handle == handle') with
  | none => rfl
  | some e =>
    have own : e.statement.handle = handle' := by simpa using List.find?_some held
    rw [Option.map_some, Option.map_some, own]
    simp

theorem find_modify (keeps : ∀ e, (f e).statement = e.statement) :
    entry? (cache.modify handle f) handle' =
      (cache.entry? handle').map fun e => if handle' = handle then f e else e :=
  find_modify_of_handle fun e => congrArg (·.handle) (keeps e)

theorem find_drop :
    entry? (cache.drop handle) handle' = if handle' = handle then none else cache.entry? handle' := by
  unfold entry? drop
  rw [List.find?_filter]
  split
  · next same =>
    subst same
    refine List.find?_eq_none.mpr fun e _ => ?_
    simp
  · next other =>
    congr 1
    funext e
    by_cases own : e.statement.handle = handle'
    · simp [own, other]
    · simp [own]

theorem map_modify {α : Type} (part : PreparedStatement → α)
    (keeps : ∀ e, part (f e).statement = part e.statement) :
    (cache.modify handle f).entries.map (part ·.statement) =
      cache.entries.map (part ·.statement) := by
  unfold modify
  rw [List.map_map]
  refine List.map_congr_left fun e _ => ?_
  dsimp only [Function.comp]
  split
  · rw [keeps]
  · rfl

theorem ids_modify (keeps : ∀ e, (f e).statement = e.statement) :
    (cache.modify handle f).ids = cache.ids := map_modify (·.id) fun e => congrArg (·.id) (keeps e)

theorem handles_modify (keeps : ∀ e, (f e).statement.handle = e.statement.handle) :
    (cache.modify handle f).handles = cache.handles := map_modify (·.handle) keeps

theorem prepared_modify (keeps : ∀ e, (f e).statement = e.statement) :
    (cache.modify handle f).prepared ⊆ cache.prepared := by
  have same : (cache.modify handle f).prepared = cache.prepared := map_modify id keeps
  exact fun _ mem => same ▸ mem

theorem refs_modify (keeps : ∀ e, (f e).statement = e.statement) (held : cache.entry? handle = some e) :
    (cache.modify handle f).refs handle' =
      if handle' = handle then (f e).refCount else cache.refs handle' := by
  unfold refs
  rw [find_modify keeps]
  split
  · next same =>
    rw [same, held]
    rfl
  · simp

theorem refs_drop :
    (cache.drop handle).refs handle' = if handle' = handle then 0 else cache.refs handle' := by
  unfold refs
  rw [find_drop]
  split <;> rfl

theorem Distinct.modify (distinct : cache.Distinct) (keeps : ∀ e, (f e).statement = e.statement) :
    (cache.modify handle f).Distinct where
  nodup := by
    rw [handles_modify fun e => congrArg (·.handle) (keeps e)]
    exact distinct.nodup
  below := by
    rw [handles_modify fun e => congrArg (·.handle) (keeps e)]
    exact distinct.below

theorem prepared_drop : (cache.drop handle).prepared ⊆ cache.prepared :=
  (List.filter_sublist.map _).subset

theorem Distinct.drop (distinct : cache.Distinct) (handle : UInt32) : (cache.drop handle).Distinct where
  nodup := distinct.nodup.sublist (List.filter_sublist.map _)
  below _ mem := distinct.below _ (handles_subset prepared_drop mem)

/-- An entry leaves with its id. -/
theorem perm_drop (distinct : cache.Distinct) (held : cache.entry? handle = some e) :
    cache.ids.Perm (e.statement.id :: (cache.drop handle).ids) := by
  have leaves {entries : List CacheEntry} (nodup : (entries.map (·.statement.handle)).Nodup)
      (held : entries.find? (·.statement.handle == handle) = some e) :
      entries.Perm (e :: entries.filter (·.statement.handle != handle)) := by
    induction entries with
    | nil => cases held
    | cons first entries ih =>
      obtain ⟨once, nodup⟩ := List.nodup_cons.mp nodup
      by_cases own : first.statement.handle = handle
      · rw [List.find?_cons_of_pos (by simpa using own)] at held
        cases held
        have others : entries.filter (·.statement.handle != handle) = entries := by
          refine List.filter_eq_self.mpr fun other mem => bne_iff_ne.mpr fun same => once ?_
          exact List.mem_map.mpr ⟨other, mem, same.trans own.symm⟩
        rw [List.filter_cons_of_neg (by simp [own]), others]
      · rw [List.find?_cons_of_neg (by simpa using own)] at held
        rw [List.filter_cons_of_pos (by simp [own])]
        exact ((ih nodup held).cons first).trans (.swap ..)
  exact (leaves distinct.nodup held).map _

/-! ## Texts that leave -/

/-- The cache passes these ids on; it keeps the others, and all references. -/
structure Passes (out : List UInt32) (cache cache' : StatementCache) : Prop where
  ids : cache.ids.Perm (out ++ cache'.ids)
  prepared : cache'.prepared ⊆ cache.prepared
  refs : ∀ handle, cache'.refs handle = cache.refs handle
  distinct : cache'.Distinct
  nextHandle : cache'.nextHandle = cache.nextHandle

theorem Passes.refl (distinct : cache.Distinct) : Passes [] cache cache :=
  ⟨.refl _, fun _ => id, fun _ => rfl, distinct, rfl⟩

theorem Passes.trans (h : Passes out cache cache') (h' : Passes out' cache' cache'') :
    Passes (out ++ out') cache cache'' where
  ids := by
    rw [List.append_assoc]
    exact h.ids.trans (h'.ids.append_left out)
  prepared _ mem := h.prepared (h'.prepared mem)
  refs handle := (h'.refs handle).trans (h.refs handle)
  distinct := h'.distinct
  nextHandle := h'.nextHandle.trans h.nextHandle

/-- An entry that nobody holds may leave. -/
theorem passes_drop (distinct : cache.Distinct) (held : cache.entry? handle = some e)
    (unheld : e.refCount = 0) : Passes [e.statement.id] cache (cache.drop handle) := by
  refine ⟨perm_drop distinct held, prepared_drop, fun handle' => refs_drop.trans ?_, distinct.drop _, rfl⟩
  split
  · next same =>
    rw [same, refs_of_find held, unheld]
  · rfl

/-- The references to an entry stay when it is marked. -/
theorem passes_modify (distinct : cache.Distinct) (held : cache.entry? handle = some e)
    (keeps : ∀ e, (f e).statement = e.statement) (same : (f e).refCount = e.refCount) :
    Passes [] cache (cache.modify handle f) := by
  refine ⟨(ids_modify keeps).symm ▸ .refl _, prepared_modify keeps,
    fun handle' => (refs_modify keeps held).trans ?_, distinct.modify keeps, rfl⟩
  split
  · next own =>
    rw [own, refs_of_find held, same]
  · rfl

theorem passes_evict (distinct : cache.Distinct) (held : cache.entry? e.statement.handle = some e) :
    Passes (cache.evict e).1.toList cache (cache.evict e).2 := by
  -- Texts play no role for entries.
  let cache₁ := { cache with bySql := cache.bySql.filter (·.1 != e.statement.sql) }
  have distinct₁ : cache₁.Distinct := ⟨distinct.nodup, distinct.below⟩
  have held₁ : cache₁.entry? e.statement.handle = some e := held
  have start : Passes [] cache cache₁ := ⟨.refl _, fun _ => id, fun _ => rfl, distinct₁, rfl⟩
  unfold evict
  dsimp only
  split
  · next unheld => exact start.trans (passes_drop distinct₁ held₁ (beq_iff_eq.mp unheld))
  · exact start.trans (passes_modify distinct₁ held₁ (fun _ => rfl) rfl)

theorem mem_of_oldest? {entries : List CacheEntry} (oldest : oldest? entries = some e) : e ∈ entries := by
  induction entries generalizing e with
  | nil => cases oldest
  | cons first entries ih =>
    unfold oldest? at oldest
    split at oldest
    · cases oldest
      exact List.mem_cons_self
    · next f older =>
      split at oldest
      · cases oldest
        exact List.mem_cons_of_mem _ (ih older)
      · cases oldest
        exact List.mem_cons_self

theorem mem_mapped_of_victim (victim : cache.victim? = some e) : e ∈ cache.mapped := by
  rcases Option.or_eq_some_iff.mp victim with unheld | ⟨_, any⟩
  · exact (List.mem_filter.mp (mem_of_oldest? unheld)).1
  · exact mem_of_oldest? any

/-- The text to be taken away is that of an entry. -/
theorem find_of_victim (victim : cache.victim? = some e) :
    cache.entry? e.statement.handle = some e := by
  obtain ⟨⟨sql, handle⟩, _, held⟩ := List.mem_filterMap.mp (mem_mapped_of_victim victim)
  rw [handle_of_find held]
  exact held

theorem passes_shrink (distinct : cache.Distinct) (n : Nat) :
    Passes (cache.shrink n).1 cache (cache.shrink n).2 := by
  induction n generalizing cache with
  | zero => exact .refl distinct
  | succ n ih =>
    unfold shrink
    split
    · exact .refl distinct
    · split
      · exact .refl distinct
      · next e victim =>
        have evicted := passes_evict distinct (find_of_victim victim)
        exact evicted.trans (ih evicted.distinct)

/-! ## References -/

/-- The next handle is none of those that are there. -/
theorem Distinct.ne_nextHandle (distinct : cache.Distinct) (mem : e ∈ cache.entries) :
    e.statement.handle ≠ cache.nextHandle := by
  intro same
  have below := distinct.below e.statement.handle (List.mem_map_of_mem mem)
  rw [same] at below
  exact Nat.lt_irrefl _ below

theorem find_nextHandle (distinct : cache.Distinct) : cache.entry? cache.nextHandle = none :=
  List.find?_eq_none.mpr fun _ mem same => distinct.ne_nextHandle mem (beq_iff_eq.mp same)

/-- No entry gives way to the next one. -/
theorem entries_drop_nextHandle (distinct : cache.Distinct) :
    (cache.drop cache.nextHandle).entries = cache.entries :=
  List.filter_eq_self.mpr fun _ mem => bne_iff_ne.mpr (distinct.ne_nextHandle mem)

/-- The entry of a new statement. -/
def newEntry (cache : StatementCache) (statement : PreparedStatement) (detached : Bool) : CacheEntry :=
  ⟨{ statement with handle := cache.nextHandle }, 1, cache.tick + 1, detached⟩

/-- The cache with a new statement, before texts leave. -/
def withNew (cache : StatementCache) (statement : PreparedStatement) (detached : Bool) :
    StatementCache :=
  { cache.drop cache.nextHandle with
    tick := cache.tick + 1
    nextHandle := handleAfter cache.nextHandle
    bySql :=
      if detached then cache.bySql else cache.bySql ++ [(statement.sql, cache.nextHandle)]
    entries := (cache.drop cache.nextHandle).entries ++ [cache.newEntry statement detached] }

/-- A new text is mapped, and others may leave. -/
theorem insert_of_new {statement : PreparedStatement} (on : cache.enabled = true)
    (new : cache.bySql.lookup statement.sql = none) :
    cache.insert statement = ({ statement with handle := cache.nextHandle },
      (cache.withNew statement false).shrink (cache.withNew statement false).bySql.length) := by
  unfold insert withNew newEntry
  dsimp only
  rw [on, new]
  rfl

theorem insert_cases (cache : StatementCache) (statement : PreparedStatement) :
    (cache.enabled = true ∧ cache.bySql.lookup statement.sql = none ∧
      cache.insert statement = ({ statement with handle := cache.nextHandle },
        (cache.withNew statement false).shrink (cache.withNew statement false).bySql.length)) ∨
    cache.insert statement = ({ statement with handle := cache.nextHandle }, [],
      cache.withNew statement true) := by
  cases isMapped : cache.enabled && (cache.bySql.lookup statement.sql).isNone with
  | true =>
    obtain ⟨on, new⟩ := Bool.and_eq_true_iff.mp isMapped
    rw [Option.isNone_iff_eq_none] at new
    exact .inl ⟨on, new, insert_of_new on new⟩
  | false =>
    refine .inr ?_
    unfold insert withNew newEntry
    dsimp only
    rw [isMapped]
    rfl

section

variable (statement : PreparedStatement) (detached : Bool)

theorem entries_withNew (distinct : cache.Distinct) :
    (cache.withNew statement detached).entries =
      cache.entries ++ [cache.newEntry statement detached] :=
  congrArg (· ++ _) (entries_drop_nextHandle distinct)

theorem handles_withNew (distinct : cache.Distinct) :
    (cache.withNew statement detached).handles = cache.handles ++ [cache.nextHandle] := by
  rw [handles, entries_withNew statement detached distinct, List.map_append]
  rfl

theorem find_withNew (distinct : cache.Distinct) (handle : UInt32) :
    StatementCache.entry? (cache.withNew statement detached) handle =
      if handle = cache.nextHandle then some (cache.newEntry statement detached)
      else cache.entry? handle := by
  have own : (cache.newEntry statement detached).statement.handle = cache.nextHandle := rfl
  unfold entry?
  rw [entries_withNew statement detached distinct, List.find?_append, List.find?_singleton, own]
  by_cases same : handle = cache.nextHandle
  · rw [same, show cache.entries.find? _ = none from find_nextHandle distinct, if_pos rfl]
    simp
  · rw [if_neg same, if_neg (by simpa using Ne.symm same), Option.or_none]

/-- What is found under its handle stays there. -/
theorem find_withNew_of_find (distinct : cache.Distinct) (held : cache.entry? handle = some e) :
    StatementCache.entry? (cache.withNew statement detached) handle = some e := by
  rw [find_withNew statement detached distinct, if_neg]
  · exact held
  · rw [← handle_of_find held]
    exact distinct.ne_nextHandle (mem_of_find held)

theorem nodup_withNew (distinct : cache.Distinct) : (cache.withNew statement detached).handles.Nodup := by
  rw [handles_withNew statement detached distinct]
  refine List.nodup_append.mpr ⟨distinct.nodup, by simp, fun handle mem next last same => ?_⟩
  obtain ⟨e, own, rfl⟩ := List.mem_map.mp mem
  exact distinct.ne_nextHandle own (same.trans (List.mem_singleton.mp last))

end

/-- A statement that was added, before texts leave. -/
structure Added (statement : PreparedStatement) (cache cache' : StatementCache) : Prop where
  ids : (statement.id :: cache.ids).Perm cache'.ids
  prepared : cache'.prepared = cache.prepared ++ [{ statement with handle := cache.nextHandle }]
  refs : ∀ handle, cache'.refs handle = if handle = cache.nextHandle then 1 else cache.refs handle
  distinct : cache'.Distinct
  nextHandle : cache'.nextHandle.toNat = cache.nextHandle.toNat + 1

theorem Added.handles (added : Added statement cache cache') :
    cache'.handles = cache.handles ++ [cache.nextHandle] := by
  rw [handles_eq, handles_eq, added.prepared, List.map_append]
  rfl

theorem toNat_handleAfter {handle : UInt32} (room : handle.toNat + 1 < UInt32.size) :
    (handleAfter handle).toNat = handle.toNat + 1 := by
  have next : (handle + 1).toNat = handle.toNat + 1 := by
    rw [UInt32.toNat_add]
    exact Nat.mod_eq_of_lt room
  unfold handleAfter
  rw [if_neg, next]
  intro zero
  rw [beq_iff_eq.mp zero] at next
  cases next

theorem added_withNew (statement : PreparedStatement) (detached : Bool) (distinct : cache.Distinct)
    (room : cache.nextHandle.toNat + 1 < UInt32.size) :
    Added statement cache (cache.withNew statement detached) := by
  have entries := entries_withNew statement detached distinct
  have handles := handles_withNew statement detached distinct
  have next : (cache.withNew statement detached).nextHandle.toNat = cache.nextHandle.toNat + 1 :=
    toNat_handleAfter room
  refine ⟨?_, ?_, fun handle => ?_, ⟨nodup_withNew statement detached distinct, ?_⟩, next⟩
  · have ids : (cache.withNew statement detached).ids = cache.ids ++ [statement.id] :=
      (congrArg (List.map _) entries).trans List.map_append
    rw [ids]
    exact (List.perm_append_singleton ..).symm
  · exact (congrArg (List.map _) entries).trans List.map_append
  · rw [StatementCache.refs, find_withNew statement detached distinct]
    split <;> rfl
  · rw [handles, next]
    intro handle mem
    rcases List.mem_append.mp mem with before | last
    · exact Nat.lt_succ_of_lt (distinct.below handle before)
    · rw [List.mem_singleton.mp last]
      exact Nat.lt_succ_self _

theorem handle_insert (statement : PreparedStatement) :
    (cache.insert statement).1 = { statement with handle := cache.nextHandle } := by
  rcases insert_cases cache statement with ⟨_, _, same⟩ | same <;> rw [same]

/-- A new statement comes with one reference, and others may leave. -/
theorem passes_insert {statement : PreparedStatement} (distinct : cache.Distinct)
    (room : cache.nextHandle.toNat + 1 < UInt32.size) :
    ∃ cache₁, Added statement cache cache₁ ∧
      Passes (cache.insert statement).2.1 cache₁ (cache.insert statement).2.2 := by
  have added (detached : Bool) := added_withNew statement detached distinct room
  rcases insert_cases cache statement with ⟨_, _, same⟩ | same
  · rw [same]
    exact ⟨_, added false, passes_shrink (added false).distinct _⟩
  · rw [same]
    exact ⟨_, added true, .refl (added true).distinct⟩

/-- References to one statement that change, while the cache passes these ids on. -/
structure Recounted (handle : UInt32) (count : Nat → Nat) (out : List UInt32)
    (cache cache' : StatementCache) : Prop where
  ids : cache.ids.Perm (out ++ cache'.ids)
  prepared : cache'.prepared ⊆ cache.prepared
  refs : ∀ handle', cache'.refs handle' =
    if handle' = handle then count (cache.refs handle) else cache.refs handle'
  distinct : cache'.Distinct
  nextHandle : cache'.nextHandle = cache.nextHandle

/-- A reference is given back, and the statement leaves with its last one if no text is mapped to it. -/
theorem recounted_release (distinct : cache.Distinct) (handle : UInt32) :
    Recounted handle (· - 1) (cache.release handle).1.toList cache (cache.release handle).2 := by
  unfold release
  cases held : cache.entry? handle with
  | none =>
    refine ⟨.refl _, fun _ => id, fun handle' => ?_, distinct, rfl⟩
    dsimp only
    split
    · next own => rw [own, refs_of_none held]
    · rfl
  | some e =>
    have own := refs_of_find held
    dsimp only
    split
    · next leaves =>
      have last : e.refCount - 1 = 0 := by simp_all
      refine ⟨perm_drop distinct held, prepared_drop, fun handle' => refs_drop.trans ?_,
        distinct.drop _, rfl⟩
      rw [own, last]
    · have keeps (e' : CacheEntry) :
          { e' with refCount := e.refCount - 1 }.statement = e'.statement := rfl
      refine ⟨(ids_modify keeps).symm ▸ .refl _, prepared_modify keeps,
        fun handle' => (refs_modify keeps held).trans ?_, distinct.modify keeps, rfl⟩
      rw [own]

/-- A reference is given out again, to a statement whose text is known. -/
theorem recounted_acquire {sql : String} {statement : PreparedStatement} (distinct : cache.Distinct)
    (acquired : (cache.acquire sql).1 = some statement) :
    Recounted statement.handle (· + 1) [] cache (cache.acquire sql).2 ∧ statement ∈ cache.prepared := by
  unfold acquire at acquired ⊢
  split at acquired
  · cases acquired
  · next handle mapped =>
    dsimp only at acquired ⊢
    split at acquired
    · cases acquired
    · next e held =>
      cases acquired
      have own : e.statement.handle = handle := handle_of_find held
      let cache₁ := { cache with tick := cache.tick + 1 }
      have held₁ : cache₁.entry? handle = some e := held
      have distinct₁ : cache₁.Distinct := ⟨distinct.nodup, distinct.below⟩
      have keeps (e : CacheEntry) :
          { e with refCount := e.refCount + 1, lastUsed := cache.tick + 1 }.statement = e.statement :=
        rfl
      have ids : (cache₁.modify handle _).ids = cache.ids := ids_modify keeps
      have prepared : (cache₁.modify handle _).prepared ⊆ cache.prepared := prepared_modify keeps
      refine ⟨⟨ids.symm ▸ .refl _, prepared, fun handle' => (refs_modify keeps held₁).trans ?_,
        distinct₁.modify keeps, rfl⟩,
        List.mem_map_of_mem (mem_of_find held)⟩
      rw [own]
      split
      · next same =>
        exact congrArg (· + 1) (refs_of_find held₁).symm
      · rfl

end SqlWire.StatementCache
