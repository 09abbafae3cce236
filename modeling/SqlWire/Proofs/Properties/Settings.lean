import SqlWire.Proofs.Properties.CarriedOut
import SqlWire.Proofs.Properties.History

/-!
# The settings of a session that was reset

A `Keeper` is a server that keeps the autocommit mode, the isolation level and the database of a
session, its `Settings`. A property that is set changes its own setting. The server's own reset takes
the autocommit mode and the isolation level to those of the server, whatever the options say.

`Keeper.left` is what a reset leaves. Only what was changed since the session began is set again, and
to what the options say rather than to what it was; so a setting that the options made is lost where
the server's own reset takes it back. `restored_iff` says when the settings are those with which the
session began, and what the client says of them is right.
-/

namespace SqlWire

open EStateM (Result)
open Net (Env World)

namespace Session

variable {opts : Options} {sets : List Property} {property : Property} {commands : List Command}

def Property.autocommit? : Property → Option Bool
  | .autocommit on => some on
  | _ => none

def Property.level? : Property → Option Isolation
  | .isolation level => some level
  | _ => none

/-- A property of this kind is among them. -/
def changes (sets : List Property) (flag : UInt8) : Bool := sets.any (·.flag == flag)

/-- The properties of a session that a server keeps. -/
@[ext]
structure Settings where
  autocommit : Bool
  isolation : Isolation
  database : Option String
  deriving DecidableEq, Repr

namespace Settings

variable {s : Settings}

def set (s : Settings) : Property → Settings
  | .autocommit on => { s with autocommit := on }
  | .isolation level => { s with isolation := level }
  | .database name => { s with database := some name }
  | .readOnly _ | .networkTimeout _ => s

theorem set_of_command?_eq_none (h : property.command? = none) : s.set property = s := by
  cases property <;> first | rfl | cases h

/-- Each setting is what it was set to last. -/
theorem foldl_set (sets : List Property) (s : Settings) : sets.foldl set s =
    ⟨Known.latest Property.autocommit? sets s.autocommit,
      Known.latest Property.level? sets s.isolation,
      Known.latest Property.database? sets s.database⟩ := by
  refine Settings.ext (Known.foldl_eq_latest (fun _ property => ?_) s)
    (Known.foldl_eq_latest (fun _ property => ?_) s)
    (Known.foldl_eq_latest (fun _ property => ?_) s)
  all_goals cases property <;> rfl

theorem foldl_ite (b : Prop) [Decidable b] (properties : List Property) (s : Settings) :
    (if b then properties else []).foldl set s = if b then properties.foldl set s else s := by
  split <;> rfl

/-- A reset sets what was changed to what the options say. -/
theorem foldl_resetPlan (changed : Changed) (opts : Options) (onServer : Bool) (s : Settings) :
    (resetPlan changed opts onServer).foldl set s =
      { autocommit :=
          if changed.has Changed.autocommit then opts.autocommit.getD true else s.autocommit
        isolation :=
          if !onServer && changed.has Changed.isolation then opts.isolation.getD .repeatableRead
          else s.isolation
        database :=
          (if changed.has Changed.database then opts.database else none).or s.database } := by
  have database (s : Settings) : ((opts.database.map Property.database).toList).foldl set s =
      { s with database := opts.database.or s.database } := by
    cases opts.database <;> rfl
  unfold resetPlan
  simp only [List.foldl_append, foldl_ite, database, List.foldl_nil, List.foldl_cons, set, ite_self]
  refine Settings.ext ?_ ?_ ?_
  · simp only [apply_ite Settings.autocommit, ite_self]
  · simp only [apply_ite Settings.isolation, ite_self]
  · simp only [apply_ite Settings.database, ite_self, apply_ite (Option.or · s.database),
      Option.none_or]

end Settings

/-- A server that keeps settings. What commands do that are not about them is up to the server. -/
structure Keeper where
  /-- The settings of the server, as opposed to those of a session. -/
  autocommit : Bool
  isolation : Isolation
  run : Command → Settings → Settings
  set : ∀ {property command}, property.command? = some command → ∀ s, run command s = s.set property
  reset : ∀ s, run .resetConnection s = { s with autocommit, isolation }
  aside : ∀ {command}, command ∈ Exchange.asides → ∀ s, run command s = s

namespace Keeper

variable {keeper : Keeper}

def runAll (keeper : Keeper) (commands : List Command) (s : Settings) : Settings :=
  commands.foldl (fun s command => keeper.run command s) s

/-- The settings of the present session, if sessions begin with `first`. -/
def settings (keeper : Keeper) (first : Settings) (journal : Journal) : Settings :=
  keeper.runAll journal.carriedOut first

theorem runAll_append (commands commands' : List Command) (s : Settings) :
    keeper.runAll (commands ++ commands') s = keeper.runAll commands' (keeper.runAll commands s) :=
  List.foldl_append

theorem runAll_commands (sets : List Property) (s : Settings) :
    keeper.runAll (sets.filterMap Property.command?) s = sets.foldl Settings.set s := by
  unfold runAll
  induction sets generalizing s with
  | nil => rfl
  | cons property sets ih =>
    rw [List.filterMap_cons, List.foldl_cons, ← ih]
    split
    · next none => rw [Settings.set_of_command?_eq_none none]
    · next command some => rw [List.foldl_cons, keeper.set some]

theorem runAll_asides (within : commands ⊆ Exchange.asides) (s : Settings) :
    keeper.runAll commands s = s := by
  unfold runAll
  induction commands with
  | nil => rfl
  | cons command commands ih =>
    obtain ⟨first, rest⟩ := List.cons_subset.mp within
    rw [List.foldl_cons, keeper.aside first]
    exact ih rest

theorem runAll_reset (onServer : Bool) (s : Settings) :
    keeper.runAll (if onServer then [.resetConnection] else []) s =
      { s with
        autocommit := if onServer then keeper.autocommit else s.autocommit
        isolation := if onServer then keeper.isolation else s.isolation } := by
  cases onServer with
  | true => exact keeper.reset s
  | false => rfl

/-- What a reset leaves of the settings with which a session began, when these properties were set
since. -/
def left (keeper : Keeper) (opts : Options) (sets : List Property) (onServer : Bool)
    (s : Settings) : Settings where
  autocommit :=
    if changes sets Changed.autocommit then opts.autocommit.getD true
    else if onServer then keeper.autocommit else s.autocommit
  isolation :=
    if onServer then keeper.isolation
    else if changes sets Changed.isolation then opts.isolation.getD .repeatableRead
    else s.isolation
  database := (if changes sets Changed.database then opts.database else none).or
    (Known.latest Property.database? sets s.database)

/-- The commands of a reset leave that. -/
theorem foldl_resetPlan_eq_left (onServer : Bool) (s : Settings) :
    (resetPlan (Known.of opts sets).changed opts onServer).foldl Settings.set
        (keeper.runAll (if onServer then [.resetConnection] else []) (sets.foldl Settings.set s)) =
      keeper.left opts sets onServer s := by
  have has (property : Property) :
      (Known.of opts sets).changed.has property.flag = changes sets property.flag :=
    Known.has_of opts sets property
  have autocommit (unset : changes sets Changed.autocommit = false) :
      Known.latest Property.autocommit? sets s.autocommit = s.autocommit :=
    Known.latest_of_unset (fun property => by cases property <;> rfl) unset
  have isolation (unset : changes sets Changed.isolation = false) :
      Known.latest Property.level? sets s.isolation = s.isolation :=
    Known.latest_of_unset (fun property => by cases property <;> rfl) unset
  rw [runAll_reset, Settings.foldl_resetPlan, Settings.foldl_set,
    show Changed.has _ Changed.autocommit = _ from has (.autocommit true),
    show Changed.has _ Changed.isolation = _ from has (.isolation .serializable),
    show Changed.has _ Changed.database = _ from has (.database "")]
  refine Settings.ext ?_ ?_ rfl
  · show (if changes sets Changed.autocommit then _ else _) =
      if changes sets Changed.autocommit then _ else _
    split
    · rfl
    · next unset => rw [autocommit (Bool.eq_false_iff.mpr unset)]
  · show (if !onServer && changes sets Changed.isolation then _ else _) = _
    unfold left
    cases onServer with
    | true => rfl
    | false =>
      cases set : changes sets Changed.isolation with
      | true => rfl
      | false => exact isolation set

/-- What it takes for a reset to leave the settings as they were, and as the options say. -/
structure Restores (keeper : Keeper) (opts : Options) (sets : List Property) (onServer : Bool)
    (s : Settings) : Prop where
  autocommit : if changes sets Changed.autocommit then s.autocommit = opts.autocommit.getD true
    else onServer → s.autocommit = keeper.autocommit
  isolation : if onServer then s.isolation = keeper.isolation
    else changes sets Changed.isolation → s.isolation = opts.isolation.getD .repeatableRead
  database : changes sets Changed.database →
    s.database = opts.database.or (Known.latest Property.database? sets s.database)
  ownDatabase : ∀ name, opts.database = some name → s.database = some name
  ownIsolation : ∀ level, opts.isolation = some level → s.isolation = level

end Keeper

/-- The settings are what they were at first, and what the client says of them is right. -/
structure Restored (first last : Settings) (ctx : Context) : Prop where
  same : last = first
  database : ∀ name, ctx.database = some name → last.database = some name
  isolation : ∀ level, ctx.isolation = some level → last.isolation = level

theorem Keeper.restored_left_iff {keeper : Keeper} {ctx : Context} {onServer : Bool} {s : Settings}
    (database : ctx.database = opts.database) (isolation : ctx.isolation = opts.isolation) :
    Restored s (keeper.left opts sets onServer s) ctx ↔ keeper.Restores opts sets onServer s := by
  have unset (h : ¬changes sets Changed.database) :
      Known.latest Property.database? sets s.database = s.database :=
    Known.latest_of_unset (fun property => by cases property <;> rfl) (Bool.eq_false_iff.mpr h)
  have same : keeper.left opts sets onServer s = s ↔
      (if changes sets Changed.autocommit then s.autocommit = opts.autocommit.getD true
        else onServer → s.autocommit = keeper.autocommit) ∧
      (if onServer then s.isolation = keeper.isolation
        else changes sets Changed.isolation → s.isolation = opts.isolation.getD .repeatableRead) ∧
      (changes sets Changed.database →
        s.database = opts.database.or (Known.latest Property.database? sets s.database)) := by
    rw [Settings.ext_iff]
    unfold left
    -- Each setting for itself, by the cases of what is left of it.
    refine and_congr ?_ (and_congr ?_ ?_) <;> grind
  refine ⟨fun restored => ?_, fun restores => ?_⟩
  · obtain ⟨autocommit, level, name⟩ := same.mp restored.same
    refine ⟨autocommit, level, name, fun name own => ?_, fun level own => ?_⟩
    · exact restored.same ▸ restored.database name (database.trans own)
    · exact restored.same ▸ restored.isolation level (isolation.trans own)
  · have same := same.mpr ⟨restores.autocommit, restores.isolation, restores.database⟩
    refine ⟨same, fun name own => ?_, fun level own => ?_⟩
    · rw [same]
      exact restores.ownDatabase name (database.symm.trans own)
    · rw [same]
      exact restores.ownIsolation level (isolation.symm.trans own)

end Session

open Session (Keeper Known Property Restored Settings)

variable {env : Env} {sets : List Property}
  {start c c' : Client} {w w' : World}

/-- On one session, a reset leaves what the settings were at first, what the options say or what the
server's own reset takes back. -/
theorem settings_reset (keeper : Keeper) (first : Settings)
    (opened : Client.new env w = .ok start w')
    (ran : sets.forM (Client.setProperty env) start = .ok () c)
    (reset : Client.reset env c = .ok () c') (whole : ¬c'.HasLost) :
    c'.ctx.known = .initial env.opts ∧
      keeper.settings first c'.journal = keeper.left env.opts sets (c'.resetsOnServer env)
        (keeper.settings first start.journal) := by
  have ended := Client.ok_of_guarded reset
  have clear : Clear start := Client.opened_of_new opened ▸ clear_opened env w
  have lost : c.HasLost → c'.HasLost := by
    have noted : Noted (.call c.ctx.redo.isSome fun _ => true) c (Exchange.reset env c) :=
      Exchange.conducts_reset c
    rw [ended] at noted
    exact noted.hasLost
  have performed := ((Client.obeys_setProperties ran).performed clear.streaming
    clear.unread).resolve_left fun before => whole (lost before)
  obtain ⟨known, carried⟩ := Exchange.carriedOut_reset (performed.streaming.trans clear.streaming)
    (performed.unread.trans clear.unread) ended
  obtain ⟨aside, quiet, carried⟩ := carried.resolve_left whole
  have changed : c.ctx.changed = (Known.of env.opts sets).changed := by
    have known := performed.known
    rw [Client.known_new opened] at known
    exact congrArg Known.changed known
  refine ⟨known, ?_⟩
  unfold Keeper.settings
  rw [carried, performed.carriedOut, changed]
  simp only [Keeper.runAll_append, Keeper.runAll_commands, Keeper.runAll_asides quiet]
  exact Keeper.foldl_resetPlan_eq_left ..

/-- The settings are brought back only where that happens to be what they were. -/
theorem restored_iff (keeper : Keeper) (first : Settings)
    (opened : Client.new env w = .ok start w')
    (ran : sets.forM (Client.setProperty env) start = .ok () c)
    (reset : Client.reset env c = .ok () c') (whole : ¬c'.HasLost) :
    keeper.settings first c'.journal = keeper.left env.opts sets (c'.resetsOnServer env)
        (keeper.settings first start.journal) ∧
      (Restored (keeper.settings first start.journal) (keeper.settings first c'.journal) c'.ctx ↔
        keeper.Restores env.opts sets (c'.resetsOnServer env)
          (keeper.settings first start.journal)) := by
  obtain ⟨known, left⟩ := settings_reset keeper first opened ran reset whole
  refine ⟨left, ?_⟩
  rw [left]
  exact Keeper.restored_left_iff (congrArg Known.database known) (congrArg Known.isolation known)

/-! ## A setting that is lost -/

namespace Session.Keeper

/-- The properties with values to choose from. -/
def settable : List Property :=
  [.autocommit true, .autocommit false, .isolation .readUncommitted, .isolation .readCommitted,
    .isolation .repeatableRead, .isolation .serializable]

/-- A server on which nothing else changes settings. -/
def plain (autocommit : Bool) (isolation : Isolation) : Keeper where
  autocommit := autocommit
  isolation := isolation
  run
    | .resetConnection, s => { s with autocommit, isolation }
    | .initDb name, s => s.set (.database name)
    | command, s => (settable.find? (·.command? == some command)).elim s s.set
  set {property command} given s := by
    have found : ∀ property ∈ settable,
        settable.find? (·.command? == property.command?) = some property := by decide +kernel
    cases property with
    | database name =>
      cases given
      rfl
    | autocommit on =>
      cases given
      exact congrArg (Option.elim · s s.set) (found (.autocommit on) (by cases on <;> decide))
    | isolation level =>
      cases given
      exact congrArg (Option.elim · s s.set) (found (.isolation level) (by cases level <;> decide))
    | readOnly _ | networkTimeout _ => cases given
  reset _ := rfl
  aside {command} mem s := by
    have unknown : ∀ command ∈ Exchange.asides,
        settable.find? (·.command? == some command) = none := by decide +kernel
    have none := congrArg (Option.elim · s s.set) (unknown command mem)
    simp only [Exchange.asides, List.mem_cons, List.not_mem_nil, or_false] at mem
    rcases mem with rfl | rfl <;> exact none

end Session.Keeper

/-- Surroundings in which sessions are to be serializable. -/
def serializing : Env := .quiet { host := "h", autocommit := none, isolation := some .serializable }

/-- A server that lets the client in and sets two properties, then reports a version and is reset. -/
def resettable : World :=
  let column : Bytes := [0, 0, 0, 0, 0, 0, 12, 33, 0, 4, 0, 0, 0, 253, 0, 0, 0]
  let version : Bytes := [1, 0, 0, 1, 1, 17, 0, 0, 2] ++ column ++ [5, 0, 0, 3, 254, 0, 0, 0, 0,
    4, 0, 0, 4, 3, 55, 46, 56, 5, 0, 0, 5, 254, 0, 0, 0, 0]
  let ok := okPacket 1 false
  .start [⟨(greetingPacket ++ okPacket 2 false ++ ok ++ ok ++ ok ++ ok ++ version ++ ok ++
    ok).toWire, false⟩]

/-- The client when two properties have been set. -/
def changedTwice : Result Error Client PUnit :=
  [Property.autocommit false, .database "b"].forM (Client.setProperty serializing)
    (.opened serializing resettable)

/-- The client when it has been reset. -/
def changedThenReset : Result Error Client Unit := Client.reset serializing changedTwice.state

/-- The reset takes back the isolation level of the options, which the client still speaks of, and
leaves the database. -/
theorem restored_iff_serializing : ∃ start w' c c', Client.new serializing resettable = .ok start w' ∧
    [Property.autocommit false, .database "b"].forM (Client.setProperty serializing) start = .ok () c ∧
    Client.reset serializing c = .ok () c' ∧ ¬c'.HasLost ∧
    (Keeper.plain true .repeatableRead).settings ⟨true, .repeatableRead, none⟩ start.journal =
      ⟨true, .serializable, none⟩ ∧
    (Keeper.plain true .repeatableRead).settings ⟨true, .repeatableRead, none⟩ c'.journal =
      ⟨true, .repeatableRead, some "b"⟩ ∧
    c'.ctx.isolation = some .serializable ∧
    ¬Restored ⟨true, .serializable, none⟩ ⟨true, .repeatableRead, some "b"⟩ c'.ctx := by
  have checked : ((Client.new serializing resettable).error?.isNone &&
      (changedTwice.error?.isNone && (changedThenReset.error?.isNone &&
      ((changedThenReset.state.journal.all fun event => !(event matches .lost)) &&
      (changedThenReset.state.resetsOnServer serializing &&
      (changedThenReset.state.ctx.isolation == some .serializable &&
      (Keeper.plain true .repeatableRead).settings ⟨true, .repeatableRead, none⟩
        (Client.opened serializing resettable).journal == ⟨true, .serializable, none⟩)))))) =
        true := by decide +kernel
  simp only [Bool.and_eq_true, beq_iff_eq] at checked
  obtain ⟨opens, sets, resets, whole, onServer, isolation, began⟩ := checked
  obtain ⟨start, opened⟩ := EStateM.Result.exists_ok opens
  obtain ⟨_, set⟩ := EStateM.Result.exists_ok sets
  obtain ⟨_, reset⟩ := EStateM.Result.exists_ok resets
  have same : Client.opened serializing resettable = start := Client.opened_of_new opened
  have set : [Property.autocommit false, .database "b"].forM (Client.setProperty serializing) start =
      .ok () changedTwice.state := same ▸ set
  rw [same] at began
  have whole : ¬changedThenReset.state.HasLost := fun lost => by
    cases List.all_eq_true.mp whole _ lost
  obtain ⟨left, iff⟩ := restored_iff (.plain true .repeatableRead) ⟨true, .repeatableRead, none⟩
    opened set reset whole
  rw [onServer, began] at left iff
  refine ⟨start, _, _, _, opened, set, reset, whole, began, left, isolation, fun restored => ?_⟩
  rw [left] at iff
  cases (iff.mp restored).isolation

end SqlWire
