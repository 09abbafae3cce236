import Mathlib.Data.List.Induction
import SqlWire.Exchange.Failover

/-!
# What a client knows of the properties of its session

`Known` is the part of a session's state that properties are about: which kinds were changed, and
the values of those that the client keeps. At first it is what the options say (`Known.initial`),
and each property that is set is recorded (`Known.record`).

`Known.of opts sets` is what is known after `sets`. A flag is there if a property of its kind was
set (`Known.has_of`), and each value is the one that was set last, if there is one
(`Known.eq_latest`). What a failover sets again is enough to know the same (`Known.restored`).
-/

namespace SqlWire.Session

variable {ctx : Context} {opts : Options} {property : Property} {sets : List Property}

/-! ## Flags -/

namespace Changed

/-- One flag for each kind. -/
def flags : List UInt8 := [networkTimeout, autocommit, database, readOnly, isolation]

theorem mem_flags (property : Property) : property.flag ∈ flags := by
  cases property <;> simp [flags, Property.flag]

theorem has_none (flag : UInt8) : none.has flag = false := by
  unfold has none
  rw [UInt8.zero_and]
  rfl

/-- A flag is set for its own kind only. -/
theorem has_set (changed : Changed) (property property' : Property) :
    (changed.set property.flag).has property'.flag =
      (changed.has property'.flag || property.flag == property'.flag) := by
  have apart : ∀ flag ∈ flags, ∀ flag' ∈ flags, (flag &&& flag' != 0) = (flag == flag') := by
    decide +kernel
  have parts : (changed.bits ||| property.flag) &&& property'.flag =
      (changed.bits &&& property'.flag) ||| (property.flag &&& property'.flag) :=
    UInt8.toBitVec_inj.mp BitVec.and_or_distrib_right
  unfold has set
  rw [parts, ← apart _ (mem_flags property) _ (mem_flags property'), Bool.eq_iff_iff]
  simpa [UInt8.or_eq_zero_iff] using Decidable.imp_iff_not_or

/-- A flag that is there is set in vain. -/
theorem set_of_has {changed : Changed} {property : Property}
    (h : changed.has property.flag = true) : changed.set property.flag = changed := by
  have all : ∀ bits : BitVec 8, ∀ flag ∈ flags, has ⟨⟨bits⟩⟩ flag = true →
      set ⟨⟨bits⟩⟩ flag = ⟨⟨bits⟩⟩ := by decide +kernel
  exact all changed.bits.toBitVec _ (mem_flags property) h

end Changed

/-! ## Values -/

namespace Property

def database? : Property → Option (Option String)
  | database name => some (some name)
  | _ => none

def readOnly? : Property → Option Bool
  | readOnly on => some on
  | _ => none

def isolation? : Property → Option (Option Isolation)
  | isolation level => some (some level)
  | _ => none

def networkTimeout? : Property → Option (Option Nat)
  | networkTimeout timeout => some timeout
  | _ => none

end Property

/-- What a client knows of the properties of its session. -/
@[ext (iff := false)]
structure Known where
  changed : Changed
  database : Option String
  readOnly : Bool
  isolation : Option Isolation
  networkTimeout : Option Nat
  deriving DecidableEq

def Context.known (ctx : Context) : Known :=
  ⟨ctx.changed, ctx.database, ctx.readOnly, ctx.isolation, ctx.networkTimeout⟩

namespace Known

/-- What the options say. -/
def initial (opts : Options) : Known := ⟨.none, opts.database, false, opts.isolation, opts.socketTimeout⟩

def record (k : Known) (property : Property) : Known where
  changed := k.changed.set property.flag
  database := property.database?.getD k.database
  readOnly := property.readOnly?.getD k.readOnly
  isolation := property.isolation?.getD k.isolation
  networkTimeout := property.networkTimeout?.getD k.networkTimeout

/-- What is known when these were set, one after the other. -/
def of (opts : Options) (sets : List Property) : Known := sets.foldl record (initial opts)

theorem of_concat : of opts (sets ++ [property]) = (of opts sets).record property := List.foldl_append

theorem known_recordProperty (ctx : Context) (property : Property) :
    (ctx.recordProperty property).known = ctx.known.record property := by
  cases property <;> rfl

/-- The last value that was set, if there is one. -/
def latest {α : Type} (value? : Property → Option α) (sets : List Property) (first : α) : α :=
  (sets.filterMap value?).getLast?.getD first

/-- A part in which only values of its kind are put. -/
theorem foldl_eq_latest {σ α : Type} {put : σ → Property → σ} {value? : Property → Option α}
    {part : σ → α} (puts : ∀ s property, part (put s property) = (value? property).getD (part s))
    (s : σ) : part (sets.foldl put s) = latest value? sets (part s) := by
  induction sets using List.reverseRecOn with
  | nil => rfl
  | append_singleton sets property ih =>
    rw [List.foldl_append, List.foldl_cons, List.foldl_nil, puts, ih]
    unfold latest
    rw [List.filterMap_append]
    cases own : value? property with
    | none => simp [own]
    | some value => simp [own]

theorem eq_latest {α : Type} {value? : Property → Option α} {part : Known → α}
    (records : ∀ k property, part (record k property) = (value? property).getD (part k)) :
    part (of opts sets) = latest value? sets (part (initial opts)) := foldl_eq_latest records _

/-- Without a property of its kind nothing is put. -/
theorem latest_of_unset {α : Type} {value? : Property → Option α} {flag : UInt8} {first : α}
    (kind : ∀ property, (value? property).isSome = (property.flag == flag))
    (unset : sets.any (·.flag == flag) = false) : latest value? sets first = first := by
  have nothing : sets.filterMap value? = [] := List.filterMap_eq_nil_iff.mpr fun property mem => by
    have other := List.any_eq_false.mp unset property mem
    rw [← kind] at other
    exact Option.not_isSome_iff_eq_none.mp other
  unfold latest
  rw [nothing]
  rfl

theorem has_of (opts : Options) (sets : List Property) (property : Property) :
    (of opts sets).changed.has property.flag = sets.any (·.flag == property.flag) := by
  induction sets using List.reverseRecOn with
  | nil => exact Changed.has_none _
  | append_singleton sets last ih =>
    rw [of_concat, List.any_append, ← ih]
    exact (Changed.has_set ..).trans (by simp)

/-! ## Setting properties again -/

/-- A kind of which every value is one has a value where it was changed, and else that of the
options. -/
theorem isSome_or_initial {α : Type} {value? : Property → Option (Option α)}
    (part : Known → Option α) (own : Property)
    (kind : ∀ property, (value? property).isSome = (property.flag == own.flag))
    (records : ∀ k property, part (record k property) = (value? property).getD (part k))
    (isSome : ∀ property value, value? property = some value → value.isSome = true) :
    if (of opts sets).changed.has own.flag then (part (of opts sets)).isSome = true
    else part (of opts sets) = part (initial opts) := by
  rw [has_of, eq_latest records]
  split
  · next set =>
    obtain ⟨property, mem, same⟩ := List.any_eq_true.mp set
    rw [← kind] at same
    obtain ⟨value, same⟩ := Option.isSome_iff_exists.mp same
    have among : value ∈ sets.filterMap value? := List.mem_filterMap.mpr ⟨property, mem, same⟩
    obtain ⟨last, eq⟩ := Option.isSome_iff_exists.mp
      (List.getLast?_isSome.mpr (List.ne_nil_of_mem among))
    obtain ⟨property', _, given⟩ := List.mem_filterMap.mp (List.mem_of_getLast? eq)
    unfold latest
    rw [eq]
    exact isSome property' last given
  · next unset => exact latest_of_unset kind (Bool.eq_false_iff.mpr unset)

theorem database_of (opts : Options) (sets : List Property) :
    if (of opts sets).changed.has Changed.database
    then (of opts sets).database.isSome = true else (of opts sets).database = opts.database :=
  isSome_or_initial database (.database "") (fun property => by cases property <;> rfl)
    (fun _ _ => rfl) fun property _ given => match property, given with
      | .database _, rfl => rfl

theorem isolation_of (opts : Options) (sets : List Property) :
    if (of opts sets).changed.has Changed.isolation
    then (of opts sets).isolation.isSome = true else (of opts sets).isolation = opts.isolation :=
  isSome_or_initial isolation (.isolation .repeatableRead)
    (fun property => by cases property <;> rfl)
    (fun _ _ => rfl) fun property _ given => match property, given with
      | .isolation _, rfl => rfl

/-- A new session knows what the lost one knew when the changed properties are set again. -/
theorem restored {lost : Context} (known : lost.known = of opts sets) :
    (Exchange.changedProperties lost).foldl record
        { lost.known with database := opts.database, isolation := opts.isolation } =
      lost.known := by
  have again (property : Property) (h : lost.changed.has property.flag = true) :
      lost.changed.set property.flag = lost.changed := Changed.set_of_has h
  have database : if lost.changed.has Changed.database then lost.database.isSome = true
      else lost.database = opts.database := by
    have database := database_of opts sets
    rwa [← known] at database
  have isolation : if lost.changed.has Changed.isolation then lost.isolation.isSome = true
      else lost.isolation = opts.isolation := by
    have isolation := isolation_of opts sets
    rwa [← known] at isolation
  have first : (if lost.changed.has Changed.database then (lost.database.map .database).toList
      else []).foldl record
        { lost.known with database := opts.database, isolation := opts.isolation } =
      { lost.known with isolation := opts.isolation } := by
    split at database
    · next set =>
      obtain ⟨name, own⟩ := Option.isSome_iff_exists.mp database
      rw [if_pos set, own]
      exact Known.ext (again (.database name) set) own.symm rfl rfl rfl
    · next unset =>
      rw [if_neg unset]
      exact Known.ext rfl database.symm rfl rfl rfl
  have second : (if lost.changed.has Changed.isolation then (lost.isolation.map .isolation).toList
      else []).foldl record { lost.known with isolation := opts.isolation } = lost.known := by
    split at isolation
    · next set =>
      obtain ⟨level, own⟩ := Option.isSome_iff_exists.mp isolation
      rw [if_pos set, own]
      exact Known.ext (again (.isolation level) set) rfl rfl own.symm rfl
    · next unset =>
      rw [if_neg unset]
      exact Known.ext rfl rfl rfl isolation.symm rfl
  unfold Exchange.changedProperties
  rw [List.foldl_append, List.foldl_append, first, second]
  split
  · next set =>
    exact Known.ext (again (.autocommit lost.status.autocommit) set) rfl rfl rfl rfl
  · rfl

end Known

end SqlWire.Session
