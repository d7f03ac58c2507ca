import AdapterGen.Proofs.Decoder.Reads
import Mathlib.Data.List.Nodup

/-!
# Decoders are correct

The lines of an emitted decoder are read as Java statements, and these run on
every object as the plan of the target says: `DecodePlan.decode`.

## Implementation notes

Each round of the loop takes one entry, and by induction all rounds take all
entries. The limit on rounds is any number above the number of entries, so that
the loop is left because the object ends.

-/

namespace AdapterGen.Emission

open Code Java

variable {J α ε : Type} (world : World J α ε)

section

variable {plan : DecodePlan} {locals : List (String × String)} {values : String → Option α}
  {env members : Locals α} {debugLogs : Bool} (limit : Nat)

/-! ### One entry -/

theorem labels_readStmts (p : FieldPlan) (x : String) (debugLogs : Bool) :
    labels (readStmts p x debugLogs) = [] := by
  unfold readStmts
  cases p.strategy <;> rfl

theorem labels_arms (locals : List (String × String)) (debugLogs : Bool) (fields : List FieldPlan) :
    labels (fields.flatMap (armStmts locals debugLogs)) =
      fields.map fun p => some p.field.jsonName := by
  induction fields with
  | nil => rfl
  | cons p fields ih =>
      simp [armStmts, labels, labels_append, labels_readStmts, ih]

theorem labels_switchBody (locals : List (String × String)) (debugLogs : Bool) (plan : DecodePlan) :
    labels (switchBody locals debugLogs plan) =
      (plan.fields.map fun p => some p.field.jsonName) ++ [none] := by
  simp [switchBody, labels_append, labels_arms, labels]

theorem nodup_labels (distinct : (plan.fields.map (·.field.jsonName)).Nodup) :
    (labels (switchBody locals debugLogs plan)).Nodup := by
  have keys : (plan.fields.map fun p => some p.field.jsonName).Nodup := by
    have inner := List.pairwise_map.mp distinct
    exact List.pairwise_map.mpr (inner.imp fun apart same => apart (Option.some.inj same))
  rw [labels_switchBody]
  exact List.nodup_append.mpr ⟨keys, by simp, by simp⟩

/-- The switch goes by the key. -/
theorem eval_key {key : String} (holds : Holds plan locals values (some (.text key)) none env)
    (members : Locals α) (cursor : Cursor J) :
    eval world (seen members env) (.name ["_name"]) cursor = .ok (.text key, cursor) :=
  eval_name (by simp [seen, holds.name]) cursor

/-- A key without an arm goes to the default label, where its value is skipped. -/
theorem exec_switch_default {key : String} (isMember : Members debugLogs members)
    (distinct : (plan.fields.map (·.field.jsonName)).Nodup)
    (holds : Holds plan locals values (some (.text key)) none env)
    (noArm : plan.armFor? key = none) (value : J) (rest : List (String × J)) :
    exec world members limit (.switchOn (.name ["_name"]) (switchBody locals debugLogs plan))
      ⟨env, .atValue value rest⟩ = .ok (.next, ⟨env.leave env, .inside rest⟩) := by
  have noKey : some key ∉ plan.fields.map fun p => some p.field.jsonName := by
    intro found
    obtain ⟨p, isPlan, same⟩ := List.mem_map.mp found
    have different := List.find?_eq_none.mp noArm p isPlan
    simp at same different
    exact different same
  have target : target? (labels (switchBody locals debugLogs plan)) key = some none := by
    rw [labels_switchBody]
    simp [target?, noKey]
  have named := eval_key world holds members (.atValue value rest)
  have noDefault : none ∉ labels (plan.fields.flatMap (armStmts locals debugLogs)) := by
    simp [labels_arms]
  have skipped := exec_readerCall world limit (holds.sees isMember) "skipValue"
    (.atValue value rest) rfl
  rw [exec_switchOn named (nodup_labels distinct) target, switchBody,
    execAll_from noDefault, execAll_label, execAll_single, skipped]
  rfl

/-- A key with an arm goes to the arm, where its field is read, and no further. -/
theorem exec_switch_arm {key : String} (isMember : Members debugLogs members)
    (apart : Apart plan locals) (distinct : (plan.fields.map (·.field.jsonName)).Nodup)
    (holds : Holds plan locals values (some (.text key)) none env) {p : FieldPlan}
    (isArm : plan.armFor? key = some p) (value : J) (rest : List (String × J)) :
    Steps (p.failure? world value)
      (fun state => state.cursor = .inside rest ∧ Holds plan locals
        (fun other => if other = key then p.given world value else values other)
        (some (.text key)) none state.locals)
      (exec world members limit (.switchOn (.name ["_name"]) (switchBody locals debugLogs plan))
        ⟨env, .atValue value rest⟩) := by
  obtain ⟨isPlan, rfl⟩ := DecodePlan.armFor?_eq_some isArm
  have target : target? (labels (switchBody locals debugLogs plan)) p.field.jsonName =
      some (some p.field.jsonName) := by
    have found : some p.field.jsonName ∈ plan.fields.map fun p => some p.field.jsonName :=
      List.mem_map_of_mem (f := fun p : FieldPlan => some p.field.jsonName) isPlan
    rw [labels_switchBody]
    simp [target?, found]
  obtain ⟨front, back, split⟩ := List.append_of_mem isPlan
  have noneBefore : some p.field.jsonName ∉ labels (front.flatMap (armStmts locals debugLogs)) := by
    rw [split, List.map_append, List.map_cons] at distinct
    have others := (List.nodup_append.mp distinct).2.2
    rw [labels_arms]
    intro found
    obtain ⟨q, isFront, same⟩ := List.mem_map.mp found
    exact others _ (List.mem_map_of_mem isFront) _ List.mem_cons_self (Option.some.inj same)
  have shape : switchBody locals debugLogs plan =
      front.flatMap (armStmts locals debugLogs) ++ Stmt.label (some p.field.jsonName) ::
        (readStmts p (localOf locals p.field) debugLogs ++ Stmt.breakOut ::
          (back.flatMap (armStmts locals debugLogs) ++
            [Stmt.label none, .exec (readerCall "skipValue")])) := by
    simp [switchBody, split, armStmts]
  have named := eval_key world holds members (.atValue value rest)
  have read := execAll_readStmts world limit isMember apart holds isPlan value rest
  rw [exec_switchOn named (nodup_labels distinct) target, shape,
    execAll_from noneBefore, execAll_label]
  unfold Steps at read ⊢
  split at read
  · rw [execAll_append_error _ read]
    rfl
  · obtain ⟨⟨after, cursor⟩, ⟨rfl, afterHolds⟩, ran⟩ := read
    rw [execAll_append _ ran]
    exact ⟨⟨env.leave after, .inside rest⟩, ⟨rfl, holds.leave afterHolds⟩, rfl⟩

/-- The body of the loop takes one entry, and reads it into its field if it has one. -/
theorem exec_entry (isMember : Members debugLogs members) (apart : Apart plan locals)
    (distinct : (plan.fields.map (·.field.jsonName)).Nodup)
    (holds : Holds plan locals values none none env) (entry : String × J)
    (rest : List (String × J)) :
    Steps (plan.failure? world entry)
      (fun state => state.cursor = .inside rest ∧
        Holds plan locals (plan.store world values entry) none none state.locals)
      (exec world members limit (.block (entryBody locals debugLogs plan))
        ⟨env, .inside (entry :: rest)⟩) := by
  obtain ⟨key, value⟩ := entry
  have inner := holds.declareName apart (.text key)
  have next := eval_readerCall world (holds.sees isMember) "nextName"
    (.inside ((key, value) :: rest))
  have declared : exec world members limit (.declare "_name" (readerCall "nextName"))
      ⟨env, .inside ((key, value) :: rest)⟩ =
      .ok (.next, ⟨env.set "_name" (.text key), .atValue value rest⟩) :=
    exec_declare holds.name next
  have isName : seen members (env.set "_name" (.text key)) "_name" = some (.text key) := by
    simp [seen, inner.name]
  have named := execAll_logged world limit (inner.sees isMember)
    (evalAll_logged world "\tGot name: \x7b0\x7d" (.atValue value rest) isName)
  simp only [exec_block, entryBody, List.singleton_append]
  rw [List.cons_append, execAll_cons _ declared, execAll_append _ named, execAll_single]
  cases arm : plan.armFor? key with
  | none =>
      rw [exec_switch_default world limit isMember distinct inner arm]
      simp only [DecodePlan.failure?, DecodePlan.store, arm, Option.bind_none]
      exact ⟨⟨env.leave _, .inside rest⟩, ⟨rfl, holds.leave (inner.leave inner)⟩, rfl⟩
  | some p =>
      have switched := exec_switch_arm world limit isMember apart distinct inner arm value rest
      simp only [DecodePlan.failure?, DecodePlan.store, arm, Option.bind_some]
      unfold Steps at switched ⊢
      split at switched
      · rw [switched]
        rfl
      · obtain ⟨⟨after, cursor⟩, ⟨rfl, afterHolds⟩, ran⟩ := switched
        rw [ran]
        exact ⟨⟨env.leave after, .inside rest⟩, ⟨rfl, holds.leave afterHolds⟩, rfl⟩

/-! ### All entries -/

/-- The loop goes on while there are entries. -/
theorem test_hasNext (isMember : Members debugLogs members)
    (holds : Holds plan locals values none none env) (entries : List (String × J)) :
    State.test world members (readerCall "hasNext") ⟨env, .inside entries⟩ =
      .ok (!entries.isEmpty, ⟨env, .inside entries⟩) := by
  have test := eval_readerCall world (holds.sees isMember) "hasNext" (.inside entries)
  cases entries <;> exact State.test_eq test

/-- The loop takes all entries, up to the first whose read throws. -/
theorem loop_entries (isMember : Members debugLogs members) (apart : Apart plan locals)
    (distinct : (plan.fields.map (·.field.jsonName)).Nodup)
    (holds : Holds plan locals values none none env) (entries : List (String × J)) {rounds : Nat}
    (enough : entries.length < rounds) :
    Steps (entries.findSome? (plan.failure? world))
      (fun state => state.cursor = .inside [] ∧
        Holds plan locals (entries.foldl (plan.store world) values) none none state.locals)
      (loop (State.test world members (readerCall "hasNext"))
        (fun state => exec world members limit (.block (entryBody locals debugLogs plan)) state)
        rounds ⟨env, .inside entries⟩) := by
  induction entries generalizing values env rounds with
  | nil =>
      obtain ⟨rounds, rfl⟩ : ∃ n, rounds = n + 1 := ⟨rounds - 1, by omega⟩
      have tested := test_hasNext world isMember holds []
      exact ⟨⟨env, .inside []⟩, ⟨rfl, holds⟩, loop_done rounds tested⟩
  | cons entry entries ih =>
      obtain ⟨rounds, rfl⟩ : ∃ n, rounds = n + 1 := ⟨rounds - 1, by omega⟩
      have tested := test_hasNext world isMember holds (entry :: entries)
      have one := exec_entry world limit isMember apart distinct holds entry entries
      simp only [List.length_cons] at enough
      rw [List.findSome?_cons]
      unfold Steps at one
      split at one
      · rename_i cause failed
        rw [loop_error rounds tested one, failed]
        rfl
      · rename_i _ noFailure
        obtain ⟨⟨after, cursor⟩, ⟨rfl, afterHolds⟩, ran⟩ := one
        rw [loop_next rounds tested ran, noFailure]
        exact ih afterHolds (by omega)

/-! ### In front of the entries, and behind them -/

/-- Locals that are declared null one after another. -/
def declareAll (xs : List String) (env : Locals α) : Locals α :=
  xs.foldl (fun env x => env.set x .null) env

theorem declareAll_of_not_mem {xs : List String} {y : String} (other : y ∉ xs) (env : Locals α) :
    declareAll xs env y = env y := by
  induction xs generalizing env with
  | nil => rfl
  | cons x xs ih =>
      obtain ⟨notThis, later⟩ : y ≠ x ∧ y ∉ xs := by simpa using other
      have rest := ih later (env.set x .null)
      rw [declareAll] at rest ⊢
      rw [List.foldl_cons, rest]
      simp [Locals.set, notThis]

theorem declareAll_of_mem {xs : List String} {y : String} (found : y ∈ xs) (env : Locals α) :
    declareAll xs env y = some .null := by
  induction xs generalizing env with
  | nil => simp at found
  | cons x xs ih =>
      by_cases later : y ∈ xs
      · exact ih later (env.set x .null)
      · obtain rfl : y = x := by simpa [later] using found
        have rest := declareAll_of_not_mem later (env.set y .null)
        rw [declareAll] at rest ⊢
        rw [List.foldl_cons, rest]
        simp [Locals.set]

/-- Locals of distinct names that are not in scope yet are declared null. -/
theorem execAll_declares (members : Locals α) {fields : List Field}
    (distinct : (fields.map (localOf locals)).Nodup)
    (undeclared : ∀ field ∈ fields, env (localOf locals field) = none) (cursor : Cursor J) :
    execAll world members limit none (fields.map (declareStmt locals)) ⟨env, cursor⟩ =
      .ok (.next, ⟨declareAll (fields.map (localOf locals)) env, cursor⟩) := by
  induction fields generalizing env with
  | nil => rfl
  | cons field fields ih =>
      obtain ⟨notLater, distinct⟩ := List.nodup_cons.mp distinct
      obtain ⟨free, undeclared⟩ := List.forall_mem_cons.mp undeclared
      have declared : exec world members limit (declareStmt locals field) ⟨env, cursor⟩ =
          .ok (.next, ⟨env.set (localOf locals field) .null, cursor⟩) := exec_declare free rfl
      rw [List.map_cons, execAll_cons _ declared]
      refine ih distinct fun other found => ?_
      have different : localOf locals other ≠ localOf locals field := fun same =>
        notLater (same ▸ List.mem_map_of_mem found)
      simp [Locals.set, different, undeclared other found]

/-- The checks of fields stop at the first that is null. -/
theorem execAll_requires (members : Locals α) {fields : List Field} {read : Field → Option α}
    (isLocal : ∀ field ∈ fields, env (localOf locals field) = some (.ofOption (read field)))
    (cursor : Cursor J) :
    execAll world members limit none (fields.map (requireStmt locals)) ⟨env, cursor⟩ =
      match fields.find? fun field => (read field).isNone with
      | some field => .error (.ioException (missingFieldMessage field.jsonName))
      | none => .ok (.next, ⟨env, cursor⟩) := by
  induction fields with
  | nil => rfl
  | cons field fields ih =>
      obtain ⟨isField, isLocal⟩ := List.forall_mem_cons.mp isLocal
      have isSeen : seen members env (localOf locals field) = some (.ofOption (read field)) := by
        simp [seen, isField]
      have null : eval world (seen members env) .null cursor = .ok (.null, cursor) := rfl
      have compared : (sameValue (.ofOption (read field)) .null : Except (Trouble ε) (Value α)) =
          .ok (.truth (read field).isNone) := by
        cases read field <;> rfl
      have tested := eval_same (eval_name isSeen cursor) null compared
      have checked : exec world members limit (requireStmt locals field) ⟨env, cursor⟩ =
          if (read field).isNone then .error (.ioException (missingFieldMessage field.jsonName))
          else .ok (.next, ⟨env, cursor⟩) := by
        have message : eval world (seen members env)
            (.literal (missingFieldMessage field.jsonName)) cursor =
            .ok (.text (missingFieldMessage field.jsonName), cursor) := rfl
        rw [requireStmt, exec_ifThen _ tested, exec_block, execAll_single,
          exec_throwing (eval_create "IOException" (evalAll_one message))]
        rfl
      cases found : read field with
      | none =>
          rw [found] at checked
          rw [List.map_cons, execAll_cons_error _ checked]
          simp [found]
      | some a =>
          rw [found] at checked
          rw [List.map_cons, execAll_cons _ checked, ih isLocal]
          simp [found]

theorem evalAll_names (members : Locals α) {fields : List Field} {read : Field → Option α}
    (isLocal : ∀ field ∈ fields, env (localOf locals field) = some (.ofOption (read field)))
    (cursor : Cursor J) :
    evalAll world (seen members env) (fields.map fun field => .name [localOf locals field]) cursor =
      .ok (fields.map fun field => .ofOption (read field), cursor) := by
  induction fields with
  | nil => rfl
  | cons field fields ih =>
      obtain ⟨isField, isLocal⟩ := List.forall_mem_cons.mp isLocal
      have isSeen : seen members env (localOf locals field) = some (.ofOption (read field)) := by
        simp [seen, isField]
      exact evalAll_cons (eval_name isSeen cursor) (ih isLocal)

/-- The first required field without a value is the one that `finish` finds. -/
theorem find?_requiredFields (plan : DecodePlan) (values : String → Option α) :
    plan.requiredFields.find? (fun field => (values field.jsonName).isNone) =
      ((plan.fields.map fun p => (p.field, values p.field.jsonName)).find? fun f =>
        !f.1.nullable && f.2.isNone).map (·.1) := by
  simp only [DecodePlan.requiredFields, List.find?_filter, List.find?_map, Option.map_map,
    Function.comp_def, Bool.decide_and, Bool.decide_eq_true]

/-- The statements behind the object: the checks, and the call of the constructor. -/
theorem execAll_finish (holds : Holds plan locals values none none env) (cursor : Cursor J) :
    (execAll world members limit none
      (plan.requiredFields.map (requireStmt locals) ++
        [Stmt.returning (.create plan.target
          ((plan.fields.map (·.field)).map fun field => .name [localOf locals field]))])
      ⟨env, cursor⟩).map (·.1) =
      (DecodePlan.finish plan.target
        (plan.fields.map fun p => (p.field, values p.field.jsonName))).map .returned := by
  have isLocal : ∀ field ∈ plan.fields.map (·.field),
      env (localOf locals field) = some (.ofOption (values field.jsonName)) :=
    List.forall_mem_map.mpr holds.field
  have checked := execAll_requires world limit members
    (fun field found => isLocal field (List.mem_filter.mp found).1 :
      ∀ field ∈ plan.requiredFields, _) cursor
  have arguments := evalAll_names world members isLocal cursor
  rw [find?_requiredFields] at checked
  unfold DecodePlan.finish
  split at checked
  · rename_i field missing
    obtain ⟨f, found, rfl⟩ := Option.map_eq_some_iff.mp missing
    rw [execAll_append_error _ checked, found]
    rfl
  · rename_i complete
    rw [execAll_append _ checked, Option.map_eq_none_iff.mp complete, execAll_single]
    rw [exec_returning (eval_create plan.target arguments)]
    simp only [Except.map, List.map_map, Function.comp_def]

/-! ### The whole body -/

/-- The locals of a plan's fields. -/
abbrev localsOf (plan : DecodePlan) : List (String × String) :=
  localNames plan.target (plan.fields.map (·.field))

theorem SoundPlan.apart (sound : SoundPlan plan) : Apart plan (localsOf plan) where
  free p isPlan := (localOf_spec plan.target (List.mem_map_of_mem isPlan)).2
  same_iff p isPlan q isOther := by
    constructor
    · intro sameLocal
      by_cases sameName : p.field.name = q.field.name
      · rw [List.inj_on_of_nodup_map sound.distinctNames isPlan isOther sameName]
      · exact absurd sameLocal (localOf_ne_localOf plan.target (List.mem_map_of_mem isPlan)
          (List.mem_map_of_mem isOther) sameName)
    · intro sameKey
      rw [List.inj_on_of_nodup_map sound.distinctKeys isPlan isOther sameKey]

theorem SoundPlan.distinctLocals (sound : SoundPlan plan) :
    ((plan.fields.map (·.field)).map (localOf (localsOf plan))).Nodup := by
  rw [List.map_map]
  refine (List.Nodup.of_map _ sound.distinctKeys).map_on fun p isPlan q isOther sameLocal => ?_
  have sameKey := (sound.apart.same_iff p isPlan q isOther).mp sameLocal
  exact List.inj_on_of_nodup_map sound.distinctKeys isPlan isOther sameKey

/-- Behind their declarations the locals of all fields are null. -/
theorem holds_declareAll (apart : Apart plan locals) (isReader : env "reader" = some .reader)
    (others : ∀ x ∈ reservedLocals, x ≠ "reader" → env x = none) :
    Holds plan locals (fun _ => none) none none
      (declareAll ((plan.fields.map (·.field)).map (localOf locals)) env) := by
  have kept {x : String} (isReserved : x ∈ reservedLocals) :
      declareAll ((plan.fields.map (·.field)).map (localOf locals)) env x = env x := by
    refine declareAll_of_not_mem (fun found => ?_) env
    obtain ⟨field, isField, rfl⟩ := List.mem_map.mp found
    obtain ⟨p, isPlan, rfl⟩ := List.mem_map.mp isField
    exact apart.free p isPlan isReserved
  have isReserved {x : String} (found : x ∈ ["moshi", "LOGGER"] ++ classNames) :
      x ∈ reservedLocals := mem_reservedLocals_of_mem_otherNames (List.mem_cons_of_mem _ found)
  have notReader : "reader" ∉ ["moshi", "LOGGER"] ++ classNames := by
    simp [classNames, PrimitiveKind.all, PrimitiveKind.boxedName]
  refine ⟨fun p isPlan => ?_, ?_, ?_, ?_, fun x found => ?_⟩
  · exact declareAll_of_mem (List.mem_map_of_mem (List.mem_map_of_mem isPlan)) env
  · rw [kept (mem_reservedLocals_of_mem_otherNames List.mem_cons_self), isReader]
  · rw [kept name_mem_reservedLocals, others "_name" name_mem_reservedLocals (by decide)]
  · rw [kept adapter_mem_reservedLocals, others "_adapter" adapter_mem_reservedLocals (by decide)]
  · have different : x ≠ "reader" := fun same => notReader (same ▸ found)
    rw [kept (isReserved found), others x (isReserved found) different]

/-- The statements of a decoder end as the plan says. -/
theorem execAll_decoder (isMember : Members debugLogs members) (sound : SoundPlan plan)
    (isReader : env "reader" = some .reader) (others : ∀ x, x ≠ "reader" → env x = none)
    (entries : List (String × J)) (enough : entries.length < limit) :
    (execAll world members limit none (decoderProgram plan.target plan debugLogs)
      ⟨env, .start entries⟩).map (·.1) = (plan.decode world entries).map .returned := by
  -- In front of the declarations the invariant holds of no fields.
  have before : Holds ⟨plan.target, []⟩ [] (fun _ => none) none none env :=
    holds_declareAll ⟨by simp, by simp⟩ isReader fun x _ => others x
  have reading := execAll_logged world limit (before.sees isMember)
    (rfl : evalAll world _ [.literal "Reading json"] (.start entries) = .ok ([.text _], _))
  have undeclared : ∀ field ∈ plan.fields.map (·.field),
      env (localOf (localsOf plan) field) = none := by
    refine List.forall_mem_map.mpr fun p isPlan => others _ fun isReader => ?_
    exact sound.apart.free p isPlan
      (isReader ▸ mem_reservedLocals_of_mem_otherNames List.mem_cons_self)
  have declares := execAll_declares world limit members sound.distinctLocals undeclared
    (.start entries)
  have declared := holds_declareAll sound.apart isReader fun x _ => others x
  have begun := exec_readerCall world limit (declared.sees isMember) "beginObject"
    (.start entries) rfl
  have read := loop_entries world limit isMember sound.apart sound.distinctKeys declared entries
    enough
  rw [← exec_whileLoop] at read
  unfold decoderProgram DecodePlan.decode
  simp only [List.append_assoc]
  rw [execAll_append _ reading, execAll_append _ declares, List.singleton_append,
    execAll_cons _ begun, List.singleton_append]
  cases failure : entries.findSome? (plan.failure? world) with
  | some cause =>
      rw [failure] at read
      rw [execAll_cons_error _ read]
      rfl
  | none =>
      rw [failure] at read
      obtain ⟨⟨after, cursor⟩, ⟨rfl, holds⟩, ran⟩ := read
      have ended := exec_readerCall world limit (holds.sees isMember) "endObject" (.inside []) rfl
      rw [execAll_cons _ ran, List.singleton_append, execAll_cons _ ended,
        execAll_finish world limit holds, DecodePlan.map_foldl_store world sound.distinctKeys]

end

end AdapterGen.Emission
