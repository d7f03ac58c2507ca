import AdapterGen.Proofs.Java.Run

/-!
# What decoding an object means

The entries of an object decide an exception, or a value for each field: what
the read of the last entry with the field's key gives, null if there is none.

## Implementation notes

`decode` speaks of all entries at once. `store` goes from entry to entry as a
decoder does, and `foldl_store` ties the two.

-/

namespace AdapterGen

open Java

variable {J α ε : Type} (world : World J α ε)

/-- What a scalar read gives: null for a null value where the field is nullable. -/
def FieldPlan.unlessNull (p : FieldPlan) (value : J) (read : Except ε (Option α)) :
    Except ε (Option α) :=
  if p.field.nullable ∧ world.peek value = "NULL" then .ok none else read

/-- What a method of the reader gives, narrowed if a type is given. -/
def narrowed (method : ReadMethod) (narrowTo : Option PrimitiveKind) (value : J) :
    Except ε (Option α) :=
  match narrowTo with
  | some kind => (world.scalar method value).map (·.map (world.narrow kind))
  | none => world.scalar method value

/-- What reading a field off a value gives. -/
def FieldPlan.read (p : FieldPlan) (value : J) : Except ε (Option α) :=
  match p.strategy with
  | .primitive _ method narrowTo => p.unlessNull world value (narrowed world method narrowTo value)
  | .string => p.unlessNull world value (world.scalar .nextString value)
  | .delegated _ expr => world.adapted expr value

/-- The exception of reading a field, if the read throws. -/
def FieldPlan.failure? (p : FieldPlan) (value : J) : Option ε :=
  match p.read world value with
  | .ok _ => none
  | .error cause => some cause

/-- The value that reading a field gives, null when it throws. -/
def FieldPlan.given (p : FieldPlan) (value : J) : Option α :=
  match p.read world value with
  | .ok a => a
  | .error _ => none

namespace DecodePlan

/-- The exception of reading an entry, if its key is a field's and the read throws. -/
def failure? (plan : DecodePlan) (entry : String × J) : Option ε :=
  (plan.armFor? entry.1).bind fun p => p.failure? world entry.2

/-- The value of a field behind all entries: what the last entry with its key gives. -/
def lastValue (entries : List (String × J)) (p : FieldPlan) : Option α :=
  match entries.reverse.find? (·.1 == p.field.jsonName) with
  | some entry => p.given world entry.2
  | none => none

/-- What fields with their values come to: the exception of the first one in constructor order
that must not be null and is, else the target made of all the values. -/
def finish (target : String) (fields : List (Field × Option α)) :
    Except (Trouble ε) (Value α) :=
  match fields.find? fun f => !f.1.nullable && f.2.isNone with
  | some f => .error (.ioException (missingFieldMessage f.1.jsonName))
  | none => .ok (.created target (fields.map fun f => .ofOption f.2))

/-- What an object comes to: the exception of the first entry whose read throws, else what the
fields with their values come to. -/
def decode (plan : DecodePlan) (entries : List (String × J)) : Except (Trouble ε) (Value α) :=
  match entries.findSome? (plan.failure? world) with
  | some cause => .error (.raised cause)
  | none => finish plan.target (plan.fields.map fun p => (p.field, lastValue world entries p))

/-! ### Entry by entry -/

/-- The values by key behind one more entry. -/
def store (plan : DecodePlan) (values : String → Option α) (entry : String × J) :
    String → Option α :=
  match plan.armFor? entry.1 with
  | some p => fun key => if key = entry.1 then p.given world entry.2 else values key
  | none => values

theorem armFor?_eq_some {plan : DecodePlan} {key : String} {p : FieldPlan}
    (found : plan.armFor? key = some p) : p ∈ plan.fields ∧ p.field.jsonName = key :=
  ⟨List.mem_of_find?_eq_some found, by simpa using List.find?_some found⟩

/-- With distinct keys, a field is the one that its key is read into. -/
theorem armFor?_jsonName {plan : DecodePlan}
    (distinct : (plan.fields.map (·.field.jsonName)).Nodup) {p : FieldPlan}
    (isPlan : p ∈ plan.fields) : plan.armFor? p.field.jsonName = some p := by
  obtain ⟨front, back, split⟩ := List.append_of_mem isPlan
  rw [split, List.map_append, List.map_cons] at distinct
  have others := (List.nodup_append.mp distinct).2.2
  unfold armFor?
  rw [split, List.find?_append]
  have noneBefore : front.find? (·.field.jsonName == p.field.jsonName) = none := by
    refine List.find?_eq_none.mpr fun q isFront same => ?_
    have sameKey : q.field.jsonName = p.field.jsonName := by simpa using same
    exact others _ (List.mem_map_of_mem isFront) _ List.mem_cons_self sameKey
  simp [noneBefore]

/-- The values after all entries are those of the last entry with each key. -/
theorem foldl_store {plan : DecodePlan} (distinct : (plan.fields.map (·.field.jsonName)).Nodup)
    {p : FieldPlan} (isPlan : p ∈ plan.fields) (entries : List (String × J))
    (values : String → Option α) :
    entries.foldl (plan.store world) values p.field.jsonName =
      match entries.reverse.find? (·.1 == p.field.jsonName) with
      | some entry => p.given world entry.2
      | none => values p.field.jsonName := by
  induction entries generalizing values with
  | nil => rfl
  | cons entry entries ih =>
      rw [List.foldl_cons, ih, List.reverse_cons, List.find?_append]
      cases later : entries.reverse.find? (·.1 == p.field.jsonName) with
      | some last => rfl
      | none =>
          by_cases own : entry.1 = p.field.jsonName
          · simp [store, own, armFor?_jsonName distinct isPlan]
          · cases arm : plan.armFor? entry.1 with
            | some q => simp [store, arm, own, Ne.symm own]
            | none => simp [store, arm, own]

/-- Behind all entries, each field has the value of the last entry with its key. -/
theorem map_foldl_store {plan : DecodePlan}
    (distinct : (plan.fields.map (·.field.jsonName)).Nodup) (entries : List (String × J)) :
    (plan.fields.map fun p =>
      (p.field, entries.foldl (plan.store world) (fun _ => none) p.field.jsonName)) =
      plan.fields.map fun p => (p.field, lastValue world entries p) := by
  refine List.map_congr_left fun p isPlan => ?_
  rw [foldl_store world distinct isPlan]
  rfl

end DecodePlan

end AdapterGen
