import AdapterGen.Config
import AdapterGen.Fields
import AdapterGen.Proofs.Outcome
import AdapterGen.Source.Scan

/-!
# Types of fields

The Java type of a field has no wildcard and no primitive type argument. Boxes and parentheses
around a type leave its Java type as it is, and so the parameter of a field, unless the type is an
option: an option inside of a box gives a field that must be there.

## Implementation notes

The Java type is found by a recursion through all of a type, and whether a field may be absent by a
look at the outermost path alone. The first sees through boxes and parentheses and the second does
not.
-/

namespace AdapterGen

/-- A type without wildcards in which type arguments are never primitive. -/
inductive TypeDescriptor.ArgumentsBoxed : TypeDescriptor → Prop
  | primitive (kind : PrimitiveKind) : ArgumentsBoxed (.primitive kind)
  | boxed (kind : PrimitiveKind) : ArgumentsBoxed (.boxed kind)
  | string : ArgumentsBoxed .string
  | reference {name : String} {args : List TypeDescriptor}
      (notPrimitive : ∀ kind, .primitive kind ∉ args) (each : ∀ arg ∈ args, ArgumentsBoxed arg) :
      ArgumentsBoxed (.reference name args)
  | array {component : TypeDescriptor} (inner : ArgumentsBoxed component) :
      ArgumentsBoxed (.array component)

namespace TypeDescriptor

theorem toBoxed_ne_primitive (type : TypeDescriptor) (kind : PrimitiveKind) :
    type.toBoxed ≠ .primitive kind := by
  cases type <;> simp [toBoxed]

theorem ArgumentsBoxed.toBoxed {type : TypeDescriptor} (boxed : type.ArgumentsBoxed) :
    type.toBoxed.ArgumentsBoxed := by
  cases boxed with
  | primitive kind => exact .boxed kind
  | boxed kind => exact .boxed kind
  | string => exact .string
  | reference notPrimitive each => exact .reference notPrimitive each
  | array inner => exact .array inner

theorem argumentsBoxed_reference (name : String) {args : List TypeDescriptor}
    (each : ∀ arg ∈ args, arg.ArgumentsBoxed) :
    (reference name (args.map (·.toBoxed))).ArgumentsBoxed := by
  refine .reference (fun kind isArg => ?_) (List.forall_mem_map.mpr fun arg isArg => ?_)
  · obtain ⟨arg, -, same⟩ := List.mem_map.mp isArg
    exact toBoxed_ne_primitive arg kind same
  · exact (each arg isArg).toBoxed

end TypeDescriptor

namespace Source

open TypeDescriptor

variable {names : Names}

/-! ### Descriptors -/

theorem argumentsBoxed_pathDescriptor (qualifier : List String) (name : String)
    {args : List TypeDescriptor} (each : ∀ arg ∈ args, arg.ArgumentsBoxed) :
    (pathDescriptor names qualifier name args).ArgumentsBoxed := by
  unfold pathDescriptor
  split
  case h_1 => exact .string
  case h_2 inner => exact each inner (List.mem_singleton_self inner)
  case h_3 inner => exact (each inner (List.mem_singleton_self inner)).toBoxed
  all_goals exact argumentsBoxed_reference _ each

namespace FieldType

theorem resolve_path_eq_ok_iff {qualifier : List String} {name : String} {args : List FieldType}
    {descriptor : TypeDescriptor} (notPrimitive : primitive? name = none) :
    (path qualifier name args).resolve names = .ok descriptor ↔
      ∃ resolved, resolveAll names args = .ok resolved ∧
        pathDescriptor names qualifier name resolved = descriptor := by
  rw [resolve, notPrimitive]
  simp only [bind_eq_ok_iff, pure, Except.pure, Except.ok.injEq]

mutual

theorem argumentsBoxed_of_resolve :
    ∀ {type : FieldType} {descriptor : TypeDescriptor},
      type.resolve names = .ok descriptor → descriptor.ArgumentsBoxed
  | path qualifier name args, descriptor, resolved => by
      cases isPrimitive : primitive? name with
      | some kind =>
          rw [resolve, isPrimitive] at resolved
          exact Except.ok.inj resolved ▸ .primitive kind
      | none =>
          obtain ⟨arguments, own, rfl⟩ := (resolve_path_eq_ok_iff isPrimitive).mp resolved
          exact argumentsBoxed_pathDescriptor qualifier name (argumentsBoxed_of_resolveAll own)
  | borrowedText, descriptor, resolved => by
      exact Except.ok.inj resolved ▸ .string
  | array element, descriptor, resolved => by
      rw [resolve] at resolved
      obtain ⟨component, own, resolved⟩ := bind_eq_ok_iff.mp resolved
      exact Except.ok.inj resolved ▸ .array (argumentsBoxed_of_resolve own)
  | parenthesized inner, descriptor, resolved => by
      rw [resolve] at resolved
      exact argumentsBoxed_of_resolve resolved
  | unsupported _, _, resolved => nomatch resolved

theorem argumentsBoxed_of_resolveAll :
    ∀ {types : List FieldType} {descriptors : List TypeDescriptor},
      resolveAll names types = .ok descriptors → ∀ arg ∈ descriptors, arg.ArgumentsBoxed
  | [], descriptors, resolved => by
      obtain rfl := Except.ok.inj resolved
      exact List.forall_mem_nil _
  | type :: types, descriptors, resolved => by
      rw [resolveAll] at resolved
      obtain ⟨first, own, resolved⟩ := bind_eq_ok_iff.mp resolved
      obtain ⟨others, later, resolved⟩ := bind_eq_ok_iff.mp resolved
      obtain rfl := Except.ok.inj resolved
      exact List.forall_mem_cons.mpr
        ⟨argumentsBoxed_of_resolve own, argumentsBoxed_of_resolveAll later⟩

end

/-- An option is never primitive, however many arguments it has. -/
theorem resolve_option_ne_primitive {qualifier : List String} {args : List FieldType}
    {descriptor : TypeDescriptor}
    (resolved : (path qualifier "Option" args).resolve names = .ok descriptor)
    (kind : PrimitiveKind) : descriptor ≠ .primitive kind := by
  obtain ⟨arguments, -, rfl⟩ := (resolve_path_eq_ok_iff rfl).mp resolved
  match arguments with
  | [] => exact nofun
  | [inner] => exact toBoxed_ne_primitive inner kind
  | _ :: _ :: _ => exact nofun

theorem isOptional_iff {type : FieldType} :
    type.isOptional = true ↔ ∃ qualifier inner, type = .path qualifier "Option" [inner] := by
  constructor
  · intro optional
    unfold isOptional at optional
    split at optional
    · exact ⟨_, _, rfl⟩
    · cases optional
  · rintro ⟨qualifier, inner, rfl⟩
    rfl

end FieldType

/-! ### Boxes and parentheses -/

/-- What may stand around a type without a meaning of its own: a box, or parentheses. -/
inductive Wrapping where
  | box (qualifier : List String)
  | parentheses

/-- A type inside of a wrapping. -/
def Wrapping.around : Wrapping → FieldType → FieldType
  | box qualifier, type => .path qualifier "Box" [type]
  | parentheses, type => .parenthesized type

/-- A type inside of several wrappings, the first one outermost. -/
def FieldType.wrapped (wrappings : List Wrapping) (type : FieldType) : FieldType :=
  wrappings.foldr Wrapping.around type

theorem resolve_around (names : Names) (wrapping : Wrapping) (type : FieldType) :
    (wrapping.around type).resolve names = type.resolve names := by
  cases wrapping with
  | parentheses => rw [Wrapping.around, FieldType.resolve]
  | box qualifier =>
      rw [Wrapping.around, FieldType.resolve, FieldType.resolveAll, FieldType.resolveAll]
      cases type.resolve names <;> rfl

theorem resolve_wrapped (names : Names) (wrappings : List Wrapping) (type : FieldType) :
    (type.wrapped wrappings).resolve names = type.resolve names := by
  induction wrappings with
  | nil => rfl
  | cons wrapping wrappings ih =>
      exact (resolve_around names wrapping (type.wrapped wrappings)).trans ih

theorem isOptional_wrapped (wrappings : List Wrapping) (type : FieldType) :
    (type.wrapped wrappings).isOptional = (wrappings.isEmpty && type.isOptional) := by
  match wrappings with
  | [] => rfl
  | .box _ :: _ => rfl
  | .parentheses :: _ => rfl

/-- Boxes and parentheses around the type of a field leave its Java type as it is. Whether it may
be absent stays the same unless the type is an option and no attribute says that it may be null;
then the field must be there. Where it stays the same, so does the whole parameter. -/
theorem wrapped_types_transparent_unless_optional (names : Names) (wrappings : List Wrapping)
    (type : FieldType) :
    (type.wrapped wrappings).resolve names = type.resolve names ∧
    ∀ attributes name,
      let plain : RecordField := ⟨attributes, name, type⟩
      let inside : RecordField := ⟨attributes, name, type.wrapped wrappings⟩
      (inside.isNullable = plain.isNullable ↔ wrappings = [] ∨ type.isOptional = false ∨
        attributes.any (·.named "nullable") = true) ∧
      (inside.isNullable ≠ plain.isNullable → inside.isNullable = false) ∧
      (inside.isNullable = plain.isNullable →
        ∀ marker, parameterOf marker names inside = parameterOf marker names plain) := by
  refine ⟨resolve_wrapped names wrappings type, fun attributes name => ?_⟩
  intro plain inside
  have isInside : inside.isNullable =
      ((wrappings.isEmpty && type.isOptional) || attributes.any (·.named "nullable")) :=
    congrArg (· || attributes.any (·.named "nullable")) (isOptional_wrapped wrappings type)
  have isPlain : plain.isNullable =
      (type.isOptional || attributes.any (·.named "nullable")) := rfl
  refine ⟨?_, ?_, fun same marker => ?_⟩
  · rw [isInside, isPlain, ← List.isEmpty_iff]
    cases wrappings.isEmpty <;> cases type.isOptional <;>
      cases attributes.any (·.named "nullable") <;> decide
  · rw [isInside, isPlain]
    cases wrappings.isEmpty <;> cases type.isOptional <;>
      cases attributes.any (·.named "nullable") <;> decide
  · have annotations : annotationsOf marker inside = annotationsOf marker plain := by
      unfold annotationsOf
      rw [same]
    unfold parameterOf
    rw [annotations, resolve_wrapped names wrappings type]

/-- An option in a box and an option in parentheses give fields that must be there. -/
theorem wrapped_option_gives_required_field :
    let marker := "javax.annotation.Nullable"
    let option : FieldType := .path [] "Option" [.path [] "i32" []]
    let record : Record :=
      { attributes := [⟨false, ["generate_moshi"], .word⟩], isPublic := true, name := "P"
        fields := .named
          [⟨[], "plain", option⟩, ⟨[], "boxed", option.wrapped [.box []]⟩,
            ⟨[], "inside", option.wrapped [.parentheses]⟩] }
    let parameter (name : String) (annotations : List String) : Parameter :=
      { name := name, type := .boxed .int, annotations := annotations }
    let target : Target :=
      { qualifiedName := "a.P", package := some "a"
        constructors :=
          [[parameter "plain" [marker], parameter "boxed" [], parameter "inside" []]] }
    scanItems (some "a") (some marker) [.record record] = .ok ([target], []) ∧
      target.fields {} = .ok
        [⟨"plain", "plain", .boxed .int, true⟩, ⟨"boxed", "boxed", .boxed .int, false⟩,
          ⟨"inside", "inside", .boxed .int, false⟩] := by
  decide +kernel

end Source

end AdapterGen
