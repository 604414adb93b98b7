import NativeBinding.Proofs.Codec.Nested
import NativeBinding.Proofs.Emitted.Helpers
import NativeBinding.Proofs.Emitted.Semantics
import NativeBinding.Proofs.Emitted.Rendered

namespace NativeBinding
open Wire

-- From some depth on a run comes to the same: it ends by itself.
def Settles (run : Nat → α) (result : α) : Prop := ∃ enough, ∀ depth, enough ≤ depth → run depth = result

namespace Settles
variable {run : Nat → α} {result : α}

theorem fixed (result : α) : Settles (fun _ => result) result := ⟨0,fun _ _ => rfl⟩

theorem map (one : Settles run result) (change : α → β) : Settles (fun depth => change (run depth)) (change result) := by
  obtain ⟨enough,same⟩ := one
  exact ⟨enough,fun depth deep => congrArg change (same depth deep)⟩

theorem both {next : Nat → β} (one : Settles run result) (two : Settles next last) (change : α → β → γ) :
    Settles (fun depth => change (run depth) (next depth)) (change result last) := by
  obtain ⟨enough,first⟩ := one
  obtain ⟨more,second⟩ := two
  refine ⟨max enough more,fun depth deep => ?_⟩
  exact congrArg₂ change (first depth ((Nat.le_max_left _ _).trans deep)) (second depth ((Nat.le_max_right _ _).trans deep))

theorem given {given : Except Fault α} {run : Nat → α → Except Fault β} {result : α → Except Fault β}
    (each : ∀ value, given = .ok value → Settles (fun depth => run depth value) (result value)) :
    Settles (fun depth => given >>= run depth) (given >>= result) := by
  cases given with
  | error => exact fixed _
  | ok value => exact each value rfl

theorem handed {given : Except Fault α} {run : Nat → α → Write β} {result : α → Write β}
    (each : ∀ value, given = .ok value → Settles (fun depth => run depth value) (result value)) :
    Settles (fun depth => Write.ofResult given >>= run depth) (Write.ofResult given >>= result) := by
  cases given with
  | error fault => exact fixed (throw fault : Write β)
  | ok value => exact each value rfl

section
variable {ε σ : Type} {first : Nat → EStateM ε σ α} {next : Nat → α → EStateM ε σ β} {s t : σ}

theorem error {fault : ε} (one : Settles (fun depth => first depth s) (.error fault t)) :
    Settles (fun depth => (first depth >>= next depth) s) (.error fault t) := by
  obtain ⟨enough,same⟩ := one
  exact ⟨enough,fun depth deep => seq_error (same depth deep)⟩

theorem ok {value : α} (one : Settles (fun depth => first depth s) (.ok value t)) (two : Settles (fun depth => next depth value t) ending) :
    Settles (fun depth => (first depth >>= next depth) s) ending := by
  obtain ⟨enough,first⟩ := one
  obtain ⟨more,second⟩ := two
  refine ⟨max enough more,fun depth deep => ?_⟩
  have taken := first depth ((Nat.le_max_left _ _).trans deep)
  exact (seq_ok taken).trans (second depth ((Nat.le_max_right _ _).trans deep))

theorem seq {whole : EStateM ε σ α} {rest : α → EStateM ε σ β} (one : Settles (fun depth => first depth s) (whole s))
    (two : ∀ value t, whole s = .ok value t → Settles (fun depth => next depth value t) (rest value t)) :
    Settles (fun depth => (first depth >>= next depth) s) ((whole >>= rest) s) := by
  cases run : whole s with
  | error fault t =>
    rw [seq_error run]
    exact (run ▸ one).error
  | ok value t =>
    rw [seq_ok run]
    exact (run ▸ one).ok (two value t run)

theorem guarded {condition : Prop} [Decidable condition] (before : EStateM ε σ PUnit) {run : Nat → EStateM ε σ β} {whole : EStateM ε σ β}
    (each : ∀ t, Settles (fun depth => run depth t) (whole t)) :
    Settles (fun depth => (if condition then before >>= fun _ => run depth else run depth) s)
      ((if condition then before >>= fun _ => whole else whole) s) := by
  split
  · exact seq (.fixed _) fun _ t _ => each t
  · exact each s

end

-- What a call comes to, from what the calls in it come to.
theorem entered (inside : Settles (fun depth => run (depth + 1)) result) : Settles run result := by
  obtain ⟨enough,same⟩ := inside
  refine ⟨enough + 1,fun depth deep => ?_⟩
  obtain ⟨less,rfl⟩ := Nat.exists_eq_add_of_le' ((Nat.le_add_left 1 enough).trans deep)
  exact same less (Nat.le_of_succ_le_succ deep)

end Settles

-- All optional types that a type is made of are among those that helpers are made for.
def TypeRef.IsCollected (model : Model) (type : TypeRef) : Prop := ∀ layer ∈ type.spine, layer ∈ model.optionalTypes

structure Rendered.Renders (rendered : Rendered) (model : Model) : Prop where
  classes : List.Forall₂ (fun record cls => record.emitted = .ok cls) model.records rendered.classes
  helpers : List.Forall₂ (fun (type : TypeRef) made => type.helpers = .ok (some made)) model.optionalTypes rendered.helpers
  distinct : (rendered.helpers.map OptionalHelpers.ident).Nodup
  ordinal : rendered.ordinal = model.fromOrdinal
  collected : ∀ type ∈ model.typeRefs, type.IsCollected model

theorem Model.rendered_renders {model : Model} {rendered : Rendered} (fine : ∀ type ∈ model.typeRefs, ¬ type.core.isObject)
    (bare : ∀ type ∈ model.typeRefs, type.IsBare) (done : model.rendered = .ok rendered) : rendered.Renders model := by
  obtain ⟨helpers,made,done⟩ := result_ok_parts done
  cases done
  refine ⟨records_made fine,optionalHelpers_made made,idents_nodup fine bare made,rfl,?_⟩
  intro type member layer inside
  exact (optionalTypes_mem fine).mpr ⟨type,member,inside⟩

namespace Rendered
variable {rendered : Rendered} {model : Model} (renders : rendered.Renders model)
include renders

namespace Renders

theorem fields_collected (found : model.record? name = some record) : ∀ field ∈ record.fields, field.type.IsCollected model := by
  intro field member
  refine renders.collected _ (List.mem_append_left _ (List.mem_flatMap.mpr ⟨record,Model.record?_mem found,?_⟩))
  exact List.mem_map_of_mem member

theorem class_found (name : String) : (model.record? name = none ∧ rendered.class? name = none) ∨
    ∃ record cls, model.record? name = some record ∧ rendered.class? name = some cls ∧ record.emitted = .ok cls := by
  have found : Option.Rel (fun record cls => record.emitted = .ok cls) (model.record? name) (rendered.class? name) := by
    refine forall₂_find? (List.forall₂_reverse_iff.mpr renders.classes) ?_
    intro record cls made
    rw [(Record.emitted_parts made).1]
  generalize model.record? name = record,rendered.class? name = cls at found
  cases found with
  | none => exact .inl ⟨rfl,rfl⟩
  | some made => exact .inr ⟨_,_,rfl,rfl,made⟩

theorem helpers_found (member : .optional below label ∈ model.optionalTypes) :
    ∃ made, (TypeRef.optional below label).helpers = .ok (some made) ∧ ∀ start ∈ helperStarts,
      rendered.helpers? start (start ++ made.ident) = some made ∧
        start ++ made.ident ∉ "buf" :: importedNames ++ supportNames := by
  obtain ⟨made,own,done⟩ := forall₂_right renders.helpers member
  refine ⟨made,done,fun start sort => ⟨?_,?_⟩⟩
  · have listed : made ∈ rendered.helpers.reverse := List.mem_reverse.mpr own
    obtain ⟨other,found⟩ : ∃ other, rendered.helpers? start (start ++ made.ident) = some other := by
      refine Option.isSome_iff_exists.mp (List.find?_isSome.mpr ⟨made,listed,?_⟩)
      exact beq_self_eq_true _
    obtain ⟨same,_⟩ := List.find?_eq_some_iff_append.mp found
    have named : other.ident = made.ident := TypeRef.append_cancel (beq_iff_eq.mp same)
    have present := List.mem_reverse.mp (List.mem_of_find?_eq_some found)
    rw [found,List.inj_on_of_nodup_map renders.distinct present own named]
  · exact helperName_unknown sort (TypeRef.optional_letters rfl (TypeRef.helpers_parts done).1)

end Renders
end Rendered

namespace Value
variable {found : Value}

theorem ability_depth (known : ability abilities name = some found) : found.recordDepth = 0 := by
  unfold ability at known
  split at known
  · cases known; rfl
  · cases known

theorem integerPart_depth (known : integerPart number name = some found) : found.recordDepth = 0 := by
  unfold integerPart at known
  split_ifs at known
  · cases known; rfl
  · cases known; rfl
  · cases known; rfl
  · exact ability_depth known

theorem memberPart_depth (known : memberPart roster label ordinal name = some found) : found.recordDepth = 0 := by
  unfold memberPart at known
  split_ifs at known
  · cases known; rfl
  · cases known; rfl
  · cases known; rfl
  · rcases Option.or_eq_some_iff.mp known with other | ⟨_,known⟩
    · obtain ⟨row,_,rfl⟩ := Option.map_eq_some_iff.mp other
      rfl
    · rcases Option.or_eq_some_iff.mp known with whole | ⟨_,known⟩
      · exact integerPart_depth whole
      · exact ability_depth known

theorem fieldNamed_depth {rows : List (String × Value)} (known : fieldNamed rows name = some found) :
    found.recordDepth < (Value.record owner rows).recordDepth := by
  obtain ⟨row,listed,rfl⟩ := Option.map_eq_some_iff.mp known
  exact depth_lt owner (List.mem_of_find?_eq_some listed)

-- Only records and wrappers have parts that records are nested in.
theorem part_depth {value : Value} (known : value.part name = some found) : found.recordDepth ≤ value.recordDepth := by
  have shallow (none : found.recordDepth = 0) : found.recordDepth ≤ value.recordDepth := none ▸ Nat.zero_le _
  cases value with
  | null => cases known
  | bool => exact shallow (integerPart_depth known)
  | int => exact shallow (integerPart_depth known)
  | float =>
    simp only [part] at known
    split_ifs at known
    · cases known; exact Nat.le_refl 0
    · cases known; exact Nat.le_refl 0
    · exact shallow (ability_depth known)
  | text => exact shallow (ability_depth known)
  | bytes => exact shallow (ability_depth known)
  | member => exact shallow (memberPart_depth known)
  | wrapped inner =>
    simp only [part] at known
    split_ifs at known
    · cases known; simp only [recordDepth]; exact Nat.le_refl _
    · cases known; exact shallow rfl
  | record => exact (fieldNamed_depth known).le
  | thing => cases known

theorem partOf_depth {value : Value} (known : value.partOf name = .ok found) : found.recordDepth ≤ value.recordDepth := by
  unfold partOf at known
  split at known
  · cases known
  · rename_i listed
    cases known
    exact part_depth listed

theorem field_depth (known : (Value.record owner rows).partOf name = .ok found) :
    found.recordDepth < (Value.record owner rows).recordDepth := by
  unfold partOf at known
  split at known
  · cases known
  · rename_i listed
    cases known
    exact fieldNamed_depth listed

theorem payload_depth {value : Value} (known : value.payload below = .ok found) : found.recordDepth ≤ value.recordDepth := by
  unfold payload at known
  split at known
  · exact partOf_depth known
  · cases known
    exact Nat.le_refl _

end Value

theorem Expr.payload_value (below : TypeRef) (value : Value) :
    (TypeRef.payload (.source "value") below).value [("value",value)] = value.payload below := by
  cases nested : below.isOptional with
  | true => simp only [TypeRef.payload,Value.payload,nested,if_true]; rfl
  | false => simp only [TypeRef.payload,Value.payload,nested]; rfl

theorem Expr.payload_shallow {value : Value} (shallow : value.recordDepth ≤ limit) : ∀ part,
    (TypeRef.payload (.source "value") below).value [("value",value)] = .ok part → part.recordDepth ≤ limit := by
  intro part known
  rw [payload_value] at known
  exact (Value.payload_depth known).trans shallow

theorem Expr.value_shallow (value : Value) : ∀ part, (Expr.source "value").value [("value",value)] = .ok part →
    part.recordDepth ≤ value.recordDepth := by
  intro part known
  cases known
  exact Nat.le_refl _

end NativeBinding
