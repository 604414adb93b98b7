import NativeBinding.Emitted.OptionalHelpers
import NativeBinding.Proofs.Interface.Nesting
import NativeBinding.Proofs.Sequence

namespace NativeBinding.TypeRef

def spine : TypeRef → List TypeRef
  | .optional inner label => inner.spine ++ [.optional inner label]
  | _ => []

variable {type layer : TypeRef} {seen : List TypeRef}

theorem visitOptionals_eraseDups (type : TypeRef) (walk : List TypeRef) :
    type.visitOptionals walk.eraseDups = (walk ++ type.spine).eraseDups := by
  induction type with
  | plain => exact congrArg List.eraseDups (List.append_nil walk).symm
  | named => exact congrArg List.eraseDups (List.append_nil walk).symm
  | optional inner label ih =>
    simp only [visitOptionals,spine,ih,← List.append_assoc,eraseDups_concat,List.contains_iff_mem,List.mem_eraseDups]

theorem collectOptionals_eraseDups (types : List TypeRef) : collectOptionals types = (types.flatMap spine).eraseDups := by
  have walked (walk : List TypeRef) : types.foldl (fun seen type => type.visitOptionals seen) walk.eraseDups =
      (walk ++ types.flatMap spine).eraseDups := by
    induction types generalizing walk with
    | nil => exact congrArg List.eraseDups (List.append_nil walk).symm
    | cons type rest ih => rw [List.foldl_cons,visitOptionals_eraseDups,ih,List.flatMap_cons,List.append_assoc]
  exact walked []

theorem collectOptionals_mem {types : List TypeRef} : layer ∈ collectOptionals types ↔ ∃ type ∈ types, layer ∈ type.spine := by
  rw [collectOptionals_eraseDups,List.mem_eraseDups,List.mem_flatMap]

theorem collectOptionals_nodup (types : List TypeRef) : (collectOptionals types).Nodup := by
  rw [collectOptionals_eraseDups]
  exact eraseDups_nodup _

section
variable (member : layer ∈ type.spine)
include member

theorem spine_optional : layer.isOptional := by
  induction type with
  | plain => cases member
  | named => cases member
  | optional inner label ih =>
    rcases List.mem_append.mp member with below | last
    · exact ih below
    · rw [List.mem_singleton.mp last]
      rfl

theorem spine_keeps {motive : TypeRef → Prop} (down : ∀ inner label, motive (.optional inner label) → motive inner)
    (own : motive type) : motive layer := by
  induction type with
  | plain => cases member
  | named => cases member
  | optional inner label ih =>
    rcases List.mem_append.mp member with below | last
    · exact ih below (down inner label own)
    · rw [List.mem_singleton.mp last]
      exact own

theorem spine_core : layer.core = type.core :=
  spine_keeps (motive := fun inner => inner.core = type.core) member (fun _ _ same => same) rfl

theorem spine_below {inner : TypeRef} (split : layer = .optional inner label) (whole : inner.isOptional) :
    inner ∈ type.spine := by
  subst split
  induction type with
  | plain => cases member
  | named => cases member
  | optional below tag ih =>
    rcases List.mem_append.mp member with lower | last
    · exact List.mem_append_left _ (ih lower)
    · cases List.mem_singleton.mp last
      cases inner with
      | optional => exact List.mem_append_left _ (List.mem_append_right _ List.mem_cons_self)
      | _ => cases whole

end

-- Every optional type that is there has the optional type in it somewhere in front of it.
def Stacked (seen : List TypeRef) : Prop :=
  ∀ inner label, .optional inner label ∈ seen → inner.isOptional → List.Sublist [inner,.optional inner label] seen

theorem visitOptionals_own (whole : type.isOptional) : type ∈ type.visitOptionals seen := by
  cases type with
  | optional inner label =>
    simp only [visitOptionals]
    split
    · rename_i known
      exact List.contains_iff_mem.mp known
    · exact List.mem_append_right _ List.mem_cons_self
  | _ => cases whole

theorem visitOptionals_stacked (stacked : Stacked seen) : Stacked (type.visitOptionals seen) := by
  induction type with
  | plain => exact stacked
  | named => exact stacked
  | optional below tag ih =>
    simp only [visitOptionals]
    split
    · exact ih
    · intro inner label member whole
      rcases List.mem_append.mp member with old | new
      · exact (ih inner label old whole).trans (List.sublist_append_left _ _)
      · cases List.mem_singleton.mp new
        exact (List.singleton_sublist.mpr (visitOptionals_own whole)).append (List.Sublist.refl _)

theorem collectOptionals_stacked (types : List TypeRef) : Stacked (collectOptionals types) := by
  have walked (seen : List TypeRef) (stacked : Stacked seen) :
      Stacked (types.foldl (fun seen type => type.visitOptionals seen) seen) := by
    induction types generalizing seen with
    | nil => exact stacked
    | cons type rest ih => exact ih _ (visitOptionals_stacked stacked)
  exact walked [] nofun

theorem collectOptionals_covered {types : List TypeRef} (covered : ∀ layer ∈ type.spine, ∃ other ∈ types, layer ∈ other.spine) :
    collectOptionals (types ++ [type]) = collectOptionals types := by
  rw [collectOptionals_eraseDups,collectOptionals_eraseDups,List.flatMap_append,List.flatMap_singleton]
  exact eraseDups_covered fun layer member => List.mem_flatMap.mpr (covered layer member)

-- The layers of the types are collected, each of them once and behind the one below it, in
-- the order in which a walk through the types meets them, each type from the inside. A type
-- that brings none that is new adds nothing.
theorem collectOptionals_walked (types : List TypeRef) :
    (∀ layer, layer ∈ collectOptionals types ↔ ∃ type ∈ types, layer ∈ type.spine) ∧
    (collectOptionals types).Nodup ∧
    Stacked (collectOptionals types) ∧
    (collectOptionals types).Pairwise (fun one other =>
      (types.flatMap spine).idxOf one < (types.flatMap spine).idxOf other) ∧
    ∀ type : TypeRef, (∀ layer ∈ type.spine, ∃ other ∈ types, layer ∈ other.spine) →
      collectOptionals (types ++ [type]) = collectOptionals types := by
  refine ⟨fun _ => collectOptionals_mem,collectOptionals_nodup types,collectOptionals_stacked types,?_,?_⟩
  · rw [collectOptionals_eraseDups]
    exact eraseDups_order _
  · exact fun type covered => collectOptionals_covered covered

theorem collectOptionals_walked_sample :
    let count := optionalOf (.ofPlain .u32)
    let nested := optionalOf count
    let types := [.ofPlain .u32,nested,count,optionalOf (.recordOf "Point")]
    collectOptionals types = [count,nested,optionalOf (.recordOf "Point")] ∧
    List.Sublist [count,nested] (collectOptionals types) ∧ collectOptionals (types ++ [nested]) = collectOptionals types := by
  intro count nested types
  obtain ⟨_,_,stacked,_,covered⟩ := collectOptionals_walked types
  exact ⟨by decide,stacked count none (by decide) rfl,covered nested (by decide)⟩

end NativeBinding.TypeRef
