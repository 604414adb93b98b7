import Mathlib
import NativeBinding.Interface.Model

namespace NativeBinding

-- Types by their optional layers. What a reference keeps aside is no part of it.
@[induction_eliminator]
theorem TypeRef.byLayers {motive : TypeRef → Prop} (plain : ∀ which label aside, motive (.plain which label aside))
    (named : ∀ which name aside, motive (.named which name aside))
    (optional : ∀ below label, motive below → motive (.optional below label)) : ∀ type, motive type
  | .plain .. => plain _ _ _
  | .named .. => named _ _ _
  | .optional below label => optional below label (byLayers plain named optional below)

namespace Model

theorem record?_mem {model : Model} (found : model.record? name = some record) : record ∈ model.records := by
  simpa using List.mem_of_find?_eq_some found

theorem record?_name {model : Model} (found : model.record? name = some record) : record.name = name := by
  simpa using List.find?_some found

theorem enumeration?_mem {model : Model} (found : model.enumeration? name = some enumeration) :
    enumeration ∈ model.enumerations := by
  simpa using List.mem_of_find?_eq_some found

theorem enumeration?_name {model : Model} (found : model.enumeration? name = some enumeration) : enumeration.name = name := by
  simpa using List.find?_some found

def DistinctFields (model : Model) : Prop := ∀ record ∈ model.records, (record.fields.map Field.name).Nodup

structure Distinct (model : Model) : Prop where
  fields : model.DistinctFields
  values : ∀ enumeration ∈ model.enumerations, enumeration.values.Nodup

def Nests (model : Model) (outer inner : String) : Prop :=
  ∃ record, model.record? outer = some record ∧ ∃ field ∈ record.fields, ∃ aside, field.type = .named .record inner aside

-- No record contains itself outright. Optional fields may come back to it.
def Grounded (model : Model) : Prop := ∀ name, ¬ Relation.TransGen model.Nests name name

open scoped Classical in
-- How many records can be met on the way down from one, itself included, as long as
-- nothing optional is passed.
noncomputable def rank (model : Model) (name : String) : Nat :=
  ((model.records.map Record.name).toFinset.filter (fun other => Relation.ReflTransGen model.Nests name other)).card

noncomputable def typeRank (model : Model) : TypeRef → Nat
  | .named .record name _ => model.rank name
  | _ => 0

variable {model : Model}

theorem rank_le (name : String) : model.rank name ≤ model.records.length := by
  classical
  refine (Finset.card_filter_le _ _).trans ((List.toFinset_card_le _).trans ?_)
  rw [List.length_map]

theorem typeRank_le (type : TypeRef) : model.typeRank type ≤ model.records.length := by
  unfold typeRank
  split
  · exact rank_le _
  · exact Nat.zero_le _

theorem deep_behind {limit depth : Nat} (deep : limit * (model.records.length + 1) ≤ depth) (some : 0 < limit)
    (below : TypeRef) : (limit - 1) * (model.records.length + 1) + model.typeRank below ≤ depth := by
  have most := model.typeRank_le below
  obtain ⟨left,rfl⟩ := Nat.exists_eq_add_of_le' some
  rw [Nat.succ_mul] at deep
  simp only [Nat.add_sub_cancel]
  omega

theorem name_mem (found : model.record? name = some record) : name ∈ (model.records.map Record.name).toFinset := by
  rw [List.mem_toFinset,← record?_name found]
  exact List.mem_map_of_mem (record?_mem found)

theorem rank_pos (found : model.record? name = some record) : 0 < model.rank name := by
  classical
  refine Finset.card_pos.mpr ⟨name,Finset.mem_filter.mpr ⟨name_mem found,.refl⟩⟩

theorem rank_lt {outer inner : String} (nests : model.Nests outer inner) (free : ¬ Relation.TransGen model.Nests outer outer) :
    model.rank inner < model.rank outer := by
  classical
  obtain ⟨record,found,_⟩ := id nests
  refine Finset.card_lt_card (Finset.ssubset_iff_of_subset ?_ |>.mpr ⟨outer,?_,?_⟩)
  · intro name met
    obtain ⟨known,way⟩ := Finset.mem_filter.mp met
    exact Finset.mem_filter.mpr ⟨known,.head nests way⟩
  · exact Finset.mem_filter.mpr ⟨name_mem found,.refl⟩
  · intro met
    exact free (.head' nests (Finset.mem_filter.mp met).2)

theorem typeRank_lt (found : model.record? name = some record) (member : field ∈ record.fields)
    (free : ¬ Relation.TransGen model.Nests name name) : model.typeRank field.type < model.rank name := by
  unfold typeRank
  split
  · rename_i inner aside same
    exact rank_lt ⟨record,found,field,member,aside,same⟩ free
  · exact rank_pos found

-- A record that is entered is not met again before the next flag.
theorem deep_inside {limit less depth : Nat} (found : model.record? name = some record) (member : field ∈ record.fields)
    (free : ¬ Relation.TransGen model.Nests name name)
    (deep : limit * (model.records.length + 1) + model.rank name ≤ depth + 1) (below : less ≤ limit) :
    less * (model.records.length + 1) + model.typeRank field.type ≤ depth := by
  have rank := typeRank_lt found member free
  have bytes := Nat.mul_le_mul_right (model.records.length + 1) below
  omega

theorem free_of_acc {name : String} (ends : Acc (fun inner outer => model.Nests outer inner) name) :
    ¬ Relation.TransGen model.Nests name name := by
  intro loop
  have back : Relation.TransGen (fun inner outer => model.Nests outer inner) name name :=
    Relation.transGen_swap.mpr loop
  induction Acc.transGen ends with
  | intro name _ ih => exact ih name back (ends.inv_of_transGen back) loop back

end Model
end NativeBinding
