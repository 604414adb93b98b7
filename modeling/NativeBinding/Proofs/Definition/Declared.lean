import NativeBinding.Definition.Read
import NativeBinding.Emitted.Hygiene
import NativeBinding.Proofs.Interface.Nesting
import NativeBinding.Proofs.Sequence

namespace NativeBinding

def TypeRef.IsDeclared (kinds : String → Named → Prop) : TypeRef → Prop
  | .plain .. => True
  | .named which name _ => kinds name which
  | .optional below _ => below.IsDeclared kinds

theorem TypeRef.IsDeclared.mono {kinds other : String → Named → Prop} {type : TypeRef} (declared : type.IsDeclared kinds)
    (weaken : ∀ name which, kinds name which → other name which) : type.IsDeclared other := by
  induction type with
  | plain => trivial
  | named which name => exact weaken _ _ declared
  | optional below label ih => exact ih declared

namespace Model

def Defines (model : Model) (name : String) : Named → Prop
  | .enumeration => (model.enumeration? name).isSome
  | .record => (model.record? name).isSome
  | .object => name ∈ model.objects

end Model

namespace Definition

def Kinds.Has (kinds : Kinds) (name : String) (which : Named) : Prop := kinds.find name = some which

variable {kinds : Kinds}

theorem layers_declared {type : TypeRef} (count : Nat) (declared : type.IsDeclared kinds.Has) :
    (layers count type).IsDeclared kinds.Has := by
  induction count with
  | zero => exact declared
  | succ count ih => exact ih

theorem baseType_declared (found : baseType kinds name = some type) : type.IsDeclared kinds.Has := by
  unfold baseType at found
  split at found
  · cases found
    trivial
  · obtain ⟨which,known,rfl⟩ := Option.map_eq_some_iff.mp found
    exact known

theorem typeOf_declared (done : typeOf kinds text = .ok type) : type.IsDeclared kinds.Has := by
  unfold typeOf at done
  dsimp only at done
  split at done
  · cases done
  · split at done
    · cases done
    · rename_i found
      cases done
      exact layers_declared _ (baseType_declared found)

theorem fieldOf_declared (done : fieldOf kinds text = .ok field) : field.type.IsDeclared kinds.Has := by
  unfold fieldOf at done
  split at done
  · split at done
    · cases run : typeOf kinds _ with
      | error complaint => rw [run] at done; cases done
      | ok type =>
        rw [run] at done
        cases done
        exact typeOf_declared run
    · cases done
  · cases done

-- Fields that are read one after the other have different names, and each has a text of its own.
theorem fieldsOf_ok {taken : String → Complaint} {found fields : List Field} {texts : List (List Char)}
    (done : fieldsOf kinds taken found texts = .ok fields)
    (distinct : (found.map Field.name).Nodup) (read : ∀ field ∈ found, ∃ text, fieldOf kinds text = .ok field) :
    (fields.map Field.name).Nodup ∧ ∀ field ∈ fields, ∃ text, fieldOf kinds text = .ok field := by
  induction texts generalizing found with
  | nil => cases done; exact ⟨distinct,read⟩
  | cons text rest ih =>
    obtain ⟨field,own,done⟩ := result_ok_parts done
    split at done
    · cases done
    · rename_i fresh
      refine ih done ?_ ?_
      · have other : field.name ∉ found.map Field.name := by simpa using fresh
        rw [List.map_append,List.map_singleton]
        exact List.nodup_append.mpr ⟨distinct,List.nodup_singleton _,by
          rintro name member _ last same
          exact other (List.mem_singleton.mp last ▸ same ▸ member)⟩
      · intro other member
        rcases List.mem_append.mp member with old | new
        · exact read other old
        · rw [List.mem_singleton.mp new]
          exact ⟨text,own⟩

theorem recordOf_ok (done : recordOf kinds name body = .ok record) : record.name = name ∧
    (record.fields.map Field.name).Nodup ∧ ∀ field ∈ record.fields, ∃ text, fieldOf kinds text = .ok field := by
  obtain ⟨fields,read,done⟩ := result_ok_parts done
  cases done
  exact ⟨rfl,fieldsOf_ok read List.nodup_nil (by simp)⟩

theorem functionOf_ok (done : functionOf kinds name parameters returns = .ok function) :
    (function.arguments.map Field.name).Nodup ∧ (∀ field ∈ function.arguments, ∃ text, fieldOf kinds text = .ok field) ∧
      ∀ type ∈ function.returns, ∃ text, typeOf kinds text = .ok type := by
  obtain ⟨arguments,read,done⟩ := result_ok_parts done
  obtain ⟨distinct,each⟩ := fieldsOf_ok read List.nodup_nil (by simp)
  cases returns with
  | none =>
    cases done
    exact ⟨distinct,each,by simp⟩
  | some text =>
    obtain ⟨type,result,done⟩ := result_ok_parts done
    cases done
    refine ⟨distinct,each,?_⟩
    rintro _ ⟨⟩
    exact ⟨text,result⟩

theorem checkValues_parts {values rest : List String} (done : checkValues name values rest = .ok ()) :
    ∀ value ∈ rest, Text.isIdentifier value.toList ∧ values.count value ≤ 1 := by
  induction rest with
  | nil => intro value member; cases member
  | cons first rest ih =>
    simp only [checkValues] at done
    split at done
    · cases done
    · rename_i identifier
      split at done
      · cases done
      · rename_i once
        intro value member
        rcases List.mem_cons.mp member with rfl | later
        · exact ⟨by simpa using identifier,Nat.not_lt.mp once⟩
        · exact ih done value later

theorem enumerationOf_ok (done : enumerationOf name body = .ok enumeration) : enumeration.name = name ∧
    enumeration.values ≠ [] ∧ enumeration.values.Nodup ∧ ∀ value ∈ enumeration.values, Text.isIdentifier value.toList := by
  simp only [enumerationOf] at done
  split at done
  · cases done
  · rename_i some
    obtain ⟨_,checked,done⟩ := result_ok_parts done
    cases done
    have each := checkValues_parts checked
    refine ⟨rfl,by simpa using some,?_,fun value member => (each value member).1⟩
    rw [List.nodup_iff_count_le_one]
    intro value
    by_cases member : value ∈ (parts ',' body).map String.ofList
    · exact (each value member).2
    · rw [List.count_eq_zero_of_not_mem member]
      exact Nat.zero_le 1

theorem kindsOf_ok {blocks : List (Found Block)} (done : kindsOf text kinds blocks = .ok all) :
    all = kinds ++ blocks.map (fun block => (String.ofList block.value.name,block.value.kind)) := by
  induction blocks generalizing kinds with
  | nil => cases done; simp
  | cons block rest ih =>
    simp only [kindsOf] at done
    split at done
    · cases done
    · rw [ih done,List.append_assoc]
      rfl

theorem Kinds.Has.block {blocks : List (Found Block)} (done : kindsOf text [] blocks = .ok kinds) (has : kinds.Has name which) :
    ∃ block ∈ blocks, String.ofList block.value.name = name ∧ block.value.kind = which := by
  have member : (name,which) ∈ kinds := by
    obtain ⟨before,after,same,_⟩ := List.lookup_eq_some_iff.mp has
    rw [same]
    exact List.mem_append_right _ List.mem_cons_self
  rw [kindsOf_ok done,List.nil_append] at member
  obtain ⟨block,present,same⟩ := List.mem_map.mp member
  cases same
  exact ⟨block,present,rfl,rfl⟩

theorem readLayout_ok (done : readLayout text layout = .ok model) : ∃ kinds items,
    kindsOf text [] layout.blocks = .ok kinds ∧ itemsOf text kinds layout.blocks = .ok items ∧
    functionsOf text kinds layout.functions = .ok model.functions ∧
    model.enumerations = items.filterMap Item.enumeration? ∧ model.records = items.filterMap Item.record? ∧
    model.objects = items.filterMap Item.object? := by
  obtain ⟨kinds,known,done⟩ := result_ok_parts done
  obtain ⟨items,read,done⟩ := result_ok_parts done
  obtain ⟨functions,others,done⟩ := result_ok_parts done
  split at done
  · cases done
  · cases done
    exact ⟨kinds,items,known,read,others,rfl,rfl,rfl⟩

theorem itemsOf_block {blocks : List (Found Block)} (done : itemsOf text kinds blocks = .ok items) (member : block ∈ blocks) :
    ∃ item ∈ items, itemOf kinds block.value = .ok item := by
  obtain ⟨item,present,read⟩ := forall₂_right (mapM_ok_parts done) member
  exact ⟨item,present,mapError_ok read⟩

theorem itemsOf_item {blocks : List (Found Block)} (done : itemsOf text kinds blocks = .ok items) (member : item ∈ items) :
    ∃ block ∈ blocks, itemOf kinds block.value = .ok item := by
  obtain ⟨block,present,read⟩ := forall₂_left (mapM_ok_parts done) member
  exact ⟨block,present,mapError_ok read⟩

theorem itemOf_record (done : itemOf kinds block = .ok (.record record)) :
    recordOf kinds (String.ofList block.name) block.body = .ok record := by
  unfold itemOf at done
  dsimp only at done
  split at done
  · cases run : enumerationOf (String.ofList block.name) block.body <;> rw [run] at done <;> cases done
  · cases run : recordOf kinds (String.ofList block.name) block.body with
    | error => rw [run] at done; cases done
    | ok found => rw [run] at done; cases done; rfl
  · cases done

theorem itemOf_enumeration (done : itemOf kinds block = .ok (.enumeration enumeration)) :
    enumerationOf (String.ofList block.name) block.body = .ok enumeration := by
  unfold itemOf at done
  dsimp only at done
  split at done
  · cases run : enumerationOf (String.ofList block.name) block.body with
    | error => rw [run] at done; cases done
    | ok found => rw [run] at done; cases done; rfl
  · cases run : recordOf kinds (String.ofList block.name) block.body <;> rw [run] at done <;> cases done
  · cases done

theorem itemOf_defines {model : Model} {items : List Item} (done : itemOf kinds block = .ok item) (known : item ∈ items)
    (enumerations : model.enumerations = items.filterMap Item.enumeration?)
    (records : model.records = items.filterMap Item.record?) (objects : model.objects = items.filterMap Item.object?) :
    model.Defines (String.ofList block.name) block.kind := by
  unfold itemOf at done
  dsimp only at done
  split at done
  · rename_i kind
    cases run : enumerationOf (String.ofList block.name) block.body with
    | error => rw [run] at done; cases done
    | ok found =>
      rw [run] at done
      cases done
      rw [kind]
      refine List.find?_isSome.mpr ⟨found,?_,by simpa using (enumerationOf_ok run).1⟩
      rw [List.mem_reverse,enumerations]
      exact List.mem_filterMap.mpr ⟨_,known,rfl⟩
  · rename_i kind
    cases run : recordOf kinds (String.ofList block.name) block.body with
    | error => rw [run] at done; cases done
    | ok found =>
      rw [run] at done
      cases done
      rw [kind]
      refine List.find?_isSome.mpr ⟨found,?_,by simpa using (recordOf_ok run).1⟩
      rw [List.mem_reverse,records]
      exact List.mem_filterMap.mpr ⟨_,known,rfl⟩
  · rename_i kind
    cases done
    rw [kind]
    change _ ∈ model.objects
    rw [objects]
    exact List.mem_filterMap.mpr ⟨_,known,rfl⟩

theorem readLayout_meets (done : readLayout text layout = .ok model) : model.Distinct ∧
    ∀ type ∈ model.typeRefs, type.IsDeclared model.Defines := by
  obtain ⟨kinds,items,known,read,others,enumerations,records,objects⟩ := readLayout_ok done
  have defines (name : String) (which : Named) (has : kinds.Has name which) : model.Defines name which := by
    obtain ⟨block,present,rfl,rfl⟩ := has.block known
    obtain ⟨item,member,own⟩ := itemsOf_block read present
    exact itemOf_defines own member enumerations records objects
  have fields : ∀ record ∈ model.records, (record.fields.map Field.name).Nodup ∧
      ∀ field ∈ record.fields, ∃ text, fieldOf kinds text = .ok field := by
    intro record member
    rw [records] at member
    obtain ⟨item,present,same⟩ := List.mem_filterMap.mp member
    obtain ⟨block,_,own⟩ := itemsOf_item read present
    cases item with
    | record found => cases same; exact (recordOf_ok (itemOf_record own)).2
    | _ => cases same
  have values : ∀ enumeration ∈ model.enumerations, enumeration.values.Nodup := by
    intro enumeration member
    rw [enumerations] at member
    obtain ⟨item,present,same⟩ := List.mem_filterMap.mp member
    obtain ⟨block,_,own⟩ := itemsOf_item read present
    cases item with
    | enumeration found => cases same; exact (enumerationOf_ok (itemOf_enumeration own)).2.2.1
    | _ => cases same
  refine ⟨⟨fun record member => (fields record member).1,values⟩,?_⟩
  intro type member
  refine TypeRef.IsDeclared.mono ?_ defines
  rcases List.mem_append.mp member with inside | outside
  · obtain ⟨record,present,own⟩ := List.mem_flatMap.mp inside
    obtain ⟨field,part,rfl⟩ := List.mem_map.mp own
    obtain ⟨_,read⟩ := (fields record present).2 field part
    exact fieldOf_declared read
  · obtain ⟨function,present,own⟩ := List.mem_flatMap.mp outside
    obtain ⟨signature,_,read⟩ := forall₂_left (mapM_ok_parts others) present
    obtain ⟨_,arguments,result⟩ := functionOf_ok (mapError_ok read)
    rcases List.mem_append.mp own with argument | returns
    · obtain ⟨field,part,rfl⟩ := List.mem_map.mp argument
      obtain ⟨_,read⟩ := arguments field part
      exact fieldOf_declared read
    · obtain ⟨_,read⟩ := result type (Option.mem_toList.mp returns)
      exact typeOf_declared read

end Definition

namespace Model

theorem read_layout (read : Model.read text = .ok model) : ∃ text layout, Definition.readLayout text layout = .ok model := by
  obtain ⟨layout,_,done⟩ := result_ok_parts read
  obtain ⟨_,_,done⟩ := result_ok_parts done
  exact ⟨_,layout,done⟩

theorem read_meets (read : Model.read text = .ok model) : model.Distinct ∧
    ∀ type ∈ model.typeRefs, type.IsDeclared model.Defines := by
  obtain ⟨_,_,done⟩ := read_layout read
  exact Definition.readLayout_meets done

end Model
end NativeBinding
