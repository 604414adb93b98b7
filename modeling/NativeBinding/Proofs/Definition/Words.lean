import NativeBinding.Proofs.Definition.Disjoint

namespace NativeBinding
namespace Definition
open Text

section
variable {text : List Char}

theorem component_word (member : found ∈ scan componentClause text) : IsWordText found.value := by
  obtain ⟨before,taken,after,takes⟩ := scan_takes componentClause_cuts member
  obtain ⟨heading,shape,_⟩ := component_parts takes
  exact shape.named

theorem block_word (member : found ∈ scan blockClause text) : IsWordText found.value.name := by
  obtain ⟨before,taken,after,takes⟩ := scan_takes blockClause_cuts member
  obtain ⟨heading,ending,shape,_⟩ := block_parts takes
  exact shape.named

theorem function_word (member : found ∈ scan functionClause text) : IsWordText found.value.name := by
  obtain ⟨before,taken,after,takes⟩ := scan_takes functionClause_cuts member
  obtain ⟨heading,tail,shape,_⟩ := function_parts takes
  exact shape.named

end

theorem functionOf_name (done : functionOf kinds name parameters returns = .ok function) : function.name = name := by
  obtain ⟨arguments,_,done⟩ := result_ok_parts done
  cases returns with
  | none => cases done; rfl
  | some text =>
    obtain ⟨type,_,done⟩ := result_ok_parts done
    cases done
    rfl

theorem readLayout_component (done : readLayout text layout = .ok model) :
    model.component = String.ofList layout.component.value := by
  obtain ⟨kinds,_,done⟩ := result_ok_parts done
  obtain ⟨items,_,done⟩ := result_ok_parts done
  obtain ⟨functions,_,done⟩ := result_ok_parts done
  split at done
  · cases done
  · cases done
    rfl

variable {text : List Char} {layout : Layout} {model : Model}

theorem readLayout_worded (done : readLayout text layout = .ok model) (found : layoutOf text = .ok layout) : model.Worded := by
  obtain ⟨component,blocks,functions⟩ := layoutOf_scans found
  refine ⟨?_,?_,?_⟩
  · rw [readLayout_component done,String.toList_ofList]
    exact component_word component
  · obtain ⟨kinds,items,_,read,_,enumerations,records,objects⟩ := readLayout_ok done
    intro name member
    rw [Model.typeNames,enumerations,records,objects] at member
    obtain ⟨item,present,rfl⟩ := List.mem_map.mp ((items_names items).mem_iff.mpr member)
    obtain ⟨block,known,own⟩ := itemsOf_item read present
    rw [(itemOf_formed own).1,String.toList_ofList]
    exact block_word (blocks ▸ known)
  · obtain ⟨_,_,_,_,others,_⟩ := readLayout_ok done
    intro function member
    obtain ⟨signature,known,own⟩ := forall₂_left (mapM_ok_parts others) member
    rw [functionOf_name (mapError_ok own),String.toList_ofList]
    exact function_word (functions ▸ known)

end Definition

theorem Model.read_worded (read : Model.read text = .ok model) : model.Worded := by
  obtain ⟨layout,found,read⟩ := result_ok_parts read
  obtain ⟨_,_,done⟩ := result_ok_parts read
  exact Definition.readLayout_worded done found

end NativeBinding
