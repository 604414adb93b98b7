import NativeBinding.Proofs.Emitted.Rendered
import NativeBinding.Proofs.Session.Transfer

namespace NativeBinding

namespace Definition

theorem repeatedFunction_none {functions : List Function} (none : repeatedFunction functions = none) :
    (functions.map Function.name).Nodup := by
  have once := List.find?_eq_none.mp none
  rw [List.nodup_iff_count_le_one]
  intro name
  by_cases there : name ∈ functions.map Function.name
  · simpa using once name there
  · rw [List.count_eq_zero_of_not_mem there]
    exact Nat.zero_le 1

theorem readLayout_functions (done : readLayout text layout = .ok model) : (model.functions.map Function.name).Nodup := by
  obtain ⟨kinds,_,done⟩ := result_ok_parts done
  obtain ⟨items,_,done⟩ := result_ok_parts done
  obtain ⟨functions,_,done⟩ := result_ok_parts done
  split at done
  · cases done
  · rename_i none
    cases done
    exact repeatedFunction_none none

end Definition

namespace Model

theorem read_functions (read : Model.read text = .ok model) : (model.functions.map Function.name).Nodup := by
  obtain ⟨_,_,done⟩ := read_layout read
  exact Definition.readLayout_functions done

theorem symbol_injective (model : Model) : Function.Injective model.symbol := by
  intro one other same
  have same := congrArg String.toList same
  simp only [symbol,String.toList_append,List.append_cancel_left_eq] at same
  exact String.toList_inj.mp same

variable {model : Model}

theorem foreignFunctions_symbols (model : Model) : model.foreignFunctions.map ForeignFunction.symbol =
    model.allocSymbol :: model.freeSymbol :: (model.functions.map Function.name).map model.symbol := by
  simp [foreignFunctions,foreignAlloc,foreignFree,foreignFunction]

end Model

theorem ForeignFunction.declarations_symbols {entries : List ForeignFunction} {declarations : List Declaration}
    (all : List.Forall₂ (fun entry declared => entry.declaration = .ok declared) entries declarations) :
    declarations.map Declaration.symbol = entries.map ForeignFunction.symbol :=
  forall₂_map all fun _ _ one => (declaration_parts one).1

-- Symbols of a definition text are all different unless a function takes the name of an
-- entry point of the buffer protocol, which nothing keeps it from. What is declared is
-- declared for each of them in turn.
theorem symbols_distinct_iff (read : Model.read text = .ok model) :
    ((model.foreignFunctions.map ForeignFunction.symbol).Nodup ↔
      ∀ function ∈ model.functions, function.name ≠ "bytebuffer_alloc" ∧ function.name ≠ "bytebuffer_free") ∧
    ∀ declarations, model.foreignFunctions.mapM ForeignFunction.declaration = .ok declarations →
      declarations.map Declaration.symbol = model.foreignFunctions.map ForeignFunction.symbol := by
  refine ⟨?_,fun declarations done => ForeignFunction.declarations_symbols (mapM_ok_parts done)⟩
  have distinct := (Model.read_functions read).map model.symbol_injective
  have apart : model.allocSymbol ≠ model.freeSymbol := fun same => absurd (model.symbol_injective same) (by decide)
  rw [Model.foreignFunctions_symbols,List.nodup_cons,List.nodup_cons,List.mem_cons,Model.allocSymbol,Model.freeSymbol,
    List.mem_map_of_injective model.symbol_injective,List.mem_map_of_injective model.symbol_injective]
  constructor
  · rintro ⟨allocates,frees,_⟩ function member
    refine ⟨?_,?_⟩
    · intro same
      exact allocates (.inr (same ▸ List.mem_map_of_mem member))
    · intro same
      exact frees (same ▸ List.mem_map_of_mem member)
  · intro other
    refine ⟨?_,?_,distinct⟩
    · rintro (same | taken)
      · exact apart same
      · obtain ⟨function,member,same⟩ := List.mem_map.mp taken
        exact (other function member).1 same
    · intro taken
      obtain ⟨function,member,same⟩ := List.mem_map.mp taken
      exact (other function member).2 same

theorem symbols_distinct_sample : (sampleModel.foreignFunctions.map ForeignFunction.symbol).Nodup :=
  (symbols_distinct_iff read_sample).1.mpr (by decide)

def takenText : String := "namespace geo; fn bytebuffer_alloc(u32 size);"

def takenModel : Model := ⟨"geo",[],[],[⟨"bytebuffer_alloc",[⟨"size",.ofPlain .u32⟩],none⟩],[]⟩

theorem symbols_clash : Model.read takenText = .ok takenModel ∧
    ¬ (takenModel.foreignFunctions.map ForeignFunction.symbol).Nodup ∧
    takenModel.foreignFunctions.mapM ForeignFunction.declaration = .ok [
      ⟨"geo_bytebuffer_alloc",[.uint32],some .byteBuffer⟩,⟨"geo_bytebuffer_free",[.byteBuffer],none⟩,
      ⟨"geo_bytebuffer_alloc",[.uint32],none⟩] := by
  refine ⟨by cbv,by decide,by rfl⟩

end NativeBinding
