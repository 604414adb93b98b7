import NativeBinding.Proofs.Emitted.Distinct
import NativeBinding.Proofs.Text.Classes

namespace NativeBinding
open Text

namespace Model
variable {model : Model}

def outerNames (model : Model) : List String :=
  model.component :: model.typeNames ++ model.functions.map Function.name

def innerNames (model : Model) : List String :=
  model.enumerations.flatMap Enumeration.values ++ model.records.flatMap (fun record => record.fields.map Field.name) ++
    model.functions.flatMap (fun function => function.arguments.map Field.name)

theorem Worded.outer (worded : model.Worded) : ∀ name ∈ model.outerNames, IsWordText name.toList := by
  refine List.forall_mem_append.mpr ⟨List.forall_mem_cons.mpr ⟨worded.component,worded.types⟩,?_⟩
  exact List.forall_mem_map.mpr worded.functions

theorem WellFormed.inner (formed : model.WellFormed) : ∀ name ∈ model.innerNames, isIdentifier name.toList := by
  refine List.forall_mem_append.mpr ⟨List.forall_mem_append.mpr ⟨?_,?_⟩,?_⟩
  · intro value member
    obtain ⟨enumeration,known,own⟩ := List.mem_flatMap.mp member
    exact (formed.enumerations enumeration known).2.2 value own
  · intro name member
    obtain ⟨record,known,own⟩ := List.mem_flatMap.mp member
    obtain ⟨field,part,rfl⟩ := List.mem_map.mp own
    exact (formed.records record known).2 field part
  · intro name member
    obtain ⟨function,known,own⟩ := List.mem_flatMap.mp member
    obtain ⟨field,part,rfl⟩ := List.mem_map.mp own
    exact (formed.arguments function known).2 field part

theorem defines_class {which : Named} (defined : model.Defines name which) (other : which ≠ .object) : name ∈ model.classes := by
  rw [classes,List.mem_append]
  cases which with
  | enumeration =>
    obtain ⟨enumeration,member,same⟩ := List.find?_isSome.mp defined
    exact .inl (List.mem_map.mpr ⟨enumeration,List.mem_reverse.mp member,beq_iff_eq.mp same⟩)
  | record =>
    obtain ⟨record,member,same⟩ := List.find?_isSome.mp defined
    exact .inr (List.mem_map.mpr ⟨record,List.mem_reverse.mp member,beq_iff_eq.mp same⟩)
  | object => exact absurd rfl other

-- Helpers of optional types take over what the names of the classes are made of.
theorem helpers_identifiers (formed : model.WellFormed) (fine : ∀ type ∈ model.typeRefs, ¬ type.core.isObject)
    (done : model.optionalHelpers = .ok helpers) (classes : ∀ name ∈ model.classes, isIdentifier name.toList) :
    ∀ name ∈ helpers.flatMap OptionalHelpers.defined, isIdentifier name.toList := by
  intro name member
  obtain ⟨made,present,own⟩ := List.mem_flatMap.mp member
  rw [OptionalHelpers.defined_starts] at own
  obtain ⟨start,sort,rfl⟩ := List.mem_map.mp own
  obtain ⟨layer,known,shown⟩ := forall₂_left (optionalHelpers_made done) present
  obtain ⟨type,listed,inside⟩ := (optionalTypes_mem fine).mp known
  have declared := TypeRef.spine_declared inside (formed.types type listed).2
  have letters : made.ident.toList ≠ [] ∧ ∀ c ∈ made.ident.toList, isIdentifierRest c :=
    TypeRef.ident_all (by decide) declared
      (fun name which defined other => isIdentifier_rest (classes name (defines_class defined other))) (TypeRef.helpers_ident shown)
  have starts : ∀ start ∈ helperStarts, start.toList ≠ [] ∧ isIdentifier start.toList := by decide
  obtain ⟨some,first⟩ := starts start sort
  rw [String.toList_append]
  exact (isIdentifier_append some).mpr ⟨first,letters.2⟩

theorem symbol_identifier (worded : model.Worded) (name : String) :
    isIdentifier (model.symbol name).toList ↔ isIdentifier model.component.toList ∧ ∀ c ∈ name.toList, isIdentifierRest c := by
  have low : isIdentifierRest '_' := by decide
  rw [symbol,String.toList_append,String.toList_append,List.append_assoc,isIdentifier_append worded.component.some]
  simp [low]

end Model

section
variable {model : Model} (worded : model.Worded)
include worded

theorem symbols_identifiers : (∀ entry ∈ model.foreignFunctions, isIdentifier entry.symbol.toList) ↔
    Proper model.component.toList ∧ ∀ function ∈ model.functions, ∀ c ∈ function.name.toList, isStray c = false := by
  have rest (function : Function) (member : function ∈ model.functions) :
      (∀ c ∈ function.name.toList, isIdentifierRest c) ↔ ∀ c ∈ function.name.toList, isStray c = false := by
    refine forall₂_congr fun c own => ?_
    rw [word_rest ((worded.functions function member).all c own),Bool.not_eq_true']
  have alloc : ∀ c ∈ "bytebuffer_alloc".toList, isIdentifierRest c := List.all_eq_true.mp (by decide +kernel)
  have free : ∀ c ∈ "bytebuffer_free".toList, isIdentifierRest c := List.all_eq_true.mp (by decide +kernel)
  simp only [Model.foreignFunctions,List.forall_mem_cons,List.forall_mem_map,Model.foreignAlloc,Model.foreignFree,
    Model.foreignFunction,Model.allocSymbol,Model.freeSymbol,Model.symbol_identifier worded]
  rw [← isIdentifier_iff worded.component]
  constructor
  · rintro ⟨⟨component,_⟩,_,functions⟩
    exact ⟨component,fun function member => (rest function member).mp (functions function member).2⟩
  · rintro ⟨component,functions⟩
    exact ⟨⟨component,alloc⟩,⟨component,free⟩,
      fun function member => ⟨component,(rest function member).mpr (functions function member)⟩⟩

variable (formed : model.WellFormed) (fine : ∀ type ∈ model.typeRefs, ¬ type.core.isObject)
include formed fine

theorem moduleNames_identifiers (done : model.optionalHelpers = .ok helpers) (inside : model.Scoped lines helpers) :
    (∀ name ∈ moduleNames lines, isIdentifier name.toList) ↔
      ∀ name ∈ model.classes ++ model.functions.map Function.name, Proper name.toList := by
  have known : ∀ name ∈ importedNames ++ supportNames, isIdentifier name.toList := by decide +kernel
  have outer := worded.outer
  have words : ∀ name ∈ model.classes ++ model.functions.map Function.name, IsWordText name.toList := by
    refine List.forall_mem_append.mpr ⟨?_,List.forall_mem_map.mpr worded.functions⟩
    exact fun name member => worded.types name (List.mem_append_left _ member)
  rw [inside.names]
  constructor
  · intro all name member
    refine (isIdentifier_iff (words name member)).mp (all name ?_)
    rcases List.mem_append.mp member with own | own
    · exact List.mem_append_left _ (List.mem_append_left _ (List.mem_append_right _ own))
    · exact List.mem_append_right _ own
  · intro proper
    have own : ∀ name ∈ model.classes ++ model.functions.map Function.name, isIdentifier name.toList :=
      fun name member => (isIdentifier_iff (words name member)).mpr (proper name member)
    obtain ⟨classes,functions⟩ := List.forall_mem_append.mp own
    have helpers := Model.helpers_identifiers formed fine done classes
    exact List.forall_mem_append.mpr ⟨List.forall_mem_append.mpr ⟨List.forall_mem_append.mpr ⟨known,classes⟩,helpers⟩,functions⟩

end

theorem Model.bodyLines_declared {model : Model} {config : Config} (done : model.bodyLines config = .ok lines) :
    ∃ declarations, model.foreignFunctions.mapM ForeignFunction.declaration = .ok declarations ∧
      declarations.flatMap Declaration.lines <:+: lines := by
  obtain ⟨own,declared,done⟩ := result_ok_parts done
  obtain ⟨helpers,made,done⟩ := result_ok_parts done
  obtain ⟨declarations,each,declared⟩ := result_ok_parts declared
  cases declared
  cases done
  have part : declarations.flatMap Declaration.lines <:+: ["def _declare_ffi(lib):",
      "    \"\"\"Declare argument and return types of every native entry point\"\"\""] ++
        declarations.flatMap Declaration.lines ++ ["    return lib","",""] := List.infix_append _ _ _
  exact ⟨declarations,each,List.infix_append_of_infix_left (List.infix_append_of_infix_left (List.infix_append_of_infix_left
    (List.infix_append_of_infix_left (List.infix_append_of_infix_left (List.infix_append_of_infix_right part)))))⟩

-- What a definition text names inside of bodies is an identifier. Outside of them every word
-- is taken: it is an identifier exactly if no character of it is a stray one and the first
-- one is neither a decimal digit nor one that only comes later. So the names that a module
-- defines, and the symbols that it asks for, are identifiers for such words alone.
theorem names_identifiers_iff (read : Model.read text = .ok model) :
    (∀ name ∈ model.innerNames, isIdentifier name.toList) ∧
    (∀ name ∈ model.outerNames, IsWordText name.toList ∧ (isIdentifier name.toList ↔ Proper name.toList)) ∧
    ∀ config source, (model.generate config).result = .ok source → ∃ lines declarations,
      model.bodyLines config = .ok lines ∧ source = Model.joinLines lines ∧
      ((∀ name ∈ moduleNames lines, isIdentifier name.toList) ↔
        ∀ name ∈ model.classes ++ model.functions.map Function.name, Proper name.toList) ∧
      model.foreignFunctions.mapM ForeignFunction.declaration = .ok declarations ∧
      declarations.flatMap Declaration.lines <:+: lines ∧
      ((∀ declared ∈ declarations, isIdentifier declared.symbol.toList) ↔
        Proper model.component.toList ∧ ∀ function ∈ model.functions, ∀ c ∈ function.name.toList, isStray c = false) := by
  have worded := Model.read_worded read
  obtain ⟨_,_,laid⟩ := Model.read_layout read
  have formed := Definition.readLayout_formed laid
  refine ⟨formed.inner,fun name member => ⟨worded.outer name member,isIdentifier_iff (worded.outer name member)⟩,?_⟩
  intro config source done
  have fine := Model.generate_ok done
  obtain ⟨lines,body,shown⟩ := Model.generate_lines done
  obtain ⟨helpers,made,inside⟩ := Model.body_scoped worded fine formed body
  obtain ⟨declarations,each,part⟩ := Model.bodyLines_declared body
  refine ⟨lines,declarations,body,shown,moduleNames_identifiers worded formed fine made inside,each,part,?_⟩
  have symbols := ForeignFunction.declarations_symbols (mapM_ok_parts each)
  have same : (∀ symbol ∈ declarations.map Declaration.symbol, isIdentifier symbol.toList) ↔
      ∀ symbol ∈ model.foreignFunctions.map ForeignFunction.symbol, isIdentifier symbol.toList := by rw [symbols]
  rw [List.forall_mem_map,List.forall_mem_map] at same
  exact same.trans (symbols_identifiers worded)

theorem names_identifiers_sample : ∃ lines, sampleModel.bodyLines (Config.defaults "geo") = .ok lines ∧
    (∀ name ∈ moduleNames lines, isIdentifier name.toList) ∧ ∀ name ∈ sampleModel.outerNames, isIdentifier name.toList := by
  obtain ⟨source,generated⟩ := generated_sample
  obtain ⟨_,outer,every⟩ := names_identifiers_iff read_sample
  obtain ⟨lines,_,body,_,names,_⟩ := every (Config.defaults "geo") source generated
  have words : ∀ name ∈ sampleModel.outerNames, isIdentifier name.toList := by decide
  have proper : ∀ name ∈ sampleModel.outerNames, Proper name.toList :=
    fun name member => (outer name member).2.mp (words name member)
  refine ⟨lines,body,names.mpr fun name member => proper name ?_,words⟩
  rcases List.mem_append.mp member with own | own
  · exact List.mem_append_left _ (List.mem_cons_of_mem _ (List.mem_append_left _ own))
  · exact List.mem_append_right _ own

def numberedText : String := "namespace n; fn 1f();"

def numberedModel : Model := ⟨"n",[],[],[⟨"1f",[],none⟩],[]⟩

theorem names_not_identifiers : Model.read numberedText = .ok numberedModel ∧
    "1f" ∈ numberedModel.functions.map Function.name ∧ isIdentifier "1f".toList = false ∧
    ∃ lines, numberedModel.bodyLines (Config.defaults "n") = .ok lines ∧ "def 1f() -> None:" ∈ lines := by
  refine ⟨by cbv,by decide,by decide,_,rfl,?_⟩
  decide +kernel

end NativeBinding
