import NativeBinding.Proofs.Definition.Words
import NativeBinding.Proofs.Emitted.Helpers
import NativeBinding.Proofs.Emitted.Rendered
import NativeBinding.Proofs.Emitted.Scopes
import NativeBinding.Proofs.Session.Transfer

namespace NativeBinding
open Text

theorem Record.emitted_members {record : Record} {cls : RecordClass} (done : record.emitted = .ok cls) :
    cls.members.map RecordMember.name = record.fields.map Field.name :=
  forall₂_map (emitted_parts done).2 fun _ _ one => (member_parts one).1

namespace Model
variable {model : Model}

theorem defines_named {which : Named} (defined : model.Defines name which) : name ∈ model.typeNames := by
  rw [typeNames,List.mem_append,List.mem_append]
  cases which with
  | enumeration =>
    obtain ⟨enumeration,member,same⟩ := List.find?_isSome.mp defined
    exact .inl (.inl (List.mem_map.mpr ⟨enumeration,List.mem_reverse.mp member,beq_iff_eq.mp same⟩))
  | record =>
    obtain ⟨record,member,same⟩ := List.find?_isSome.mp defined
    exact .inl (.inr (List.mem_map.mpr ⟨record,List.mem_reverse.mp member,beq_iff_eq.mp same⟩))
  | object => exact .inr defined

theorem generate_lines {config : Config} (done : (model.generate config).result = .ok source) :
    ∃ lines, model.bodyLines config = .ok lines ∧ source = joinLines lines := by
  unfold generate at done
  split at done
  · cases run : model.bodyLines config with
    | error failure => rw [run] at done; cases done
    | ok lines => rw [run] at done; cases done; exact ⟨lines,rfl,rfl⟩
  · cases done

def classes (model : Model) : List String := model.enumerations.map Enumeration.name ++ model.records.map Record.name

structure Scoped (model : Model) (lines : List String) (helpers : List OptionalHelpers) : Prop where
  names : moduleNames lines = importedNames ++ supportNames ++ model.classes ++ helpers.flatMap OptionalHelpers.defined ++
    model.functions.map Function.name
  enumerations : ∀ enumeration ∈ model.enumerations, enumeration.lines <:+: lines ∧
    classNames enumeration.lines = enumeration.values ++ ["_from_ordinal"]
  records : ∀ record ∈ model.records, ∃ cls, record.emitted = .ok cls ∧ cls.lines <:+: lines ∧
    classNames cls.lines = record.fields.map Field.name ++ ["_size","_write","_read"]

theorem section_part (title : String) (lines : List String) : lines <:+: sectionUnlessEmpty title lines := by
  unfold sectionUnlessEmpty
  split
  · rename_i empty
    rw [List.isEmpty_iff.mp empty]
  · exact (List.suffix_append _ _).isInfix

section
variable (formed : model.WellFormed)
include formed

theorem enumeration_names (member : enumeration ∈ model.enumerations) :
    classNames enumeration.lines = enumeration.values ++ ["_from_ordinal"] :=
  Enumeration.lines_values fun value own => identifier_labelled ((formed.enumerations enumeration member).2.2 value own)

theorem record_names (member : record ∈ model.records) (one : record.emitted = .ok cls) :
    classNames cls.lines = record.fields.map Field.name ++ ["_size","_write","_read"] := by
  have members := Record.emitted_members one
  rw [← members]
  refine RecordClass.lines_members fun made own => ?_
  obtain ⟨field,known,same⟩ := List.mem_map.mp (members ▸ List.mem_map_of_mem own)
  rw [← same]
  exact identifier_labelled ((formed.records record member).2 field known)

end

section
variable (worded : model.Worded)
include worded

theorem enumerations_names :
    namesIn [] (model.enumerations.flatMap Enumeration.lines) = model.enumerations.map Enumeration.name := by
  rw [List.map_eq_flatMap]
  refine namesIn_flatMap fun enumeration member => Enumeration.lines_names ?_
  exact word_labelled (worded.types _ (List.mem_append_left _ (List.mem_append_left _ (List.mem_map_of_mem member))))

variable (fine : ∀ type ∈ model.typeRefs, ¬ type.core.isObject)
include fine

theorem records_names : namesIn [] (model.recordClasses.2.flatMap RecordClass.lines) = model.records.map Record.name := by
  have emitted := records_made fine
  rw [← forall₂_map emitted fun _ _ one => (Record.emitted_parts one).1,List.map_eq_flatMap]
  refine namesIn_flatMap fun cls member => RecordClass.lines_names ?_
  obtain ⟨record,present,one⟩ := forall₂_left emitted member
  rw [(Record.emitted_parts one).1]
  exact word_labelled (worded.types _ (List.mem_append_left _ (List.mem_append_right _ (List.mem_map_of_mem present))))

theorem functions_names : namesIn [] (model.wrappers.2.flatMap Wrapper.lines) = model.functions.map Function.name := by
  have wrapped := functions_made fine
  rw [← forall₂_map wrapped fun _ _ one => (wrapper_made one).1,List.map_eq_flatMap]
  refine namesIn_flatMap fun wrapper member => Wrapper.lines_names ?_
  obtain ⟨function,present,one⟩ := forall₂_left wrapped member
  rw [(wrapper_made one).1]
  exact word_labelled (worded.functions function present)

variable (formed : model.WellFormed)
include formed

theorem helpers_labelled (done : model.optionalHelpers = .ok helpers) : ∀ made ∈ helpers, Labelled made.ident.toList := by
  intro made member
  obtain ⟨layer,known,own⟩ := forall₂_left (optionalHelpers_made done) member
  obtain ⟨type,present,inside⟩ := (optionalTypes_mem fine).mp known
  have declared := TypeRef.spine_declared inside (formed.types type present).2
  exact word_labelled (TypeRef.ident_word declared (fun _ _ defined => worded.types _ (defines_named defined))
    (TypeRef.helpers_ident own))

theorem body_scoped (done : model.bodyLines config = .ok lines) :
    ∃ helpers, model.optionalHelpers = .ok helpers ∧ model.Scoped lines helpers := by
  obtain ⟨declarations,declared,done⟩ := result_ok_parts done
  obtain ⟨helpers,made,done⟩ := result_ok_parts done
  cases done
  have long : 4 ≤ (preambleLines model.component config.header).length := by simp [preambleLines]
  have own := declaration_names declared
  have optionals : namesIn [] (helpers.flatMap OptionalHelpers.lines) = helpers.flatMap OptionalHelpers.defined :=
    namesIn_flatMap fun helper member => OptionalHelpers.lines_names (helpers_labelled worded fine formed made helper member)
  refine ⟨helpers,made,?_,?_,?_⟩
  · simp only [List.append_assoc]
    rw [moduleNames,List.drop_append_of_le_length long]
    simp only [namesIn_append,preamble_names,section_names,support_names,bufferEntry_names,loading_names,own,
      sectionUnlessEmpty_names,enumerations_names worded,records_names worded fine,optionals,functions_names worded fine,
      object_names,supportNames,classes,List.append_assoc,List.nil_append,List.append_nil,List.cons_append]
  · intro enumeration member
    refine ⟨?_,enumeration_names formed member⟩
    have part : enumeration.lines <:+: sectionUnlessEmpty "Enum Definitions" (model.enumerations.flatMap Enumeration.lines) :=
      (part_flatMap member).trans (section_part _ _)
    exact List.infix_append_of_infix_left (List.infix_append_of_infix_left (List.infix_append_of_infix_left
      (List.infix_append_of_infix_left (List.infix_append_of_infix_right part))))
  · intro record member
    obtain ⟨cls,present,one⟩ := forall₂_right (records_made fine) member
    refine ⟨cls,one,?_,record_names formed member one⟩
    have part : cls.lines <:+: sectionUnlessEmpty "Record Definitions" (model.recordClasses.2.flatMap RecordClass.lines) :=
      (part_flatMap present).trans (section_part _ _)
    exact List.infix_append_of_infix_left (List.infix_append_of_infix_left (List.infix_append_of_infix_left
      (List.infix_append_of_infix_right part)))

end

theorem helpers_apart (done : model.optionalHelpers = .ok helpers) :
    (helpers.flatMap OptionalHelpers.defined).Disjoint (importedNames ++ supportNames) := by
  intro name member
  obtain ⟨made,present,own⟩ := List.mem_flatMap.mp member
  rw [OptionalHelpers.defined_starts] at own
  obtain ⟨start,known,rfl⟩ := List.mem_map.mp own
  obtain ⟨layer,seen,shown⟩ := forall₂_left (optionalHelpers_made done) present
  obtain ⟨_,_,inside⟩ := TypeRef.collectOptionals_mem.mp seen
  have letters := TypeRef.optional_letters (TypeRef.spine_optional inside) (TypeRef.helpers_ident shown)
  exact fun same => helperName_unknown known letters (List.mem_cons_of_mem _ same)

end Model

theorem parts_nodup {known classes made functions : List String} (fixed : known.Nodup) (own : classes.Nodup) (once : made.Nodup)
    (distinct : functions.Nodup) (apart : made.Disjoint known) : (known ++ classes ++ made ++ functions).Nodup ↔
      functions.Disjoint classes ∧ (classes ++ functions).Disjoint (known ++ made) := by
  simp only [List.nodup_append',List.disjoint_append_left,List.disjoint_append_right]
  constructor
  · rintro ⟨⟨⟨_,_,support⟩,_,_,optional⟩,_,⟨known,class_⟩,helper⟩
    exact ⟨class_.symm,⟨support.symm,known.symm⟩,optional,helper.symm⟩
  · rintro ⟨class_,⟨support,known⟩,optional,helper⟩
    exact ⟨⟨⟨fixed,own,support.symm⟩,once,apart.symm,optional⟩,distinct,⟨known.symm,class_.symm⟩,helper.symm⟩

-- The scopes of a module that is made from a definition text. Names of one sort never meet,
-- but nothing keeps a function from the name of a class, a definition from a name that the
-- module defines itself, and a member of a class from the name of one of its methods.
theorem emitted_names_distinct_iff (read : Model.read text = .ok model) (done : (model.generate config).result = .ok source) :
    ∃ lines helpers, model.bodyLines config = .ok lines ∧ source = Model.joinLines lines ∧
      model.optionalHelpers = .ok helpers ∧ model.Scoped lines helpers ∧
      ((moduleNames lines).Nodup ↔ (model.functions.map Function.name).Disjoint model.classes ∧
        model.definedNames.Disjoint (importedNames ++ supportNames ++ helpers.flatMap OptionalHelpers.defined)) ∧
      (∀ enumeration ∈ model.enumerations, (classNames enumeration.lines).Nodup ↔ "_from_ordinal" ∉ enumeration.values) ∧
      ∀ record ∈ model.records, ∀ cls, record.emitted = .ok cls →
        ((classNames cls.lines).Nodup ↔ ∀ field ∈ record.fields, field.name ∉ ["_size","_write","_read"]) := by
  have fine := Model.generate_ok done
  obtain ⟨_,_,laid⟩ := Model.read_layout read
  have formed := Definition.readLayout_formed laid
  obtain ⟨lines,body,shown⟩ := Model.generate_lines done
  obtain ⟨helpers,made,inside⟩ := Model.body_scoped (Model.read_worded read) fine formed body
  refine ⟨lines,helpers,body,shown,made,inside,?_,?_,?_⟩
  · have bare : ∀ type ∈ model.typeRefs, type.IsBare := fun type member => (formed.types type member).1
    have once := defined_nodup (Model.idents_nodup fine bare made)
    have classes : model.classes.Nodup := (List.nodup_append.mp formed.distinct).1
    rw [inside.names]
    exact parts_nodup (by decide) classes once formed.functions (Model.helpers_apart made)
  · intro enumeration member
    obtain ⟨_,distinct,_⟩ := formed.enumerations enumeration member
    rw [(inside.enumerations enumeration member).2,List.nodup_append',List.disjoint_singleton]
    simp [distinct]
  · intro record member cls emitted
    obtain ⟨_,one,_,names⟩ := inside.records record member
    cases emitted.symm.trans one
    rw [names,List.nodup_append']
    constructor
    · rintro ⟨_,_,apart⟩ field own
      exact apart (List.mem_map_of_mem own)
    · intro free
      refine ⟨(formed.records record member).1,by decide,?_⟩
      intro name own
      obtain ⟨field,present,rfl⟩ := List.mem_map.mp own
      exact free field present

def sampleHelperNames : List String :=
  ["_size_optional_float","_write_optional_float","_read_optional_float",
    "_size_optional_record_Node","_write_optional_record_Node","_read_optional_record_Node",
    "_size_optional_optional_record_Node","_write_optional_optional_record_Node","_read_optional_optional_record_Node"]

theorem emitted_names_distinct_sample : ∃ source lines, (sampleModel.generate (Config.defaults "geo")).result = .ok source ∧
    source = Model.joinLines lines ∧ (moduleNames lines).Nodup ∧ sampleHelperNames ⊆ moduleNames lines := by
  obtain ⟨source,generated⟩ := generated_sample
  obtain ⟨lines,helpers,_,shown,made,inside,distinct,_⟩ := emitted_names_distinct_iff read_sample generated
  have own : helpers.flatMap OptionalHelpers.defined = sampleHelperNames := by cases made; rfl
  rw [own] at distinct
  have functions : ∀ name ∈ sampleModel.functions.map Function.name, name ∉ sampleModel.classes := by decide
  have free : ∀ name ∈ sampleModel.definedNames, name ∉ importedNames ++ supportNames ++ sampleHelperNames := by
    decide
  refine ⟨source,lines,generated,shown,distinct.mpr ⟨?_,?_⟩,?_⟩
  · exact fun name member => functions name member
  · exact fun name member => free name member
  · rw [inside.names,own]
    exact fun name member => List.mem_append_left _ (List.mem_append_right _ member)

def reboundText : String := "namespace n; enum E { A }; fn E();"

def reboundModel : Model := ⟨"n",[⟨"E",["A"]⟩],[],[⟨"E",[],none⟩],[]⟩

theorem emitted_names_clash : ∃ source lines, Model.read reboundText = .ok reboundModel ∧
    (reboundModel.generate (Config.defaults "n")).result = .ok source ∧ source = Model.joinLines lines ∧
    ¬ (moduleNames lines).Nodup := by
  have read : Model.read reboundText = .ok reboundModel := by cbv
  have fine : ∀ type ∈ reboundModel.typeRefs, ¬ type.core.isObject := by decide
  obtain ⟨source,generated⟩ : ∃ source, (reboundModel.generate (Config.defaults "n")).result = .ok source :=
    Model.generate_accepted fine
  obtain ⟨lines,body,shown⟩ := Model.generate_lines generated
  obtain ⟨_,_,laid⟩ := Model.read_layout read
  have formed := Definition.readLayout_formed laid
  obtain ⟨helpers,_,inside⟩ := Model.body_scoped (Model.read_worded read) fine formed body
  refine ⟨source,lines,read,generated,shown,?_⟩
  rw [inside.names]
  intro distinct
  refine (List.nodup_append.mp distinct).2.2 "E" ?_ "E" (by decide) rfl
  exact List.mem_append_left _ (List.mem_append_right _ (by decide))

end NativeBinding
