import NativeBinding.Proofs.Emitted.Convention
import NativeBinding.Proofs.Emitted.Distinct

namespace NativeBinding

namespace Expr

def source? : Expr → Option String
  | .source text => some text
  | _ => none

-- A call by name is of a function of the module. What it is about comes first; functions
-- that are to be called in turn are handed on behind that.
def called : Expr → List Expr → List String
  | .source name,arguments => name :: arguments.tail.filterMap source?
  | _,_ => []

mutual
def uses : Expr → List String
  | .source _ => []
  | .number _ => []
  | .member owner _ => owner.uses
  | .call callee arguments => called callee arguments ++ callee.uses ++ usesOf arguments
  | .flag condition => condition.uses
  | .nonzero value => value.uses

def usesOf : List Expr → List String
  | [] => []
  | argument :: rest => argument.uses ++ usesOf rest
end

theorem usesOf_eq_flatMap (arguments : List Expr) : usesOf arguments = arguments.flatMap uses := by
  induction arguments with
  | nil => rfl
  | cons argument rest ih => rw [usesOf,ih,List.flatMap_cons]

def UsesOnly (scope : List String) (expr : Expr) : Prop := ∀ name ∈ expr.uses, name ∈ scope

variable {scope : List String} {owner : Expr} {arguments : List Expr}

theorem source_usesOnly (text : String) : UsesOnly scope (.source text) := List.forall_mem_nil _

theorem number_usesOnly (value : Nat) : UsesOnly scope (.number value) := List.forall_mem_nil _

theorem member_usesOnly (own : owner.UsesOnly scope) (name : String) : UsesOnly scope (.member owner name) := own

theorem arguments_usesOnly (each : ∀ argument ∈ arguments, argument.UsesOnly scope) :
    ∀ name ∈ usesOf arguments, name ∈ scope := by
  rw [usesOf_eq_flatMap]
  intro name member
  obtain ⟨argument,present,own⟩ := List.mem_flatMap.mp member
  exact each argument present name own

theorem apply_usesOnly {callee : String} (present : callee ∈ scope)
    (handed : ∀ name ∈ arguments.tail.filterMap source?, name ∈ scope)
    (each : ∀ argument ∈ arguments, argument.UsesOnly scope) : UsesOnly scope (.apply callee arguments) := by
  intro name member
  rcases List.mem_append.mp member with outer | inner
  · rw [uses,List.append_nil] at outer
    rcases List.mem_cons.mp outer with rfl | later
    · exact present
    · exact handed name later
  · exact arguments_usesOnly each name inner

theorem apply_one_usesOnly {callee : String} {value : Expr} (present : callee ∈ scope) (own : value.UsesOnly scope) :
    UsesOnly scope (.apply callee [value]) :=
  apply_usesOnly present (List.forall_mem_nil _) (List.forall_mem_singleton.mpr own)

theorem method_usesOnly (own : owner.UsesOnly scope) (name : String) (each : ∀ argument ∈ arguments, argument.UsesOnly scope) :
    UsesOnly scope (.method owner name arguments) := by
  intro name member
  rcases List.mem_append.mp member with outer | inner
  · exact own name outer
  · exact arguments_usesOnly each name inner

end Expr

namespace TypeRef
variable {scope : List String} {type : TypeRef} {value expr : Expr}

def Served (scope : List String) (type : TypeRef) : Prop :=
  type.isOptional → ∀ ident, type.ident = .ok ident → ∀ start ∈ helperStarts, start ++ ident ∈ scope

section
variable (support : ∀ name ∈ "buf" :: supportNames, name ∈ scope) (served : type.Served scope)

section
include served

theorem reading_usesOnly (done : type.reading (.source "buf") = .ok expr) : expr.UsesOnly scope := by
  have buffer (name : String) : Expr.UsesOnly scope (.method (.source "buf") name []) :=
    Expr.method_usesOnly (Expr.source_usesOnly _) name (List.forall_mem_nil _)
  cases type with
  | plain which => cases which <;> cases done <;> exact buffer _
  | named which =>
    cases which with
    | enumeration =>
      cases done
      exact Expr.method_usesOnly (Expr.source_usesOnly _) _ (List.forall_mem_singleton.mpr (buffer _))
    | record =>
      cases done
      exact Expr.method_usesOnly (Expr.source_usesOnly _) _ (List.forall_mem_singleton.mpr (Expr.source_usesOnly _))
    | object => cases done
  | optional =>
    obtain ⟨ident,known,done⟩ := result_ok_parts done
    cases done
    exact Expr.apply_one_usesOnly (served rfl ident known "_read_" (by decide)) (Expr.source_usesOnly _)

end

include support served

theorem sizing_usesOnly (own : value.UsesOnly scope) (done : type.sizing value = .ok expr) : expr.UsesOnly scope := by
  cases type with
  | plain which =>
    cases which with
    | string => cases done; exact Expr.apply_one_usesOnly (support "_size_string" (by decide)) own
    | bytes => cases done; exact Expr.apply_one_usesOnly (support "_size_bytes" (by decide)) own
    | _ => cases done; exact Expr.number_usesOnly _
  | named which =>
    cases which with
    | enumeration => cases done; exact Expr.number_usesOnly _
    | record => cases done; exact Expr.method_usesOnly own _ (List.forall_mem_nil _)
    | object => cases done
  | optional =>
    obtain ⟨ident,known,done⟩ := result_ok_parts done
    cases done
    exact Expr.apply_one_usesOnly (served rfl ident known "_size_" (by decide)) own

theorem writing_usesOnly (own : value.UsesOnly scope) (done : type.writing value (.source "buf") = .ok expr) :
    expr.UsesOnly scope := by
  have buffer {given : Expr} (own : given.UsesOnly scope) (name : String) :
      Expr.UsesOnly scope (.method (.source "buf") name [given]) :=
    Expr.method_usesOnly (Expr.source_usesOnly _) name (List.forall_mem_singleton.mpr own)
  cases type with
  | plain which => cases which <;> cases done <;> exact buffer own _
  | named which =>
    cases which with
    | enumeration =>
      cases done
      exact buffer (Expr.member_usesOnly own "value") _
    | record => cases done; exact Expr.method_usesOnly own _ (List.forall_mem_singleton.mpr (Expr.source_usesOnly _))
    | object => cases done
  | optional =>
    obtain ⟨ident,known,done⟩ := result_ok_parts done
    cases done
    refine Expr.apply_usesOnly (served rfl ident known "_write_" (by decide)) ?_ ?_
    · exact List.forall_mem_singleton.mpr (support "buf" (by decide))
    · exact List.forall_mem_cons.mpr ⟨own,List.forall_mem_singleton.mpr (Expr.source_usesOnly _)⟩

theorem Entries.handed {entry : TypeRef → Supported Expr} {start raw member : String}
    (entries : Entries entry start raw member) (sort : start ∈ helperStarts) (bytes : raw ∈ supportNames) (done : entry type = .ok expr) :
    ∀ name ∈ expr.source?, name ∈ scope := by
  rcases entries.shape done with rfl | ⟨name,rfl⟩ | ⟨whole,ident,known,rfl⟩
  · rintro _ ⟨⟩
    exact support raw (List.mem_cons_of_mem _ bytes)
  · rintro _ ⟨⟩
  · rintro _ ⟨⟩
    exact served whole ident known start sort

end

theorem Entries.usesOnly {entry : TypeRef → Supported Expr} {start raw member : String}
    (entries : Entries entry start raw member) (done : entry type = .ok expr) : expr.UsesOnly scope := by
  rcases entries.shape done with rfl | ⟨name,rfl⟩ | ⟨_,ident,_,rfl⟩ <;> exact List.forall_mem_nil _

section
variable (support : ∀ name ∈ "buf" :: supportNames, name ∈ scope) (served : type.Served scope) (own : value.UsesOnly scope)
include support served own

theorem Lowered.usesOnly (lowered : type.Lowered value expr) : expr.UsesOnly scope := by
  cases lowered with
  | buffer size write _ sized written =>
    refine Expr.apply_usesOnly (support "_lower_buffer" (by decide)) ?_ ?_
    · intro name member
      obtain ⟨entry,present,same⟩ := List.mem_filterMap.mp member
      rcases List.mem_pair.mp present with rfl | rfl
      · exact size_entries.handed support served (by decide) (by decide) sized name same
      · exact write_entries.handed support served (by decide) (by decide) written name same
    · simp only [List.forall_mem_cons]
      exact ⟨own,size_entries.usesOnly sized,write_entries.usesOnly written,List.forall_mem_nil _⟩
  | text => exact Expr.apply_one_usesOnly (support "_lower_string" (by decide)) own
  | _ => exact own

theorem Lifted.usesOnly (lifted : type.Lifted value expr) : expr.UsesOnly scope := by
  cases lifted with
  | buffer read _ taken =>
    refine Expr.apply_usesOnly (support "_lift_buffer" (by decide)) ?_ ?_
    · intro name member
      obtain ⟨entry,present,same⟩ := List.mem_filterMap.mp member
      cases List.mem_singleton.mp present
      exact read_entries.handed support served (by decide) (by decide) taken name same
    · exact List.forall_mem_cons.mpr ⟨own,List.forall_mem_singleton.mpr (read_entries.usesOnly taken)⟩
  | text => exact Expr.apply_one_usesOnly (support "_lift_string" (by decide)) own
  | ordinal => exact Expr.method_usesOnly (Expr.source_usesOnly _) _ (List.forall_mem_singleton.mpr own)
  | _ => exact own

end
end TypeRef

def RecordClass.exprs (cls : RecordClass) : List Expr :=
  cls.members.flatMap (fun member => [member.size,member.write,member.read])

def OptionalHelpers.exprs (helpers : OptionalHelpers) : List Expr := [helpers.size,helpers.write,helpers.read]

namespace Wrapper
variable {scope : List String}

theorem loweringExpr_usesOnly {argument : WrapperArgument} (own : argument.lowered.UsesOnly scope) :
    (loweringExpr argument).UsesOnly scope := by
  unfold loweringExpr
  split
  · exact Expr.method_usesOnly (Expr.source_usesOnly _) _ (List.forall_mem_singleton.mpr own)
  · exact own

theorem exprs_usesOnly {wrapper : Wrapper} (library : "_lib" ∈ scope)
    (arguments : ∀ argument ∈ wrapper.arguments, argument.lowered.UsesOnly scope)
    (result : ∀ lifted ∈ wrapper.lifted, lifted.UsesOnly scope) : ∀ expr ∈ wrapper.exprs, expr.UsesOnly scope := by
  have owner : Expr.UsesOnly scope (.apply "_lib" []) :=
    Expr.apply_usesOnly library (List.forall_mem_nil _) (List.forall_mem_nil _)
  have call : wrapper.callExpr.UsesOnly scope := by
    refine Expr.method_usesOnly owner _ ?_
    rw [callArguments_sent,List.forall_mem_map]
    intro argument member
    unfold sent
    split
    · exact Expr.source_usesOnly _
    · exact arguments argument member
  intro expr member
  rcases List.mem_append.mp member with held | later
  · split at held
    · obtain ⟨argument,present,rfl⟩ := List.mem_map.mp held
      exact loweringExpr_usesOnly (arguments argument present)
    · cases held
  · rcases List.mem_cons.mp later with rfl | last
    · exact call
    · exact result expr (Option.mem_toList.mp last)

end Wrapper

section
variable {scope : List String} (support : ∀ name ∈ "buf" :: supportNames, name ∈ scope)
include support

theorem Function.argument_usesOnly {field : Field} {argument : WrapperArgument} (served : field.type.Served scope)
    (done : Function.argument field = .ok argument) : argument.lowered.UsesOnly scope := by
  obtain ⟨_,lowered,_⟩ := argument_parts done
  exact (TypeRef.lower_lowered lowered).usesOnly support served (Expr.source_usesOnly _)

theorem Function.result_usesOnly {returns : Option TypeRef} {lifted : Option Expr}
    (served : ∀ type ∈ returns, type.Served scope)
    (lifts : Option.Rel (fun type expr => type.lift (.source "_retval") = .ok expr) returns lifted) :
    ∀ expr ∈ lifted, expr.UsesOnly scope := by
  cases lifts with
  | none => rintro _ ⟨⟩
  | some taken =>
    rintro _ ⟨⟩
    exact (TypeRef.lift_lifted taken).usesOnly support (served _ rfl) (Expr.source_usesOnly _)

end

namespace Model

def exprs (model : Model) (helpers : List OptionalHelpers) : List Expr :=
  model.recordClasses.2.flatMap RecordClass.exprs ++ model.wrappers.2.flatMap Wrapper.exprs ++
    helpers.flatMap OptionalHelpers.exprs

def functionScope (helpers : List OptionalHelpers) : List String :=
  "buf" :: supportNames ++ helpers.flatMap OptionalHelpers.defined

variable {model : Model} {helpers : List OptionalHelpers}

theorem support_inScope : ∀ name ∈ "buf" :: supportNames, name ∈ functionScope helpers := fun _ member =>
  List.mem_append_left _ member

section
variable (fine : ∀ type ∈ model.typeRefs, ¬ type.core.isObject) (made : model.optionalHelpers = .ok helpers)
include made

theorem layer_served (member : layer ∈ model.optionalTypes) : layer.Served (functionScope helpers) := by
  intro _ ident own start sort
  exact List.mem_append_right _ ((defined_mem sort).mpr ((idents_mem made).mpr ⟨layer,member,own⟩))

include fine

theorem type_served (member : type ∈ model.typeRefs) : type.Served (functionScope helpers) := by
  intro whole
  refine layer_served made ((optionalTypes_mem fine).mpr ⟨type,member,?_⟩) whole
  cases type with
  | optional => exact List.mem_append_right _ List.mem_cons_self
  | _ => cases whole

theorem member_usesOnly {field : Field} {item : RecordMember} (own : field.type ∈ model.typeRefs)
    (done : Record.member field = .ok item) :
    ∀ expr ∈ [item.size,item.write,item.read], expr.UsesOnly (functionScope helpers) := by
  obtain ⟨_,sized,written,taken⟩ := Record.member_parts done
  have served := type_served fine made own
  have value : Expr.UsesOnly (functionScope helpers) (.member (.source "self") field.name) :=
    Expr.member_usesOnly (Expr.source_usesOnly _) _
  have size := TypeRef.sizing_usesOnly support_inScope served value sized
  have write := TypeRef.writing_usesOnly support_inScope served value written
  have read := TypeRef.reading_usesOnly served taken
  simp only [List.forall_mem_cons]
  exact ⟨size,write,read,List.forall_mem_nil _⟩

theorem records_usesOnly : ∀ expr ∈ model.recordClasses.2.flatMap RecordClass.exprs, expr.UsesOnly (functionScope helpers) := by
  intro expr member
  obtain ⟨cls,present,inside⟩ := List.mem_flatMap.mp member
  obtain ⟨item,part,own⟩ := List.mem_flatMap.mp inside
  obtain ⟨record,known,emitted⟩ := forall₂_left (records_made fine) present
  obtain ⟨field,shown,one⟩ := forall₂_left (Record.emitted_parts emitted).2 part
  have listed : field.type ∈ model.typeRefs :=
    List.mem_append_left _ (List.mem_flatMap.mpr ⟨record,known,List.mem_map_of_mem shown⟩)
  exact member_usesOnly fine made listed one expr own

theorem wrapper_usesOnly {function : Function} {item : Wrapper} (member : function ∈ model.functions)
    (done : model.wrapper function = .ok item) : ∀ expr ∈ item.exprs, expr.UsesOnly (functionScope helpers) := by
  obtain ⟨_,_,given,lifts⟩ := wrapper_made done
  have served : ∀ type ∈ function.arguments.map Field.type ++ function.returns.toList, type.Served (functionScope helpers) :=
    fun type own => type_served fine made (List.mem_append_right _ (List.mem_flatMap.mpr ⟨function,member,own⟩))
  refine Wrapper.exprs_usesOnly (support_inScope "_lib" (by decide)) ?_ ?_
  · intro argument present
    obtain ⟨field,known,one⟩ := forall₂_left given present
    exact Function.argument_usesOnly support_inScope (served _ (List.mem_append_left _ (List.mem_map_of_mem known))) one
  · refine Function.result_usesOnly support_inScope (fun type own => ?_) lifts
    exact served type (List.mem_append_right _ (Option.mem_toList.mpr own))

theorem functions_usesOnly : ∀ expr ∈ model.wrappers.2.flatMap Wrapper.exprs, expr.UsesOnly (functionScope helpers) := by
  intro expr member
  obtain ⟨wrapper,present,own⟩ := List.mem_flatMap.mp member
  obtain ⟨function,known,done⟩ := forall₂_left (functions_made fine) present
  exact wrapper_usesOnly fine made known done expr own

theorem helpers_usesOnly : ∀ expr ∈ helpers.flatMap OptionalHelpers.exprs, expr.UsesOnly (functionScope helpers) := by
  intro expr member
  obtain ⟨helper,present,own⟩ := List.mem_flatMap.mp member
  obtain ⟨layer,known,shown⟩ := forall₂_left (optionalHelpers_made made) present
  obtain ⟨type,listed,inside⟩ := (optionalTypes_mem fine).mp known
  cases layer with
  | optional below label =>
    obtain ⟨_,sized,written,read,taken,same⟩ := TypeRef.helpers_parts shown
    have served : below.Served (functionScope helpers) := fun whole =>
      layer_served made ((optionalTypes_mem fine).mpr ⟨type,listed,TypeRef.spine_below inside rfl whole⟩) whole
    have value : Expr.UsesOnly (functionScope helpers) (TypeRef.payload (.source "value") below) := by
      unfold TypeRef.payload
      split
      · exact Expr.member_usesOnly (Expr.source_usesOnly _) _
      · exact Expr.source_usesOnly _
    have wrapped : helper.read.UsesOnly (functionScope helpers) := by
      have inner := TypeRef.reading_usesOnly served taken
      rw [same,TypeRef.wrapRead]
      split
      · exact Expr.apply_one_usesOnly (support_inScope "Some" (by decide)) inner
      · exact inner
    simp only [OptionalHelpers.exprs,List.mem_cons,List.not_mem_nil,or_false] at own
    rcases own with rfl | rfl | rfl
    · exact TypeRef.sizing_usesOnly support_inScope served value sized
    · exact TypeRef.writing_usesOnly support_inScope served value written
    · exact wrapped
  | _ => cases shown

theorem exprs_usesOnly : ∀ expr ∈ model.exprs helpers, expr.UsesOnly (functionScope helpers) := by
  intro expr member
  rcases List.mem_append.mp member with outer | optional
  · rcases List.mem_append.mp outer with inside | outside
    · exact records_usesOnly fine made expr inside
    · exact functions_usesOnly fine made expr outside
  · exact helpers_usesOnly fine made expr optional

end

section
variable (formed : model.WellFormed) (fine : ∀ type ∈ model.typeRefs, ¬ type.core.isObject)
  (made : model.optionalHelpers = .ok helpers) {layer : TypeRef} (bare : layer.IsBare) (own : layer.ident = .ok ident)
include formed fine made bare own

theorem layer_helped : ident ∈ helpers.map OptionalHelpers.ident ↔ layer ∈ model.typeRefs.flatMap TypeRef.spine := by
  rw [idents_mem made,List.mem_flatMap]
  constructor
  · rintro ⟨other,member,same⟩
    obtain ⟨type,present,inside⟩ := (optionalTypes_mem fine).mp member
    rw [TypeRef.ident_injective own same bare (TypeRef.spine_bare inside (formed.types type present).1)]
    exact ⟨type,present,inside⟩
  · exact fun inside => ⟨layer,(optionalTypes_mem fine).mpr inside,own⟩

theorem helper_count {lines : List String} (inside : model.Scoped lines helpers) (whole : layer.isOptional) {start : String}
    (sort : start ∈ helperStarts) : (moduleNames lines).count (start ++ ident) = model.definedNames.count (start ++ ident) +
      if layer ∈ model.typeRefs.flatMap TypeRef.spine then 1 else 0 := by
  have once := idents_nodup fine (fun type member => (formed.types type member).1) made
  have helped := layer_helped formed fine made bare own
  have unknown : importedNames.count (start ++ ident) + supportNames.count (start ++ ident) = 0 := by
    rw [← List.count_append]
    refine List.count_eq_zero_of_not_mem fun member => ?_
    exact helperName_unknown sort (TypeRef.optional_letters whole own) (List.mem_cons_of_mem _ member)
  have defined : model.definedNames = model.classes ++ model.functions.map Function.name := rfl
  rw [inside.names,defined]
  simp only [List.count_append,defined_count once sort,helped]
  omega

end
end Model

-- Helpers of optional types are defined where they are needed, once for each type that a
-- field, an argument or a result has as one of its layers, and rendered code uses no others.
-- Nothing but a definition that is named as one of them can come in between.
theorem optional_codecs_closed (read : Model.read text = .ok model) (done : (model.generate config).result = .ok source) :
    ∃ lines helpers, model.bodyLines config = .ok lines ∧ source = Model.joinLines lines ∧
      model.optionalHelpers = .ok helpers ∧ model.Scoped lines helpers ∧
      (∀ layer : TypeRef, layer.isOptional → layer.IsBare → ∀ ident, layer.ident = .ok ident → ∀ start ∈ helperStarts,
        (moduleNames lines).count (start ++ ident) = model.definedNames.count (start ++ ident) +
          if layer ∈ model.typeRefs.flatMap TypeRef.spine then 1 else 0) ∧
      ∀ expr ∈ model.exprs helpers, ∀ start ∈ helperStarts, ∀ rest, start ++ ("optional_" ++ rest) ∈ expr.uses →
        start ++ ("optional_" ++ rest) ∈ helpers.flatMap OptionalHelpers.defined := by
  have fine := Model.generate_ok done
  obtain ⟨_,_,laid⟩ := Model.read_layout read
  have formed := Definition.readLayout_formed laid
  obtain ⟨lines,body,shown⟩ := Model.generate_lines done
  obtain ⟨helpers,made,inside⟩ := Model.body_scoped (Model.read_worded read) fine formed body
  refine ⟨lines,helpers,body,shown,made,inside,?_,?_⟩
  · intro layer whole bare ident own start sort
    exact Model.helper_count formed fine made bare own inside whole sort
  · intro expr member start sort rest used
    rcases List.mem_append.mp (Model.exprs_usesOnly fine made expr member _ used) with support | optional
    · refine absurd ?_ (helperName_unknown sort (by simp : ("optional_" ++ rest).toList.take 2 = ['o','p']))
      rcases List.mem_cons.mp support with first | later
      · exact first ▸ List.mem_cons_self
      · exact List.mem_append_right _ later
    · exact optional

theorem optional_codecs_closed_sample : ∃ source lines helpers,
    (sampleModel.generate (Config.defaults "geo")).result = .ok source ∧ source = Model.joinLines lines ∧ sampleModel.optionalHelpers = .ok helpers ∧
    (moduleNames lines).count "_read_optional_optional_record_Node" = 1 ∧
    (moduleNames lines).count "_read_optional_u32" = 0 ∧
    ∃ expr ∈ sampleModel.exprs helpers, "_read_optional_record_Node" ∈ expr.uses ∧
      "_read_optional_record_Node" ∈ helpers.flatMap OptionalHelpers.defined := by
  obtain ⟨source,generated⟩ := generated_sample
  obtain ⟨lines,helpers,_,shown,made,_,count,closed⟩ := optional_codecs_closed read_sample generated
  refine ⟨source,lines,helpers,generated,shown,made,?_,?_,?_⟩
  · exact count (.optionalOf (.optionalOf (.recordOf "Node"))) rfl (by decide) _ rfl "_read_" (by decide)
  · exact count (.optionalOf (.ofPlain .u32)) rfl (by decide) _ rfl "_read_" (by decide)
  · have used : "_read_optional_record_Node" ∈ (sampleModel.exprs helpers).flatMap Expr.uses := by
      cases made
      decide
    obtain ⟨expr,member,own⟩ := List.mem_flatMap.mp used
    exact ⟨expr,member,own,closed expr member "_read_" (by decide) "record_Node" own⟩

def shadowedText : String := "namespace n; record R { u32? x; }; fn _size_optional_u32();"

def shadowedModel : Model :=
  ⟨"n",[],[⟨"R",[⟨"x",.optionalOf (.ofPlain .u32)⟩]⟩],[⟨"_size_optional_u32",[],none⟩],[]⟩

theorem optional_codecs_redefined : ∃ source lines, Model.read shadowedText = .ok shadowedModel ∧
    (shadowedModel.generate (Config.defaults "n")).result = .ok source ∧ source = Model.joinLines lines ∧
    .optionalOf (.ofPlain .u32) ∈ shadowedModel.typeRefs ∧ (moduleNames lines).count "_size_optional_u32" = 2 := by
  have read : Model.read shadowedText = .ok shadowedModel := by cbv
  have fine : ∀ type ∈ shadowedModel.typeRefs, ¬ type.core.isObject := by decide
  obtain ⟨source,generated⟩ : ∃ source, (shadowedModel.generate (Config.defaults "n")).result = .ok source :=
    Model.generate_accepted fine
  obtain ⟨lines,body,shown⟩ := Model.generate_lines generated
  obtain ⟨_,_,laid⟩ := Model.read_layout read
  have formed := Definition.readLayout_formed laid
  obtain ⟨helpers,made,inside⟩ := Model.body_scoped (Model.read_worded read) fine formed body
  have bare : (TypeRef.optionalOf (.ofPlain .u32)).IsBare := by decide
  have sort : "_size_" ∈ helperStarts := by decide
  exact ⟨source,lines,read,generated,shown,by decide,Model.helper_count formed fine made bare rfl inside rfl sort⟩

end NativeBinding
