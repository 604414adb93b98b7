import NativeBinding.Proofs.Emitted.Entries
import NativeBinding.Proofs.Emitted.Refused
import NativeBinding.Proofs.Emitted.Rendered
import NativeBinding.Proofs.Emitted.Wrapped

namespace NativeBinding

namespace Expr

def Encodes (expr value : Expr) : Prop := ∃ size write, expr = .apply "_lower_buffer" [value,size,write]

def Decodes (expr value : Expr) : Prop := ∃ read, expr = .apply "_lift_buffer" [value,read]

-- Functions of the component are looked up on what the module has bound the component to.
def foreignSymbol? : Expr → Option String
  | .member (.call (.source library) []) symbol => if library = "_lib" then some symbol else none
  | _ => none

mutual
def foreignCalls : Expr → List (String × List Expr)
  | .source _ => []
  | .number _ => []
  | .member owner _ => owner.foreignCalls
  | .call callee arguments => callee.foreignCalls ++ foreignCallsOf arguments ++
      callee.foreignSymbol?.toList.map (fun symbol => (symbol,arguments))
  | .flag condition => condition.foreignCalls
  | .nonzero value => value.foreignCalls

def foreignCallsOf : List Expr → List (String × List Expr)
  | [] => []
  | argument :: rest => argument.foreignCalls ++ foreignCallsOf rest
end

theorem foreignCallsOf_none {arguments : List Expr} (none : ∀ argument ∈ arguments, argument.foreignCalls = []) :
    foreignCallsOf arguments = [] := by
  induction arguments with
  | nil => rfl
  | cons argument rest ih =>
    obtain ⟨first,others⟩ := List.forall_mem_cons.mp none
    rw [foreignCallsOf,first,ih others]
    rfl

theorem apply_foreignCalls (callee : String) {arguments : List Expr}
    (none : ∀ argument ∈ arguments, argument.foreignCalls = []) : (apply callee arguments).foreignCalls = [] := by
  rw [apply,foreignCalls,foreignCallsOf_none none]
  rfl

end Expr

namespace TypeRef
variable {type : TypeRef} {expr : Expr}

theorem foreign_buffer (done : type.foreign = .ok declared) : declared = .byteBuffer ↔ type.isBuffer := by
  cases type with
  | plain which => cases which <;> cases done <;> simp [isBuffer]
  | named which => cases which <;> cases done <;> simp [isBuffer]
  | optional =>
    obtain ⟨_,_,done⟩ := result_ok_parts done
    cases done
    simp [isBuffer]

theorem Entries.foreignCalls {entry : TypeRef → Supported Expr} (entries : Entries entry start raw member)
    (done : entry type = .ok expr) : expr.foreignCalls = [] := by
  rcases entries.shape done with rfl | ⟨name,rfl⟩ | ⟨_,ident,_,rfl⟩ <;> rfl

theorem Lowered.encodes (lowered : type.Lowered (.source name) expr) : expr.Encodes (.source name) ↔ type.isBuffer := by
  cases lowered with
  | buffer size write whole => exact iff_of_true ⟨size,write,rfl⟩ whole
  | _ scalar => simp [scalar,Expr.Encodes,Expr.apply]

theorem Lowered.foreignCalls (lowered : type.Lowered (.source name) expr) : expr.foreignCalls = [] := by
  cases lowered with
  | buffer size write _ sized written =>
    refine Expr.apply_foreignCalls _ ?_
    simp only [List.forall_mem_cons]
    exact ⟨rfl,size_entries.foreignCalls sized,write_entries.foreignCalls written,List.forall_mem_nil _⟩
  | text => exact Expr.apply_foreignCalls _ (List.forall_mem_singleton.mpr rfl)
  | _ => rfl

theorem Lifted.decodes (lifted : type.Lifted (.source name) expr) : expr.Decodes (.source name) ↔ type.isBuffer := by
  cases lifted with
  | buffer read whole => exact iff_of_true ⟨read,rfl⟩ whole
  | ordinal _ scalar => simp [scalar,Expr.Decodes,Expr.apply,Expr.method]
  | _ scalar => simp [scalar,Expr.Decodes,Expr.apply]

theorem Lifted.foreignCalls (lifted : type.Lifted (.source name) expr) : expr.foreignCalls = [] := by
  cases lifted with
  | buffer read _ taken =>
    refine Expr.apply_foreignCalls _ ?_
    simp only [List.forall_mem_cons]
    exact ⟨rfl,read_entries.foreignCalls taken,List.forall_mem_nil _⟩
  | text => exact Expr.apply_foreignCalls _ (List.forall_mem_singleton.mpr rfl)
  | _ => rfl

end TypeRef

namespace Wrapper

def exprs (wrapper : Wrapper) : List Expr :=
  (if wrapper.holds then wrapper.arguments.map loweringExpr else []) ++ wrapper.callExpr :: wrapper.lifted.toList

def sent (wrapper : Wrapper) (argument : WrapperArgument) : Expr :=
  if wrapper.holds then .source (localName argument) else argument.lowered

theorem callArguments_sent (wrapper : Wrapper) : wrapper.callArguments = wrapper.arguments.map wrapper.sent := by
  unfold callArguments sent
  cases wrapper.holds <;> rfl

theorem loweringExpr_held (argument : WrapperArgument) :
    loweringExpr argument = .method (.source "_pending") "hold" [argument.lowered] ↔ argument.held := by
  cases argument with
  | mk name hostType lowered held =>
    cases held with
    | true => exact iff_of_true rfl rfl
    | false =>
      refine iff_of_false (fun same => ?_) Bool.false_ne_true
      have size := congrArg sizeOf (show lowered = .call (.member (.source "_pending") "hold") [lowered] from same)
      simp at size
      omega

theorem loweringExpr_foreignCalls {argument : WrapperArgument} (none : argument.lowered.foreignCalls = []) :
    (loweringExpr argument).foreignCalls = [] := by
  unfold loweringExpr
  split
  · rw [Expr.method,Expr.foreignCalls,Expr.foreignCallsOf_none (List.forall_mem_singleton.mpr none)]
    rfl
  · exact none

theorem callExpr_foreignCalls {wrapper : Wrapper} (none : ∀ argument ∈ wrapper.arguments, argument.lowered.foreignCalls = []) :
    wrapper.callExpr.foreignCalls = [(wrapper.symbol,wrapper.callArguments)] := by
  have given : ∀ sent ∈ wrapper.callArguments, sent.foreignCalls = [] := by
    rw [callArguments_sent,List.forall_mem_map]
    intro argument member
    unfold sent
    split
    · rfl
    · exact none argument member
  rw [callExpr,Expr.method,Expr.foreignCalls,Expr.foreignCallsOf_none given]
  rfl

theorem exprs_foreignCalls {wrapper : Wrapper} (none : ∀ argument ∈ wrapper.arguments, argument.lowered.foreignCalls = [])
    (last : ∀ lifted ∈ wrapper.lifted, lifted.foreignCalls = []) :
    wrapper.exprs.flatMap Expr.foreignCalls = [(wrapper.symbol,wrapper.callArguments)] := by
  have before : (if wrapper.holds then wrapper.arguments.map loweringExpr else []).flatMap Expr.foreignCalls = [] := by
    split
    · rw [List.flatMap_eq_nil_iff,List.forall_mem_map]
      exact fun argument member => loweringExpr_foreignCalls (none argument member)
    · rfl
  have after : wrapper.lifted.toList.flatMap Expr.foreignCalls = [] := by
    rw [List.flatMap_eq_nil_iff]
    exact fun lifted member => last lifted (Option.mem_toList.mp member)
  rw [exprs,List.flatMap_append,before,List.flatMap_cons,after,callExpr_foreignCalls none]
  rfl

end Wrapper

structure Field.Crosses (field : Field) (declared : ForeignType) (argument : WrapperArgument) : Prop where
  name : argument.name = field.name
  encodes : declared = .byteBuffer ↔ argument.lowered.Encodes (.source field.name)
  held : declared = .byteBuffer ↔ Wrapper.loweringExpr argument = .method (.source "_pending") "hold" [argument.lowered]

-- The wrapper of a function makes one call. It is of what is declared, it gives what is
-- declared in this order, and what it gets is taken as it is declared.
structure Wrapper.Agrees (wrapper : Wrapper) (declaration : Declaration) (function : Function) : Prop where
  symbol : declaration.symbol = wrapper.symbol
  calls : wrapper.exprs.flatMap Expr.foreignCalls = [(declaration.symbol,wrapper.callArguments)]
  sent : wrapper.callArguments = wrapper.arguments.map wrapper.sent
  count : declaration.arguments.length = wrapper.callArguments.length
  arguments : List.Forall₂ (fun field pair => field.Crosses pair.1 pair.2) function.arguments
    (declaration.arguments.zip wrapper.arguments)
  holds : .byteBuffer ∈ declaration.arguments ↔ wrapper.holds
  decodes : declaration.result = some .byteBuffer ↔ ∃ lifted ∈ wrapper.lifted, lifted.Decodes (.source "_retval")
  discards : declaration.result = none ↔ wrapper.lifted = none

section
variable {field : Field} {argument : WrapperArgument} (made : Function.argument field = .ok argument)
include made

theorem Field.crosses (foreign : field.type.foreign = .ok declared) : field.Crosses declared argument := by
  obtain ⟨name,lowered,held⟩ := Function.argument_parts made
  have buffer := TypeRef.foreign_buffer foreign
  have encodes := buffer.trans (TypeRef.lower_lowered lowered).encodes.symm
  rw [← held] at buffer
  exact ⟨name,encodes,buffer.trans (Wrapper.loweringExpr_held argument).symm⟩

theorem Function.argument_foreignCalls : argument.lowered.foreignCalls = [] := by
  obtain ⟨_,lowered,_⟩ := Function.argument_parts made
  exact (TypeRef.lower_lowered lowered).foreignCalls

end

section
variable {returns : Option TypeRef} {lifted : Option Expr}
  (lifts : Option.Rel (fun type expr => type.lift (.source "_retval") = .ok expr) returns lifted)
include lifts

theorem Function.result_foreignCalls : ∀ expr ∈ lifted, expr.foreignCalls = [] := by
  cases lifts with
  | none => rintro _ ⟨⟩
  | some done =>
    rintro _ ⟨⟩
    exact (TypeRef.lift_lifted done).foreignCalls

theorem Function.result_agrees (foreign : TypeRef.foreignResult returns = .ok declared) :
    (declared = some .byteBuffer ↔ ∃ expr ∈ lifted, expr.Decodes (.source "_retval")) ∧ (declared = none ↔ lifted = none) := by
  cases lifts with
  | none => cases foreign; simp
  | @some type expr done =>
    cases run : type.foreign with
    | error failure => rw [TypeRef.foreignResult,run] at foreign; cases foreign
    | ok own =>
      rw [TypeRef.foreignResult,run] at foreign
      cases foreign
      simpa using (TypeRef.foreign_buffer run).trans (TypeRef.lift_lifted done).decodes.symm

end

theorem Function.declared_holds {fields : List Field} {types : List ForeignType}
    (foreign : List.Forall₂ (fun field own => field.type.foreign = .ok own) fields types) :
    .byteBuffer ∈ types ↔ fields.any (fun field => field.type.isBuffer) := by
  rw [List.any_eq_true]
  constructor
  · intro member
    obtain ⟨field,present,one⟩ := forall₂_left foreign member
    exact ⟨field,present,(TypeRef.foreign_buffer one).mp rfl⟩
  · rintro ⟨field,present,whole⟩
    obtain ⟨own,member,one⟩ := forall₂_right foreign present
    exact (TypeRef.foreign_buffer one).mpr whole ▸ member

theorem Wrapper.agrees {model : Model} {function : Function} {wrapper : Wrapper} {declaration : Declaration}
    (made : model.wrapper function = .ok wrapper) (declared : (model.foreignFunction function).declaration = .ok declaration) :
    wrapper.Agrees declaration function := by
  obtain ⟨_,symbol,given,lifts⟩ := Model.wrapper_made made
  obtain ⟨same,foreign,returns⟩ := ForeignFunction.declaration_parts declared
  have quiet : ∀ argument ∈ wrapper.arguments, argument.lowered.foreignCalls = [] := by
    intro argument member
    obtain ⟨field,_,one⟩ := forall₂_left given member
    exact Function.argument_foreignCalls one
  have calls := Wrapper.exprs_foreignCalls quiet (Function.result_foreignCalls lifts)
  obtain ⟨decodes,discards⟩ := Function.result_agrees lifts returns
  rw [symbol,← same] at calls
  refine ⟨same.trans symbol.symm,calls,Wrapper.callArguments_sent _,?_,?_,?_,decodes,discards⟩
  · rw [Wrapper.callArguments_sent,List.length_map]
    exact foreign.length_eq.symm.trans given.length_eq
  · exact (forall₂_zip foreign given).imp fun _ _ both => Field.crosses both.2 both.1
  · have holds : wrapper.holds = function.arguments.any (fun field => field.type.isBuffer) :=
      wrapped_holds (given.imp fun _ _ one => Function.argument_wrapped one)
    rw [holds]
    exact Function.declared_holds foreign

-- A wrapper and a declaration that are refused for the same place of a signature, each in
-- its own words: for the first argument that comes down to an object, or for the result
-- where there is no such argument.
inductive Function.BlamedAlike (function : Function) (entry : ForeignFunction) : Unsupported → Unsupported → Prop
  | argument (earlier : List Field) (field : Field) (later : List Field) (split : function.arguments = earlier ++ field :: later)
      (fine : ∀ other ∈ earlier, ¬ other.type.core.isObject) (object : field.type.core.isObject) :
      BlamedAlike function entry ⟨field.type.core,some (function.argumentItem field)⟩
        ⟨field.type.core,some (entry.argumentItem field)⟩
  | result (type : TypeRef) (returns : function.returns = some type)
      (fine : ∀ other ∈ function.arguments, ¬ other.type.core.isObject) (object : type.core.isObject) :
      BlamedAlike function entry ⟨type.core,some function.resultItem⟩ ⟨type.core,some entry.resultItem⟩

theorem signatureOffence?_place (arguments : List Field) (returns : Option TypeRef) :
    (∀ argumentItem resultItem, signatureOffence? arguments returns argumentItem resultItem = none) ∨
    (∃ earlier field later, arguments = earlier ++ field :: later ∧ (∀ other ∈ earlier, ¬ other.type.core.isObject) ∧
      field.type.core.isObject ∧ ∀ argumentItem resultItem,
        signatureOffence? arguments returns argumentItem resultItem = some ⟨field.type.core,some (argumentItem field)⟩) ∨
    ∃ type, returns = some type ∧ (∀ other ∈ arguments, ¬ other.type.core.isObject) ∧ type.core.isObject ∧
      ∀ argumentItem resultItem, signatureOffence? arguments returns argumentItem resultItem = some ⟨type.core,some resultItem⟩ := by
  have quiet {fields : List Field} (fine : ∀ other ∈ fields, ¬ other.type.core.isObject) (item : Field → String) :
      fields.findSome? (fun field => field.type.offence? (item field)) = none :=
    List.findSome?_eq_none_iff.mpr (fun other member => TypeRef.offence?_none.mpr (fine other member))
  cases first : arguments.find? (fun field => field.type.core.isObject) with
  | some field =>
    obtain ⟨object,earlier,later,split,fine⟩ := List.find?_eq_some_iff_append.mp first
    have fine : ∀ other ∈ earlier, ¬ other.type.core.isObject := by simpa using fine
    refine .inr (.inl ⟨earlier,field,later,split,fine,object,?_⟩)
    intro argumentItem resultItem
    rw [signatureOffence?,firstOffence?,split,List.findSome?_append,quiet fine,Option.none_or,Supported.findSome?_cons_or,
      TypeRef.offence?,if_pos object]
    rfl
  | none =>
    have fine : ∀ other ∈ arguments, ¬ other.type.core.isObject := by simpa using first
    have rest (argumentItem : Field → String) (resultItem : String) :
        signatureOffence? arguments returns argumentItem resultItem = returns.bind (fun type => type.offence? resultItem) := by
      rw [signatureOffence?,firstOffence?,quiet fine,Option.none_or]
    cases returns with
    | none => exact .inl rest
    | some type =>
      by_cases object : type.core.isObject
      · refine .inr (.inr ⟨type,rfl,fine,object,fun argumentItem resultItem => ?_⟩)
        rw [rest,Option.bind_some,TypeRef.offence?,if_pos object]
      · refine .inl (fun argumentItem resultItem => ?_)
        rw [rest,Option.bind_some,TypeRef.offence?,if_neg object]

theorem Supported.follows_some {result : Supported α} {failure : Unsupported} (followed : result.Follows expected)
    (refused : expected = some failure) : result = .error failure := by
  rw [refused] at followed
  exact followed

-- What is declared for a function and what its wrapper does come from one signature, and
-- agree wherever there is both. There is neither for the same reason, and there is both for
-- every function of a model that a source is made of.
theorem conventions_agree (model : Model) (function : Function) :
    ((∃ wrapper declaration, model.wrapper function = .ok wrapper ∧
        (model.foreignFunction function).declaration = .ok declaration ∧ wrapper.Agrees declaration function) ∨
      ∃ one other, model.wrapper function = .error one ∧ (model.foreignFunction function).declaration = .error other ∧
        function.BlamedAlike (model.foreignFunction function) one other) ∧
    ∀ config source, (model.generate config).result = .ok source → function ∈ model.functions →
      ∃ wrapper, model.wrapper function = .ok wrapper := by
  have wrapped := model.wrapper_follows function
  have declared := (model.foreignFunction function).declaration_follows
  refine ⟨?_,?_⟩
  · rcases signatureOffence?_place function.arguments function.returns with fine |
      ⟨earlier,field,later,split,fine,object,blamed⟩ | ⟨type,returns,fine,object,blamed⟩
    · obtain ⟨wrapper,made⟩ := (Supported.follows_ok_iff wrapped).mpr (fine _ _)
      obtain ⟨declaration,done⟩ := (Supported.follows_ok_iff declared).mpr (fine _ _)
      exact .inl ⟨wrapper,declaration,made,done,Wrapper.agrees made done⟩
    · exact .inr ⟨_,_,Supported.follows_some wrapped (blamed _ _),Supported.follows_some declared (blamed _ _),
        .argument earlier field later split fine object⟩
    · exact .inr ⟨_,_,Supported.follows_some wrapped (blamed _ _),Supported.follows_some declared (blamed _ _),
        .result type returns fine object⟩
  · intro config source done member
    refine (Supported.follows_ok_iff wrapped).mpr (signatureOffence?_none.mpr ?_)
    intro type own
    exact Model.generate_ok done type (List.mem_append_right _ (List.mem_flatMap.mpr ⟨function,member,own⟩))

theorem conventions_agree_sample : ∃ wrapper declaration, sampleModel.wrapper sampleFunction = .ok wrapper ∧
    (sampleModel.foreignFunction sampleFunction).declaration = .ok declaration ∧
    declaration.arguments = [.charPointer,.byteBuffer] ∧ wrapper.Agrees declaration sampleFunction := by
  obtain ⟨source,generated⟩ := generated_sample
  obtain ⟨agree,made⟩ := conventions_agree sampleModel sampleFunction
  obtain ⟨wrapper,made⟩ := made _ source generated (by decide)
  rcases agree with ⟨other,declaration,one,done,agrees⟩ | ⟨failure,_,refused,_⟩
  · refine ⟨other,declaration,one,done,?_,agrees⟩
    cases done
    rfl
  · rw [made] at refused
    cases refused

end NativeBinding
