import NativeBinding.Proofs.Emitted.Hygiene
import NativeBinding.Proofs.Emitted.Rendered
import NativeBinding.Proofs.Session.Transfer

namespace NativeBinding
open Text

def Expr.IsAround (build : Expr → Expr) : Prop :=
  ∀ value, (build value).names.Perm (value.names ++ (build (.number 0)).names)

theorem Expr.around_same {build : Expr → Expr} (same : ∀ value, (build value).names = value.names) : IsAround build := by
  intro value
  rw [same,same,names,List.append_nil]

theorem Expr.around_apply (callee : Expr) (others : List Expr) : IsAround (fun value => .call callee (value :: others)) := by
  intro value
  have shown (value : Expr) : (Expr.call callee (value :: others)).names = callee.names ++ (value.names ++ namesOf others) :=
    rfl
  rw [shown,shown]
  exact List.perm_append_comm_assoc ..

namespace TypeRef

theorem buffer_lower {type : TypeRef} (shape : ∀ value, type.lower value = (do
      let size ← type.sizeEntry
      let write ← type.writeEntry
      return .apply "_lower_buffer" [value,size,write])) (done : type.lower value = .ok expr) :
    ∃ build, Expr.IsAround build ∧ ∀ value, type.lower value = .ok (build value) := by
  rw [shape] at done
  obtain ⟨size,one,done⟩ := result_ok_parts done
  obtain ⟨write,two,_⟩ := result_ok_parts done
  refine ⟨_,Expr.around_apply (.source "_lower_buffer") [size,write],fun value => ?_⟩
  rw [shape,result_ok one,result_ok two]
  rfl

theorem buffer_lift {type : TypeRef} (shape : ∀ value, type.lift value = (do
      let read ← type.readEntry
      return .apply "_lift_buffer" [value,read])) (done : type.lift value = .ok expr) :
    ∃ build, Expr.IsAround build ∧ ∀ value, type.lift value = .ok (build value) := by
  rw [shape] at done
  obtain ⟨read,one,_⟩ := result_ok_parts done
  refine ⟨_,Expr.around_apply (.source "_lift_buffer") [read],fun value => ?_⟩
  rw [shape,result_ok one]
  rfl

theorem lower_around {type : TypeRef} (done : type.lower value = .ok expr) :
    ∃ build, Expr.IsAround build ∧ ∀ value, type.lower value = .ok (build value) := by
  cases type with
  | plain which =>
    cases which with
    | boolean => exact ⟨.flag,Expr.around_same (fun _ => rfl),fun _ => rfl⟩
    | string => exact ⟨_,Expr.around_apply (.source "_lower_string") [],fun _ => rfl⟩
    | bytes => exact buffer_lower (fun _ => rfl) done
    | _ => exact ⟨id,Expr.around_same (fun _ => rfl),fun _ => rfl⟩
  | named which =>
    cases which with
    | enumeration => exact ⟨fun value => .member value "value",Expr.around_same (fun _ => rfl),fun _ => rfl⟩
    | record => exact buffer_lower (fun _ => rfl) done
    | object => cases done
  | optional => exact buffer_lower (fun _ => rfl) done

theorem lift_around {type : TypeRef} (done : type.lift value = .ok expr) :
    ∃ build, Expr.IsAround build ∧ ∀ value, type.lift value = .ok (build value) := by
  cases type with
  | plain which =>
    cases which with
    | boolean => exact ⟨.nonzero,Expr.around_same (fun _ => rfl),fun _ => rfl⟩
    | string => exact ⟨_,Expr.around_apply (.source "_lift_string") [],fun _ => rfl⟩
    | bytes => exact buffer_lift (fun _ => rfl) done
    | _ => exact ⟨id,Expr.around_same (fun _ => rfl),fun _ => rfl⟩
  | named which name =>
    cases which with
    | enumeration => exact ⟨_,Expr.around_apply (.member (.source name) "_from_ordinal") [],fun _ => rfl⟩
    | record => exact buffer_lift (fun _ => rfl) done
    | object => cases done
  | optional => exact buffer_lift (fun _ => rfl) done

theorem lower_names {type : TypeRef} (done : type.lower value = .ok expr) : expr.names.Perm (value.names ++ type.lowerNames) := by
  obtain ⟨build,around,all⟩ := lower_around done
  rw [all] at done
  cases done
  rw [lowerNames,all]
  exact around value

theorem lift_names {type : TypeRef} (done : type.lift value = .ok expr) : expr.names.Perm (value.names ++ type.liftNames) := by
  obtain ⟨build,around,all⟩ := lift_around done
  rw [all] at done
  cases done
  rw [liftNames,all]
  exact around value

end TypeRef

namespace Wrapper

def steps (wrapper : Wrapper) : List (List String × Option String) :=
  let call := (wrapper.callExpr.names,if wrapper.lifted.isSome then some "_retval" else none)
  (if wrapper.holds then
    (["_PendingBuffers"],some "_pending") ::
      wrapper.arguments.map (fun argument => ((loweringExpr argument).names,some (localName argument))) ++
      [call,(["_pending"],none)]
  else [call]) ++
  wrapper.lifted.toList.map (fun result => (result.names,none))

end Wrapper

def Line.Shows (line : Line) (step : List String × Option String) : Prop :=
  (line.reads.map Prod.fst).Perm (step.1.map normal) ∧ line.sets.map Prod.fst = step.2.map normal

structure Field.Wrapped (field : Field) (argument : WrapperArgument) : Prop where
  name : argument.name = field.name
  lowered : argument.lowered.names.Perm (field.name :: field.type.lowerNames)
  held : argument.held = field.type.isBuffer

theorem Function.argument_wrapped {field : Field} {argument : WrapperArgument} (done : Function.argument field = .ok argument) :
    field.Wrapped argument := by
  obtain ⟨name,lowered,held⟩ := argument_parts done
  exact ⟨name,TypeRef.lower_names lowered,held⟩

def Function.Lifts : Option TypeRef → Option Expr → Prop :=
  Option.Rel (fun type expr => expr.names.Perm ("_retval" :: type.liftNames))

theorem Function.result_lifts {returns : Option TypeRef} {lifted : Option Expr}
    (lifts : Option.Rel (fun type expr => type.lift (.source "_retval") = .ok expr) returns lifted) :
    Function.Lifts returns lifted := by
  cases lifts with
  | none => exact .none
  | some done => exact .some (TypeRef.lift_names done)

theorem outers_names (names : List String) : (outers names).map Prod.fst = names.map normal := by
  rw [outers,List.map_map]
  rfl

section
variable {fields : List Field} {arguments : List WrapperArgument} (all : List.Forall₂ Field.Wrapped fields arguments)
include all

theorem wrapped_holds : arguments.any (fun argument => argument.held) = fields.any (fun field => field.type.isBuffer) := by
  induction all with
  | nil => rfl
  | cons one _ ih => rw [List.any_cons,List.any_cons,one.held,ih]

theorem wrapped_parameters : (arguments.map (fun argument => argument.name)).map normal = fields.map Field.parameter := by
  induction all with
  | nil => rfl
  | cons one _ ih => rw [List.map_cons,List.map_cons,List.map_cons,one.name,ih,Field.parameter]

theorem wrapped_kept : (arguments.map Wrapper.localName).map normal = fields.map Field.kept := by
  induction all with
  | nil => rfl
  | cons one _ ih => rw [List.map_cons,List.map_cons,List.map_cons,Wrapper.localName,one.name,ih,Field.kept]

theorem wrapped_lowered : (arguments.flatMap (fun argument => argument.lowered.names)).Perm
    (fields.map Field.name ++ fields.flatMap (fun field => field.type.lowerNames)) := by
  induction all with
  | nil => exact .refl _
  | @cons field argument fields arguments one _ ih =>
    have moved := (one.lowered.append ih).trans (List.Perm.cons field.name (List.perm_append_comm_assoc ..))
    exact moved

theorem lowering_shown (position : Nat) : List.Forall₂ Line.Shows (Function.loweringLines position fields)
    (arguments.map (fun argument => ((Wrapper.loweringExpr argument).names,some (Wrapper.localName argument)))) := by
  induction all generalizing position with
  | nil => exact .nil
  | @cons field argument fields arguments one _ ih =>
    refine .cons ⟨?_,?_⟩ (ih (position + 1))
    · have lowered := one.lowered.map normal
      have plain : normal "_pending" = "_pending" := by decide
      simp only [Function.loweringLine,Wrapper.loweringExpr,one.held,List.map_append,List.map_cons,outers_names]
      cases field.type.isBuffer with
      | true =>
        have holds : (Expr.method (.source "_pending") "hold" [argument.lowered]).names =
            "_pending" :: (argument.lowered.names ++ []) := rfl
        have held : (Expr.method (.source "_pending") "hold" [argument.lowered]).names.map normal =
            "_pending" :: argument.lowered.names.map normal := by rw [holds,List.append_nil,List.map_cons,plain]
        rw [if_pos rfl,if_pos rfl,held]
        exact lowered.symm.cons "_pending"
      | false => exact lowered.symm
    · have same : Wrapper.localName argument = "_" ++ field.name := congrArg ("_" ++ ·) one.name
      exact congrArg (fun name => some (normal name)) same.symm

end

namespace Model
variable {model : Model} {function : Function} {wrapper : Wrapper}

theorem wrapper_parts (done : model.wrapper function = .ok wrapper) :
    List.Forall₂ Field.Wrapped function.arguments wrapper.arguments ∧ Function.Lifts function.returns wrapper.lifted := by
  obtain ⟨_,_,arguments,lifts⟩ := wrapper_made done
  exact ⟨arguments.imp fun _ _ one => Function.argument_wrapped one,Function.result_lifts lifts⟩

theorem call_shown (done : model.wrapper function = .ok wrapper) : function.callLine.Shows
    (wrapper.callExpr.names,if wrapper.lifted.isSome then some "_retval" else none) := by
  obtain ⟨all,lifts⟩ := wrapper_parts done
  have holds : wrapper.holds = function.holds := wrapped_holds all
  refine ⟨?_,?_⟩
  · have shown : wrapper.callExpr.names = "_lib" :: wrapper.callArguments.flatMap Expr.names := by
      rw [← Expr.namesOf_eq_flatMap]
      rfl
    have plain : normal "_lib" = "_lib" := by decide
    rw [shown,Function.callLine,List.map_cons,List.map_cons,plain,Function.sentReads,Wrapper.callArguments,holds]
    refine List.Perm.cons _ ?_
    cases function.holds with
    | true =>
      have sent : (wrapper.arguments.map (fun argument => Expr.source (Wrapper.localName argument))).flatMap Expr.names =
          wrapper.arguments.map Wrapper.localName := by
        rw [List.flatMap_map,List.map_eq_flatMap]
        rfl
      rw [if_pos rfl,if_pos rfl,numbered_keys,← wrapped_kept all,sent]
    | false =>
      rw [if_neg Bool.false_ne_true,if_neg Bool.false_ne_true,List.map_append,numbered_keys,outers_names,List.flatMap_map]
      have lowered := ((wrapped_lowered all).map normal).symm
      rwa [List.map_append,List.map_map] at lowered
  · have plain : normal "_retval" = "_retval" := by decide
    rw [Function.callLine,Function.answer]
    generalize wrapper.lifted = lifted,function.returns = returns at lifts
    cases lifts with
    | none => rfl
    | some one => exact congrArg some plain.symm

theorem result_shown (done : model.wrapper function = .ok wrapper) : List.Forall₂ Line.Shows function.resultLines
    (wrapper.lifted.toList.map (fun result => (result.names,none))) := by
  obtain ⟨_,lifts⟩ := wrapper_parts done
  have plain : normal "_retval" = "_retval" := by decide
  rw [Function.resultLines]
  generalize wrapper.lifted = lifted,function.returns = returns at lifts
  cases lifts with
  | none => exact .nil
  | some one =>
    refine .cons ⟨?_,rfl⟩ .nil
    have names := (one.map normal).symm
    rw [List.map_cons,plain] at names
    rwa [List.map_cons,outers_names]

theorem body_shown (done : model.wrapper function = .ok wrapper) : List.Forall₂ Line.Shows function.body wrapper.steps := by
  obtain ⟨all,_⟩ := wrapper_parts done
  have holds : wrapper.holds = function.holds := wrapped_holds all
  have opening : Function.openingLine.Shows (["_PendingBuffers"],some "_pending") := by
    have buffers : normal "_PendingBuffers" = "_PendingBuffers" := by decide
    have plain : normal "_pending" = "_pending" := by decide
    exact ⟨by rw [List.map_singleton,buffers]; exact .refl _,congrArg some plain.symm⟩
  have transfer : Function.transferLine.Shows (["_pending"],none) := by
    have plain : normal "_pending" = "_pending" := by decide
    exact ⟨by rw [List.map_singleton,plain]; exact .refl _,rfl⟩
  rw [Function.body,Wrapper.steps,holds]
  refine List.rel_append ?_ (result_shown done)
  cases function.holds with
  | true => exact .cons opening (List.rel_append (lowering_shown all 0) (.cons (call_shown done) (.cons transfer .nil)))
  | false => exact .cons (call_shown done) .nil

theorem locals_shown (done : model.wrapper function = .ok wrapper) :
    function.locals = (wrapper.parameters ++ wrapper.assigned).map normal := by
  obtain ⟨all,lifts⟩ := wrapper_parts done
  have holds : wrapper.holds = function.holds := wrapped_holds all
  have plain : normal "_pending" = "_pending" := by decide
  have returned : normal "_retval" = "_retval" := by decide
  have answers : wrapper.lifted.isSome = function.returns.isSome := by
    generalize wrapper.lifted = lifted,function.returns = returns at lifts
    cases lifts <;> rfl
  rw [Function.locals,Wrapper.assigned,holds,answers,List.map_append,List.map_append,Wrapper.parameters,wrapped_parameters all,
    List.append_assoc]
  cases function.holds <;> cases function.returns.isSome <;>
    simp only [if_true,if_false,Bool.false_eq_true,List.map_cons,List.map_nil,wrapped_kept all,plain,returned]

end Model

-- A wrapper reads and sets what its lines say, and each name that it reads stands for what
-- was meant exactly if its own names stay apart. Nothing sees to that: definition texts may
-- give any argument the name of what is set for another one, or of what the module has.
theorem wrapper_faithful_iff {model : Model} {function : Function} {wrapper : Wrapper}
    (done : model.wrapper function = .ok wrapper) :
    List.Forall₂ Line.Shows function.body wrapper.steps ∧
    function.locals = (wrapper.parameters ++ wrapper.assigned).map normal ∧
    (function.IsFaithful ↔ function.IsApart) :=
  ⟨Model.body_shown done,Model.locals_shown done,function.faithful_iff⟩

theorem wrapper_faithful_sample : (∃ wrapper, sampleModel.wrapper sampleFunction = .ok wrapper) ∧
    sampleFunction.IsFaithful := by
  have rendered : ∃ wrapper, sampleModel.wrapper sampleFunction = .ok wrapper := ⟨_,rfl⟩
  refine ⟨rendered,?_⟩
  obtain ⟨wrapper,done⟩ := rendered
  refine (wrapper_faithful_iff done).2.2.mpr ⟨?_,?_,?_,?_,?_⟩
  all_goals decide

-- The first argument is set aside under the name of the second one, which is read after it.
def hidingText : String := "namespace n; fn f(u32 x, u32 _x, bytes b);"

def hidingFunction : Function :=
  ⟨"f",[⟨"x",.ofPlain .u32⟩,⟨"_x",.ofPlain .u32⟩,⟨"b",.ofPlain .bytes⟩],none⟩

def hidingModel : Model := ⟨"n",[],[],[hidingFunction],[]⟩

theorem wrapper_hides : Model.read hidingText = .ok hidingModel ∧
    (∃ wrapper, hidingModel.wrapper hidingFunction = .ok wrapper ∧ "_x" ∈ wrapper.parameters ∧ "_x" ∈ wrapper.assigned) ∧
    Bindings.meaning? hidingFunction.locals (Line.scopeAfter hidingFunction.given (hidingFunction.body.take 2)) "_x" =
      some (.lowered 0) ∧
    ¬ hidingFunction.IsFaithful := by
  refine ⟨by cbv,⟨_,rfl,by decide,by decide⟩,by decide,?_⟩
  intro faithful
  have order := (hidingFunction.faithful_iff.mp faithful).order rfl
  exact (List.pairwise_cons.mp order).1 _ List.mem_cons_self (by decide)

end NativeBinding
