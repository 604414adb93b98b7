import NativeBinding.Proofs.Emitted.Boundary
import NativeBinding.Proofs.Emitted.Distinct
import NativeBinding.Proofs.Emitted.Evaluated
import NativeBinding.Proofs.Emitted.Wrapped

namespace NativeBinding
open Wire

namespace Act
variable {read : Nat → Read Value} {whole : Read Value} (settles : ∀ bytes, Settles (fun depth => read depth bytes) (whole bytes))
include settles

theorem readWhole_settles (bytes : List UInt8) : Settles (fun depth => readWhole (read depth) bytes) (readWhole whole bytes) :=
  (settles bytes).seq fun _ _ _ => .fixed _

theorem liftWith_settles (buffer : Buffer) (session : Session) :
    Settles (fun depth => liftWith (read depth) buffer session) (liftWith whole buffer session) := by
  have scanned : Settles (fun depth => scan buffer (readWhole (read depth)) session) (scan buffer (readWhole whole) session) := by
    refine Settles.seq (.fixed _) fun _ opened _ => Settles.seq (.fixed _) fun found later _ => ?_
    refine Settles.seq (.fixed _) fun unread last _ => ?_
    obtain ⟨enough,same⟩ := readWhole_settles settles unread
    refine ⟨enough,fun depth deep => ?_⟩
    have one : readWhole (read depth) unread = readWhole whole unread := same depth deep
    simp only [one]
  refine Settles.seq ?_ fun _ _ _ => .fixed _
  exact scanned.map fun ending => guarding buffer (fun _ => ending) session

theorem liftStandInWith_settles (value : Value) (session : Session) :
    Settles (fun depth => liftStandInWith (read depth) value session) (liftStandInWith whole value session) := by
  refine Settles.seq ?_ fun _ _ _ => .fixed _
  refine Settles.map ?_ fun ending => liftStandIn.guardingStandIn value (fun _ => ending) session
  refine Settles.seq (.fixed _) fun content last _ => ?_
  obtain ⟨enough,same⟩ := readWhole_settles settles content
  refine ⟨enough,fun depth deep => ?_⟩
  have one : readWhole (read depth) content = readWhole whole content := same depth deep
  simp only [one]

end Act

section
variable {fields : List Field} {arguments : List WrapperArgument}
  (made : List.Forall₂ (fun field argument => Function.argument field = .ok argument) fields arguments)
include made

theorem arguments_named : arguments.map WrapperArgument.name = fields.map Field.name :=
  forall₂_map made fun _ _ one => (Function.argument_parts one).1

theorem arguments_given {values : List Value} (distinct : (fields.map Field.name).Nodup) (count : values.length = arguments.length) :
    List.Forall₂ (fun (field : Field) value => ((arguments.map WrapperArgument.name).zip values).lookup field.name = some value)
      fields values := by
  have length := made.length_eq.trans count.symm
  rw [arguments_named made]
  refine List.forall₂_iff_zip.mpr ⟨length,fun {field value} member => lookup_member ?_ ?_⟩
  · rwa [List.map_fst_zip]
    rw [List.length_map,length]
  · rw [List.zip_map_left]
    exact List.mem_map_of_mem member (f := Prod.map Field.name id)

end

namespace Rendered
variable {rendered : Rendered} {model : Model} (renders : rendered.Renders model)
include renders

theorem lower_settles {type : TypeRef} (collected : type.IsCollected model) (done : type.lower (.source name) = .ok expr)
    {locals : Locals} (given : locals.lookup name = some value) :
    Settles (fun depth => rendered.lower depth locals expr) (Act.lower model type value) := by
  have known : (Expr.source name).value locals = .ok value := by
    simp only [Expr.value,given]
  have buffer (whole : type.isBuffer) (shape : type.lower (.source name) = (do
        let size ← type.sizeEntry
        let write ← type.writeEntry
        return .apply "_lower_buffer" [.source name,size,write]))
      (same : Act.lower model type value = (do return .buffer (← Act.lowerBuffer model type value))) :
      Settles (fun depth => rendered.lower depth locals expr) (Act.lower model type value) := by
    rw [shape] at done
    obtain ⟨size,sized,done⟩ := result_ok_parts done
    obtain ⟨write,written,done⟩ := result_ok_parts done
    cases done
    rw [same,Act.lowerBuffer_with]
    simp only [Expr.apply,lower,known]
    exact (sizeEntry_settles renders collected whole sized value).both (writeEntry_settles renders collected whole written value)
      fun size write => (do return .buffer (← Act.lowerWith size write) : Act Lowered)
  cases type with
  | plain which =>
    cases which with
    | bytes => exact buffer rfl rfl rfl
    | boolean => cases done; simp only [lower,known]; exact .fixed _
    | string => cases done; simp only [Expr.apply,lower,known]; exact .fixed _
    | _ => cases done; simp only [lower,known]; exact .fixed _
  | named which =>
    cases which with
    | enumeration =>
      cases done
      simp only [lower,Expr.value,given]
      exact .fixed _
    | record => exact buffer rfl rfl rfl
    | object => cases done
  | optional => exact buffer rfl rfl rfl

theorem lowerAll_settles {fields : List Field} {arguments : List WrapperArgument}
    (made : List.Forall₂ (fun field argument => Function.argument field = .ok argument) fields arguments)
    (collected : ∀ field ∈ fields, field.type.IsCollected model) {locals : Locals}
    (given : List.Forall₂ (fun (field : Field) value => locals.lookup field.name = some value) fields values) (held : List Buffer)
    (session : Session) : Settles (fun depth => rendered.lowerAll depth locals held arguments session)
      (Act.lowerAll model held (fields.zip values) session) := by
  induction made generalizing values held session with
  | nil => exact .fixed _
  | @cons field argument fields arguments one _ ih =>
    cases given with
    | @cons _ value _ values known given =>
      obtain ⟨own,others⟩ := List.forall_mem_cons.mp collected
      obtain ⟨_,done,_⟩ := Function.argument_parts one
      obtain ⟨enough,same⟩ := lower_settles renders own done known
      cases run : Act.lower model field.type value session with
      | error fault after =>
        refine ⟨enough,fun depth deep => ?_⟩
        have lowered : rendered.lower depth locals argument.lowered session = .error fault after :=
          (congrFun (same depth deep) session).trans run
        simp only [lowerAll,Act.lowerAll,List.zip_cons_cons,lowered,run]
      | ok sent after =>
        obtain ⟨more,rest⟩ := Settles.seq (ih others given (held ++ sent.buffer?.toList) after) fun lowered last _ =>
          .fixed ((do return sent :: lowered : Act (List Lowered)) last)
        refine ⟨max enough more,fun depth deep => ?_⟩
        have lowered : rendered.lower depth locals argument.lowered session = .ok sent after :=
          (congrFun (same depth ((Nat.le_max_left _ _).trans deep)) session).trans run
        simp only [lowerAll,Act.lowerAll,List.zip_cons_cons,lowered,run]
        exact rest depth ((Nat.le_max_right _ _).trans deep)

theorem lift_settles (grounded : model.Grounded) (closed : model.ClosedFields) {type : TypeRef} (collected : type.IsCollected model)
    (known : type.isClosed model) (done : type.lift (.source "_retval") = .ok expr) (returned : Returned) (session : Session) :
    Settles (fun depth => rendered.lift depth returned expr session) (Act.lift model type returned session) := by
  have buffer (whole : type.isBuffer) (shape : type.lift (.source "_retval") = (do
        let read ← type.readEntry
        return .apply "_lift_buffer" [.source "_retval",read]))
      (same : Act.lift model type returned = Act.liftReturned model type returned) :
      Settles (fun depth => rendered.lift depth returned expr session) (Act.lift model type returned session) := by
    rw [shape] at done
    obtain ⟨read,taken,done⟩ := result_ok_parts done
    cases done
    rw [same,Act.liftReturned_with]
    simp only [Expr.apply,lift]
    have settles := readEntry_settles renders collected whole grounded closed known taken
    cases returned with
    | buffer back => exact Act.liftWith_settles settles back session
    | value value => exact Act.liftStandInWith_settles settles value session
    | null => exact Act.liftStandInWith_settles settles .null session
  cases type with
  | plain which =>
    cases which with
    | bytes => exact buffer rfl rfl rfl
    | _ => cases done; exact .fixed _
  | named which =>
    cases which with
    | enumeration =>
      cases done
      simp only [Expr.method,lift,Act.lift,renders.ordinal]
      exact .fixed _
    | record => exact buffer rfl rfl rfl
    | object => cases done
  | optional => exact buffer rfl rfl rfl

theorem call_settles (grounded : model.Grounded) (closed : ∀ type ∈ model.typeRefs, type.isClosed model) (own : function ∈ model.functions)
    (distinct : (function.arguments.map Field.name).Nodup) (done : model.wrapper function = .ok wrapper) (values : List Value)
    (reply : Reply Value) (fails : Bool) (session : Session) :
    Settles (fun depth => rendered.call depth wrapper values reply fails session)
      (Act.call model function values reply fails session) := by
  obtain ⟨_,symbol,made,lifts⟩ := Model.wrapper_made done
  have holds : wrapper.holds = function.arguments.any (fun field => field.type.isBuffer) :=
    wrapped_holds (made.imp fun _ _ one => Function.argument_wrapped one)
  have mentioned : ∀ type ∈ function.arguments.map Field.type ++ function.returns.toList, type ∈ model.typeRefs := by
    intro type member
    exact List.mem_append_right _ (List.mem_flatMap.mpr ⟨function,own,member⟩)
  simp only [call,Act.call,← made.length_eq,holds,symbol]
  by_cases count : values.length = function.arguments.length
  · have given := arguments_given made distinct (count.trans made.length_eq)
    have arguments : ∀ field ∈ function.arguments, field.type.IsCollected model := by
      intro field member
      exact renders.collected _ (mentioned _ (List.mem_append_left _ (List.mem_map_of_mem member)))
    simp only [if_neg (not_not.mpr count)]
    refine Settles.guarded Act.needLibrary fun opened => ?_
    refine Settles.seq (lowerAll_settles renders made arguments given [] opened) fun lowered _ _ => ?_
    refine Settles.seq (.fixed _) fun returned last _ => ?_
    generalize function.returns = returns,wrapper.lifted = lifted at lifts mentioned
    cases lifts with
    | none => exact .fixed _
    | some shown =>
      have own := mentioned _ (List.mem_append_right _ List.mem_cons_self)
      exact lift_settles renders grounded (Model.closed_fields closed) (renders.collected _ own) (closed _ own) shown returned last
  · simp only [if_pos count]
    exact .fixed _

end Rendered

theorem Model.distinct_nodup {names : List String} (distinct : Model.distinct names) : names.Nodup := by
  induction names with
  | nil => exact List.nodup_nil
  | cons name rest ih =>
    simp only [Model.distinct,Bool.and_eq_true,Bool.not_eq_true',List.contains_eq_mem,decide_eq_false_iff_not] at distinct
    exact List.nodup_cons.mpr ⟨distinct.1,ih distinct.2⟩

theorem Model.parameters_distinct {model : Model} {wrapper : Wrapper} (hygienic : model.isHygienic) (own : function ∈ model.functions)
    (done : model.wrapper function = .ok wrapper) : wrapper.parameters.Nodup := by
  simp only [isHygienic,Bool.and_eq_true,List.all_eq_true] at hygienic
  obtain ⟨⟨⟨_,each⟩,_⟩,_⟩ := hygienic
  have free := each function own
  simp only [Function.isHygienic,done,Bool.and_eq_true] at free
  exact (List.nodup_append.mp (distinct_nodup free.1.2)).1

-- The classes, helpers and wrappers that are rendered for a model do what its values and its
-- functions are said to do, where every name of the model stands for what it is meant for.
theorem rendered_agrees {config : Config} (read : Model.read text = .ok model) (generated : (model.generate config).result = .ok source)
    (hygienic : model.isHygienic) (grounded : model.Grounded) : ∃ rendered, model.rendered = .ok rendered ∧
    (∀ type ∈ model.typeRefs, type.isBuffer → ∃ size write read, type.sizeEntry = .ok size ∧ type.writeEntry = .ok write ∧
      type.readEntry = .ok read ∧
      (∀ value, Settles (fun depth => rendered.sizeEntry depth size value) (model.encodedSize type value) ∧
        Settles (fun depth => rendered.writeEntry depth write value) (model.encode type value)) ∧
      ∀ bytes, Settles (fun depth => rendered.readEntry depth read bytes) (model.decode type bytes)) ∧
    ∀ function ∈ model.functions, ∃ wrapper, model.wrapper function = .ok wrapper ∧ ∀ values reply fails session,
      Settles (fun depth => rendered.call depth wrapper values reply fails session)
        (Act.call model function values reply fails session) := by
  have fine := Model.generate_ok generated
  obtain ⟨_,_,laid⟩ := Model.read_layout read
  have formed := Definition.readLayout_formed laid
  have closed := Model.generate_closed generated (Model.read_meets read).2
  obtain ⟨lines,body,_⟩ := Model.generate_lines generated
  obtain ⟨_,_,body⟩ := result_ok_parts body
  obtain ⟨helpers,made,_⟩ := result_ok_parts body
  have done : model.rendered = .ok ⟨model.recordClasses.2,helpers,model.fromOrdinal⟩ := result_ok made
  have renders := Model.rendered_renders fine (fun type member => (formed.types type member).1) done
  refine ⟨_,done,?_,?_⟩
  · intro type member whole
    have none : type.refusal? = none := if_neg (fine type member)
    obtain ⟨size,sized⟩ := (TypeRef.size_entries.made TypeRef.sizeEntry_follows none).mpr whole
    obtain ⟨write,written⟩ := (TypeRef.write_entries.made TypeRef.writeEntry_follows none).mpr whole
    obtain ⟨read,taken⟩ := (TypeRef.read_entries.made TypeRef.readEntry_follows none).mpr whole
    have collected := renders.collected type member
    refine ⟨size,write,read,sized,written,taken,fun value => ⟨?_,?_⟩,?_⟩
    · exact Rendered.sizeEntry_settles renders collected whole sized value
    · exact Rendered.writeEntry_settles renders collected whole written value
    · exact Rendered.readEntry_settles renders collected whole grounded (Model.closed_fields closed) (closed type member) taken
  · intro function own
    obtain ⟨wrapper,_,shown⟩ := forall₂_right (Model.functions_made fine) own
    have distinct := Model.parameters_distinct hygienic own shown
    rw [Wrapper.parameters,arguments_named (Model.wrapper_made shown).2.2.1] at distinct
    exact ⟨wrapper,shown,Rendered.call_settles renders grounded closed own distinct shown⟩

theorem rendered_agrees_sample : ∃ rendered wrapper, sampleModel.rendered = .ok rendered ∧
    sampleModel.wrapper sampleFunction = .ok wrapper ∧
    Settles (fun depth => rendered.writeEntry depth (.member (.source "Node") "_write") typedNode)
      (sampleModel.encode (.recordOf "Node") typedNode) ∧
    ∀ values reply fails session, Settles (fun depth => rendered.call depth wrapper values reply fails session)
      (Act.call sampleModel sampleFunction values reply fails session) := by
  obtain ⟨source,generated⟩ := generated_sample
  obtain ⟨rendered,done,entries,calls⟩ := rendered_agrees read_sample generated hygienic_sample grounded_sample
  obtain ⟨wrapper,shown,runs⟩ := calls sampleFunction List.mem_cons_self
  obtain ⟨size,write,_,_,written,_,codecs,_⟩ := entries (.recordOf "Node") (by decide) rfl
  cases written
  exact ⟨rendered,wrapper,done,shown,(codecs typedNode).2,runs⟩

end NativeBinding
