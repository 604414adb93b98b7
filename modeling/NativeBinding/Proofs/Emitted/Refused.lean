import NativeBinding.Emitted.Hygiene
import NativeBinding.Emitted.Source
import NativeBinding.Proofs.Emitted.Spine

namespace NativeBinding

-- A result is refused as announced, or it is there if nothing was announced.
def Supported.Follows (result : Supported α) : Option Unsupported → Prop
  | some failure => result = .error failure
  | none => ∃ value, result = .ok value

namespace Supported
variable {result : Supported α} {expected : Option Unsupported}

theorem follows_seq {other : Option Unsupported} {next : α → Supported β} (first : result.Follows expected)
    (second : ∀ value, (next value).Follows other) : (result >>= next).Follows (expected.or other) := by
  cases expected with
  | some failure =>
    rw [show result = .error failure from first]
    exact rfl
  | none =>
    obtain ⟨value,done⟩ := first
    rw [result_ok done]
    exact second value

theorem follows_again {next : α → Supported β} (first : result.Follows expected)
    (second : ∀ value, (next value).Follows expected) : (result >>= next).Follows expected := by
  have both := follows_seq first second
  rwa [Option.or_self] at both

theorem follows_then {next : α → Supported β} (first : result.Follows expected)
    (second : ∀ value, ∃ shown, next value = .ok shown) : (result >>= next).Follows expected := by
  have both : (result >>= next).Follows (expected.or none) := follows_seq first second
  rwa [Option.or_none] at both

theorem follows_map (change : α → β) (followed : result.Follows expected) : Supported.Follows (result.map change) expected := by
  cases expected with
  | some failure =>
    rw [show result = .error failure from followed]
    exact rfl
  | none =>
    obtain ⟨value,done⟩ := followed
    rw [done]
    exact ⟨change value,rfl⟩

theorem findSome?_cons_or (found : α → Option β) (x : α) (rest : List α) :
    (x :: rest).findSome? found = (found x).or (rest.findSome? found) := by
  rw [List.findSome?_cons]
  cases found x <;> rfl

theorem follows_mapM {f : α → Supported β} {refused : α → Option Unsupported} {xs : List α}
    (each : ∀ x ∈ xs, (f x).Follows (refused x)) : (xs.mapM f).Follows (xs.findSome? refused) := by
  induction xs with
  | nil => exact ⟨[],rfl⟩
  | cons x rest ih =>
    have first := each x List.mem_cons_self
    have others := ih (fun y later => each y (List.mem_cons_of_mem _ later))
    rw [List.mapM_cons,findSome?_cons_or]
    refine follows_seq first (fun value => follows_then others (fun values => ⟨value :: values,rfl⟩))

theorem follows_ok_iff (followed : result.Follows expected) : (∃ value, result = .ok value) ↔ expected = none := by
  cases expected with
  | some failure => simp [show result = .error failure from followed]
  | none => simpa using show ∃ value, result = .ok value from followed

end Supported

namespace TypeRef

def refusal? (type : TypeRef) : Option Unsupported := if type.core.isObject then some ⟨type.core,none⟩ else none

def offence? (type : TypeRef) (item : String) : Option Unsupported :=
  if type.core.isObject then some ⟨type.core,some item⟩ else none

@[simp] theorem refusal?_optional {below : TypeRef} : (TypeRef.optional below label).refusal? = below.refusal? := rfl

theorem refusal?_core {type other : TypeRef} (same : type.core = other.core) : type.refusal? = other.refusal? := by
  rw [refusal?,refusal?,same]

theorem offence?_none {type : TypeRef} : type.offence? item = none ↔ ¬ type.core.isObject := by
  unfold offence?
  split <;> simp_all

end TypeRef

theorem Supported.follows_declaredBy {result : Supported α} {type : TypeRef} (item : String)
    (followed : result.Follows type.refusal?) : (result.declaredBy item).Follows (type.offence? item) := by
  unfold TypeRef.refusal? at followed
  unfold TypeRef.offence?
  split at followed
  · rename_i object
    rw [if_pos object,show result = _ from followed]
    exact rfl
  · rename_i object
    obtain ⟨value,rfl⟩ := followed
    rw [if_neg object]
    exact ⟨value,rfl⟩

namespace TypeRef

open Supported

theorem host_follows (type : TypeRef) : type.host.Follows type.refusal? := by
  induction type with
  | plain which => cases which <;> exact ⟨_,rfl⟩
  | named which => cases which <;> first | exact ⟨_,rfl⟩ | exact rfl
  | optional below label ih => exact follows_then ih (fun declared => ⟨_,rfl⟩)

theorem foreign_follows (type : TypeRef) : type.foreign.Follows type.refusal? := by
  induction type with
  | plain which => cases which <;> exact ⟨_,rfl⟩
  | named which => cases which <;> first | exact ⟨_,rfl⟩ | exact rfl
  | optional below label ih => exact follows_then ih (fun declared => ⟨_,rfl⟩)

theorem ident_follows (type : TypeRef) : type.ident.Follows type.refusal? := by
  induction type with
  | plain which => cases which <;> exact ⟨_,rfl⟩
  | named which => cases which <;> first | exact ⟨_,rfl⟩ | exact rfl
  | optional below label ih => exact follows_then ih (fun rest => ⟨_,rfl⟩)

theorem sizing_follows (value : Expr) (type : TypeRef) : (type.sizing value).Follows type.refusal? := by
  cases type with
  | plain which => cases which <;> exact ⟨_,rfl⟩
  | named which => cases which <;> first | exact ⟨_,rfl⟩ | exact rfl
  | optional below label => exact follows_then (ident_follows _) (fun rest => ⟨_,rfl⟩)

theorem writing_follows (value buffer : Expr) (type : TypeRef) : (type.writing value buffer).Follows type.refusal? := by
  cases type with
  | plain which => cases which <;> exact ⟨_,rfl⟩
  | named which => cases which <;> first | exact ⟨_,rfl⟩ | exact rfl
  | optional below label => exact follows_then (ident_follows _) (fun rest => ⟨_,rfl⟩)

theorem reading_follows (buffer : Expr) (type : TypeRef) : (type.reading buffer).Follows type.refusal? := by
  cases type with
  | plain which => cases which <;> exact ⟨_,rfl⟩
  | named which => cases which <;> first | exact ⟨_,rfl⟩ | exact rfl
  | optional below label => exact follows_then (ident_follows _) (fun rest => ⟨_,rfl⟩)

section
variable {type : TypeRef} (whole : type.isBuffer)
include whole

theorem sizeEntry_follows : type.sizeEntry.Follows type.refusal? := by
  cases type with
  | plain which => cases which <;> first | exact ⟨_,rfl⟩ | cases whole
  | named which => cases which <;> first | exact ⟨_,rfl⟩ | cases whole
  | optional below label => exact follows_then (ident_follows _) (fun rest => ⟨_,rfl⟩)

theorem writeEntry_follows : type.writeEntry.Follows type.refusal? := by
  cases type with
  | plain which => cases which <;> first | exact ⟨_,rfl⟩ | cases whole
  | named which => cases which <;> first | exact ⟨_,rfl⟩ | cases whole
  | optional below label => exact follows_then (ident_follows _) (fun rest => ⟨_,rfl⟩)

theorem readEntry_follows : type.readEntry.Follows type.refusal? := by
  cases type with
  | plain which => cases which <;> first | exact ⟨_,rfl⟩ | cases whole
  | named which => cases which <;> first | exact ⟨_,rfl⟩ | cases whole
  | optional below label => exact follows_then (ident_follows _) (fun rest => ⟨_,rfl⟩)

end

theorem lower_follows (value : Expr) (type : TypeRef) : (type.lower value).Follows type.refusal? := by
  have buffer (whole : type.isBuffer) : (do
      let size ← type.sizeEntry
      let write ← type.writeEntry
      return Expr.apply "_lower_buffer" [value,size,write] : Supported Expr).Follows type.refusal? :=
    follows_again (sizeEntry_follows whole) (fun size => follows_then (writeEntry_follows whole) (fun write => ⟨_,rfl⟩))
  cases type with
  | plain which => cases which <;> first | exact buffer rfl | exact ⟨_,rfl⟩
  | named which => cases which <;> first | exact buffer rfl | exact ⟨_,rfl⟩ | exact rfl
  | optional below label => exact buffer rfl

theorem lift_follows (value : Expr) (type : TypeRef) : (type.lift value).Follows type.refusal? := by
  have buffer (whole : type.isBuffer) : (do
      let read ← type.readEntry
      return Expr.apply "_lift_buffer" [value,read] : Supported Expr).Follows type.refusal? :=
    follows_then (readEntry_follows whole) (fun read => ⟨_,rfl⟩)
  cases type with
  | plain which => cases which <;> first | exact buffer rfl | exact ⟨_,rfl⟩
  | named which => cases which <;> first | exact buffer rfl | exact ⟨_,rfl⟩ | exact rfl
  | optional below label => exact buffer rfl

theorem optionalHelpers_follows (below : TypeRef) (label : Option String) :
    (TypeRef.optional below label).helpers.Follows (TypeRef.optional below label).refusal? := by
  rw [refusal?_optional]
  exact follows_again (ident_follows _) (fun _ => follows_again (reading_follows _ _) (fun _ =>
    follows_again (sizing_follows _ _) (fun _ => follows_then (writing_follows _ _ _) (fun _ => ⟨_,rfl⟩))))

theorem helpers_follows {type : TypeRef} (fine : type.refusal? = none) : ∃ made, type.helpers = .ok made := by
  cases type with
  | plain => exact ⟨_,rfl⟩
  | named => exact ⟨_,rfl⟩
  | optional below label => exact (follows_ok_iff (optionalHelpers_follows below label)).mpr fine

end TypeRef

open Supported

def firstOffence? (fields : List Field) (item : Field → String) : Option Unsupported :=
  fields.findSome? (fun field => field.type.offence? (item field))

def signatureOffence? (arguments : List Field) (returns : Option TypeRef) (argumentItem : Field → String)
    (resultItem : String) : Option Unsupported :=
  (firstOffence? arguments argumentItem).or (returns.bind (fun type => type.offence? resultItem))

def Record.offence? (record : Record) : Option Unsupported := firstOffence? record.fields record.fieldItem

def Function.offence? (function : Function) : Option Unsupported :=
  signatureOffence? function.arguments function.returns function.argumentItem function.resultItem

def ForeignFunction.offence? (entry : ForeignFunction) : Option Unsupported :=
  signatureOffence? entry.arguments entry.returns entry.argumentItem entry.resultItem

def Model.offences (model : Model) : List Unsupported :=
  model.records.filterMap Record.offence? ++ model.functions.filterMap Function.offence?

theorem firstOffence?_none {fields : List Field} {item : Field → String} :
    firstOffence? fields item = none ↔ ∀ type ∈ fields.map Field.type, ¬ type.core.isObject := by
  rw [firstOffence?,List.findSome?_eq_none_iff,List.forall_mem_map]
  exact forall₂_congr (fun _ _ => TypeRef.offence?_none)

theorem signatureOffence?_none {arguments : List Field} {returns : Option TypeRef} {argumentItem : Field → String} :
    signatureOffence? arguments returns argumentItem resultItem = none ↔
      ∀ type ∈ arguments.map Field.type ++ returns.toList, ¬ type.core.isObject := by
  rw [signatureOffence?,Option.or_eq_none_iff,firstOffence?_none,Option.bind_eq_none_iff,List.forall_mem_append]
  refine and_congr_right (fun _ => ?_)
  simp only [Option.mem_toList,TypeRef.offence?_none]

section
variable {failure : Unsupported}

theorem TypeRef.offence?_named {type : TypeRef} (blamed : type.offence? item = some failure) :
    failure.type.isObject ∧ failure.item.isSome := by
  unfold TypeRef.offence? at blamed
  split at blamed
  · rename_i object
    cases blamed
    exact ⟨object,rfl⟩
  · cases blamed

theorem firstOffence?_named {fields : List Field} {item : Field → String} (blamed : firstOffence? fields item = some failure) :
    failure.type.isObject ∧ failure.item.isSome := by
  obtain ⟨field,_,blamed⟩ := List.exists_of_findSome?_eq_some blamed
  exact TypeRef.offence?_named blamed

theorem signatureOffence?_named {arguments : List Field} {returns : Option TypeRef} {argumentItem : Field → String}
    (blamed : signatureOffence? arguments returns argumentItem resultItem = some failure) :
    failure.type.isObject ∧ failure.item.isSome := by
  rcases Option.or_eq_some_iff.mp blamed with argument | ⟨_,returned⟩
  · exact firstOffence?_named argument
  · obtain ⟨type,_,blamed⟩ := Option.bind_eq_some_iff.mp returned
    exact TypeRef.offence?_named blamed

end

theorem Record.emitted_follows (record : Record) : record.emitted.Follows record.offence? := by
  have member (field : Field) : (Record.member field).Follows field.type.refusal? :=
    follows_again (TypeRef.host_follows _) (fun _ => follows_again (TypeRef.sizing_follows _ _) (fun _ =>
      follows_again (TypeRef.writing_follows _ _ _) (fun _ => follows_then (TypeRef.reading_follows _ _) (fun _ => ⟨_,rfl⟩))))
  refine follows_then (follows_mapM ?_) (fun _ => ⟨_,rfl⟩)
  intro field _
  exact follows_declaredBy _ (member field)

theorem returns_follows (make : Option TypeRef → Supported α) (absent : ∃ shown, make none = .ok shown)
    (present : ∀ type, (make (some type)).Follows type.refusal?) (returns : Option TypeRef) (item : String) :
    ((make returns).declaredBy item).Follows (returns.bind (fun type => type.offence? item)) := by
  cases returns with
  | none =>
    obtain ⟨shown,done⟩ := absent
    exact ⟨shown,by rw [done]; rfl⟩
  | some type => exact follows_declaredBy item (present type)

theorem Model.wrapper_follows (model : Model) (function : Function) :
    (model.wrapper function).Follows function.offence? := by
  have argument (field : Field) : (Function.argument field).Follows field.type.refusal? :=
    follows_again (TypeRef.host_follows _) (fun _ => follows_then (TypeRef.lower_follows _ _) (fun _ => ⟨_,rfl⟩))
  have result (type : TypeRef) : (Function.result (some type)).Follows type.refusal? :=
    follows_again (follows_map some (TypeRef.host_follows type)) (fun _ => follows_then (TypeRef.lift_follows _ _) (fun _ => ⟨_,rfl⟩))
  refine follows_seq (follows_mapM ?_) (fun _ =>
    follows_then (returns_follows Function.result ⟨_,rfl⟩ result _ _) (fun _ => ⟨_,rfl⟩))
  intro field _
  exact follows_declaredBy _ (argument field)

theorem ForeignFunction.declaration_follows (entry : ForeignFunction) : entry.declaration.Follows entry.offence? := by
  have result (type : TypeRef) : Supported.Follows (TypeRef.foreignResult (some type)) type.refusal? :=
    follows_map some (TypeRef.foreign_follows type)
  refine follows_seq (follows_mapM ?_) (fun _ =>
    follows_then (returns_follows TypeRef.foreignResult ⟨_,rfl⟩ result _ _) (fun _ => ⟨_,rfl⟩))
  intro field _
  exact follows_declaredBy _ (TypeRef.foreign_follows _)

namespace Model
variable {model : Model}

theorem collectResults_failures {f : α → Supported β} {refused : α → Option Unsupported} {items : List α}
    (each : ∀ item ∈ items, (f item).Follows (refused item)) : (collectResults (items.map f)).1 = items.filterMap refused := by
  induction items with
  | nil => rfl
  | cons item rest ih =>
    have first := each item List.mem_cons_self
    have others := ih (fun other later => each other (List.mem_cons_of_mem _ later))
    cases known : refused item with
    | some failure =>
      rw [known] at first
      rw [List.filterMap_cons_some known,← others,List.map_cons,show f item = .error failure from first]
      rfl
    | none =>
      rw [known] at first
      obtain ⟨value,done⟩ := first
      rw [List.filterMap_cons_none known,← others,List.map_cons,done]
      rfl

-- The items that are refused are those with an offence, each for its first one.
theorem failures_offences : model.failures = model.offences := by
  unfold failures offences recordClasses wrappers
  rw [collectResults_failures (fun record _ => record.emitted_follows),
    collectResults_failures (fun function _ => model.wrapper_follows function)]

theorem offences_nil : model.offences = [] ↔ ∀ type ∈ model.typeRefs, ¬ type.core.isObject := by
  simp only [offences,typeRefs,List.append_eq_nil_iff,List.filterMap_eq_nil_iff,Record.offence?,Function.offence?,
    firstOffence?_none,signatureOffence?_none,List.forall_mem_append,List.forall_mem_flatMap]

theorem offences_named {failure : Unsupported} (member : failure ∈ model.offences) :
    failure.type.isObject ∧ failure.item.isSome := by
  rcases List.mem_append.mp member with inside | outside
  · obtain ⟨record,_,blamed⟩ := List.mem_filterMap.mp inside
    exact firstOffence?_named blamed
  · obtain ⟨function,_,blamed⟩ := List.mem_filterMap.mp outside
    exact signatureOffence?_named blamed

theorem boundaryTypes_typeRefs (member : type ∈ model.boundaryTypes) : type ∈ model.typeRefs := by
  rcases List.mem_append.mp member with inside | outside
  · obtain ⟨record,present,own⟩ := List.mem_flatMap.mp inside
    split at own
    · exact List.mem_append_left _ (List.mem_flatMap.mpr ⟨record,present,own⟩)
    · cases own
  · obtain ⟨function,present,own⟩ := List.mem_flatMap.mp outside
    split at own
    · exact List.mem_append_right _ (List.mem_flatMap.mpr ⟨function,present,own⟩)
    · cases own

theorem foreignFunctions_fine (fine : ∀ type ∈ model.typeRefs, ¬ type.core.isObject) :
    ∀ entry ∈ model.foreignFunctions, entry.offence? = none := by
  intro entry member
  refine signatureOffence?_none.mpr ?_
  rcases List.mem_cons.mp member with rfl | member
  · simp [foreignAlloc,TypeRef.ofPlain,TypeRef.core,TypeRef.isObject]
  rcases List.mem_cons.mp member with rfl | member
  · simp [foreignFree,TypeRef.ofPlain,TypeRef.core,TypeRef.isObject]
  obtain ⟨function,present,rfl⟩ := List.mem_map.mp member
  intro type own
  exact fine type (List.mem_append_right _ (List.mem_flatMap.mpr ⟨function,present,own⟩))

theorem bodyLines_ok (config : Config) (fine : ∀ type ∈ model.typeRefs, ¬ type.core.isObject) :
    ∃ lines, model.bodyLines config = .ok lines := by
  have declared : (model.foreignFunctions.mapM ForeignFunction.declaration).Follows (model.foreignFunctions.findSome? ForeignFunction.offence?) :=
    follows_mapM (fun entry _ => entry.declaration_follows)
  rw [List.findSome?_eq_none_iff.mpr (foreignFunctions_fine fine)] at declared
  obtain ⟨declarations,first⟩ := declared
  have helped : (model.optionalTypes.mapM TypeRef.helpers).Follows (model.optionalTypes.findSome? (fun _ => none)) := by
    refine follows_mapM ?_
    intro type member
    obtain ⟨other,asked,inside⟩ := TypeRef.collectOptionals_mem.mp member
    refine TypeRef.helpers_follows ?_
    rw [TypeRef.refusal?_core (TypeRef.spine_core inside)]
    exact if_neg (fine other (boundaryTypes_typeRefs asked))
  rw [List.findSome?_eq_none_iff.mpr (fun _ _ => rfl)] at helped
  obtain ⟨helpers,second⟩ := helped
  have lines : model.declarationLines = _ := result_ok first
  have made : model.optionalHelpers = _ := result_ok second
  unfold bodyLines
  rw [result_ok lines,result_ok made]
  exact ⟨_,rfl⟩

theorem generate_accepted {config : Config} (fine : ∀ type ∈ model.typeRefs, ¬ type.core.isObject) :
    ∃ source, (model.generate config).result = .ok source := by
  obtain ⟨lines,done⟩ := bodyLines_ok config fine
  unfold generate
  rw [failures_offences,offences_nil.mpr fine,done]
  exact ⟨_,rfl⟩

def failureReport (failure : Unsupported) : Report := ⟨.error,failure.message⟩

theorem generate_refused {config : Config} (refused : model.offences ≠ []) :
    model.generate config = ⟨model.renderingLog ++ model.offences.map failureReport,
      .error (.items model.offences)⟩ := by
  unfold generate
  rw [failures_offences]
  split
  · rename_i none
    exact absurd none refused
  · rfl

theorem renderingLog_debug {report : Report} (member : report ∈ model.renderingLog) : report.level = .debug := by
  rcases List.mem_append.mp member with member | member
  · rcases List.mem_append.mp member with member | member
    · obtain ⟨item,_,rfl⟩ := List.mem_map.mp member
      rfl
    · obtain ⟨item,_,rfl⟩ := List.mem_map.mp member
      rfl
  · obtain ⟨item,_,rfl⟩ := List.mem_map.mp member
    rfl

theorem refused_log (failures : List Unsupported) :
    (model.renderingLog ++ failures.map failureReport).filter (fun report => report.level == .error) =
        failures.map failureReport ∧
      ∀ report ∈ model.renderingLog ++ failures.map failureReport, report.level ≠ .warning := by
  constructor
  · have before : model.renderingLog.filter (fun report => report.level == .error) = [] := by
      refine List.filter_eq_nil_iff.mpr ?_
      intro report member
      simp [renderingLog_debug member]
    rw [List.filter_append,before,List.nil_append,List.filter_eq_self]
    intro report member
    obtain ⟨failure,_,rfl⟩ := List.mem_map.mp member
    rfl
  · intro report member
    rcases List.mem_append.mp member with before | own
    · simp [renderingLog_debug before]
    · obtain ⟨failure,_,rfl⟩ := List.mem_map.mp own
      simp [failureReport]

-- A source is made exactly for a model without objects in its types. In any other case
-- nothing is made, and the error lists what is wrong with each item.
theorem generate_all_or_nothing (model : Model) (config : Config) :
    ((∃ source, (model.generate config).result = .ok source) ↔ ∀ type ∈ model.typeRefs, ¬ type.core.isObject) ∧
      match (model.generate config).result with
      | .ok _ => model.offences = []
      | .error error => error = .items model.offences ∧ model.offences ≠ [] ∧
        error.message = "\n".intercalate ((toString model.offences.length ++ " interface item(s) could not be generated:") ::
          model.offences.map (fun failure => "  - " ++ failure.message)) ∧
        (∀ failure ∈ model.offences, failure.type.isObject ∧ failure.item.isSome) ∧
        (model.generate config).log.filter (fun report => report.level == .error) =
          model.offences.map failureReport ∧
        ∀ report ∈ (model.generate config).log, report.level ≠ .warning := by
  by_cases none : model.offences = []
  · have fine := offences_nil.mp none
    obtain ⟨source,done⟩ : ∃ source, (model.generate config).result = .ok source := generate_accepted fine
    refine ⟨⟨fun _ => fine,fun _ => ⟨source,done⟩⟩,?_⟩
    rw [done]
    exact none
  · have refused : ¬ ∀ type ∈ model.typeRefs, ¬ type.core.isObject := fun fine => none (offences_nil.mpr fine)
    rw [generate_refused none]
    refine ⟨⟨?_,fun fine => absurd fine refused⟩,rfl,none,rfl,fun failure => offences_named,refused_log model.offences⟩
    rintro ⟨source,done⟩
    cases done

example : offences ⟨"n",[],
    [⟨"R",[⟨"a",.ofPlain .u32⟩,⟨"b",.optionalOf (.objectOf "O")⟩,⟨"c",.objectOf "P"⟩]⟩],
    [⟨"f",[⟨"x",.ofPlain .bytes⟩],some (.objectOf "P")⟩],["O","P"]⟩ =
    [⟨.objectOf "O",some "record 'R' field 'b'"⟩,⟨.objectOf "P",some "function 'f' return type"⟩] := by
  decide

end Model
end NativeBinding
