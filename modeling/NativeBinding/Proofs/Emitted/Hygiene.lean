import NativeBinding.Emitted.Hygiene
import NativeBinding.Proofs.Emitted.Scope

namespace NativeBinding
open Text

def outers (names : List String) : Bindings := names.map (fun name => (normal name,.outer))

def numbered (label : Field → String) (meaning : Nat → Meaning) : Nat → List Field → Bindings
  | _,[] => []
  | position,field :: rest => (label field,meaning position) :: numbered label meaning (position + 1) rest

namespace TypeRef

def lowerNames (type : TypeRef) : List String :=
  match type.lower (.number 0) with
  | .ok expr => expr.names
  | .error _ => []

def liftNames (type : TypeRef) : List String :=
  match type.lift (.number 0) with
  | .ok expr => expr.names
  | .error _ => []

end TypeRef

namespace Field

def parameter (field : Field) : String := normal field.name

def kept (field : Field) : String := normal ("_" ++ field.name)

end Field

namespace Function

def holds (function : Function) : Bool := function.arguments.any (fun field => field.type.isBuffer)

def loweringLine (position : Nat) (field : Field) : Line :=
  ⟨(if field.type.isBuffer then [("_pending",.pending)] else []) ++
      (field.parameter,.given position) :: outers field.type.lowerNames,
    some (field.kept,.lowered position)⟩

def loweringLines : Nat → List Field → List Line
  | _,[] => []
  | position,field :: rest => loweringLine position field :: loweringLines (position + 1) rest

def sentReads (function : Function) : Bindings :=
  if function.holds then numbered Field.kept .lowered 0 function.arguments
  else numbered Field.parameter .given 0 function.arguments ++
    outers (function.arguments.flatMap (fun field => field.type.lowerNames))

def answer (function : Function) : Option (String × Meaning) := function.returns.map (fun _ => ("_retval",.answer))

def callLine (function : Function) : Line := ⟨("_lib",.outer) :: function.sentReads,function.answer⟩

def resultLines (function : Function) : List Line :=
  function.returns.toList.map (fun type => ⟨("_retval",.answer) :: outers type.liftNames,none⟩)

def openingLine : Line := ⟨[("_PendingBuffers",.outer)],some ("_pending",.pending)⟩

def transferLine : Line := ⟨[("_pending",.pending)],none⟩

def body (function : Function) : List Line :=
  (if function.holds then
    openingLine :: loweringLines 0 function.arguments ++ [function.callLine,transferLine]
  else [function.callLine]) ++ function.resultLines

def locals (function : Function) : List String :=
  function.arguments.map Field.parameter ++
  (if function.holds then "_pending" :: function.arguments.map Field.kept else []) ++
  (if function.returns.isSome then ["_retval"] else [])

def outside (function : Function) : List String :=
  (if function.holds then ["_PendingBuffers"] else []) ++ "_lib" ::
  function.arguments.flatMap (fun field => field.type.lowerNames) ++
  function.returns.toList.flatMap TypeRef.liftNames

def given (function : Function) : Bindings := numbered Field.parameter .given 0 function.arguments

def IsFaithful (function : Function) : Prop :=
  Line.AllFaithful function.locals function.given function.body

-- Names of the wrapper that do not meet: nothing of its own has a name that it takes from
-- the module, and where arguments are held, nothing that it sets hides what it reads later.
structure IsApart (function : Function) : Prop where
  outside : ∀ name ∈ function.outside, normal name ∉ function.locals
  parameters : (function.arguments.map Field.parameter).Nodup
  kept : function.holds → (function.arguments.map Field.kept).Nodup
  pending : function.holds → "_pending" ∉ function.arguments.map Field.parameter ++ function.arguments.map Field.kept
  order : function.holds → function.arguments.Pairwise (fun one other => one.kept ≠ other.parameter)

end Function

section
variable {label : Field → String} {meaning : Nat → Meaning}

theorem numbered_keys (position : Nat) (fields : List Field) :
    (numbered label meaning position fields).map Prod.fst = fields.map label := by
  induction fields generalizing position with
  | nil => rfl
  | cons field rest ih => rw [numbered,List.map_cons,List.map_cons,ih]

theorem numbered_values (position : Nat) (fields : List Field) :
    (numbered label meaning position fields).map Prod.snd = (List.range' position fields.length).map meaning := by
  induction fields generalizing position with
  | nil => rfl
  | cons field rest ih => rw [numbered,List.map_cons,ih,List.length_cons,List.range'_succ,List.map_cons]

theorem numbered_append (position : Nat) (one two : List Field) : numbered label meaning position (one ++ two) =
    numbered label meaning position one ++ numbered label meaning (position + one.length) two := by
  induction one generalizing position with
  | nil => rfl
  | cons field rest ih =>
    have shift : position + 1 + rest.length = position + (field :: rest).length := by rw [List.length_cons]; omega
    rw [List.cons_append,numbered,ih,numbered,List.cons_append,shift]

theorem numbered_distinct (injective : Function.Injective meaning) (position : Nat) (fields : List Field) :
    ((numbered label meaning position fields).map Prod.snd).Nodup := by
  rw [numbered_values]
  exact (List.nodup_range' ..).map injective

theorem numbered_mem (member : binding ∈ numbered label meaning position fields) :
    binding.1 ∈ fields.map label ∧ ∃ number, binding.2 = meaning number := by
  refine ⟨@numbered_keys label meaning position fields ▸ List.mem_map_of_mem member,?_⟩
  have value : binding.2 ∈ (numbered label meaning position fields).map Prod.snd := List.mem_map_of_mem member
  rw [numbered_values] at value
  obtain ⟨number,_,same⟩ := List.mem_map.mp value
  exact ⟨number,same.symm⟩

end

def bound (earlier all : List Field) : Bindings :=
  (numbered Field.kept .lowered 0 earlier).reverse ++ ("_pending",.pending) :: numbered Field.parameter .given 0 all

theorem bound_pending (earlier all : List Field) :
    (bound earlier all).lookup "_pending" = some .pending ↔ "_pending" ∉ earlier.map Field.kept := by
  have other : ∀ binding ∈ (numbered Field.kept .lowered 0 earlier).reverse, binding.2 ≠ .pending := by
    intro binding member same
    obtain ⟨_,number,value⟩ := numbered_mem (List.mem_reverse.mp member)
    rw [value] at same
    cases same
  rw [bound,Bindings.lookup_past other,List.lookup_cons_self,List.map_reverse,List.mem_reverse,numbered_keys]
  exact and_iff_left rfl

theorem bound_given (earlier all : List Field) : (bound earlier all).lookup name = some (.given position) ↔
    name ∉ "_pending" :: earlier.map Field.kept ∧
      (numbered Field.parameter .given 0 all).lookup name = some (.given position) := by
  have other : ∀ binding ∈ (numbered Field.kept .lowered 0 earlier).reverse ++ [("_pending",.pending)],
      binding.2 ≠ .given position := by
    intro binding member same
    rcases List.mem_append.mp member with sent | own
    · obtain ⟨_,number,value⟩ := numbered_mem (List.mem_reverse.mp sent)
      rw [value] at same
      cases same
    · rw [List.mem_singleton.mp own] at same
      cases same
  rw [bound,List.append_cons,Bindings.lookup_past other,List.map_append,List.map_reverse,numbered_keys,List.mem_append,
    List.mem_reverse,List.mem_cons,or_comm]
  simp

theorem bound_next (earlier all : List Field) (field : Field) :
    (field.kept,.lowered earlier.length) :: bound earlier all = bound (earlier ++ [field]) all := by
  rw [bound,bound,numbered_append,List.reverse_append,Nat.zero_add]
  rfl

theorem kept_next (earlier : List Field) (field other : Field) :
    other.parameter ∉ "_pending" :: (earlier ++ [field]).map Field.kept ↔
      field.kept ≠ other.parameter ∧ other.parameter ∉ "_pending" :: earlier.map Field.kept := by
  rw [List.map_append,List.map_singleton,← List.cons_append,List.mem_append,List.mem_singleton,not_or,and_comm]
  exact and_congr_left (fun _ => ne_comm)

theorem scopeAfter_lowering (earlier rest all : List Field) :
    Line.scopeAfter (bound earlier all) (Function.loweringLines earlier.length rest) = bound (earlier ++ rest) all := by
  induction rest generalizing earlier with
  | nil => rw [List.append_nil]; rfl
  | cons field rest ih =>
    have next := ih (earlier ++ [field])
    rw [List.length_append,List.length_singleton] at next
    rw [Function.loweringLines,Line.scopeAfter,Function.loweringLine,Option.toList_some,List.singleton_append,bound_next,next,
      ← List.append_cons]

section
variable {locals : List String} {scope : Bindings} (inner : scope.IsInner locals)
include inner

theorem outers_mean (names : List String) :
    (∀ read ∈ outers names, scope.Means locals read) ↔ ∀ name ∈ names, normal name ∉ locals := by
  simp only [outers,List.forall_mem_map,inner.outer]

end

section
variable {all : List Field} {locals : List String} (parameters : ∀ field ∈ all, field.parameter ∈ locals)
  (kept : ∀ field ∈ all, field.kept ∈ locals) (pending : "_pending" ∈ locals)
include parameters

theorem parameters_inner : (numbered Field.parameter .given 0 all).IsInner locals := by
  intro binding member
  obtain ⟨label,number,value⟩ := numbered_mem member
  obtain ⟨field,present,same⟩ := List.mem_map.mp label
  exact ⟨same ▸ parameters field present,by rw [value]; exact nofun⟩

include kept pending

theorem bound_inner {earlier : List Field} (part : ∀ field ∈ earlier, field ∈ all) : (bound earlier all).IsInner locals := by
  intro binding member
  rcases List.mem_append.mp member with sent | others
  · obtain ⟨label,number,value⟩ := numbered_mem (List.mem_reverse.mp sent)
    obtain ⟨field,present,same⟩ := List.mem_map.mp label
    exact ⟨same ▸ kept field (part field present),by rw [value]; exact nofun⟩
  · rcases List.mem_cons.mp others with rfl | own
    · exact ⟨pending,nofun⟩
    · exact parameters_inner parameters binding own

variable (free : "_pending" ∉ all.map Field.kept)
include free

-- An argument of the name of the buffers that wait is excluded here.
theorem line_faithful {earlier : List Field} (part : ∀ field ∈ earlier, field ∈ all) (position : Nat) (field : Field) :
    (Function.loweringLine position field).IsFaithful locals (bound earlier all) ↔
      (field.parameter ∉ "_pending" :: earlier.map Field.kept ∧
        (numbered Field.parameter .given 0 all).lookup field.parameter = some (.given position)) ∧
      ∀ name ∈ field.type.lowerNames, normal name ∉ locals := by
  have inner := bound_inner parameters kept pending part
  have waits : (bound earlier all).Means locals ("_pending",.pending) := by
    refine (inner.own (by simp)).mpr ((bound_pending earlier all).mpr ?_)
    exact fun member => free (List.map_subset Field.kept part member)
  have reads : (bound earlier all).Means locals (field.parameter,.given position) ↔ _ :=
    (inner.own (by simp)).trans (bound_given earlier all)
  rw [← reads,← outers_mean inner,← List.forall_mem_cons]
  refine List.forall_mem_append.trans (and_iff_right ?_)
  intro read member
  split at member
  · rw [List.mem_singleton.mp member]
    exact waits
  · cases member

-- The lines that lower arguments read what they are meant to exactly if nothing set before
-- hides a parameter.
theorem lowering_faithful {earlier rest : List Field} (split : all = earlier ++ rest) :
    Line.AllFaithful locals (bound earlier all) (Function.loweringLines earlier.length rest) ↔
      (∀ field ∈ rest, ∀ name ∈ field.type.lowerNames, normal name ∉ locals) ∧
      (∀ binding ∈ numbered Field.parameter .given earlier.length rest,
        (numbered Field.parameter .given 0 all).lookup binding.1 = some binding.2) ∧
      (∀ field ∈ rest, field.parameter ∉ "_pending" :: earlier.map Field.kept) ∧
      rest.Pairwise (fun one other => one.kept ≠ other.parameter) := by
  induction rest generalizing earlier with
  | nil => exact iff_of_true trivial ⟨List.forall_mem_nil _,List.forall_mem_nil _,List.forall_mem_nil _,List.Pairwise.nil⟩
  | cons field rest ih =>
    have part : ∀ other ∈ earlier, other ∈ all := fun other member => split ▸ List.mem_append_left _ member
    have own := line_faithful parameters kept pending free part earlier.length field
    have later := @ih (earlier ++ [field]) (by rw [split,List.append_cons])
    rw [List.length_append,List.length_singleton] at later
    rw [Function.loweringLines,Line.AllFaithful,own]
    change _ ∧ Line.AllFaithful locals ((field.kept,.lowered earlier.length) :: bound earlier all) _ ↔ _
    rw [bound_next,later]
    simp only [kept_next,List.forall_mem_cons,List.pairwise_cons,numbered,forall_and]
    constructor
    · rintro ⟨⟨⟨fresh,found⟩,outside⟩,others,founds,⟨apart,freshes⟩,pairs⟩
      exact ⟨⟨outside,others⟩,⟨found,founds⟩,⟨fresh,freshes⟩,apart,pairs⟩
    · rintro ⟨⟨outside,others⟩,⟨found,founds⟩,⟨fresh,freshes⟩,apart,pairs⟩
      exact ⟨⟨⟨fresh,found⟩,outside⟩,others,founds,⟨apart,freshes⟩,pairs⟩

end

namespace Function
variable {function : Function}

theorem parameter_local (member : field ∈ function.arguments) : field.parameter ∈ function.locals :=
  List.mem_append_left _ (List.mem_append_left _ (List.mem_map_of_mem member))

theorem answer_inner {scope : Bindings} (inner : scope.IsInner function.locals) :
    Bindings.IsInner function.locals (function.answer.toList ++ scope) := by
  intro binding member
  rcases List.mem_append.mp member with own | other
  · obtain ⟨type,returns,rfl⟩ := Option.map_eq_some_iff.mp (Option.mem_toList.mp own)
    refine ⟨?_,nofun⟩
    simp [locals,returns]
  · exact inner binding other

theorem result_faithful {scope : Bindings} (inner : scope.IsInner function.locals) :
    Line.AllFaithful function.locals (function.answer.toList ++ scope) function.resultLines ↔
      ∀ name ∈ function.returns.toList.flatMap TypeRef.liftNames, normal name ∉ function.locals := by
  have inner := answer_inner inner
  cases returns : function.returns with
  | none => simp [resultLines,returns,Line.AllFaithful]
  | some type =>
    have answers : Bindings.Means function.locals (function.answer.toList ++ scope) ("_retval",.answer) := by
      refine (inner.own (by simp)).mpr ?_
      simp [answer,returns]
    simp only [resultLines,returns,Option.toList_some,List.map_singleton,Line.AllFaithful,Line.IsFaithful,and_true,
      List.forall_mem_cons,outers_mean inner,answers,true_and,List.flatMap_cons,List.flatMap_nil,List.append_nil]

theorem outside_faithful : (∀ name ∈ function.outside, normal name ∉ function.locals) ↔
    (function.holds → "_PendingBuffers" ∉ function.locals) ∧ "_lib" ∉ function.locals ∧
      (∀ field ∈ function.arguments, ∀ name ∈ field.type.lowerNames, normal name ∉ function.locals) ∧
      ∀ name ∈ function.returns.toList.flatMap TypeRef.liftNames, normal name ∉ function.locals := by
  have lib : normal "_lib" = "_lib" := by decide
  have buffers : normal "_PendingBuffers" = "_PendingBuffers" := by decide
  have opens : (∀ name ∈ if function.holds then ["_PendingBuffers"] else [], normal name ∉ function.locals) ↔
      (function.holds → "_PendingBuffers" ∉ function.locals) := by
    cases function.holds <;> simp [buffers]
  rw [outside,List.append_assoc,List.cons_append,List.forall_mem_append,List.forall_mem_cons,List.forall_mem_append,opens,
    lib,List.forall_mem_flatMap]

theorem given_found : (∀ binding ∈ function.given, function.given.lookup binding.1 = some binding.2) ↔
    (function.arguments.map Field.parameter).Nodup := by
  have values : (function.given.map Prod.snd).Nodup := numbered_distinct (fun _ _ => Meaning.given.inj) 0 function.arguments
  have found := Bindings.lookups_iff values (.refl _) []
  rwa [List.append_nil,given,numbered_keys] at found

section
variable (direct : function.holds = false)
include direct

theorem call_direct : function.callLine.IsFaithful function.locals function.given ↔
    "_lib" ∉ function.locals ∧ (function.arguments.map Field.parameter).Nodup ∧
      ∀ field ∈ function.arguments, ∀ name ∈ field.type.lowerNames, normal name ∉ function.locals := by
  have inner : function.given.IsInner function.locals := parameters_inner (fun _ => parameter_local)
  have given := (inner.owns (fun binding member => (inner binding member).2)).trans given_found
  have sent : function.sentReads = function.given ++ outers (function.arguments.flatMap (fun field => field.type.lowerNames)) := by
    rw [sentReads,direct,if_neg Bool.false_ne_true]
    rfl
  rw [Line.IsFaithful,callLine,sent,List.forall_mem_cons,List.forall_mem_append,inner.outer,given,outers_mean inner,
    List.forall_mem_flatMap]

theorem direct_faithful : function.IsFaithful ↔ function.IsApart := by
  have inner : function.given.IsInner function.locals := parameters_inner (fun _ => parameter_local)
  have whole : function.IsFaithful ↔ function.callLine.IsFaithful function.locals function.given ∧
      Line.AllFaithful function.locals (function.answer.toList ++ function.given) function.resultLines := by
    rw [IsFaithful,body,direct]
    exact Iff.rfl
  rw [whole,call_direct direct,result_faithful inner]
  constructor
  · rintro ⟨⟨lib,distinct,lowers⟩,lifts⟩
    exact ⟨outside_faithful.mpr ⟨by simp [direct],lib,lowers,lifts⟩,distinct,by simp [direct],by simp [direct],
      by simp [direct]⟩
  · intro apart
    obtain ⟨_,lib,lowers,lifts⟩ := outside_faithful.mp apart.outside
    exact ⟨⟨lib,apart.parameters,lowers⟩,lifts⟩

end

section
variable (held : function.holds)
include held

theorem kept_local (member : field ∈ function.arguments) : field.kept ∈ function.locals := by
  simp only [locals,held,if_true]
  exact List.mem_append_left _ (List.mem_append_right _ (List.mem_cons_of_mem _ (List.mem_map_of_mem member)))

theorem pending_local : "_pending" ∈ function.locals := by
  simp [locals,held]

theorem bound_local : (bound function.arguments function.arguments).IsInner function.locals :=
  bound_inner (fun _ => parameter_local) (fun _ => kept_local held) (pending_local held) (fun _ member => member)

theorem call_held : function.callLine.IsFaithful function.locals (bound function.arguments function.arguments) ↔
    "_lib" ∉ function.locals ∧ (function.arguments.map Field.kept).Nodup := by
  have inner := bound_local held
  have sent : function.sentReads = numbered Field.kept .lowered 0 function.arguments := by rw [sentReads,held,if_pos rfl]
  have values : ((numbered Field.kept .lowered 0 function.arguments).map Prod.snd).Nodup :=
    numbered_distinct (fun _ _ => Meaning.lowered.inj) 0 function.arguments
  have found := Bindings.lookups_iff values (List.reverse_perm _) (("_pending",.pending) :: function.given)
  rw [numbered_keys] at found
  have own : ∀ binding ∈ numbered Field.kept .lowered 0 function.arguments, binding.2 ≠ .outer := by
    intro binding member
    obtain ⟨_,number,value⟩ := numbered_mem member
    rw [value]
    exact nofun
  rw [← found,Line.IsFaithful,callLine,sent]
  exact List.forall_mem_cons.trans (and_congr inner.outer (inner.owns own))

theorem transfer_held : Line.IsFaithful function.locals (function.answer.toList ++ bound function.arguments function.arguments)
    transferLine ↔ "_pending" ∉ function.arguments.map Field.kept := by
  have other : ∀ binding ∈ function.answer.toList, binding.2 ≠ .pending := by
    intro binding member
    obtain ⟨_,_,rfl⟩ := Option.map_eq_some_iff.mp (Option.mem_toList.mp member)
    exact nofun
  have apart : "_pending" ∉ function.answer.toList.map Prod.fst := by
    rw [answer]
    cases function.returns <;> simp
  refine List.forall_mem_singleton.trans ?_
  rw [(answer_inner (bound_local held)).own (by simp),Bindings.lookup_past other,bound_pending]
  exact and_iff_right apart

theorem body_held : function.IsFaithful ↔ "_PendingBuffers" ∉ function.locals ∧
    Line.AllFaithful function.locals (bound [] function.arguments) (loweringLines 0 function.arguments) ∧
    ("_lib" ∉ function.locals ∧ (function.arguments.map Field.kept).Nodup) ∧
    "_pending" ∉ function.arguments.map Field.kept ∧
    ∀ name ∈ function.returns.toList.flatMap TypeRef.liftNames, normal name ∉ function.locals := by
  have first : function.given.IsInner function.locals := parameters_inner (fun _ => parameter_local)
  have opens : Line.IsFaithful function.locals function.given openingLine ↔ "_PendingBuffers" ∉ function.locals :=
    List.forall_mem_singleton.trans first.outer
  have lowered := scopeAfter_lowering [] function.arguments function.arguments
  rw [List.length_nil,List.nil_append] at lowered
  rw [IsFaithful,body,held,if_pos rfl]
  simp only [List.cons_append,List.append_assoc,List.nil_append,Line.AllFaithful]
  change _ ∧ Line.AllFaithful _ (bound [] function.arguments) _ ↔ _
  rw [opens,Line.allFaithful_append,lowered,Line.AllFaithful,Line.AllFaithful,call_held held]
  change _ ∧ _ ∧ _ ∧ Line.IsFaithful _ (function.answer.toList ++ _) _ ∧
    Line.AllFaithful _ (function.answer.toList ++ _) _ ↔ _
  rw [transfer_held held,result_faithful (bound_local held)]

theorem held_faithful : function.IsFaithful ↔ function.IsApart := by
  have own : (∀ field ∈ function.arguments, field.parameter ∉ ["_pending"]) ↔
      "_pending" ∉ function.arguments.map Field.parameter := by
    simp [eq_comm]
  have lowering (free : "_pending" ∉ function.arguments.map Field.kept) := lowering_faithful
    (fun _ => parameter_local) (fun _ => kept_local held) (pending_local held) free (List.nil_append function.arguments).symm
  rw [body_held held]
  constructor
  · rintro ⟨buffers,lowers,⟨lib,distinct⟩,free,lifts⟩
    obtain ⟨lowers,founds,fresh,order⟩ := (lowering free).mp lowers
    exact ⟨outside_faithful.mpr ⟨fun _ => buffers,lib,lowers,lifts⟩,given_found.mp founds,fun _ => distinct,
      fun _ => List.not_mem_append (own.mp fresh) free,fun _ => order⟩
  · intro apart
    obtain ⟨buffers,lib,lowers,lifts⟩ := outside_faithful.mp apart.outside
    obtain ⟨fresh,free⟩ := not_or.mp (mt List.mem_append.mpr (apart.pending held))
    exact ⟨buffers held,(lowering free).mpr
      ⟨lowers,given_found.mpr apart.parameters,own.mpr fresh,apart.order held⟩,⟨lib,apart.kept held⟩,free,lifts⟩

end

theorem faithful_iff (function : Function) : function.IsFaithful ↔ function.IsApart := by
  cases held : function.holds with
  | true => exact held_faithful held
  | false => exact direct_faithful held

end Function

end NativeBinding
