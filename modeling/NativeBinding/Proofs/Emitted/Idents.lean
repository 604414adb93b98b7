import NativeBinding.Definition.Scan
import NativeBinding.Proofs.Definition.WellFormed
import NativeBinding.Proofs.Emitted.Accepted
import NativeBinding.Proofs.Emitted.Spine

namespace NativeBinding

theorem Kind.mem_all (kind : Kind) : kind ∈ Kind.all := List.mem_of_find?_eq_some (Kind.ofWord?_word kind)

namespace TypeRef

variable {type layer : TypeRef}

section
variable (member : layer ∈ type.spine)
include member

theorem spine_bare (bare : type.IsBare) : layer.IsBare := spine_keeps member (fun _ _ bare => bare.2) bare

theorem spine_declared {kinds : String → Named → Prop} (declared : type.IsDeclared kinds) : layer.IsDeclared kinds :=
  spine_keeps member (fun _ _ declared => declared) declared

end

def identStart : Kind → List Char
  | .plain .boolean => ['b','o']
  | .plain .u32 => ['u','3']
  | .plain .u64 => ['u','6']
  | .plain .float => ['f','l']
  | .plain .double => ['d','o']
  | .plain .string => ['s','t']
  | .plain .bytes => ['b','y']
  | .named .enumeration => ['e','n']
  | .named .record => ['r','e']
  | .named .object => []
  | .optional => ['o','p']

theorem identStart_injective : Function.Injective identStart := by
  have apart : ∀ one ∈ Kind.all, ∀ other ∈ Kind.all, identStart one = identStart other → one = other := by decide
  intro one other same
  exact apart one one.mem_all other other.mem_all same

theorem ident_start {ident : String} (done : type.ident = .ok ident) : ident.toList.take 2 = identStart type.kind := by
  cases type with
  | plain which => cases which <;> cases done <;> rfl
  | named which name =>
    cases which with
    | enumeration => cases done; simp [identStart,kind]
    | record => cases done; simp [identStart,kind]
    | object => cases done
  | optional inner label =>
    obtain ⟨rest,_,done⟩ := result_ok_parts done
    cases done
    simp [identStart,kind]

theorem append_cancel {start one other : String} (same : start ++ one = start ++ other) : one = other := by
  have same := congrArg String.toList same
  simp only [String.toList_append,List.append_cancel_left_eq] at same
  exact String.toList_inj.mp same

def bare : TypeRef → TypeRef
  | .plain which _ _ => .ofPlain which
  | .named which name _ => .named which name none
  | .optional inner _ => .optionalOf inner.bare

theorem bare_self (plain : type.IsBare) : type.bare = type := by
  induction type with
  | plain =>
    obtain ⟨rfl,rfl⟩ := plain
    rfl
  | named =>
    cases plain
    rfl
  | optional inner label ih =>
    obtain ⟨rfl,below⟩ := plain
    exact congrArg optionalOf (ih below)

section
variable {one other : TypeRef} {ident : String} (first : one.ident = .ok ident) (second : other.ident = .ok ident)
include first second

-- Types share an ident only if they are the same but for superfluous parts.
theorem ident_same : one.bare = other.bare := by
  have kinds : one.kind = other.kind := identStart_injective ((ident_start first).symm.trans (ident_start second))
  induction one generalizing other ident with
  | plain =>
    cases other <;> cases kinds
    rfl
  | named which name =>
    cases other <;> cases kinds
    cases which with
    | object => cases first
    | _ =>
      cases first
      have same := append_cancel (Except.ok.inj second).symm
      rw [bare,bare,same]
  | optional inner label ih =>
    cases other <;> cases kinds
    obtain ⟨rest,known,first⟩ := result_ok_parts first
    obtain ⟨last,shown,second⟩ := result_ok_parts second
    cases first
    have same := append_cancel (Except.ok.inj second).symm
    subst same
    have kinds := identStart_injective ((ident_start known).symm.trans (ident_start shown))
    exact congrArg optionalOf (ih known shown kinds)

theorem ident_injective (bare : one.IsBare) (plain : other.IsBare) : one = other := by
  rw [← bare_self bare,← bare_self plain]
  exact ident_same first second

end

theorem bare_ident {ident : String} (done : type.ident = .ok ident) : type.bare.ident = .ok ident := by
  induction type generalizing ident with
  | plain which => cases which <;> exact done
  | named which =>
    cases which with
    | object => cases done
    | _ => exact done
  | optional inner label ih =>
    obtain ⟨rest,known,done⟩ := result_ok_parts done
    exact (result_ok (ih known)).trans done

theorem ident_iff {one other : TypeRef} {mine yours : String} (first : one.ident = .ok mine) (second : other.ident = .ok yours) :
    mine = yours ↔ one.bare = other.bare := by
  constructor
  · rintro rfl
    exact ident_same first second
  · intro same
    refine Except.ok.inj ((bare_ident first).symm.trans ?_)
    rw [same]
    exact bare_ident second

theorem bare_text (type : TypeRef) : type.bare.text = type.text := by
  induction type with
  | plain => rfl
  | named => rfl
  | optional inner label ih => rw [bare,optionalOf,text,text,ih]

theorem text_start (type : TypeRef) : type.text.toList.take 2 = type.kind.word.toList.take 2 := by
  cases type with
  | plain => rfl
  | named which => cases which <;> simp [text,kind,Kind.word,Named.word]
  | optional => simp [text,kind,Kind.word]

theorem text_kind {one other : TypeRef} (same : one.text = other.text) : one.kind = other.kind := by
  have apart : ∀ one ∈ Kind.all, ∀ other ∈ Kind.all, one.word.toList.take 2 = other.word.toList.take 2 → one = other := by
    decide
  refine apart _ one.kind.mem_all _ other.kind.mem_all ?_
  rw [← text_start,← text_start,same]

theorem append_cancel_end {one other ending : String} (same : one ++ ending = other ++ ending) : one = other := by
  have same := congrArg String.toList same
  simp only [String.toList_append,List.append_cancel_right_eq] at same
  exact String.toList_inj.mp same

theorem text_same {one other : TypeRef} (same : one.text = other.text) : one.bare = other.bare := by
  have kinds := text_kind same
  induction one generalizing other with
  | plain =>
    cases other <;> cases kinds
    rfl
  | named which name =>
    cases other <;> cases kinds
    rw [bare,bare,append_cancel (append_cancel_end same)]
  | optional inner label ih =>
    cases other <;> cases kinds
    have same := append_cancel (append_cancel_end same)
    exact congrArg optionalOf (ih same (text_kind same))

theorem text_iff {one other : TypeRef} : one.text = other.text ↔ one.bare = other.bare := by
  refine ⟨text_same,fun same => ?_⟩
  rw [← bare_text one,same,bare_text]

theorem helpers_parts {made : OptionalHelpers} (done : (TypeRef.optional below label).helpers = .ok (some made)) :
    (TypeRef.optional below label).ident = .ok made.ident ∧
    below.sizing (payload (.source "value") below) = .ok made.size ∧
    below.writing (payload (.source "value") below) (.source "buf") = .ok made.write ∧
    ∃ read, below.reading (.source "buf") = .ok read ∧ made.read = wrapRead below read := by
  obtain ⟨ident,known,done⟩ := result_ok_parts done
  obtain ⟨read,taken,done⟩ := result_ok_parts done
  obtain ⟨size,sized,done⟩ := result_ok_parts done
  obtain ⟨write,written,done⟩ := result_ok_parts done
  cases done
  exact ⟨known,sized,written,read,taken,rfl⟩

theorem helpers_ident {made : OptionalHelpers} (done : type.helpers = .ok (some made)) : type.ident = .ok made.ident := by
  cases type with
  | optional => exact (helpers_parts done).1
  | _ => cases done

theorem helpers_made {types : List TypeRef} {options : List (Option OptionalHelpers)}
    (all : List.Forall₂ (fun type option => type.helpers = .ok option) types options) (each : ∀ type ∈ types, type.isOptional) :
    List.Forall₂ (fun type made => type.helpers = .ok (some made)) types (options.filterMap id) := by
  induction all with
  | nil => exact .nil
  | @cons type option _ _ one _ ih =>
    obtain ⟨first,others⟩ := List.forall_mem_cons.mp each
    cases option with
    | some made => exact .cons one (ih others)
    | none =>
      cases type with
      | optional below label =>
        obtain ⟨_,_,one⟩ := result_ok_parts one
        obtain ⟨_,_,one⟩ := result_ok_parts one
        obtain ⟨_,_,one⟩ := result_ok_parts one
        obtain ⟨_,_,one⟩ := result_ok_parts one
        cases one
      | _ => cases first

end TypeRef

namespace Model
variable {model : Model}

theorem collectResults_made {f : α → Supported β} {items : List α} (each : ∀ item ∈ items, ∃ value, f item = .ok value) :
    List.Forall₂ (fun item value => f item = .ok value) items (collectResults (items.map f)).2 := by
  induction items with
  | nil => exact .nil
  | cons item rest ih =>
    obtain ⟨⟨value,done⟩,others⟩ := List.forall_mem_cons.mp each
    rw [List.map_cons,done]
    exact .cons done (ih others)

section
variable (fine : ∀ type ∈ model.typeRefs, ¬ type.core.isObject)
include fine

theorem records_made : List.Forall₂ (fun record cls => record.emitted = .ok cls) model.records model.recordClasses.2 := by
  refine collectResults_made ?_
  intro record member
  refine (Supported.follows_ok_iff record.emitted_follows).mpr (firstOffence?_none.mpr ?_)
  intro type own
  exact fine type (List.mem_append_left _ (List.mem_flatMap.mpr ⟨record,member,own⟩))

theorem functions_made : List.Forall₂ (fun function wrapper => model.wrapper function = .ok wrapper) model.functions
    model.wrappers.2 := by
  refine collectResults_made ?_
  intro function member
  refine (Supported.follows_ok_iff (model.wrapper_follows function)).mpr (signatureOffence?_none.mpr ?_)
  intro type own
  exact fine type (List.mem_append_right _ (List.mem_flatMap.mpr ⟨function,member,own⟩))

theorem boundaryTypes_all : model.boundaryTypes = model.typeRefs := by
  refine congrArg₂ (· ++ ·) (List.flatMap_congr ?_) (List.flatMap_congr ?_)
  · intro record member
    obtain ⟨cls,_,done⟩ := forall₂_right (records_made fine) member
    rw [done]
    rfl
  · intro function member
    obtain ⟨wrapper,_,done⟩ := forall₂_right (functions_made fine) member
    rw [done]
    rfl

theorem optionalTypes_mem : layer ∈ model.optionalTypes ↔ ∃ type ∈ model.typeRefs, layer ∈ type.spine := by
  rw [optionalTypes,TypeRef.collectOptionals_mem,boundaryTypes_all fine]

end

theorem optionalHelpers_made (done : model.optionalHelpers = .ok helpers) :
    List.Forall₂ (fun type made => type.helpers = .ok (some made)) model.optionalTypes helpers := by
  obtain ⟨options,all,done⟩ := result_ok_parts done
  cases done
  refine TypeRef.helpers_made (mapM_ok_parts all) ?_
  intro type member
  obtain ⟨_,_,own⟩ := TypeRef.collectOptionals_mem.mp member
  exact TypeRef.spine_optional own

end Model
end NativeBinding
