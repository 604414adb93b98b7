import NativeBinding.Proofs.Definition.WellFormed
import NativeBinding.Proofs.Text.Pieces

namespace NativeBinding.Definition
open Text

section
variable {separator : Char} {piece rest : List Char} (whole : separator ∉ piece)
include whole

theorem uncut : ∀ c ∈ piece, (c == separator) = false :=
  fun _ member => beq_eq_false_iff_ne.mpr (fun same => whole (same ▸ member))

theorem parts_last : parts separator piece = [trim piece].filter (fun part => !part.isEmpty) := by
  rw [parts,pieces_whole (uncut whole)]
  rfl

theorem parts_next : parts separator (piece ++ separator :: rest) =
    [trim piece].filter (fun part => !part.isEmpty) ++ parts separator rest := by
  rw [parts,pieces_cut (uncut whole) (beq_self_eq_true separator),List.map_cons,← List.singleton_append,
    List.filter_append]
  rfl

end

structure Part (separator : Char) (text : List Char) : Prop where
  tight : Tight text
  whole : separator ∉ text

theorem Part.kept {text : List Char} (part : Part separator text) : [text].filter (fun part => !part.isEmpty) = [text] := by
  simp [part.tight.some]

theorem blank_free {blanks : List Char} (blank : ∀ c ∈ blanks, isBlank c) (shown : isBlank separator = false) :
    separator ∉ blanks := by
  intro member
  rw [blank separator member] at shown
  cases shown

variable {separator : Char} {texts : List (List Char)}

-- Parts are found again, whatever blanks stand around and between them.
theorem parts_listed (parted : ∀ text ∈ texts, Part separator text) (shown : isBlank separator = false)
    {before after : List Char} (front : ∀ c ∈ before, isBlank c) (back : ∀ c ∈ after, isBlank c) :
    parts separator (before ++ [separator,' '].intercalate texts ++ after) = texts := by
  have inside {blanks : List Char} (blank : ∀ c ∈ blanks, isBlank c) : separator ∉ blanks := blank_free blank shown
  induction texts generalizing before with
  | nil =>
    have blank : ∀ c ∈ before ++ after, isBlank c := by
      intro c member
      exact (List.mem_append.mp member).elim (front c) (back c)
    rw [List.intercalate_nil,List.append_nil,parts_last (inside blank),trim_blanks blank]
    rfl
  | cons text rest ih =>
    obtain ⟨one,others⟩ := List.forall_mem_cons.mp parted
    cases rest with
    | nil =>
      have free : separator ∉ before ++ text ++ after := by simp [inside front,one.whole,inside back]
      rw [List.intercalate_singleton,parts_last free,trim_padded one.tight front back,one.kept]
    | cons next rest =>
      have free : separator ∉ before ++ text := by simp [inside front,one.whole]
      have split : before ++ [separator,' '].intercalate (text :: next :: rest) ++ after =
          before ++ text ++ separator :: ([' '] ++ [separator,' '].intercalate (next :: rest) ++ after) := by
        simp [List.intercalate_cons_cons]
      rw [split,parts_next free,trim_front one.tight front,one.kept,ih others (by simp; decide)]
      rfl

theorem parts_ended (parted : ∀ text ∈ texts, Part separator text) (shown : isBlank separator = false)
    {before : List Char} (front : ∀ c ∈ before, isBlank c) :
    parts separator (before ++ texts.flatMap (fun text => text ++ [separator,' '])) = texts := by
  induction texts generalizing before with
  | nil =>
    rw [List.flatMap_nil,List.append_nil,parts_last (blank_free front shown),trim_blanks front]
    rfl
  | cons text rest ih =>
    obtain ⟨one,others⟩ := List.forall_mem_cons.mp parted
    have free : separator ∉ before ++ text := by simp [blank_free front shown,one.whole]
    have split : before ++ (text :: rest).flatMap (fun text => text ++ [separator,' ']) =
        before ++ text ++ separator :: ([' '] ++ rest.flatMap (fun text => text ++ [separator,' '])) := by simp
    rw [split,parts_next free,trim_front one.tight front,one.kept,ih others (by simp; decide)]
    rfl

structure Kinds.Sound (kinds : Kinds) : Prop where
  word : ∀ name which, kinds.Has name which → IsWordText name.toList
  apart : ∀ name which, kinds.Has name which → plainWords.lookup name = none

theorem keyword_word (which : Plain) : IsWordText which.keyword.toList := by
  cases which <;> exact ⟨by decide,List.all_eq_true.mp (by decide)⟩

theorem keyword_plain (which : Plain) : plainWords.lookup which.keyword = some which := by
  cases which <;> decide

section
variable {kinds : Kinds} (sound : kinds.Sound) {type : TypeRef} (bare : type.IsBare)
  (declared : type.IsDeclared kinds.Has)
include sound bare declared

theorem written_layers : ∃ base core count, type.written = base ++ List.replicate count '?' ∧ IsWordText base ∧
    baseType kinds (String.ofList base) = some core ∧ layers count core = type := by
  induction type with
  | plain which label aside =>
    obtain ⟨rfl,rfl⟩ := bare
    refine ⟨which.keyword.toList,.ofPlain which,0,(List.append_nil _).symm,keyword_word which,?_,rfl⟩
    rw [String.ofList_toList,baseType,keyword_plain]
  | named which name aside =>
    subst bare
    refine ⟨name.toList,.named which name none,0,(List.append_nil _).symm,sound.word name which declared,?_,rfl⟩
    rw [String.ofList_toList,baseType,sound.apart name which declared]
    exact Option.map_eq_some_iff.mpr ⟨which,declared,rfl⟩
  | optional below label ih =>
    obtain ⟨rfl,bare⟩ := bare
    obtain ⟨base,core,count,written,word,known,same⟩ := ih bare declared
    refine ⟨base,core,count + 1,?_,word,known,?_⟩
    · rw [TypeRef.written,written,List.append_assoc,← List.replicate_succ']
    · rw [layers,same]
      rfl

theorem written_solid : Solid type.written := by
  obtain ⟨base,core,count,written,word,_⟩ := written_layers sound bare declared
  rw [written]
  refine word.solid.append ?_
  intro c member
  rw [List.eq_of_mem_replicate member]
  decide

theorem typeOf_written : typeOf kinds type.written = .ok type := by
  obtain ⟨base,core,count,written,word,known,same⟩ := written_layers sound bare declared
  have stops : ∀ c ∈ (List.replicate count '?').head?, isWord c = false := by
    intro c first
    rw [List.eq_of_mem_replicate (List.mem_of_mem_head? first)]
    decide
  have marks : (List.replicate count '?').all (fun c => c == '?') := by simp
  have some : base.isEmpty = false := by simpa using word.some
  simp only [typeOf,written,takeWhile_stops word.all stops,dropWhile_stops word.all stops,some,marks,known,
    List.length_replicate,same]
  rfl

end

section
variable {kinds : Kinds} (sound : kinds.Sound)
include sound

section
variable {field : Field} (identifier : isIdentifier field.name.toList) (bare : field.type.IsBare)
  (declared : field.type.IsDeclared kinds.Has)
include identifier bare declared

theorem fieldOf_written : fieldOf kinds field.written = .ok field := by
  have found : tokens field.written = [field.type.written,field.name.toList] :=
    tokens_pair (written_solid sound bare declared) (isIdentifier_solid identifier) (by decide)
  simp only [fieldOf,found,identifier,typeOf_written sound bare declared,String.ofList_toList]
  rfl

theorem field_part (glue : isGlue separator) (shown : isBlank separator = false) : Part separator field.written := by
  have type := written_solid sound bare declared
  have name := isIdentifier_solid identifier
  refine ⟨?_,?_⟩
  · have tight := type.tight.append name.tight [' ']
    rwa [List.append_assoc] at tight
  · have other : separator ≠ ' ' := by
      rintro rfl
      cases shown
    simp [Field.written,type.not_mem glue,name.not_mem glue,other]

end

variable {fields : List Field} (named : WellNamed fields)
  (types : ∀ field ∈ fields, field.type.IsBare ∧ field.type.IsDeclared kinds.Has)
include named types

theorem fieldsOf_written (taken : String → Complaint) :
    fieldsOf kinds taken [] (fields.map Field.written) = .ok fields := by
  have general : ∀ found, ((found ++ fields).map Field.name).Nodup →
      fieldsOf kinds taken found (fields.map Field.written) = .ok (found ++ fields) := by
    have identifiers := named.2
    clear named
    induction fields with
    | nil =>
      intro found _
      rw [List.append_nil]
      rfl
    | cons field rest ih =>
      obtain ⟨identifier,identifiers⟩ := List.forall_mem_cons.mp identifiers
      obtain ⟨⟨bare,declared⟩,types⟩ := List.forall_mem_cons.mp types
      intro found distinct
      have fresh : found.any (fun other => other.name == field.name) = false := by
        rw [List.map_append] at distinct
        obtain ⟨_,_,apart⟩ := List.nodup_append.mp distinct
        refine List.any_eq_false.mpr (fun other member same => ?_)
        exact apart other.name (List.mem_map_of_mem member) field.name List.mem_cons_self (by simpa using same)
      rw [List.append_cons] at distinct ⊢
      simp only [List.map_cons,fieldsOf,fieldOf_written sound identifier bare declared]
      change (if found.any (fun other => other.name == field.name) then _ else _) = _
      rw [fresh]
      exact ih types identifiers (found ++ [field]) distinct
  exact general [] named.1

theorem fields_parts (glue : isGlue separator) (shown : isBlank separator = false) :
    ∀ text ∈ fields.map Field.written, Part separator text := by
  intro text member
  obtain ⟨field,present,rfl⟩ := List.mem_map.mp member
  exact field_part sound (named.2 field present) (types field present).1 (types field present).2 glue shown

end

theorem checkValues_ok {values : List String} (distinct : values.Nodup) (rest : List String)
    (identifiers : ∀ value ∈ rest, isIdentifier value.toList) : checkValues name values rest = .ok () := by
  induction rest with
  | nil => rfl
  | cons value rest ih =>
    obtain ⟨identifier,identifiers⟩ := List.forall_mem_cons.mp identifiers
    have once : ¬ values.count value > 1 := Nat.not_lt.mpr (List.nodup_iff_count_le_one.mp distinct value)
    simp only [checkValues,identifier,Bool.not_true,Bool.false_eq_true,if_false,if_neg once]
    exact ih identifiers

def Item.WellFormed (kinds : Kinds) : Item → Prop
  | .enumeration found => found.values ≠ [] ∧ found.values.Nodup ∧ ∀ value ∈ found.values, isIdentifier value.toList
  | .record found => WellNamed found.fields ∧ ∀ field ∈ found.fields, field.type.IsBare ∧ field.type.IsDeclared kinds.Has
  | .object _ => True

section
variable {kinds : Kinds} (sound : kinds.Sound)
include sound

theorem itemOf_written {item : Item} (formed : item.WellFormed kinds) : itemOf kinds item.block = .ok item := by
  cases item with
  | enumeration found =>
    obtain ⟨some,distinct,identifiers⟩ := formed
    have parted : ∀ text ∈ found.values.map String.toList, Part ',' text := by
      intro text member
      obtain ⟨value,present,rfl⟩ := List.mem_map.mp member
      have solid := isIdentifier_solid (identifiers value present)
      exact ⟨solid.tight,solid.not_mem (by decide)⟩
    have body := parts_listed parted (by decide) blank_spaces blank_spaces
    have values : (found.values.map String.toList).map String.ofList = found.values := by simp
    have shown : found.values.isEmpty = false := by simpa using some
    have checked : checkValues found.name found.values found.values = .ok () :=
      checkValues_ok distinct found.values identifiers
    have read : enumerationOf found.name (' ' :: listed (found.values.map String.toList) ++ [' ']) = .ok found := by
      simp only [List.singleton_append] at body
      simp only [enumerationOf,listed,body,values,shown,checked,Bool.false_eq_true,if_false]
      rfl
    simp only [itemOf,Item.block,String.ofList_toList,read]
    rfl
  | record found =>
    have parted := fields_parts sound formed.1 formed.2 (by decide : isGlue ';') (by decide)
    have body := parts_ended parted (by decide) blank_spaces
    rw [List.flatMap_map] at body
    have fields := fieldsOf_written sound formed.1 formed.2 (fun field => .duplicateField field found.name)
    have read : recordOf kinds found.name (' ' :: found.fields.flatMap (fun field => field.written ++ [';',' '])) =
        .ok found := by
      rw [List.singleton_append] at body
      rw [recordOf,body,fields]
      rfl
    simp only [itemOf,Item.block,String.ofList_toList,read]
    rfl
  | object name =>
    simp only [itemOf,Item.block,String.ofList_toList]

theorem functionOf_written {function : Function} (named : WellNamed function.arguments)
    (types : ∀ type ∈ function.arguments.map Field.type ++ function.returns.toList,
      type.IsBare ∧ type.IsDeclared kinds.Has) :
    functionOf kinds function.name (signatureOf function).parameters (signatureOf function).returns = .ok function := by
  have given : ∀ field ∈ function.arguments, field.type.IsBare ∧ field.type.IsDeclared kinds.Has :=
    fun field member => types field.type (List.mem_append_left _ (List.mem_map_of_mem member))
  have parted := fields_parts sound named given (by decide : isGlue ',') (by decide)
  have parameters : parts ',' (listed (function.arguments.map Field.written)) = function.arguments.map Field.written := by
    have found := parts_listed parted (by decide) (List.forall_mem_nil (fun c => isBlank c))
      (List.forall_mem_nil (fun c => isBlank c))
    rwa [List.nil_append,List.append_nil] at found
  have read := fieldsOf_written sound named given (fun argument => .duplicateArgument argument function.name)
  cases function with
  | mk name arguments returns =>
    simp only [functionOf,signatureOf,parameters,read]
    cases returns with
    | none => rfl
    | some type =>
      obtain ⟨bare,declared⟩ := types type (List.mem_append_right _ (List.mem_singleton_self type))
      have result := typeOf_written sound bare declared
      simp only [Option.map_some]
      change (typeOf kinds type.written >>= _) = _
      rw [result]
      rfl

end
end NativeBinding.Definition
