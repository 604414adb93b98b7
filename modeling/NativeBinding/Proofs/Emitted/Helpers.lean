import NativeBinding.Emitted.Names
import NativeBinding.Proofs.Emitted.Idents

namespace NativeBinding
open Text

def helperStarts : List String := ["_size_","_write_","_read_"]

def helperNames (ident : String) : List String := helperStarts.map (fun start => start ++ ident)

theorem OptionalHelpers.defined_starts (helpers : OptionalHelpers) : helpers.defined = helperNames helpers.ident := rfl

theorem helperName_injective {start other : String} (first : start ∈ helperStarts) (second : other ∈ helperStarts)
    (same : start ++ one = other ++ two) : start = other ∧ one = two := by
  have equal : start = other := by
    have letters := congrArg (fun name => name.toList.take 2) same
    simp only [helperStarts,List.mem_cons,List.not_mem_nil,or_false] at first second
    rcases first with rfl | rfl | rfl <;> rcases second with rfl | rfl | rfl <;> first | rfl | simp at letters
  subst equal
  exact ⟨rfl,TypeRef.append_cancel same⟩

theorem helperNames_nodup (ident : String) : (helperNames ident).Nodup := by
  refine List.Nodup.map_on ?_ (by decide)
  intro one first other second same
  exact (helperName_injective first second same).1

theorem helperNames_disjoint : (helperNames one).Disjoint (helperNames two) ↔ one ≠ two := by
  constructor
  · rintro apart rfl
    exact apart List.mem_cons_self List.mem_cons_self
  · intro apart name first second
    obtain ⟨_,known,rfl⟩ := List.mem_map.mp first
    obtain ⟨_,shown,same⟩ := List.mem_map.mp second
    exact apart (helperName_injective shown known same).2.symm

section
variable {helpers : List OptionalHelpers} {start : String} (known : start ∈ helperStarts)
include known

theorem defined_mem : start ++ ident ∈ helpers.flatMap OptionalHelpers.defined ↔ ident ∈ helpers.map OptionalHelpers.ident := by
  simp only [List.mem_flatMap,OptionalHelpers.defined_starts,helperNames,List.mem_map]
  constructor
  · rintro ⟨made,member,other,present,same⟩
    exact ⟨made,member,(helperName_injective present known same).2⟩
  · rintro ⟨made,member,rfl⟩
    exact ⟨made,member,start,known,rfl⟩

end

theorem defined_nodup {helpers : List OptionalHelpers} (distinct : (helpers.map OptionalHelpers.ident).Nodup) :
    (helpers.flatMap OptionalHelpers.defined).Nodup := by
  rw [List.Nodup,List.pairwise_map] at distinct
  refine List.nodup_flatMap.mpr ⟨?_,distinct.imp ?_⟩
  · exact fun made _ => helperNames_nodup made.ident
  · exact fun apart => helperNames_disjoint.mpr apart

theorem defined_count {helpers : List OptionalHelpers} (distinct : (helpers.map OptionalHelpers.ident).Nodup) {start : String}
    (known : start ∈ helperStarts) : (helpers.flatMap OptionalHelpers.defined).count (start ++ ident) =
      if ident ∈ helpers.map OptionalHelpers.ident then 1 else 0 := by
  split
  · rename_i member
    exact List.count_eq_one_of_mem (defined_nodup distinct) ((defined_mem known).mpr member)
  · rename_i missing
    exact List.count_eq_zero_of_not_mem (fun member => missing ((defined_mem known).mp member))

theorem helperName_unknown {start : String} (sort : start ∈ helperStarts) (letters : ident.toList.take 2 = ['o','p']) :
    start ++ ident ∉ "buf" :: importedNames ++ supportNames := by
  have apart : ∀ start ∈ helperStarts, ∀ name ∈ "buf" :: importedNames ++ supportNames,
      name.toList.take (start.toList.length + 2) ≠ start.toList ++ ['o','p'] := by decide
  intro member
  refine apart start sort _ member ?_
  rw [String.toList_append,List.take_length_add_append,letters]

theorem TypeRef.optional_letters {layer : TypeRef} {ident : String} (optional : layer.isOptional)
    (own : layer.ident = .ok ident) : ident.toList.take 2 = ['o','p'] := by
  cases layer with
  | optional => exact ident_start own
  | _ => cases optional

namespace TypeRef
variable {type : TypeRef} {ident : String}

-- What is defined for an optional type, and everything that it is sized, written and read
-- with, goes by its ident.
structure Helped (type : TypeRef) (ident : String) : Prop where
  defined : ∃ made, type.helpers = .ok (some made) ∧ made.defined = helperNames ident
  sizing : ∀ value, type.sizing value = .ok (.apply ("_size_" ++ ident) [value])
  writing : ∀ value buffer, type.writing value buffer = .ok (.apply ("_write_" ++ ident) [value,buffer])
  reading : ∀ buffer, type.reading buffer = .ok (.apply ("_read_" ++ ident) [buffer])
  sizeEntry : type.sizeEntry = .ok (.source ("_size_" ++ ident))
  writeEntry : type.writeEntry = .ok (.source ("_write_" ++ ident))
  readEntry : type.readEntry = .ok (.source ("_read_" ++ ident))

theorem ident_helped (whole : type.isOptional) (fine : ¬ type.core.isObject) (own : type.ident = .ok ident) :
    type.Helped ident := by
  cases type with
  | plain => cases whole
  | named => cases whole
  | optional below label =>
    obtain ⟨option,done⟩ := helpers_follows (if_neg fine)
    obtain ⟨made,_,shown⟩ := forall₂_right (helpers_made (.cons done .nil) (List.forall_mem_singleton.mpr whole)) List.mem_cons_self
    have same : made.ident = ident := Except.ok.inj ((helpers_ident shown).symm.trans own)
    have defined : made.defined = helperNames ident := same ▸ made.defined_starts
    exact ⟨⟨made,shown,defined⟩,fun _ => result_ok own,fun _ _ => result_ok own,fun _ => result_ok own,result_ok own,
      result_ok own,result_ok own⟩

-- Idents tell types apart as well as their readable forms do, whatever the names in them
-- are. So optional types have helpers in common only if they are the same type, and no
-- helper of theirs goes by a name that every module has.
theorem ident_tells_types (one other : TypeRef) (fine : ¬ one.core.isObject) (sound : ¬ other.core.isObject) :
    ∃ mine yours, one.ident = .ok mine ∧ other.ident = .ok yours ∧
      (mine = yours ↔ one.bare = other.bare) ∧ (mine = yours ↔ one.text = other.text) ∧
      (one.isOptional → one.Helped mine ∧ (helperNames mine).Disjoint (importedNames ++ supportNames) ∧
        (other.isOptional → other.Helped yours ∧ ((helperNames mine).Disjoint (helperNames yours) ↔ one.bare ≠ other.bare))) := by
  obtain ⟨mine,first⟩ := (Supported.follows_ok_iff (ident_follows one)).mpr (if_neg fine)
  obtain ⟨yours,second⟩ := (Supported.follows_ok_iff (ident_follows other)).mpr (if_neg sound)
  have same := ident_iff first second
  refine ⟨mine,yours,first,second,same,same.trans text_iff.symm,fun whole => ⟨ident_helped whole fine first,?_,?_⟩⟩
  · intro name own shared
    obtain ⟨start,sort,rfl⟩ := List.mem_map.mp own
    exact helperName_unknown sort (optional_letters whole first) (List.mem_cons_of_mem _ shared)
  · intro entire
    exact ⟨ident_helped entire sound second,helperNames_disjoint.trans (not_congr same)⟩

theorem ident_tells_types_lookalike :
    let named : TypeRef := .optional (.named .enumeration "u32" (some (.ofPlain .u32))) (some "u32")
    let plain : TypeRef := .optionalOf (.ofPlain .u32)
    ¬ named.core.isObject ∧ ¬ plain.core.isObject ∧ named.ident = .ok "optional_enum_u32" ∧ plain.ident = .ok "optional_u32" ∧
      named.text ≠ plain.text ∧ named.Helped "optional_enum_u32" ∧ plain.Helped "optional_u32" ∧
      (helperNames "optional_enum_u32").Disjoint (helperNames "optional_u32") := by
  intro named plain
  have fine : ¬ named.core.isObject := by decide
  have sound : ¬ plain.core.isObject := by decide
  have first : named.ident = .ok "optional_enum_u32" := by rfl
  have second : plain.ident = .ok "optional_u32" := by rfl
  obtain ⟨mine,yours,own,shown,_,texts,helped⟩ := ident_tells_types named plain fine sound
  cases own.symm.trans first
  cases shown.symm.trans second
  obtain ⟨sized,_,others⟩ := helped rfl
  obtain ⟨written,apart⟩ := others rfl
  have different : named.bare ≠ plain.bare := by decide
  exact ⟨fine,sound,first,second,fun same => absurd (texts.mpr same) (by decide),sized,written,apart.mpr different⟩

end TypeRef

theorem TypeRef.ident_all {kinds : String → Named → Prop} {inside : Char → Bool} {type : TypeRef} {ident : String}
    (plain : ∀ number < 128, isWord (Char.ofNat number) → inside (Char.ofNat number)) (declared : type.IsDeclared kinds)
    (names : ∀ name which, kinds name which → which ≠ .object → ∀ c ∈ name.toList, inside c) (done : type.ident = .ok ident) :
    ident.toList ≠ [] ∧ ∀ c ∈ ident.toList, inside c := by
  have fixed {text : List Char} (known : text.all fun c => decide (c.toNat < 128) && isWord c) : ∀ c ∈ text, inside c := by
    intro c member
    obtain ⟨ascii,word⟩ := Bool.and_eq_true_iff.mp (List.all_eq_true.mp known c member)
    have own := plain c.toNat (of_decide_eq_true ascii)
    rw [Char.ofNat_toNat] at own
    exact own word
  have start {prefixed name : List Char} (some : prefixed ≠ []) (known : prefixed.all fun c => decide (c.toNat < 128) && isWord c)
      (rest : ∀ c ∈ name, inside c) : prefixed ++ name ≠ [] ∧ ∀ c ∈ prefixed ++ name, inside c :=
    ⟨List.append_ne_nil_of_left_ne_nil some _,List.forall_mem_append.mpr ⟨fixed known,rest⟩⟩
  induction type generalizing ident with
  | plain which => cases which <;> cases done <;> exact ⟨by decide,fixed (by decide)⟩
  | named which name =>
    cases which with
    | enumeration =>
      cases done
      rw [String.toList_append]
      exact start (by decide) (by decide) (names _ _ declared nofun)
    | record =>
      cases done
      rw [String.toList_append]
      exact start (by decide) (by decide) (names _ _ declared nofun)
    | object => cases done
  | optional below label ih =>
    obtain ⟨rest,known,done⟩ := result_ok_parts done
    cases done
    rw [String.toList_append]
    exact start (by decide) (by decide) (ih declared known).2

theorem TypeRef.ident_word {kinds : String → Named → Prop} {type : TypeRef} {ident : String} (declared : type.IsDeclared kinds)
    (words : ∀ name which, kinds name which → IsWordText name.toList) (done : type.ident = .ok ident) :
    IsWordText ident.toList := by
  obtain ⟨some,all⟩ := ident_all (fun _ _ word => word) declared (fun name which known _ => (words name which known).all) done
  exact ⟨some,all⟩

namespace Model
variable {model : Model}

theorem idents_mem (done : model.optionalHelpers = .ok helpers) : ident ∈ helpers.map OptionalHelpers.ident ↔
    ∃ layer ∈ model.optionalTypes, layer.ident = .ok ident := by
  have made := optionalHelpers_made done
  constructor
  · intro member
    obtain ⟨helper,present,rfl⟩ := List.mem_map.mp member
    obtain ⟨layer,known,own⟩ := forall₂_left made present
    exact ⟨layer,known,TypeRef.helpers_ident own⟩
  · rintro ⟨layer,known,own⟩
    obtain ⟨helper,present,shown⟩ := forall₂_right made known
    exact List.mem_map.mpr ⟨helper,present,Except.ok.inj ((TypeRef.helpers_ident shown).symm.trans own)⟩

theorem idents_nodup (fine : ∀ type ∈ model.typeRefs, ¬ type.core.isObject) (bare : ∀ type ∈ model.typeRefs, type.IsBare)
    (done : model.optionalHelpers = .ok helpers) : (helpers.map OptionalHelpers.ident).Nodup := by
  have made : List.Forall₂ (fun (type : TypeRef) ident => type.ident = .ok ident) model.optionalTypes
      (helpers.map OptionalHelpers.ident) :=
    List.forall₂_map_right_iff.mpr ((optionalHelpers_made done).imp fun _ _ own => TypeRef.helpers_ident own)
  have plain : ∀ layer ∈ model.optionalTypes, layer.IsBare := by
    intro layer member
    obtain ⟨type,present,own⟩ := (optionalTypes_mem fine).mp member
    exact TypeRef.spine_bare own (bare type present)
  exact forall₂_nodup made (TypeRef.collectOptionals_nodup _) fun one first other second _ known shown =>
    TypeRef.ident_injective known shown (plain one first) (plain other second)

end Model
end NativeBinding
