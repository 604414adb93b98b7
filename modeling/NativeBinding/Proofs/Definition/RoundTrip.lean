import NativeBinding.Proofs.Definition.Bodies
import NativeBinding.Proofs.Definition.Placement

namespace NativeBinding

namespace Definition
open Text

theorem Entry.function?_some {entry : Entry} : entry.function? = some found ↔ entry = .function found := by
  cases entry <;> simp [function?]

namespace Item

def name : Item → String
  | .enumeration found => found.name
  | .record found => found.name
  | .object name => name

def kind : Item → Named
  | .enumeration _ => .enumeration
  | .record _ => .record
  | .object _ => .object

theorem enumeration?_some {item : Item} : item.enumeration? = some found ↔ item = .enumeration found := by
  cases item <;> simp [enumeration?]

theorem record?_some {item : Item} : item.record? = some found ↔ item = .record found := by
  cases item <;> simp [record?]

theorem object?_some {item : Item} : item.object? = some found ↔ item = .object found := by
  cases item <;> simp [object?]

theorem block_kind (item : Item) : (String.ofList item.block.name,item.block.kind) = (item.name,item.kind) := by
  cases item <;> simp [block,name,kind]

end Item

def kindsIn (items : List Item) : Kinds := items.map (fun item => (item.name,item.kind))

def kindsFrom (blocks : List (Found Block)) : Kinds :=
  blocks.map (fun block => (String.ofList block.value.name,block.value.kind))

theorem kindsOf_distinct {blocks : List (Found Block)} {kinds : Kinds}
    (distinct : ((kinds ++ kindsFrom blocks).map Prod.fst).Nodup)
    (apart : ∀ row ∈ kindsFrom blocks, plainWords.lookup row.1 = none) :
    kindsOf text kinds blocks = .ok (kinds ++ kindsFrom blocks) := by
  induction blocks generalizing kinds with
  | nil => rw [kindsFrom,List.map_nil,List.append_nil]; rfl
  | cons block rest ih =>
    obtain ⟨first,apart⟩ := List.forall_mem_cons.mp apart
    have fresh : kinds.find (String.ofList block.value.name) = none := by
      rw [Kinds.find,List.lookup_eq_none_iff]
      intro row member
      rw [List.map_append] at distinct
      obtain ⟨_,_,other⟩ := List.nodup_append.mp distinct
      exact bne_iff_ne.mpr (other row.1 (List.mem_map_of_mem member) _ List.mem_cons_self).symm
    rw [kindsFrom,List.map_cons,List.append_cons] at distinct ⊢
    simp only [kindsOf,fresh,first,Option.isSome_none,Bool.or_self,Bool.false_eq_true,if_false]
    exact ih distinct apart

theorem items_names (items : List Item) : (items.map Item.name).Perm
    ((items.filterMap Item.enumeration?).map Enumeration.name ++ (items.filterMap Item.record?).map Record.name ++
      items.filterMap Item.object?) := by
  induction items with
  | nil => exact .refl _
  | cons item rest ih =>
    cases item with
    | enumeration found => exact ih.cons found.name
    | record found =>
      refine (ih.cons found.name).trans ?_
      exact (List.perm_middle.symm.append_right _)
    | object name => exact (ih.cons name).trans List.perm_middle.symm

theorem IsUnmarked.append {one two : List Char} (first : IsUnmarked one) (second : IsUnmarked two) :
    IsUnmarked (one ++ two) :=
  fun c member => (List.mem_append.mp member).elim (first c) (second c)

theorem isUnmarked_iff {text : List Char} : IsUnmarked text ↔ text.all (fun c => !isMark c) := by
  simp [IsUnmarked]

theorem blank_unmarked : IsUnmarked [' '] := isUnmarked_iff.mpr (by decide)

theorem listed_unmarked {texts : List (List Char)} (all : ∀ text ∈ texts, IsUnmarked text) : IsUnmarked (listed texts) := by
  have comma : IsUnmarked [',',' '] := isUnmarked_iff.mpr (by decide)
  rw [listed]
  induction texts with
  | nil => exact List.forall_mem_nil _
  | cons text rest ih =>
    obtain ⟨first,others⟩ := List.forall_mem_cons.mp all
    cases rest with
    | nil => rwa [List.intercalate_singleton]
    | cons next rest =>
      rw [List.intercalate_cons_cons]
      exact (first.append comma).append (ih others)

section
variable {kinds : Kinds} (sound : kinds.Sound)
include sound

theorem fields_unmarked {fields : List Field} (named : WellNamed fields)
    (types : ∀ field ∈ fields, field.type.IsBare ∧ field.type.IsDeclared kinds.Has) :
    ∀ text ∈ fields.map Field.written, IsUnmarked text := by
  intro text member
  obtain ⟨field,present,rfl⟩ := List.mem_map.mp member
  obtain ⟨bare,declared⟩ := types field present
  rw [Field.written,← List.singleton_append]
  exact (solid_unmarked (written_solid sound bare declared)).append
    (blank_unmarked.append (solid_unmarked (isIdentifier_solid (named.2 field present))))

theorem block_legible {item : Item} (named : IsWordText item.name.toList) (formed : item.WellFormed kinds) :
    item.block.IsLegible := by
  cases item with
  | enumeration found =>
    refine ⟨named,?_⟩
    have values : ∀ text ∈ found.values.map String.toList, IsUnmarked text := by
      intro text member
      obtain ⟨value,present,rfl⟩ := List.mem_map.mp member
      exact solid_unmarked (isIdentifier_solid (formed.2.2 value present))
    exact (blank_unmarked.append (listed_unmarked values)).append blank_unmarked
  | record found =>
    refine ⟨named,?_⟩
    have ending : IsUnmarked [';',' '] := isUnmarked_iff.mpr (by decide)
    have fields : IsUnmarked (found.fields.flatMap (fun field => field.written ++ [';',' '])) := by
      intro c member
      obtain ⟨field,present,inside⟩ := List.mem_flatMap.mp member
      have own := fields_unmarked sound formed.1 formed.2 field.written (List.mem_map_of_mem present)
      exact own.append ending c inside
    exact blank_unmarked.append fields
  | object name => exact ⟨named,List.forall_mem_nil _⟩

theorem signature_legible {function : Function} (word : IsWordText function.name.toList) (named : WellNamed function.arguments)
    (types : ∀ type ∈ function.arguments.map Field.type ++ function.returns.toList,
      type.IsBare ∧ type.IsDeclared kinds.Has) : (signatureOf function).IsLegible := by
  refine ⟨word,listed_unmarked (fields_unmarked sound named ?_),?_⟩
  · intro field member
    exact types field.type (List.mem_append_left _ (List.mem_map_of_mem member))
  · intro text result
    obtain ⟨type,returns,rfl⟩ := Option.map_eq_some_iff.mp result
    obtain ⟨bare,declared⟩ := types type (List.mem_append_right _ (Option.mem_toList.mpr returns))
    obtain ⟨base,_,count,written,name,_⟩ := written_layers sound bare declared
    rw [written]
    refine ⟨List.append_ne_nil_of_left_ne_nil name.some _,?_⟩
    intro c member
    rcases List.mem_append.mp member with inside | mark
    · simp [isTypeText,name.all c inside]
    · rw [List.eq_of_mem_replicate mark]
      decide

end

theorem repeatedFunction_distinct {functions : List Function} (distinct : (functions.map Function.name).Nodup) :
    repeatedFunction functions = none := by
  refine List.find?_eq_none.mpr ?_
  intro name _
  have once := List.nodup_iff_count_le_one.mp distinct name
  simpa using once

def itemsIn (entries : List Entry) : List Item := entries.filterMap Entry.item?

section
variable {found : List (Found Entry)} {entries : List Entry} (all : found.map Found.value = entries)
include all

theorem kindsFrom_found : kindsFrom (found.filterMap (Found.pick? Entry.block?)) = kindsIn (itemsIn entries) := by
  subst all
  induction found with
  | nil => rfl
  | cons one rest ih =>
    obtain ⟨span,entry⟩ := one
    cases entry with
    | item item => exact congrArg₂ List.cons item.block_kind ih
    | function => exact ih

variable {kinds : Kinds} (sound : kinds.Sound)
include sound

theorem itemsOf_found (formed : ∀ item ∈ itemsIn entries, item.WellFormed kinds) :
    itemsOf text kinds (found.filterMap (Found.pick? Entry.block?)) = .ok (itemsIn entries) := by
  subst all
  refine mapM_ok ?_
  induction found with
  | nil => exact .nil
  | cons one rest ih =>
    obtain ⟨span,entry⟩ := one
    cases entry with
    | item item =>
      obtain ⟨first,others⟩ := List.forall_mem_cons.mp formed
      refine .cons ?_ (ih others)
      simp only [atClause,itemOf_written sound first]
      rfl
    | function => exact ih formed

theorem functionsOf_found (formed : ∀ function ∈ entries.filterMap Entry.function?,
      WellNamed function.arguments ∧ ∀ type ∈ function.arguments.map Field.type ++ function.returns.toList,
        type.IsBare ∧ type.IsDeclared kinds.Has) :
    functionsOf text kinds (found.filterMap (Found.pick? Entry.signature?)) = .ok (entries.filterMap Entry.function?) := by
  subst all
  refine mapM_ok ?_
  induction found with
  | nil => exact .nil
  | cons one rest ih =>
    obtain ⟨span,entry⟩ := one
    cases entry with
    | item => exact ih formed
    | function function =>
      obtain ⟨⟨named,types⟩,others⟩ := List.forall_mem_cons.mp formed
      refine .cons ?_ (ih others)
      have read := functionOf_written sound named types
      simp only [signatureOf] at read
      simp only [atClause,signatureOf,String.ofList_toList,read]
      rfl

end

theorem plain_apart {name : String} (apart : name ∉ plainWords.map Prod.fst) : plainWords.lookup name = none := by
  refine List.lookup_eq_none_iff.mpr (fun row member => bne_iff_ne.mpr ?_)
  rintro rfl
  exact apart (List.mem_map_of_mem member)

section
variable {model : Model} {entries : List Entry} (arranged : modelOf model.component entries = model)
include arranged

theorem mem_enumerations : found ∈ model.enumerations ↔ .enumeration found ∈ itemsIn entries := by
  rw [← arranged]
  simp [modelOf,itemsIn,List.mem_filterMap,Item.enumeration?_some]

theorem mem_records : found ∈ model.records ↔ .record found ∈ itemsIn entries := by
  rw [← arranged]
  simp [modelOf,itemsIn,List.mem_filterMap,Item.record?_some]

theorem mem_objects : found ∈ model.objects ↔ .object found ∈ itemsIn entries := by
  rw [← arranged]
  simp [modelOf,itemsIn,List.mem_filterMap,Item.object?_some]

theorem mem_functions : found ∈ model.functions ↔ .function found ∈ entries := by
  rw [← arranged]
  simp [modelOf,List.mem_filterMap,Entry.function?_some]

theorem arranged_names : ((itemsIn entries).map Item.name).Perm model.typeNames := by
  rw [← arranged]
  exact items_names _

theorem kindsIn_named : ∀ row ∈ kindsIn (itemsIn entries), row.1 ∈ model.typeNames := by
  intro row member
  obtain ⟨item,present,rfl⟩ := List.mem_map.mp member
  exact (arranged_names arranged).subset (List.mem_map_of_mem present)

variable (formed : model.WellFormed)
include formed

theorem kindsIn_distinct : ((kindsIn (itemsIn entries)).map Prod.fst).Nodup := by
  rw [kindsIn,List.map_map]
  exact (arranged_names arranged).nodup_iff.mpr formed.distinct

theorem kindsIn_defined (defined : model.Defines name which) : (kindsIn (itemsIn entries)).Has name which := by
  have has {item : Item} (member : item ∈ itemsIn entries) : (kindsIn (itemsIn entries)).Has item.name item.kind :=
    lookup_member (kindsIn_distinct arranged formed) (List.mem_map_of_mem member)
  cases which with
  | enumeration =>
    obtain ⟨enumeration,there⟩ := Option.isSome_iff_exists.mp defined
    obtain rfl : enumeration.name = name := by simpa using List.find?_some there
    exact has ((mem_enumerations arranged).mp (List.mem_reverse.mp (List.mem_of_find?_eq_some there)))
  | record =>
    obtain ⟨record,there⟩ := Option.isSome_iff_exists.mp defined
    obtain rfl : record.name = name := by simpa using List.find?_some there
    exact has ((mem_records arranged).mp (List.mem_reverse.mp (List.mem_of_find?_eq_some there)))
  | object => exact has ((mem_objects arranged).mp defined)

theorem types_known (member : type ∈ model.typeRefs) : type.IsBare ∧ type.IsDeclared (kindsIn (itemsIn entries)).Has :=
  ⟨(formed.types type member).1,(formed.types type member).2.mono (fun _ _ => kindsIn_defined arranged formed)⟩

theorem items_formed : ∀ item ∈ itemsIn entries, item.WellFormed (kindsIn (itemsIn entries)) := by
  intro item member
  cases item with
  | enumeration found => exact formed.enumerations found ((mem_enumerations arranged).mpr member)
  | record found =>
    have present := (mem_records arranged).mpr member
    refine ⟨formed.records found present,fun field own => types_known arranged formed ?_⟩
    exact List.mem_append_left _ (List.mem_flatMap.mpr ⟨found,present,List.mem_map_of_mem own⟩)
  | object name => trivial

theorem functions_formed {function : Function} (member : function ∈ model.functions) : WellNamed function.arguments ∧
    ∀ type ∈ function.arguments.map Field.type ++ function.returns.toList,
      type.IsBare ∧ type.IsDeclared (kindsIn (itemsIn entries)).Has :=
  ⟨formed.arguments function member,fun _ own =>
    types_known arranged formed (List.mem_append_right _ (List.mem_flatMap.mpr ⟨function,member,own⟩))⟩

variable (worded : model.Worded)
include worded

theorem kindsIn_sound : (kindsIn (itemsIn entries)).Sound := by
  have known (name : String) (which : Named) (has : (kindsIn (itemsIn entries)).Has name which) : name ∈ model.typeNames :=
    kindsIn_named arranged (name,which) (lookup_mem has)
  exact ⟨fun name which has => worded.types name (known name which has),
    fun name which has => plain_apart (formed.apart name (known name which has))⟩

theorem entries_legible : ∀ entry ∈ entries, entry.IsLegible := by
  have sound := kindsIn_sound arranged formed worded
  intro entry member
  cases entry with
  | item found =>
    have present : found ∈ itemsIn entries := List.mem_filterMap.mpr ⟨_,member,rfl⟩
    have known := (arranged_names arranged).subset (List.mem_map_of_mem present)
    exact block_legible sound (worded.types _ known) (items_formed arranged formed found present)
  | function found =>
    have present := (mem_functions arranged).mpr member
    obtain ⟨named,types⟩ := functions_formed arranged formed present
    exact signature_legible sound (worded.functions found present) named types

theorem readLayout_written (gap : List Char) :
    readLayout text (layoutFor gap model.component entries) = .ok model := by
  have all := placed_values gap (clause model.component).length entries
  have sound := kindsIn_sound arranged formed worded
  have functions : entries.filterMap Entry.function? = model.functions := congrArg Model.functions arranged
  have same : kindsFrom (layoutFor gap model.component entries).blocks = kindsIn (itemsIn entries) := kindsFrom_found all
  have known : kindsOf text [] (layoutFor gap model.component entries).blocks = .ok (kindsIn (itemsIn entries)) := by
    rw [← same]
    refine kindsOf_distinct ?_ ?_
    · rw [List.nil_append,same]
      exact kindsIn_distinct arranged formed
    · rw [same]
      intro row member
      exact plain_apart (formed.apart _ (kindsIn_named arranged row member))
  have read : itemsOf text _ (layoutFor gap model.component entries).blocks = _ :=
    itemsOf_found all sound (items_formed arranged formed)
  have others : functionsOf text _ (layoutFor gap model.component entries).functions = _ :=
    functionsOf_found all sound (functions ▸ fun _ => functions_formed arranged formed)
  have once : repeatedFunction (entries.filterMap Entry.function?) = none :=
    functions ▸ repeatedFunction_distinct formed.functions
  have built : (⟨String.ofList model.component.toList,(itemsIn entries).filterMap Item.enumeration?,
      (itemsIn entries).filterMap Item.record?,entries.filterMap Entry.function?,
      (itemsIn entries).filterMap Item.object?⟩ : Model) = model := by
    rw [String.ofList_toList]
    exact arranged
  simp only [readLayout,result_ok known,result_ok read,result_ok others,once]
  exact congrArg Except.ok built

end

end Definition

open Text

-- The text of a model gives the model again. What the names are does not matter: a keyword
-- as a name, or a type that is defined later or named like a function, misleads no scan.
theorem read_written {model : Model} {entries : List Definition.Entry} {gap : List Char} (blank : ∀ c ∈ gap, isBlank c)
    (arranged : Definition.modelOf model.component entries = model) (formed : model.WellFormed) (worded : model.Worded) :
    Model.read (String.ofList (Definition.written gap model.component entries)) = .ok model := by
  have legible := Definition.entries_legible arranged formed worded
  simp only [Model.read,Definition.readChars,String.toList_ofList,
    Definition.written_uncommented worded.component blank legible,
    result_ok (Definition.layoutOf_written worded.component blank legible),
    result_ok (Definition.written_covered blank model.component entries)]
  exact Definition.readLayout_written arranged formed worded gap

-- Every name here is a keyword, as far as one can be.
def keywordEntries : List Definition.Entry := [
  .function ⟨"fn",[⟨"record",.recordOf "record"⟩,⟨"fn",.optionalOf (.optionalOf (.enumOf "enum"))⟩],some (.objectOf "fn")⟩,
  .item (.object "fn"),
  .item (.record ⟨"record",[⟨"enum",.enumOf "enum"⟩,⟨"object",.optionalOf (.ofPlain .bytes)⟩]⟩),
  .function ⟨"enum",[],none⟩,
  .item (.enumeration ⟨"enum",["fn","namespace"]⟩),
  .item (.record ⟨"namespace",[]⟩)]

def keywordModel : Model := Definition.modelOf "namespace" keywordEntries

theorem keywords_formed : keywordModel.WellFormed :=
  ⟨by decide,by decide,by decide,by decide,by decide,by decide,
    by decide +kernel⟩

theorem keywords_worded : keywordModel.Worded := ⟨by decide,by decide,by decide⟩

theorem read_written_sample : keywordModel.WellFormed ∧ keywordModel.Worded ∧
    Model.read (String.ofList (Definition.written ['\n'] keywordModel.component keywordEntries)) = .ok keywordModel :=
  ⟨keywords_formed,keywords_worded,
    read_written (List.forall_mem_singleton.mpr (by decide)) rfl keywords_formed keywords_worded⟩

end NativeBinding
