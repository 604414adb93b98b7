import NativeBinding.Proofs.Definition.RoundTrip
import NativeBinding.Proofs.Definition.Symbols

namespace NativeBinding

namespace Definition
open Text

variable {kinds : Kinds}

theorem layers_bare {type : TypeRef} (count : Nat) (bare : type.IsBare) : (layers count type).IsBare := by
  induction count with
  | zero => exact bare
  | succ count ih => exact ⟨rfl,ih⟩

theorem baseType_bare (found : baseType kinds name = some type) : type.IsBare := by
  unfold baseType at found
  split at found
  · cases found
    exact ⟨rfl,rfl⟩
  · obtain ⟨which,_,rfl⟩ := Option.map_eq_some_iff.mp found
    exact rfl

theorem typeOf_bare (done : typeOf kinds text = .ok type) : type.IsBare := by
  unfold typeOf at done
  dsimp only at done
  split at done
  · cases done
  · split at done
    · cases done
    · rename_i found
      cases done
      exact layers_bare _ (baseType_bare found)

theorem fieldOf_formed (done : fieldOf kinds text = .ok field) : isIdentifier field.name.toList ∧ field.type.IsBare := by
  unfold fieldOf at done
  split at done
  · split at done
    · rename_i identifier
      cases run : typeOf kinds _ with
      | error complaint => rw [run] at done; cases done
      | ok type =>
        rw [run] at done
        cases done
        exact ⟨by rwa [String.toList_ofList],typeOf_bare run⟩
    · cases done
  · cases done

theorem fields_named {fields : List Field} (distinct : (fields.map Field.name).Nodup)
    (read : ∀ field ∈ fields, ∃ text, fieldOf kinds text = .ok field) : WellNamed fields := by
  refine ⟨distinct,?_⟩
  intro field member
  obtain ⟨text,own⟩ := read field member
  exact (fieldOf_formed own).1

theorem itemOf_formed (done : itemOf kinds block = .ok item) :
    item.name = String.ofList block.name ∧ item.WellFormed kinds := by
  unfold itemOf at done
  dsimp only at done
  split at done
  · cases run : enumerationOf (String.ofList block.name) block.body with
    | error => rw [run] at done; cases done
    | ok found =>
      rw [run] at done
      cases done
      exact enumerationOf_ok run
  · cases run : recordOf kinds (String.ofList block.name) block.body with
    | error => rw [run] at done; cases done
    | ok found =>
      rw [run] at done
      cases done
      obtain ⟨own,distinct,read⟩ := recordOf_ok run
      refine ⟨own,fields_named distinct read,?_⟩
      intro field member
      obtain ⟨text,one⟩ := read field member
      exact ⟨(fieldOf_formed one).2,fieldOf_declared one⟩
  · cases done
    exact ⟨rfl,trivial⟩

theorem functionOf_formed (done : functionOf kinds name parameters returns = .ok function) :
    WellNamed function.arguments ∧
      ∀ type ∈ function.arguments.map Field.type ++ function.returns.toList, type.IsBare := by
  obtain ⟨distinct,read,result⟩ := functionOf_ok done
  refine ⟨fields_named distinct read,?_⟩
  intro type member
  rcases List.mem_append.mp member with argument | returned
  · obtain ⟨field,part,rfl⟩ := List.mem_map.mp argument
    obtain ⟨text,own⟩ := read field part
    exact (fieldOf_formed own).2
  · obtain ⟨text,own⟩ := result type (Option.mem_toList.mp returned)
    exact typeOf_bare own

theorem lookup_unknown {pairs : List (String × β)} (none : ¬ (pairs.lookup name).isSome) : name ∉ pairs.map Prod.fst := by
  intro member
  obtain ⟨row,present,rfl⟩ := List.mem_map.mp member
  have missing := List.lookup_eq_none_iff.mp (Option.not_isSome_iff_eq_none.mp none) row present
  exact bne_iff_ne.mp missing rfl

theorem kindsOf_fresh {blocks : List (Found Block)} (done : kindsOf text kinds blocks = .ok all)
    (distinct : (kinds.map Prod.fst).Nodup) (apart : ∀ name ∈ kinds.map Prod.fst, name ∉ plainWords.map Prod.fst) :
    (all.map Prod.fst).Nodup ∧ ∀ name ∈ all.map Prod.fst, name ∉ plainWords.map Prod.fst := by
  induction blocks generalizing kinds with
  | nil => cases done; exact ⟨distinct,apart⟩
  | cons block rest ih =>
    simp only [kindsOf] at done
    split at done
    · cases done
    · rename_i free
      obtain ⟨fresh,plain⟩ := not_or.mp (fun taken => free (Bool.or_eq_true_iff.mpr taken))
      refine ih done ?_ ?_
      · rw [List.map_append]
        refine List.nodup_append.mpr ⟨distinct,List.nodup_singleton _,?_⟩
        intro name old other new same
        rw [same,List.mem_singleton.mp new] at old
        exact lookup_unknown fresh old
      · intro name member
        rw [List.map_append] at member
        rcases List.mem_append.mp member with old | new
        · exact apart name old
        · rw [List.mem_singleton.mp new]
          exact lookup_unknown plain

theorem itemsOf_names {blocks : List (Found Block)} (done : itemsOf text kinds blocks = .ok items) :
    items.map Item.name = (kindsFrom blocks).map Prod.fst := by
  have all := mapM_ok_parts done
  clear done
  induction all with
  | nil => rfl
  | cons one _ ih =>
    have own := (itemOf_formed (mapError_ok one)).1
    rw [List.map_cons,ih,own]
    rfl

section
variable {layout : Layout} {model : Model} (done : readLayout text layout = .ok model)
include done

theorem readLayout_named : model.typeNames.Nodup ∧ ∀ name ∈ model.typeNames, name ∉ plainWords.map Prod.fst := by
  obtain ⟨kinds,items,known,read,_,enumerations,records,objects⟩ := readLayout_ok done
  have all : kinds = kindsFrom layout.blocks := kindsOf_ok known
  have names : (kinds.map Prod.fst).Perm model.typeNames := by
    rw [all,← itemsOf_names read,Model.typeNames,enumerations,records,objects]
    exact items_names items
  obtain ⟨distinct,apart⟩ := kindsOf_fresh known List.nodup_nil (by simp)
  refine ⟨names.nodup_iff.mp distinct,?_⟩
  intro name member
  exact apart name (names.mem_iff.mpr member)

theorem readLayout_items : ∃ kinds, (∀ enumeration ∈ model.enumerations, Item.WellFormed kinds (.enumeration enumeration)) ∧
    ∀ record ∈ model.records, Item.WellFormed kinds (.record record) := by
  obtain ⟨kinds,items,_,read,_,enumerations,records,_⟩ := readLayout_ok done
  have each : ∀ item ∈ items, item.WellFormed kinds := by
    intro item member
    obtain ⟨block,_,own⟩ := itemsOf_item read member
    exact (itemOf_formed own).2
  rw [enumerations,records]
  refine ⟨kinds,?_,?_⟩
  · intro enumeration member
    obtain ⟨item,present,same⟩ := List.mem_filterMap.mp member
    rw [← Item.enumeration?_some.mp same]
    exact each item present
  · intro record member
    obtain ⟨item,present,same⟩ := List.mem_filterMap.mp member
    rw [← Item.record?_some.mp same]
    exact each item present

theorem readLayout_calls : ∀ function ∈ model.functions, WellNamed function.arguments ∧
    ∀ type ∈ function.arguments.map Field.type ++ function.returns.toList, type.IsBare := by
  obtain ⟨_,_,_,_,others,_⟩ := readLayout_ok done
  intro function member
  obtain ⟨signature,_,own⟩ := forall₂_left (mapM_ok_parts others) member
  exact functionOf_formed (mapError_ok own)

theorem readLayout_bare : ∀ type ∈ model.typeRefs, type.IsBare := by
  obtain ⟨_,_,records⟩ := readLayout_items done
  intro type member
  rcases List.mem_append.mp member with inside | outside
  · obtain ⟨record,present,own⟩ := List.mem_flatMap.mp inside
    obtain ⟨field,part,rfl⟩ := List.mem_map.mp own
    exact ((records record present).2 field part).1
  · obtain ⟨function,present,own⟩ := List.mem_flatMap.mp outside
    exact (readLayout_calls done function present).2 type own

theorem readLayout_formed : model.WellFormed := by
  obtain ⟨distinct,apart⟩ := readLayout_named done
  obtain ⟨_,enumerations,records⟩ := readLayout_items done
  have declared := (readLayout_meets done).2
  exact ⟨distinct,apart,enumerations,fun record member => (records record member).1,
    fun function member => (readLayout_calls done function member).1,readLayout_functions done,
    fun type member => ⟨readLayout_bare done type member,declared type member⟩⟩

end

end Definition

-- Every text that is accepted describes a model in which nothing is ambiguous and nothing
-- refers to what is not there, in whatever order its definitions stand.
theorem Model.read_formed (read : Model.read text = .ok model) : model.WellFormed := by
  obtain ⟨_,_,done⟩ := Model.read_layout read
  exact Definition.readLayout_formed done

def forwardText : String :=
  "namespace n; fn turn(Node node) -> Canvas??; record Node \x7b Node? next; Shade s; \x7d // enum\n" ++
  "object Canvas \x7b any \x7d enum Shade \x7b dark, \x7d"

def forwardModel : Model :=
  ⟨"n",[⟨"Shade",["dark"]⟩],[⟨"Node",[⟨"next",.optionalOf (.recordOf "Node")⟩,⟨"s",.enumOf "Shade"⟩]⟩],
    [⟨"turn",[⟨"node",.recordOf "Node"⟩],some (.optionalOf (.optionalOf (.objectOf "Canvas")))⟩],["Canvas"]⟩

theorem read_formed_sample : Model.read forwardText = .ok forwardModel ∧ forwardModel.WellFormed := by
  have read : Model.read forwardText = .ok forwardModel := by cbv
  exact ⟨read,Model.read_formed read⟩

end NativeBinding
