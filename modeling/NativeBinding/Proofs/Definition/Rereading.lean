import NativeBinding.Proofs.Definition.Disjoint
import NativeBinding.Proofs.Definition.Respacing

namespace NativeBinding.Definition
open Text

section
variable {kinds : Kinds} {body twin : List Char}

theorem parts_loose (loose : Loose body twin) (seam : isSeam separator) {Same : List Char → List Char → Prop}
    (each : ∀ piece other, Loose piece other → trim piece ∈ parts separator body → Same (trim piece) (trim other)) :
    List.Forall₂ Same (parts separator body) (parts separator twin) := by
  have all := loose.pieces seam
  unfold parts at *
  generalize pieces (fun c => c == separator) body = pieces at *
  generalize Text.pieces (fun c => c == separator) twin = others at *
  induction all with
  | nil => exact .nil
  | @cons piece other pieces others first _ ih =>
    have same : (trim piece).isEmpty = (trim other).isEmpty := by
      rw [Bool.eq_iff_iff,List.isEmpty_iff,List.isEmpty_iff,trim_nil,trim_nil]
      exact first.nil
    have next := ih fun one two loose member => each one two loose (by
      rw [List.map_cons,List.filter_cons]
      split
      · exact List.mem_cons_of_mem _ member
      · exact member)
    simp only [List.map_cons,List.filter_cons,← same]
    split
    · rename_i some
      exact .cons (each piece other first (by simp [some])) next
    · exact next

theorem enumerationOf_loose (loose : Loose body twin) (done : enumerationOf name body = .ok enumeration) :
    enumerationOf name twin = .ok enumeration := by
  have same : List.Forall₂ Eq (parts ',' body) (parts ',' twin) := by
    refine parts_loose loose (by decide) ?_
    intro piece other loose member
    simp only [enumerationOf] at done
    split at done
    · cases done
    · obtain ⟨_,checked,_⟩ := result_ok_parts done
      have own := (checkValues_parts checked _ (List.mem_map_of_mem member)).1
      rw [String.toList_ofList] at own
      exact (loose.trim (isIdentifier_solid own)).symm
  rw [List.forall₂_eq_eq_eq] at same
  rwa [enumerationOf,← same]

theorem fieldOf_tokens (same : tokens text = tokens other) (done : fieldOf kinds text = .ok field) :
    fieldOf kinds other = .ok field := by
  unfold fieldOf at *
  rw [← same]
  split at done
  · rename_i type name only
    split at done
    · rename_i identifier
      simpa only [identifier,if_true] using done
    · cases done
  · cases done

theorem fieldsOf_tokens {taken : String → Complaint} {found fields : List Field} {texts others : List (List Char)}
    (same : List.Forall₂ (fun text other => tokens text = tokens other) texts others)
    (done : fieldsOf kinds taken found texts = .ok fields) : fieldsOf kinds taken found others = .ok fields := by
  induction same generalizing found with
  | nil => exact done
  | cons first _ ih =>
    obtain ⟨field,own,done⟩ := result_ok_parts done
    have next := fieldOf_tokens first own
    rw [fieldsOf,result_ok next]
    split at done
    · cases done
    · rename_i fresh
      rw [if_neg fresh]
      exact ih done

theorem fieldsOf_loose {taken : String → Complaint} {fields : List Field} (loose : Loose body twin) (seam : isSeam separator)
    (done : fieldsOf kinds taken [] (parts separator body) = .ok fields) :
    fieldsOf kinds taken [] (parts separator twin) = .ok fields := by
  refine fieldsOf_tokens (parts_loose loose seam ?_) done
  intro piece other loose member
  obtain ⟨field,own⟩ := fieldsOf_each done _ member
  rw [tokens_trim,tokens_trim]
  refine loose.tokens ?_
  intro c inside
  by_contra mark
  have breaks := isSeam_glue (Bool.eq_true_of_not_eq_false mark)
  exact fieldOf_unbroken own c (mem_trim inside breaks.2) breaks

theorem recordOf_loose (loose : Loose body twin) (done : recordOf kinds name body = .ok record) :
    recordOf kinds name twin = .ok record := by
  obtain ⟨fields,read,done⟩ := result_ok_parts done
  rw [recordOf,result_ok (fieldsOf_loose loose (by decide) read)]
  exact done

theorem functionOf_loose (loose : Loose body twin) (done : functionOf kinds name body returns = .ok function) :
    functionOf kinds name twin returns = .ok function := by
  obtain ⟨arguments,read,done⟩ := result_ok_parts done
  rw [functionOf,result_ok (fieldsOf_loose loose (by decide) read)]
  exact done

end

theorem itemOf_alike {block twin : Block} (same : block.Alike twin) (done : itemOf kinds block = .ok item) :
    itemOf kinds twin = .ok item := by
  obtain ⟨kind,name,body⟩ := same
  unfold itemOf at *
  rw [kind,name]
  dsimp only at *
  split at done
  · cases run : enumerationOf (String.ofList block.name) block.body with
    | error complaint => rw [run] at done; cases done
    | ok found =>
      rw [run] at done
      rw [enumerationOf_loose body run]
      exact done
  · cases run : recordOf kinds (String.ofList block.name) block.body with
    | error complaint => rw [run] at done; cases done
    | ok found =>
      rw [run] at done
      rw [recordOf_loose body run]
      exact done
  · exact done

-- Complaints tell the line of a clause, so it is only what is read that is the same.
section
variable {text other : List Char}

theorem kindsOf_alike {kinds found : Kinds} {blocks twins : List (Found Block)}
    (same : List.Forall₂ (Found.Alike Block.Alike text other) blocks twins) (done : kindsOf text kinds blocks = .ok found) :
    kindsOf other kinds twins = .ok found := by
  induction same generalizing kinds with
  | nil => exact done
  | cons first _ ih =>
    obtain ⟨kind,name,_⟩ := first.value
    simp only [kindsOf,kind,name] at done ⊢
    split at done
    · cases done
    · rename_i fresh
      rw [if_neg fresh]
      exact ih done

theorem atClause_ok {span : Span} {result : Except Complaint α} (done : result = .ok a) : atClause text span result = .ok a := by
  rw [done]
  rfl

theorem itemsOf_alike {blocks twins : List (Found Block)}
    (same : List.Forall₂ (Found.Alike Block.Alike text other) blocks twins) (done : itemsOf text kinds blocks = .ok items) :
    itemsOf other kinds twins = .ok items :=
  mapM_same same (fun _ _ _ twin read => atClause_ok (itemOf_alike twin.value (mapError_ok read))) done

theorem functionsOf_alike {signatures twins : List (Found Signature)}
    (same : List.Forall₂ (Found.Alike Signature.Alike text other) signatures twins)
    (done : functionsOf text kinds signatures = .ok functions) : functionsOf other kinds twins = .ok functions := by
  refine mapM_same same ?_ done
  intro signature twin function same read
  obtain ⟨name,parameters,returns⟩ := same.value
  rw [name,returns]
  exact atClause_ok (functionOf_loose parameters (mapError_ok read))

end

structure Layout.Alike (text other : List Char) (layout twin : Layout) : Prop where
  component : layout.component.Alike (fun name twin => twin = name) text other twin.component
  blocks : List.Forall₂ (Found.Alike Block.Alike text other) layout.blocks twin.blocks
  functions : List.Forall₂ (Found.Alike Signature.Alike text other) layout.functions twin.functions

section
variable {text other : List Char} {layout twin : Layout}

theorem scan_loose {recognise : Recogniser α} {Same : α → α → Prop} (starts : recognise.Starts) (ends : recognise.Ends)
    (respects : recognise.Respects Same) (loose : Loose text other) :
    List.Forall₂ (Found.Alike Same text other) (scan recognise text) (scan recognise other) :=
  scanFrom_follows starts ends respects loose [] [] false false rfl rfl rfl (by simp)

theorem layoutOf_loose (loose : Loose text other) (found : layoutOf text = .ok layout) :
    ∃ twin, layoutOf other = .ok twin ∧ layout.Alike text other twin := by
  have components := scan_loose componentClause_starts componentClause_ends componentClause_respects loose
  have blocks := scan_loose blockClause_starts blockClause_ends blockClause_respects loose
  have functions := scan_loose functionClause_starts functionClause_ends functionClause_respects loose
  unfold layoutOf at *
  split at found
  · cases found
  · rename_i component others all
    cases found
    rw [all] at components
    generalize scan componentClause other = clauses at components
    cases components with
    | cons first _ => exact ⟨_,rfl,first,blocks,functions⟩

theorem Layout.Alike.spans (same : layout.Alike text other twin) :
    List.Forall₂ (Span.Level text other) layout.spans twin.spans := by
  have levels {α : Type} {Same : α → α → Prop} {found others : List (Found α)}
      (all : List.Forall₂ (Found.Alike Same text other) found others) :
      List.Forall₂ (Span.Level text other) (found.map Found.span) (others.map Found.span) := by
    rw [List.forall₂_map_left_iff,List.forall₂_map_right_iff]
    exact all.imp fun _ _ twin => twin.level
  exact List.rel_append (.cons same.component.level (levels same.blocks)) (levels same.functions)

theorem readLayout_alike (same : layout.Alike text other twin) (done : readLayout text layout = .ok model) :
    readLayout other twin = .ok model := by
  obtain ⟨kinds,known,done⟩ := result_ok_parts done
  obtain ⟨items,read,done⟩ := result_ok_parts done
  obtain ⟨functions,others,done⟩ := result_ok_parts done
  rw [readLayout,result_ok (kindsOf_alike same.blocks known),result_ok (itemsOf_alike same.blocks read),
    result_ok (functionsOf_alike same.functions others),same.component.value]
  exact done

end

-- Reading apart from comments.
def readBare (text : List Char) : Except SyntaxError Model := do
  let layout ← layoutOf text
  checkStray text layout.spans
  readLayout text layout

theorem readChars_bare (text : List Char) : readChars text = readBare (dropComments text) := rfl

theorem readBare_loose (loose : Loose text other) (read : readBare text = .ok model) : readBare other = .ok model := by
  obtain ⟨layout,found,read⟩ := result_ok_parts read
  obtain ⟨_,covered,done⟩ := result_ok_parts read
  obtain ⟨twin,also,same⟩ := layoutOf_loose loose found
  have clear := checkStray_ok.mpr (covered_level loose.count same.spans (checkStray_ok.mp covered))
  rw [readBare,result_ok also,result_ok clear]
  exact readLayout_alike same done

end NativeBinding.Definition
