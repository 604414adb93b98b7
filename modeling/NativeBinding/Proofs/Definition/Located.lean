import NativeBinding.Proofs.Definition.FirstStray
import NativeBinding.Proofs.Definition.Lines
import NativeBinding.Proofs.Definition.Rereading

namespace NativeBinding
namespace Definition
open Text

variable {α β : Type}

def Found.name (block : Found Block) : String := String.ofList block.value.name

def FirstBad (check : α → Except Complaint β) (all : List α) (one : α) (complaint : Complaint) : Prop :=
  ∃ before after, all = before ++ one :: after ∧ (∀ earlier ∈ before, ∃ result, check earlier = .ok result) ∧
    check one = .error complaint

def FirstTaken (all : List (Found Block)) (one : Found Block) : Prop :=
  ∃ before after, all = before ++ one :: after ∧ (before.map Found.name).Nodup ∧
    (∀ name ∈ before.map Found.name, name ∉ plainWords.map Prod.fst) ∧
    (one.name ∈ before.map Found.name ∨ one.name ∈ plainWords.map Prod.fst)

def Found.Begins (recognise : Recogniser α) (text : List Char) (found : Found α) : Prop :=
  ∃ after, recognise (text.drop found.span.start) = some (found.value,after)

-- What a complaint is about begins at a place of a text without comments.
inductive Culprit (text : List Char) (layout : Layout) : Complaint → Nat → Prop
  | stray (first : FirstBare text layout.spans 0 position) (goes : GoesTo text layout.spans position stop) :
    Culprit text layout (.strayText (String.ofList ((text.drop position).take (stop - position)))) position
  | duplicate (begins : block.Begins blockClause text) (taken : FirstTaken layout.blocks block) :
    Culprit text layout (.duplicateDefinition block.name) block.span.start
  | block (begins : block.Begins blockClause text) (known : kindsOf text [] layout.blocks = .ok kinds)
    (bad : FirstBad (fun block => itemOf kinds block.value) layout.blocks block complaint) :
    Culprit text layout complaint block.span.start
  | function (begins : found.Begins functionClause text) (known : kindsOf text [] layout.blocks = .ok kinds)
    (sound : ∀ block ∈ layout.blocks, ∃ item, itemOf kinds block.value = .ok item)
    (bad : FirstBad (fun found => functionOf kinds (String.ofList found.value.name) found.value.parameters found.value.returns)
      layout.functions found complaint) : Culprit text layout complaint found.span.start

theorem atClause_error (failed : atClause text span result = .error error) : ∃ complaint,
    result = .error complaint ∧ error = ⟨complaint,some (lineAt text span.start)⟩ := by
  cases result with
  | ok a => cases failed
  | error complaint => cases failed; exact ⟨complaint,rfl,rfl⟩

theorem mapM_atClause_error {check : Found α → Except Complaint β} {all : List (Found α)}
    (failed : all.mapM (fun found => atClause text found.span (check found)) = .error error) : ∃ one complaint,
    FirstBad check all one complaint ∧ error = ⟨complaint,some (lineAt text one.span.start)⟩ := by
  obtain ⟨before,one,after,split,earlier,bad⟩ := mapM_error_parts failed
  obtain ⟨complaint,own,rfl⟩ := atClause_error bad
  refine ⟨one,complaint,⟨before,after,split,?_,own⟩,rfl⟩
  intro found member
  obtain ⟨result,done⟩ := earlier found member
  exact ⟨result,mapError_ok done⟩

theorem kindsOf_error {blocks : List (Found Block)} (failed : kindsOf text kinds blocks = .error error) :
    ∃ before one after known, blocks = before ++ one :: after ∧ kindsOf text kinds before = .ok known ∧
      (one.name ∈ known.map Prod.fst ∨ one.name ∈ plainWords.map Prod.fst) ∧
      error = ⟨.duplicateDefinition one.name,some (lineAt text one.span.start)⟩ := by
  induction blocks generalizing kinds with
  | nil => cases failed
  | cons block rest ih =>
    simp only [kindsOf] at failed
    split at failed
    · rename_i taken
      cases failed
      refine ⟨[],block,rest,kinds,rfl,rfl,?_,rfl⟩
      exact (Bool.or_eq_true_iff.mp taken).imp lookup_known lookup_known
    · rename_i free
      obtain ⟨before,one,after,known,rfl,done,taken,same⟩ := ih failed
      refine ⟨block :: before,one,after,known,rfl,?_,taken,same⟩
      simp only [kindsOf]
      rw [if_neg free]
      exact done

theorem kindsOf_taken {blocks : List (Found Block)} (failed : kindsOf text [] blocks = .error error) : ∃ one,
    one ∈ blocks ∧ FirstTaken blocks one ∧
    error = ⟨.duplicateDefinition one.name,some (lineAt text one.span.start)⟩ := by
  obtain ⟨before,one,after,known,rfl,done,taken,same⟩ := kindsOf_error failed
  obtain ⟨distinct,apart⟩ := kindsOf_fresh done List.nodup_nil nofun
  have names : known.map Prod.fst = before.map Found.name := by
    rw [kindsOf_ok done,List.nil_append,List.map_map]
    rfl
  rw [names] at distinct apart taken
  exact ⟨one,List.mem_append_right _ List.mem_cons_self,⟨before,after,rfl,distinct,apart,taken⟩,same⟩

theorem scan_begins {recognise : Recogniser α} (cuts : recognise.Cuts) (member : found ∈ scan recognise text)
    (shown : found.span.start < found.span.stop) : found.Begins recognise text ∧ found.span.start < text.length := by
  obtain ⟨before,taken,after,takes⟩ := scan_takes cuts member
  have start : text.drop found.span.start = taken ++ after := by
    rw [takes.span,takes.text]
    exact List.drop_left
  have within : found.span.stop ≤ text.length := by
    rw [takes.span,takes.text]
    simp
  exact ⟨⟨after,start ▸ takes.matched⟩,Nat.lt_of_lt_of_le shown within⟩

theorem FirstBad.member {check : α → Except Complaint β} (bad : FirstBad check all one complaint) : one ∈ all := by
  obtain ⟨before,after,rfl,_⟩ := bad
  exact List.mem_append_right _ List.mem_cons_self

section
variable {text : List Char} {layout : Layout} (found : layoutOf text = .ok layout)
include found

theorem block_begins (member : block ∈ layout.blocks) : block.Begins blockClause text ∧ block.span.start < text.length := by
  obtain ⟨_,blocks,_⟩ := layoutOf_scans found
  refine scan_begins blockClause_cuts (blocks ▸ member) (layoutOf_shown found block.span ?_)
  simp [Layout.spans,List.mem_map_of_mem member]

theorem function_begins (member : one ∈ layout.functions) : one.Begins functionClause text ∧ one.span.start < text.length := by
  obtain ⟨_,_,functions⟩ := layoutOf_scans found
  refine scan_begins functionClause_cuts (functions ▸ member) (layoutOf_shown found one.span ?_)
  simp [Layout.spans,List.mem_map_of_mem member]

-- Names are looked at before bodies, and bodies before functions: what comes first decides.
theorem readLayout_culprit (failed : readLayout text layout = .error ⟨complaint,some line⟩) : ∃ position,
    Culprit text layout complaint position ∧ position < text.length ∧ line = lineAt text position := by
  rcases result_error_parts failed with taken | ⟨kinds,known,failed⟩
  · obtain ⟨block,member,first,same⟩ := kindsOf_taken taken
    obtain ⟨begins,inside⟩ := block_begins found member
    cases same
    exact ⟨_,.duplicate begins first,inside,rfl⟩
  rcases result_error_parts failed with bad | ⟨items,read,failed⟩
  · obtain ⟨block,_,first,same⟩ := mapM_atClause_error bad
    obtain ⟨begins,inside⟩ := block_begins found first.member
    cases same
    exact ⟨_,.block begins known first,inside,rfl⟩
  rcases result_error_parts failed with bad | ⟨functions,_,failed⟩
  · obtain ⟨one,_,first,same⟩ := mapM_atClause_error bad
    obtain ⟨begins,inside⟩ := function_begins found first.member
    have sound : ∀ block ∈ layout.blocks, ∃ item, itemOf kinds block.value = .ok item := by
      intro block member
      obtain ⟨item,_,done⟩ := itemsOf_block read member
      exact ⟨item,done⟩
    cases same
    exact ⟨_,.function begins known sound first,inside,rfl⟩
  · split at failed <;> cases failed

end

theorem readBare_culprit (failed : readBare text = .error ⟨complaint,some line⟩) : ∃ layout position,
    layoutOf text = .ok layout ∧ Culprit text layout complaint position ∧ position < text.length ∧ line = lineAt text position := by
  rcases result_error_parts failed with missing | ⟨layout,found,failed⟩
  · unfold layoutOf at missing
    split at missing <;> cases missing
  refine ⟨layout,?_⟩
  rcases result_error_parts failed with stray | ⟨_,_,failed⟩
  · obtain ⟨position,stop,first,goes,same⟩ := checkStray_error stray
    cases same
    exact ⟨position,found,.stray first goes,first.bare.shown.inside,Nat.add_comm 1 _⟩
  · obtain ⟨position,culprit,inside,line⟩ := readLayout_culprit found failed
    exact ⟨position,found,culprit,inside,line⟩

end Definition

-- Without its comments a text has the lines it had, each with some of its characters left,
-- and an error is said to be on the line of the text itself on which what it blames begins.
theorem error_lines_original (text : String) :
    let bare := Definition.dropComments text.toList
    bare.count '\n' = text.toList.count '\n' ∧
    List.Forall₂ List.Sublist (Definition.lines bare) (Definition.lines text.toList) ∧
    (∃ origin, Definition.Places bare text.toList origin) ∧
    ∀ complaint line, Model.read text = .error ⟨complaint,some line⟩ → ∃ layout position,
      Definition.layoutOf bare = .ok layout ∧ Definition.Culprit bare layout complaint position ∧ position < bare.length ∧
      ∀ origin, Definition.Places bare text.toList origin → line = Definition.lineAt text.toList (origin position) := by
  have thinned := Definition.dropComments_thinned text.toList
  refine ⟨thinned.ends,thinned.each_line,List.sublist_iff_exists_orderEmbedding_getElem?_eq.mp thinned.kept,?_⟩
  intro complaint line failed
  obtain ⟨layout,position,found,culprit,inside,rfl⟩ := Definition.readBare_culprit failed
  exact ⟨layout,position,found,culprit,inside,fun origin places => places.line thinned position⟩

def commentedText : String := "// a /* b\nnamespace /* c\n d */ n; enum\nE \x7b A, A \x7d;"

theorem error_lines_original_sample : Model.read commentedText = .error ⟨.duplicateValue "A" "E",some 3⟩ ∧
    ∃ layout position, Definition.layoutOf (Definition.dropComments commentedText.toList) = .ok layout ∧
      Definition.Culprit (Definition.dropComments commentedText.toList) layout (.duplicateValue "A" "E") position ∧
      position < (Definition.dropComments commentedText.toList).length ∧
      ∀ origin, Definition.Places (Definition.dropComments commentedText.toList) commentedText.toList origin →
        3 = Definition.lineAt commentedText.toList (origin position) := by
  have failed : Model.read commentedText = .error ⟨.duplicateValue "A" "E",some 3⟩ := by cbv
  exact ⟨failed,(error_lines_original commentedText).2.2.2 _ _ failed⟩

end NativeBinding
