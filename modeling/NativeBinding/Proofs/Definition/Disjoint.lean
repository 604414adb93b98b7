import NativeBinding.Proofs.Definition.Formed
import NativeBinding.Proofs.Definition.Ranges

namespace NativeBinding
namespace Definition
open Text

def Found.Encloses (text : List Char) (block : Found Block) (inner : Span) : Prop :=
  ∃ heading ending, '\x7b' ∉ heading ∧ '\x7d' ∉ block.value.body ∧
    block.span.textIn text = heading ++ '\x7b' :: (block.value.body ++ '\x7d' :: ending) ∧
    block.span.start + heading.length < inner.start ∧
    inner.stop ≤ block.span.start + heading.length + 1 + block.value.body.length

section
variable {text before taken after : List Char}

theorem component_parts {one : Found (List Char)} (takes : one.Takes componentClause text before taken after) :
    ∃ heading, Heading "namespace".toList one.value heading ∧ taken = heading ++ [';'] := by
  obtain ⟨heading,shape,split⟩ := componentClause_taken takes.matched
  exact ⟨heading,shape,List.append_cancel_right (by simpa using split)⟩

theorem block_parts {one : Found Block} (takes : one.Takes blockClause text before taken after) : ∃ heading ending,
    Heading (Block.keyword one.value.kind) one.value.name heading ∧ '\x7d' ∉ one.value.body ∧
    (∀ c ∈ ending, isWord c = false) ∧ taken = heading ++ '\x7b' :: (one.value.body ++ '\x7d' :: ending) := by
  obtain ⟨heading,ending,shape,without,shown,split⟩ := blockClause_taken takes.matched
  exact ⟨heading,ending,shape,without,shown,List.append_cancel_right (by simpa using split)⟩

theorem function_parts {one : Found Signature} (takes : one.Takes functionClause text before taken after) : ∃ heading tail,
    Heading "fn".toList one.value.name heading ∧ Tail tail ∧
    taken = heading ++ '(' :: (one.value.parameters ++ ')' :: tail) := by
  obtain ⟨heading,tail,shape,_,form,split⟩ := functionClause_taken takes.matched
  exact ⟨heading,tail,shape,form,List.append_cancel_right (by simpa using split)⟩

end

theorem function_unclosed {one : Found Signature} (takes : one.Takes functionClause text before taken after)
    (without : '\x7d' ∉ one.value.parameters) : '\x7d' ∉ taken := by
  obtain ⟨heading,tail,shape,form,rfl⟩ := function_parts takes
  obtain ⟨arrow,type,space,shown,typed,blank,rfl⟩ := form.parts
  have arrowed : '\x7d' ∉ arrow := fun member => (shown _ member).2 rfl
  have typeless : '\x7d' ∉ type := fun member => absurd (typed _ member) (by decide)
  have spaceless : '\x7d' ∉ space := fun member => absurd (blank _ member) (by decide)
  have headless := shape.without (by decide : isLoose '\x7d' = false)
  simp [headless,without,arrowed,typeless,spaceless]

section
variable {second : Recogniser β} {mark : Char} (opens : second.Opens mark) (tight : isLoose mark = false)
  {text before taken after front own rest : List Char} {other : Found β}
  (others : other.Takes second text front own rest) (enters : Enters before taken after front own rest)
include opens tight others enters

theorem component_shut {one : Found (List Char)} (takes : one.Takes componentClause text before taken after)
    (apart : ';' ≠ mark) : False := by
  obtain ⟨heading,shape,rfl⟩ := component_parts takes
  obtain ⟨passed,left,cut,some,_,same⟩ := enters
  have matched := others.matched
  rw [same] at matched
  exact some (List.suffix_nil.mp (opens.behind matched (shape.without tight) (by decide) apart ⟨passed,cut.symm⟩))

variable (starts : second.Starts)
include starts

theorem function_shut {one : Found Signature} (takes : one.Takes functionClause text before taken after)
    (without : mark ∉ one.value.parameters) (first : mark ≠ '(') (last : ')' ≠ mark)
    (tails : ∀ type space after, (∀ c ∈ type, isTypeText c) → (∀ c ∈ space, isBlank c) →
      second (type ++ (space ++ [';']) ++ after) = none) : False := by
  obtain ⟨heading,tail,shape,form,rfl⟩ := function_parts takes
  obtain ⟨passed,left,cut,some,_,same⟩ := enters
  have matched := others.matched
  rw [same] at matched
  have free : mark ∉ heading ++ '(' :: one.value.parameters := by
    simpa using ⟨shape.without tight,first,without⟩
  have inside : left <:+ (heading ++ '(' :: one.value.parameters) ++ ')' :: tail := ⟨passed,by simpa using cut.symm⟩
  have later := opens.behind matched free (by decide) last inside
  obtain ⟨type,space,typed,blank,rfl⟩ := form.behind matched starts some later
  cases (tails type space after typed blank).symm.trans matched

theorem block_entered {one : Found Block} (takes : one.Takes blockClause text before taken after) (first : '\x7b' ≠ mark)
    (last : '\x7d' ≠ mark) (unclosed : '\x7d' ∉ own) : mark ∈ one.value.body ∧ one.Encloses text other.span := by
  have whole := takes.textIn
  have place := takes.span
  have spot := others.span
  obtain ⟨heading,ending,shape,without,shown,rfl⟩ := block_parts takes
  obtain ⟨passed,left,cut,some,rfl,same⟩ := enters
  have matched := others.matched
  rw [same] at matched
  have later := opens.behind matched (shape.without tight) (by decide) first ⟨passed,cut.symm⟩
  rcases suffix_split later with nothing | ⟨inner,⟨ahead,within⟩,rfl⟩
  · have apart : ∀ c ∈ '\x7d' :: ending, isWord c = false := List.forall_mem_cons.mpr ⟨by decide,shown⟩
    rw [← List.append_nil ('\x7d' :: ending)] at nothing
    exact absurd (List.suffix_nil.mp (starts.behind matched apart nothing)) some
  · have member : mark ∈ inner := by
      by_contra free
      have none := opens.quiet free (by decide) last (ending ++ after)
      rw [List.append_assoc,List.cons_append,none] at matched
      cases matched
    rw [List.append_assoc,List.cons_append] at same
    obtain ⟨more,rfl⟩ := prefix_before unclosed same
    have passes : passed = heading ++ '\x7b' :: ahead := by
      rw [← within] at cut
      exact List.append_cancel_right (by simpa using cut.symm)
    have length := congrArg List.length within
    simp only [List.length_append] at length
    refine ⟨within ▸ List.mem_append_right _ member,heading,ending,shape.without (by decide),without,whole,?_,?_⟩
    · simp [place,spot,passes]
    · simp [place,spot,passes]
      omega

end

structure Layout.Parted (text : List Char) (layout : Layout) : Prop where
  shown : ∀ span ∈ layout.spans, span.start < span.stop
  blocks : (layout.blocks.map Found.span).Pairwise Span.Apart
  functions : (layout.functions.map Found.span).Pairwise Span.Apart
  component : ∀ found ∈ layout.functions, layout.component.span.Apart found.span
  calls : ∀ block ∈ layout.blocks, ∀ found ∈ layout.functions, found.span.Apart block.span ∨
    block.value.kind = .object ∧ block.Encloses text found.span
  name : ∀ block ∈ layout.blocks, layout.component.span.Apart block.span ∨
    block.value.kind ≠ .enumeration ∧ block.Encloses text layout.component.span

theorem Span.Apart.symm {a b : Span} (apart : a.Apart b) : b.Apart a := Or.symm apart

theorem layoutOf_scans (found : layoutOf text = .ok layout) : layout.component ∈ scan componentClause text ∧
    layout.blocks = scan blockClause text ∧ layout.functions = scan functionClause text := by
  unfold layoutOf at found
  split at found
  · cases found
  · rename_i component others all
    cases found
    exact ⟨all ▸ List.mem_cons_self,rfl,rfl⟩

section
variable {text : List Char} {layout : Layout} (found : layoutOf text = .ok layout)
include found

theorem layoutOf_shown : ∀ span ∈ layout.spans, span.start < span.stop := by
  obtain ⟨component,blocks,functions⟩ := layoutOf_scans found
  simp only [Layout.spans,blocks,functions,List.cons_append,List.forall_mem_cons,List.forall_mem_append,List.forall_mem_map]
  refine ⟨?_,?_,?_⟩
  · obtain ⟨before,taken,after,takes⟩ := scan_takes componentClause_cuts component
    obtain ⟨heading,shape,rfl⟩ := component_parts takes
    simp [takes.span]
  · intro block member
    obtain ⟨before,taken,after,takes⟩ := scan_takes blockClause_cuts member
    obtain ⟨heading,ending,shape,_,_,rfl⟩ := block_parts takes
    simp [takes.span]
  · intro one member
    obtain ⟨before,taken,after,takes⟩ := scan_takes functionClause_cuts member
    obtain ⟨heading,tail,shape,_,rfl⟩ := function_parts takes
    simp [takes.span]

end

section
variable {text : List Char} {layout : Layout} {model : Model} (done : readLayout text layout = .ok model)
include done

theorem parameters_breaks {one : Found Signature} (member : one ∈ layout.functions) (breaks : IsBreak c)
    (inside : c ∈ one.value.parameters) : c = ',' := by
  obtain ⟨_,_,_,_,others,_⟩ := readLayout_ok done
  obtain ⟨function,_,own⟩ := forall₂_right (mapM_ok_parts others) member
  exact functionOf_breaks (mapError_ok own) breaks inside

theorem block_breaks {one : Found Block} (member : one ∈ layout.blocks) (breaks : IsBreak c) (inside : c ∈ one.value.body) :
    one.value.kind = .object ∨ one.value.kind = .enumeration ∧ c = ',' ∨ one.value.kind = .record ∧ c = ';' := by
  obtain ⟨_,_,_,read,_⟩ := readLayout_ok done
  obtain ⟨item,_,own⟩ := itemsOf_block read member
  exact itemOf_breaks own breaks inside

variable (found : layoutOf text = .ok layout)
include found

theorem component_apart_function {one : Found Signature} (member : one ∈ layout.functions) :
    layout.component.span.Apart one.span := by
  obtain ⟨component,_,functions⟩ := layoutOf_scans found
  obtain ⟨before,taken,after,takes⟩ := scan_takes componentClause_cuts component
  obtain ⟨front,own,rest,others⟩ := scan_takes functionClause_cuts (functions ▸ member)
  rcases apart_or_enters takes others with apart | enters | enters
  · exact apart
  · exact (component_shut functionClause_opens (by decide) others enters takes (by decide)).elim
  · have without : ';' ∉ one.value.parameters := by
      intro inside
      cases parameters_breaks done member ⟨by decide,by decide⟩ inside
    exact (function_shut componentClause_opens (by decide) takes enters componentClause_starts others without (by decide)
      (by decide) fun _ _ after typed blank => componentClause_tail typed blank after).elim

theorem function_apart_block {one : Found Signature} (member : one ∈ layout.functions) {block : Found Block}
    (present : block ∈ layout.blocks) : one.span.Apart block.span ∨
      block.value.kind = .object ∧ block.Encloses text one.span := by
  obtain ⟨_,blocks,functions⟩ := layoutOf_scans found
  obtain ⟨before,taken,after,takes⟩ := scan_takes functionClause_cuts (functions ▸ member)
  obtain ⟨front,own,rest,others⟩ := scan_takes blockClause_cuts (blocks ▸ present)
  have free {c : Char} (breaks : IsBreak c) (other : c ≠ ',') : c ∉ one.value.parameters :=
    fun inside => other (parameters_breaks done member breaks inside)
  rcases apart_or_enters takes others with apart | enters | enters
  · exact .inl apart
  · exact (function_shut blockClause_opens (by decide) others enters blockClause_starts takes
      (free ⟨by decide,by decide⟩ (by decide)) (by decide) (by decide)
      fun _ _ after typed blank => blockClause_tail typed blank after).elim
  · have unclosed := function_unclosed takes (free ⟨by decide,by decide⟩ (by decide))
    obtain ⟨inside,encloses⟩ := block_entered functionClause_opens (by decide) takes enters functionClause_starts others
      (by decide) (by decide) unclosed
    rcases block_breaks done present ⟨by decide,by decide⟩ inside with object | ⟨_,comma⟩ | ⟨_,semicolon⟩
    · exact .inr ⟨object,encloses⟩
    · cases comma
    · cases semicolon

theorem component_apart_block {block : Found Block} (present : block ∈ layout.blocks) :
    layout.component.span.Apart block.span ∨
      block.value.kind ≠ .enumeration ∧ block.Encloses text layout.component.span := by
  obtain ⟨component,blocks,_⟩ := layoutOf_scans found
  obtain ⟨before,taken,after,takes⟩ := scan_takes componentClause_cuts component
  obtain ⟨front,own,rest,others⟩ := scan_takes blockClause_cuts (blocks ▸ present)
  rcases apart_or_enters takes others with apart | enters | enters
  · exact .inl apart
  · exact (component_shut blockClause_opens (by decide) others enters takes (by decide)).elim
  · have unclosed : '\x7d' ∉ taken := by
      obtain ⟨heading,shape,rfl⟩ := component_parts takes
      simpa using shape.without (by decide)
    obtain ⟨inside,encloses⟩ := block_entered componentClause_opens (by decide) takes enters componentClause_starts others
      (by decide) (by decide) unclosed
    refine .inr ⟨?_,encloses⟩
    intro enumeration
    rcases block_breaks done present ⟨by decide,by decide⟩ inside with object | ⟨_,comma⟩ | ⟨record,_⟩
    · cases enumeration.symm.trans object
    · cases comma
    · cases enumeration.symm.trans record

theorem layout_parted : layout.Parted text := by
  obtain ⟨_,blocks,functions⟩ := layoutOf_scans found
  exact ⟨layoutOf_shown found,blocks ▸ scan_apart _ _,functions ▸ scan_apart _ _,
    fun one member => component_apart_function done found member,
    fun block present one member => function_apart_block done found member present,
    fun block present => component_apart_block done found present⟩

end

theorem Found.Encloses.not_apart {block : Found Block} {inner : Span} (encloses : block.Encloses text inner)
    (shown : inner.start < inner.stop) : ¬ inner.Apart block.span := by
  obtain ⟨heading,ending,_,_,whole,starts,stops⟩ := encloses
  have length := congrArg List.length whole
  simp only [Span.textIn,List.length_drop,List.length_take,List.length_append,List.length_cons] at length
  rw [Span.Apart]
  omega

theorem Layout.Parted.apart_iff {text : List Char} {layout : Layout} (parted : layout.Parted text) :
    layout.spans.Pairwise Span.Apart ↔ ∀ block ∈ layout.blocks, ¬ block.Encloses text layout.component.span ∧
      ∀ found ∈ layout.functions, ¬ block.Encloses text found.span := by
  have shown := parted.shown
  simp only [Layout.spans,List.cons_append,List.forall_mem_cons,List.forall_mem_append,List.forall_mem_map] at shown
  obtain ⟨component,_,functions⟩ := shown
  simp only [Layout.spans,List.cons_append,List.pairwise_cons,List.pairwise_append,List.forall_mem_append,List.forall_mem_map]
  refine ⟨?_,?_⟩
  · rintro ⟨⟨outside,_⟩,_,_,calls⟩ block member
    exact ⟨fun inside => inside.not_apart component (outside block member),
      fun found present inside => inside.not_apart (functions found present) (calls block member found present).symm⟩
  · intro free
    refine ⟨⟨?_,parted.component⟩,parted.blocks,parted.functions,?_⟩
    · intro block member
      exact (parted.name block member).resolve_right fun inside => (free block member).1 inside.2
    · intro block member found present
      exact ((parted.calls block member found present).resolve_right fun inside => (free block member).2 found present inside.2).symm

end Definition

-- No clause of an accepted text is read twice, but for what stands between the braces of an
-- object, and for a component clause between those of a record.
theorem Model.read_parted (read : Model.read text = .ok model) : ∃ layout,
    Definition.layoutOf (Definition.dropComments text.toList) = .ok layout ∧
    Definition.readLayout (Definition.dropComments text.toList) layout = .ok model ∧
    layout.Parted (Definition.dropComments text.toList) ∧
    (layout.spans.Pairwise Definition.Span.Apart ↔
      ∀ block ∈ layout.blocks, ¬ block.Encloses (Definition.dropComments text.toList) layout.component.span ∧
        ∀ found ∈ layout.functions, ¬ block.Encloses (Definition.dropComments text.toList) found.span) := by
  obtain ⟨layout,found,read⟩ := result_ok_parts read
  obtain ⟨_,_,done⟩ := result_ok_parts read
  have parted := Definition.layout_parted done found
  exact ⟨layout,found,done,parted,parted.apart_iff⟩

def nestedText : String := "namespace n; object O \x7b fn f(); \x7d;"

def nestedModel : Model := ⟨"n",[],[],[⟨"f",[],none⟩],["O"]⟩

def nestedLayout : Definition.Layout :=
  ⟨⟨⟨0,12⟩,['n']⟩,[⟨⟨13,34⟩,⟨.object,['O']," fn f(); ".toList⟩⟩],[⟨⟨24,31⟩,⟨['f'],[],none⟩⟩]⟩

theorem read_parted_sample : Model.read forwardText = .ok forwardModel ∧ ∃ layout,
    Definition.layoutOf (Definition.dropComments forwardText.toList) = .ok layout ∧
    layout.Parted (Definition.dropComments forwardText.toList) := by
  have read : Model.read forwardText = .ok forwardModel := by cbv
  obtain ⟨layout,found,_,parted,_⟩ := Model.read_parted read
  exact ⟨read,layout,found,parted⟩

theorem read_nested : Model.read nestedText = .ok nestedModel ∧
    Definition.layoutOf (Definition.dropComments nestedText.toList) = .ok nestedLayout ∧
    ¬ nestedLayout.spans.Pairwise Definition.Span.Apart := by
  refine ⟨by cbv,by cbv,?_⟩
  decide

end NativeBinding
