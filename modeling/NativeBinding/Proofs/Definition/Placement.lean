import NativeBinding.Definition.Read
import NativeBinding.Proofs.Definition.Clauses
import NativeBinding.Proofs.Definition.Comments

namespace NativeBinding.Definition
open Text

namespace Block

theorem written_ended (block : Block) : IsEnded block.written :=
  ⟨keyword block.kind ++ ' ' :: block.name ++ [' ','\x7b'] ++ block.body ++ ['\x7d'],by simp [written]⟩

theorem IsLegible.free {block : Block} (legible : block.IsLegible) (mark : c = '(' ∨ c = '/') : c ∉ block.written := by
  have word : c ∉ keyword block.kind := by cases block.kind <;> rcases mark with rfl | rfl <;> decide
  have name : c ∉ block.name := legible.name.solid.not_mem (by rcases mark with rfl | rfl <;> decide)
  have body : c ∉ block.body := legible.body.not_mem (by rcases mark with rfl | rfl <;> decide)
  rcases mark with rfl | rfl <;> simp [written,word,name,body]

end Block

namespace Signature

theorem written_ended (signature : Signature) : IsEnded signature.written := ⟨_,rfl⟩

theorem IsLegible.free {signature : Signature} (legible : signature.IsLegible) (mark : c = '\x7b' ∨ c = '/') :
    c ∉ signature.written := by
  have name : c ∉ signature.name := legible.name.solid.not_mem (by rcases mark with rfl | rfl <;> decide)
  have parameters : c ∉ signature.parameters := legible.parameters.not_mem (by rcases mark with rfl | rfl <;> decide)
  have result : c ∉ signature.result := by
    unfold result
    split
    · exact List.not_mem_nil
    · rename_i type same
      obtain ⟨some,all⟩ := legible.returns type same
      have type : c ∉ type := by
        intro member
        have solid := isTypeText_solid (all c member)
        rcases mark with rfl | rfl <;> cases solid
      have arrow : c ∉ " -> ".toList := by rcases mark with rfl | rfl <;> decide
      exact List.not_mem_append arrow type
  have word : c ∉ "fn ".toList := by rcases mark with rfl | rfl <;> decide
  unfold written
  generalize "fn ".toList = begins at word
  rcases mark with rfl | rfl <;> simp [word,name,parameters,result]

end Signature

namespace Entry

def block? (entry : Entry) : Option Block := entry.item?.map Item.block

def signature? (entry : Entry) : Option Signature := entry.function?.map signatureOf

def IsLegible : Entry → Prop
  | .item found => found.block.IsLegible
  | .function found => (signatureOf found).IsLegible

theorem written_ended (entry : Entry) : IsEnded entry.written := by
  cases entry with
  | item found => exact found.block.written_ended
  | function found => exact (signatureOf found).written_ended

end Entry

theorem before_iff {a b : Span} : a.before b ↔ a.start < b.start ∨ a.start = b.start ∧ a.stop ≤ b.stop := by
  simp only [Span.before,Bool.or_eq_true,Bool.and_eq_true,decide_eq_true_eq,beq_iff_eq]

theorem before_of_le {a b : Span} (one : a.start ≤ a.stop) (between : a.stop ≤ b.start) (other : b.start ≤ b.stop) :
    a.before b := by
  rw [before_iff]
  omega

theorem before_trans (a b c : Span) (one : a.before b) (two : b.before c) : a.before c := by
  rw [before_iff] at *
  omega

theorem before_total (a b : Span) : a.before b || b.before a := by
  rw [Bool.or_eq_true,before_iff,before_iff]
  omega

theorem before_antisymm {a b : Span} (one : a.before b) (two : b.before a) : a = b := by
  obtain ⟨start,stop⟩ := a
  obtain ⟨first,last⟩ := b
  rw [before_iff] at one two
  simp only [Span.mk.injEq] at *
  omega

def Found.pick? (pick : α → Option β) (found : Found α) : Option (Found β) :=
  (pick found.value).map (fun value => ⟨found.span,value⟩)

section
variable (gap : List Char)

def placed (position : Nat) : List Entry → List (Found Entry)
  | [] => []
  | entry :: rest =>
    let start := position + gap.length
    ⟨⟨start,start + entry.written.length⟩,entry⟩ :: placed (start + entry.written.length) rest

theorem placed_values (position : Nat) (entries : List Entry) : (placed gap position entries).map Found.value = entries := by
  induction entries generalizing position with
  | nil => rfl
  | cons entry rest ih => rw [placed,List.map_cons,ih]

theorem placed_from {entries : List Entry} (member : found ∈ placed gap position entries) :
    position ≤ found.span.start ∧ found.span.start ≤ found.span.stop := by
  induction entries generalizing position with
  | nil => cases member
  | cons entry rest ih =>
    rcases List.mem_cons.mp member with rfl | later
    · exact ⟨Nat.le_add_right _ _,Nat.le_add_right _ _⟩
    · have bound := ih later
      omega

theorem placed_pairwise (position : Nat) (entries : List Entry) :
    ((placed gap position entries).map Found.span).Pairwise (fun a b => a.before b) := by
  induction entries generalizing position with
  | nil => exact List.Pairwise.nil
  | cons entry rest ih =>
    refine List.pairwise_cons.mpr ⟨?_,ih _⟩
    intro span member
    obtain ⟨found,present,rfl⟩ := List.mem_map.mp member
    obtain ⟨between,other⟩ := placed_from gap present
    exact before_of_le (Nat.le_add_right _ _) between other

end

theorem placed_spans (found : List (Found Entry)) : ((found.filterMap (Found.pick? Entry.block?)).map Found.span ++
    (found.filterMap (Found.pick? Entry.signature?)).map Found.span).Perm (found.map Found.span) := by
  induction found with
  | nil => exact .refl _
  | cons one rest ih =>
    obtain ⟨span,entry⟩ := one
    cases entry with
    | item found => exact ih.cons span
    | function found => exact List.perm_middle.trans (ih.cons span)

section
variable {gap : List Char} (blank : ∀ c ∈ gap, isBlank c)
include blank

-- A scan finds the definitions of its own sort at their places, if it recognises each of
-- them and its mark stands in no other.
theorem scanFrom_placed {recognise : Recogniser α} (opens : Recogniser.Opens recognise mark) {pick : Entry → Option α}
    {entries : List Entry} (own : ∀ entry ∈ entries, ∀ value ∈ pick entry, ∀ rest,
      recognise (entry.written ++ rest) = some (value,rest))
    (other : ∀ entry ∈ entries, pick entry = none → mark ∉ entry.written) (position : Nat) :
    scanFrom recognise position false 0 (entries.flatMap (fun entry => gap ++ entry.written)) =
      (placed gap position entries).filterMap (Found.pick? pick) := by
  induction entries generalizing position with
  | nil => rfl
  | cons entry rest ih =>
    obtain ⟨first,own⟩ := List.forall_mem_cons.mp own
    obtain ⟨without,other⟩ := List.forall_mem_cons.mp other
    rw [List.flatMap_cons,List.append_assoc,opens.scan_blanks blank,placed,List.filterMap_cons,Found.pick?]
    cases picked : pick entry with
    | none =>
      rw [opens.scan_pass entry.written_ended (without picked),ih own other]
      rfl
    | some value =>
      rw [scanFrom_match entry.written_ended (first value picked _),ih own other]
      rfl

theorem blocks_placed {entries : List Entry} (legible : ∀ entry ∈ entries, entry.IsLegible) (position : Nat) :
    scanFrom blockClause position false 0 (entries.flatMap (fun entry => gap ++ entry.written)) =
      (placed gap position entries).filterMap (Found.pick? Entry.block?) := by
  refine scanFrom_placed blank blockClause_opens ?_ ?_ position
  · intro entry member block picked rest
    cases entry with
    | item found => cases picked; exact blockClause_written (legible _ member) rest
    | function found => cases picked
  · intro entry member missing
    cases entry with
    | item found => cases missing
    | function found => exact (legible _ member : (signatureOf found).IsLegible).free (.inl rfl)

theorem functions_placed {entries : List Entry} (legible : ∀ entry ∈ entries, entry.IsLegible) (position : Nat) :
    scanFrom functionClause position false 0 (entries.flatMap (fun entry => gap ++ entry.written)) =
      (placed gap position entries).filterMap (Found.pick? Entry.signature?) := by
  refine scanFrom_placed blank functionClause_opens ?_ ?_ position
  · intro entry member signature picked rest
    cases entry with
    | item found => cases picked
    | function found => cases picked; exact functionClause_written (legible _ member) rest
  · intro entry member missing
    cases entry with
    | item found => exact (legible _ member : found.block.IsLegible).free (.inl rfl)
    | function found => cases missing

theorem sweep_placed {front : List Char} {entries : List Entry} :
    sweep (front ++ entries.flatMap (fun entry => gap ++ entry.written)) front.length
      ((placed gap front.length entries).map Found.span) = none := by
  induction entries generalizing front with
  | nil => simp [placed,sweep,strayIn,dropBlank]
  | cons entry rest ih =>
    have nothing : strayIn gap front.length = none := by
      have dropped := dropBlank_blanks blank []
      rw [List.append_nil] at dropped
      rw [strayIn,dropped]
      rfl
    have next := @ih (front ++ gap ++ entry.written)
    have length : (front ++ gap ++ entry.written).length = front.length + gap.length + entry.written.length := by simp; omega
    have far : max front.length (front.length + gap.length + entry.written.length) =
        front.length + gap.length + entry.written.length := by omega
    rw [length] at next
    rw [placed,List.map_cons,sweep,List.drop_left,List.flatMap_cons,List.append_assoc,Nat.add_sub_cancel_left,
      List.take_left,nothing,far,Option.none_or,← next]
    simp

end

def layoutFor (gap : List Char) (component : String) (entries : List Entry) : Layout :=
  let found := placed gap (clause component).length entries
  ⟨⟨⟨0,(clause component).length⟩,component.toList⟩,found.filterMap (Found.pick? Entry.block?),
    found.filterMap (Found.pick? Entry.signature?)⟩

theorem written_spans (gap : List Char) (component : String) (entries : List Entry) :
    (layoutFor gap component entries).spans.mergeSort Span.before =
      ⟨0,(clause component).length⟩ :: (placed gap (clause component).length entries).map Found.span := by
  have same : (layoutFor gap component entries).spans.Perm
      (⟨0,(clause component).length⟩ :: (placed gap (clause component).length entries).map Found.span) :=
    (placed_spans _).cons _
  have ordered : (Span.mk 0 (clause component).length ::
      (placed gap (clause component).length entries).map Found.span).Pairwise (fun a b => a.before b) := by
    refine List.pairwise_cons.mpr ⟨?_,placed_pairwise gap _ entries⟩
    intro span member
    obtain ⟨found,present,rfl⟩ := List.mem_map.mp member
    exact before_of_le (Nat.zero_le _) (placed_from gap present).1 (placed_from gap present).2
  have sorted : ((layoutFor gap component entries).spans.mergeSort Span.before).Pairwise (fun a b => a.before b) :=
    List.pairwise_mergeSort before_trans before_total _
  exact ((List.mergeSort_perm _ _).trans same).eq_of_pairwise (fun _ _ _ _ => before_antisymm) sorted ordered

theorem written_covered {gap : List Char} (blank : ∀ c ∈ gap, isBlank c) (component : String) (entries : List Entry) :
    checkStray (written gap component entries) (layoutFor gap component entries).spans = .ok () := by
  have spaced : max 0 (clause component).length = (clause component).length := Nat.zero_max _
  have nothing : strayIn [] 0 = none := rfl
  rw [checkStray,stray?,written_spans,sweep,spaced,List.drop_zero,Nat.sub_self,List.take_zero,nothing,
    Option.none_or,written,sweep_placed blank]

section
variable {component : String} (named : IsWordText component.toList)
include named

theorem clause_free (mark : c = '\x7b' ∨ c = '(' ∨ c = '/') : c ∉ clause component := by
  have name : c ∉ component.toList := named.solid.not_mem (by rcases mark with rfl | rfl | rfl <;> decide)
  have word : c ∉ "namespace ".toList := by rcases mark with rfl | rfl | rfl <;> decide
  have ending : c ∉ [';'] := by rcases mark with rfl | rfl | rfl <;> decide
  exact List.not_mem_append (List.not_mem_append word name) ending

variable {gap : List Char} (blank : ∀ c ∈ gap, isBlank c) {entries : List Entry}
  (legible : ∀ entry ∈ entries, entry.IsLegible)
include blank legible

theorem layoutOf_written : layoutOf (written gap component entries) = .ok (layoutFor gap component entries) := by
  have ended : IsEnded (clause component) := ⟨_,rfl⟩
  have first := scanFrom_match ended (componentClause_written named (entries.flatMap (fun entry => gap ++ entry.written))) 0
  have blocks := blockClause_opens.scan_pass ended (clause_free named (.inl rfl)) 0
    (entries.flatMap (fun entry => gap ++ entry.written))
  have functions := functionClause_opens.scan_pass ended (clause_free named (.inr (.inl rfl))) 0
    (entries.flatMap (fun entry => gap ++ entry.written))
  rw [blocks_placed blank legible] at blocks
  rw [functions_placed blank legible] at functions
  simp only [Nat.zero_add] at first blocks functions
  simp only [layoutOf,scan,written,first,blocks,functions,layoutFor]

theorem written_uncommented : dropComments (written gap component entries) = written gap component entries := by
  refine (uncommented_free ?_).dropped
  intro member
  rcases List.mem_append.mp member with first | later
  · exact clause_free named (.inr (.inr rfl)) first
  · obtain ⟨entry,present,inside⟩ := List.mem_flatMap.mp later
    rcases List.mem_append.mp inside with between | own
    · have slash := blank _ between
      revert slash
      decide
    · have free := legible entry present
      cases entry with
      | item found => exact Block.IsLegible.free free (.inr rfl) own
      | function found => exact Signature.IsLegible.free free (.inr rfl) own

end
end NativeBinding.Definition
