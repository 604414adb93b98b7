import NativeBinding.Proofs.Definition.Contents
import NativeBinding.Proofs.Definition.Shapes

namespace NativeBinding.Definition
open Text

def Recogniser.Starts (recognise : Recogniser α) : Prop := ∀ c rest, isWord c = false → recognise (c :: rest) = none

theorem Recogniser.starts_heading {recognise : Recogniser α} (taken : ∀ text found, recognise text = some found →
    ∃ begins name heading behind, Heading begins name heading ∧ text = heading ++ behind) : recognise.Starts := by
  intro c rest shown
  refine Option.eq_none_iff_forall_ne_some.mpr ?_
  intro found done
  obtain ⟨begins,name,heading,behind,shape,split⟩ := taken _ _ done
  obtain ⟨d,others,rfl,word⟩ := shape.starts
  cases split
  cases word.symm.trans shown

theorem componentClause_starts : Recogniser.Starts componentClause := by
  refine Recogniser.starts_heading fun text found done => ?_
  obtain ⟨heading,shape,split⟩ := componentClause_taken done
  exact ⟨_,_,heading,_,shape,split⟩

theorem blockClause_starts : Recogniser.Starts blockClause := by
  refine Recogniser.starts_heading fun text found done => ?_
  obtain ⟨heading,_,shape,_,_,split⟩ := blockClause_taken done
  exact ⟨_,_,heading,_,shape,split⟩

theorem functionClause_starts : Recogniser.Starts functionClause := by
  refine Recogniser.starts_heading fun text found done => ?_
  obtain ⟨heading,_,shape,_,_,split⟩ := functionClause_taken done
  exact ⟨_,_,heading,_,shape,split⟩

theorem componentClause_opens : Recogniser.Opens componentClause ';' := by
  refine ⟨fun c rest blank => componentClause_starts c rest (blank_apart blank),?_⟩
  intro text name rest found
  obtain ⟨heading,shape,rfl⟩ := componentClause_taken found
  rw [List.dropWhile_append_of_pos shape.loose]
  rfl

theorem componentClause_cuts : Recogniser.Cuts componentClause := by
  intro text name rest found
  obtain ⟨heading,_,rfl⟩ := componentClause_taken found
  exact ⟨heading ++ [';'],by simp⟩

theorem blockClause_cuts : Recogniser.Cuts blockClause := by
  intro text block rest found
  obtain ⟨heading,ending,_,_,_,rfl⟩ := blockClause_taken found
  exact ⟨heading ++ '\x7b' :: (block.body ++ '\x7d' :: ending),by simp⟩

theorem functionClause_cuts : Recogniser.Cuts functionClause := by
  intro text signature rest found
  obtain ⟨heading,tail,_,_,_,rfl⟩ := functionClause_taken found
  exact ⟨heading ++ '(' :: (signature.parameters ++ ')' :: tail),by simp⟩

-- A match that starts in front of another mark than its own starts behind it.
section
variable {recognise : Recogniser α} {front back left after : List Char} (matched : recognise (left ++ after) = some found)
include matched

theorem Recogniser.Opens.behind {mark : Char} (opens : recognise.Opens mark) (without : mark ∉ front)
    (tight : isLoose d = false) (other : d ≠ mark) (inside : left <:+ front ++ d :: back) : left <:+ back := by
  rw [List.append_cons] at inside
  rcases suffix_split inside with later | ⟨rest,within,rfl⟩
  · exact later
  · rcases List.eq_nil_or_concat rest with rfl | ⟨others,last,rfl⟩
    · exact List.suffix_refl _
    · obtain ⟨passed,same⟩ := within
      rw [List.concat_eq_append,← List.append_assoc] at same
      obtain ⟨rfl,ends⟩ := List.append_inj' same rfl
      cases ends
      have free : mark ∉ others := fun member => without (List.mem_append_right _ member)
      have none := opens.quiet free tight other (back ++ after)
      have some : recognise (others ++ d :: (back ++ after)) = some found := by simpa using matched
      cases none.symm.trans some

theorem Recogniser.Starts.behind (starts : recognise.Starts) (shown : ∀ c ∈ front, isWord c = false)
    (inside : left <:+ front ++ back) : left <:+ back := by
  rcases suffix_split inside with later | ⟨rest,within,rfl⟩
  · exact later
  · cases rest with
    | nil => exact List.suffix_refl _
    | cons c others =>
      have none := starts c (others ++ back ++ after) (shown c (within.subset List.mem_cons_self))
      cases none.symm.trans matched

theorem Tail.behind (form : Tail tail) (starts : recognise.Starts) (some : left ≠ []) (inside : left <:+ tail) :
    ∃ type space, (∀ c ∈ type, isTypeText c) ∧ (∀ c ∈ space, isBlank c) ∧ left = type ++ (space ++ [';']) := by
  obtain ⟨arrow,type,space,shown,typed,blank,rfl⟩ := form.parts
  have ending : ∀ c ∈ space ++ [';'], isWord c = false :=
    List.forall_mem_append.mpr ⟨fun c member => blank_apart (blank c member),List.forall_mem_singleton.mpr (by decide)⟩
  rcases suffix_split (starts.behind matched (fun c member => (shown c member).1) inside) with last | ⟨rest,within,rfl⟩
  · rw [← List.append_nil (space ++ [';'])] at last
    exact absurd (List.suffix_nil.mp (starts.behind matched ending last)) some
  · exact ⟨rest,space,fun c member => typed c (within.subset member),blank,rfl⟩

end

theorem blank_untyped (blank : isBlank c) : isTypeText c = false := by
  by_contra inside
  have solid := isTypeText_solid (Bool.eq_true_of_not_eq_false inside)
  simp [isGlue,blank] at solid

theorem second_word {first gap rest : List Char} (typed : ∀ c ∈ first, isTypeText c) (blank : ∀ c ∈ gap, isBlank c)
    (stops : gap = [] → ∀ c ∈ rest.head?, isTypeText c = false) :
    dropBlank ((first ++ (gap ++ rest)).dropWhile isTypeText) = dropBlank rest := by
  have ends : ∀ c ∈ (gap ++ rest).head?, isTypeText c = false := by
    cases gap with
    | nil => exact stops rfl
    | cons d others =>
      rintro c ⟨⟩
      exact blank_untyped (blank d List.mem_cons_self)
  rw [dropWhile_stops typed ends,dropBlank_blanks blank]

theorem blockClause_tail {type space : List Char} (typed : ∀ c ∈ type, isTypeText c) (blank : ∀ c ∈ space, isBlank c)
    (after : List Char) : blockClause (type ++ (space ++ [';']) ++ after) = none := by
  have typeless : '\x7b' ∉ type := fun member => absurd (typed _ member) (by decide)
  have spaceless : '\x7b' ∉ space := fun member => absurd (blank _ member) (by decide)
  have none : blockClause (type ++ space ++ ';' :: after) = none :=
    blockClause_opens.quiet (by simp [typeless,spaceless]) (by decide) (by decide) after
  simpa using none

theorem componentClause_tail {type space : List Char} (typed : ∀ c ∈ type, isTypeText c) (blank : ∀ c ∈ space, isBlank c)
    (after : List Char) : componentClause (type ++ (space ++ [';']) ++ after) = none := by
  refine Option.eq_none_iff_forall_ne_some.mpr ?_
  rintro ⟨name,rest⟩ found
  obtain ⟨heading,shape,split⟩ := componentClause_taken found
  obtain ⟨gap,others,between,spaced,_,rfl⟩ := shape.spaced
  obtain ⟨letter,letters,rfl⟩ := List.exists_cons_of_ne_nil shape.named.some
  have word := shape.named.all letter List.mem_cons_self
  have shown : isBlank letter = false := shape.named.solid.not_blank List.mem_cons_self
  have keyword : ∀ c ∈ "namespace".toList, isTypeText c := fun c member => by simp [isTypeText,shape.keyword.all c member]
  have one : dropBlank ((type ++ (space ++ ';' :: after)).dropWhile isTypeText) = dropBlank (';' :: after) :=
    second_word typed blank (by rintro _ _ ⟨⟩; decide)
  have two (rest : List Char) : dropBlank (("namespace".toList ++ (gap ++ rest)).dropWhile isTypeText) = dropBlank rest :=
    second_word keyword spaced (fun nothing => absurd nothing between)
  have same : type ++ (space ++ ';' :: after) =
      "namespace".toList ++ (gap ++ (letter :: letters ++ (others ++ ';' :: rest))) := by
    generalize "namespace".toList = begins at split
    simpa using split
  rw [same,two,List.cons_append,dropBlank_same shown,dropBlank_same (by decide)] at one
  cases one
  cases word

end NativeBinding.Definition
