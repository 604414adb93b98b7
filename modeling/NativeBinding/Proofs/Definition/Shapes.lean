import NativeBinding.Proofs.Definition.Matching

namespace NativeBinding.Definition
open Text

section
variable {text rest : List Char}

theorem blanks_some (found : blanks text = some rest) :
    ∃ gap, gap ≠ [] ∧ (∀ c ∈ gap, isBlank c) ∧ text = gap ++ rest := by
  cases text with
  | nil => cases found
  | cons c others =>
    simp only [blanks] at found
    split at found
    · rename_i first
      cases found
      obtain ⟨gap,blank,split⟩ := dropBlank_some others
      have all : ∀ d ∈ c :: gap, isBlank d := List.forall_mem_cons.mpr ⟨first,blank⟩
      have same : dropBlank (c :: others) = dropBlank others := List.dropWhile_cons_of_pos first
      exact ⟨c :: gap,List.cons_ne_nil _ _,all,by rw [same,List.cons_append,← split]⟩
    · cases found

theorem run_some (found : run inside text = some (taken,rest)) :
    taken ≠ [] ∧ (∀ c ∈ taken, inside c) ∧ text = taken ++ rest := by
  simp only [run] at found
  split at found
  · cases found
  · rename_i some
    cases found
    exact ⟨by simpa using some,fun _ member => List.mem_takeWhile_imp member,List.takeWhile_append_dropWhile.symm⟩

theorem upTo_some (found : upTo close text = some (body,rest)) : close ∉ body ∧ text = body ++ close :: rest := by
  simp only [upTo] at found
  split at found
  · cases found
  · rename_i c others left
    cases found
    have ends : c = close := by
      have stops := List.head?_dropWhile_not (fun c => c != close) text
      rw [left] at stops
      simpa using stops
    subst ends
    refine ⟨?_,?_⟩
    · intro member
      simpa using List.mem_takeWhile_imp member
    · rw [← left]
      exact List.takeWhile_append_dropWhile.symm

end

structure Heading (begins name heading : List Char) : Prop where
  keyword : IsWordText begins
  named : IsWordText name
  spaced : ∃ gap space, gap ≠ [] ∧ (∀ c ∈ gap, isBlank c) ∧ (∀ c ∈ space, isBlank c) ∧
    heading = begins ++ (gap ++ (name ++ space))

namespace Heading
variable {begins name heading : List Char}

theorem loose (shape : Heading begins name heading) : ∀ c ∈ heading, isLoose c := by
  obtain ⟨gap,space,_,between,behind,rfl⟩ := shape.spaced
  intro c member
  rw [isLoose,Bool.or_eq_true]
  simp only [List.mem_append] at member
  rcases member with begins | gap | name | space
  · exact .inl (shape.keyword.all c begins)
  · exact .inr (between c gap)
  · exact .inl (shape.named.all c name)
  · exact .inr (behind c space)

theorem without (shape : Heading begins name heading) (tight : isLoose mark = false) : mark ∉ heading := by
  intro member
  rw [shape.loose mark member] at tight
  cases tight

theorem starts (shape : Heading begins name heading) : ∃ c others, heading = c :: others ∧ isWord c := by
  obtain ⟨gap,space,_,_,_,rfl⟩ := shape.spaced
  obtain ⟨c,others,rfl⟩ := List.exists_cons_of_ne_nil shape.keyword.some
  exact ⟨c,_,rfl,shape.keyword.all c List.mem_cons_self⟩

end Heading

theorem heading_taken {begins : List Char} (keyword : IsWordText begins) (one : exactly begins text = some first)
    (two : blanks first = some second) (three : word second = some (name,third))
    (four : exactly [mark] (dropBlank third) = some rest) :
    ∃ heading, Heading begins name heading ∧ text = heading ++ mark :: rest := by
  obtain ⟨gap,between,blank,split⟩ := blanks_some two
  obtain ⟨some,all,cut⟩ := run_some three
  obtain ⟨space,behind,last⟩ := dropBlank_some third
  refine ⟨begins ++ (gap ++ (name ++ space)),⟨keyword,⟨some,all⟩,gap,space,between,blank,behind,rfl⟩,?_⟩
  rw [exactly_some one,split,cut,last,exactly_some four]
  simp

theorem blockKeyword_word (kind : Named) : IsWordText (Block.keyword kind) := by
  cases kind <;> decide

-- What stands behind the parentheses of a function.
structure Tail (tail : List Char) : Prop where
  parts : ∃ arrow type space, (∀ c ∈ arrow, isWord c = false ∧ c ≠ '\x7d') ∧ (∀ c ∈ type, isTypeText c) ∧
    (∀ c ∈ space, isBlank c) ∧ tail = arrow ++ (type ++ (space ++ [';']))

section
variable {text rest : List Char}

theorem componentClause_taken (found : componentClause text = some (name,rest)) :
    ∃ heading, Heading "namespace".toList name heading ∧ text = heading ++ ';' :: rest := by
  simp only [componentClause,Option.bind_eq_bind,Option.bind_eq_some_iff] at found
  obtain ⟨first,one,second,two,⟨name,third⟩,three,fourth,four,same⟩ := found
  cases same
  exact heading_taken (by decide) one two three four

theorem blockEnd_taken (text : List Char) : ∃ ending, (∀ c ∈ ending, isWord c = false) ∧ text = ending ++ blockEnd text := by
  obtain ⟨space,blank,split⟩ := dropBlank_some text
  have spaced : ∀ c ∈ space, isWord c = false := fun c member => blank_apart (blank c member)
  cases last : exactly [';'] (dropBlank text) with
  | none => exact ⟨space,spaced,by simpa [blockEnd,last] using split⟩
  | some rest =>
    refine ⟨space ++ [';'],?_,?_⟩
    · exact List.forall_mem_append.mpr ⟨spaced,List.forall_mem_singleton.mpr (by decide)⟩
    · have same : blockEnd text = rest := by simp [blockEnd,last]
      rw [same,List.append_assoc,← exactly_some last]
      exact split

theorem blockClause_taken (found : blockClause text = some (block,rest)) : ∃ heading ending,
    Heading (Block.keyword block.kind) block.name heading ∧ '\x7d' ∉ block.body ∧ (∀ c ∈ ending, isWord c = false) ∧
    text = heading ++ '\x7b' :: (block.body ++ '\x7d' :: (ending ++ rest)) := by
  simp only [blockClause,Option.bind_eq_bind,Option.bind_eq_some_iff] at found
  obtain ⟨⟨kind,first⟩,one,second,two,⟨name,third⟩,three,fourth,four,⟨body,fifth⟩,five,same⟩ := found
  cases same
  obtain ⟨heading,shape,split⟩ := heading_taken (blockKeyword_word kind) (blockKind_some one) two three four
  obtain ⟨without,cut⟩ := upTo_some five
  obtain ⟨ending,shown,last⟩ := blockEnd_taken fifth
  exact ⟨heading,ending,shape,without,shown,by rw [split,cut,← last]⟩

theorem resultClause_taken (found : resultClause (dropBlank text) = some (returns,first))
    (ends : exactly [';'] first = some rest) : ∃ tail, Tail tail ∧ text = tail ++ rest := by
  obtain ⟨space,blank,split⟩ := dropBlank_some text
  have apart {gap : List Char} (blank : ∀ c ∈ gap, isBlank c) : ∀ c ∈ gap, isWord c = false ∧ c ≠ '\x7d' := by
    intro c member
    refine ⟨blank_apart (blank c member),?_⟩
    rintro rfl
    exact absurd (blank _ member) (by decide)
  simp only [resultClause] at found
  split at found
  · cases found
    refine ⟨space ++ [';'],⟨[],[],space,by simp,by simp,blank,rfl⟩,?_⟩
    rw [List.append_assoc,← exactly_some ends]
    exact split
  · rename_i second arrow
    have arrow := exactly_some arrow
    simp only [Option.bind_eq_bind,Option.bind_eq_some_iff] at found
    obtain ⟨⟨type,third⟩,typed,same⟩ := found
    cases same
    obtain ⟨gap,between,cut⟩ := dropBlank_some second
    obtain ⟨_,all,own⟩ := run_some typed
    obtain ⟨others,behind,last⟩ := dropBlank_some third
    have shown : ∀ c ∈ "->".toList, isWord c = false ∧ c ≠ '\x7d' :=
      List.forall_mem_cons.mpr ⟨by decide,List.forall_mem_singleton.mpr (by decide)⟩
    generalize "->".toList = mark at arrow shown
    refine ⟨space ++ mark ++ gap ++ (type ++ (others ++ [';'])),⟨_,type,others,?_,all,behind,rfl⟩,?_⟩
    · exact List.forall_mem_append.mpr ⟨List.forall_mem_append.mpr ⟨apart blank,shown⟩,apart between⟩
    · rw [split,arrow,cut,own,last,exactly_some ends]
      simp

theorem functionClause_taken (found : functionClause text = some (signature,rest)) : ∃ heading tail,
    Heading "fn".toList signature.name heading ∧ ')' ∉ signature.parameters ∧ Tail tail ∧
    text = heading ++ '(' :: (signature.parameters ++ ')' :: (tail ++ rest)) := by
  simp only [functionClause,Option.bind_eq_bind,Option.bind_eq_some_iff] at found
  obtain ⟨first,one,second,two,⟨name,third⟩,three,fourth,four,⟨parameters,fifth⟩,five,⟨returns,sixth⟩,six,seventh,seven,same⟩ :=
    found
  cases same
  obtain ⟨heading,shape,split⟩ := heading_taken (by decide) one two three four
  obtain ⟨without,cut⟩ := upTo_some five
  obtain ⟨tail,form,last⟩ := resultClause_taken six seven
  exact ⟨heading,tail,shape,without,form,by rw [split,cut,← last]⟩

end
end NativeBinding.Definition
