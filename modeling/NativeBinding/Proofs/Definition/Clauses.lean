import NativeBinding.Proofs.Definition.Scanning

namespace NativeBinding.Definition
open Text

theorem blockKind_some {text rest : List Char} (found : blockKind text = some (kind,rest)) :
    exactly (Block.keyword kind) text = some rest := by
  obtain ⟨row,member,found⟩ := List.exists_of_findSome?_eq_some found
  obtain ⟨left,starts,same⟩ := Option.map_eq_some_iff.mp found
  cases same
  simp only [blockKinds,List.mem_cons,List.not_mem_nil,or_false] at member
  rcases member with rfl | rfl | rfl <;> exact starts

theorem blockKind_append (kind : Named) (rest : List Char) :
    blockKind (Block.keyword kind ++ rest) = some (kind,rest) := by
  cases kind <;> rfl

theorem blockClause_opens : Recogniser.Opens blockClause '\x7b' := by
  refine ⟨?_,?_⟩
  · intro c rest blank
    cases found : blockKind (c :: rest) with
    | none => simp [blockClause,found]
    | some pair =>
      have starts := blockKind_some found
      have shown : (Block.keyword pair.1).all (fun c => !isBlank c) := by cases pair.1 <;> decide
      have some : Block.keyword pair.1 ≠ [] := by cases pair.1 <;> decide
      rw [exactly_blank shown some blank] at starts
      cases starts
  · intro text value rest found
    simp only [blockClause,Option.bind_eq_bind,Option.bind_eq_some_iff] at found
    obtain ⟨⟨kind,first⟩,one,second,two,⟨name,third⟩,three,fourth,four,_⟩ := found
    have loose : (Block.keyword kind).all isLoose := by cases kind <;> decide
    exact heading_opens loose (by decide) (blockKind_some one) two three four

theorem functionClause_opens : Recogniser.Opens functionClause '(' := by
  refine ⟨?_,?_⟩
  · intro c rest blank
    have starts : exactly "fn".toList (c :: rest) = none := exactly_blank (by decide) (by decide) blank rest
    simp only [functionClause,starts]
    rfl
  · intro text value rest found
    simp only [functionClause,Option.bind_eq_bind,Option.bind_eq_some_iff] at found
    obtain ⟨first,one,second,two,⟨name,third⟩,three,fourth,four,_⟩ := found
    exact heading_opens (by decide) (by decide) one two three four

-- Characters that would end a body before its end, or open one of the other sort or a comment.
def isMark (c : Char) : Bool := ['\x7b','\x7d','(',')','/'].contains c

theorem isMark_glue (mark : isMark c) : isGlue c := by
  simp only [isMark,List.contains_cons,List.contains_nil,Bool.or_eq_true,beq_iff_eq,Bool.or_false] at mark
  rcases mark with rfl | rfl | rfl | rfl | rfl <;> decide

def IsUnmarked (text : List Char) : Prop := ∀ c ∈ text, isMark c = false

theorem IsUnmarked.not_mem {text : List Char} (unmarked : IsUnmarked text) (mark : isMark c) : c ∉ text := by
  intro member
  rw [unmarked c member] at mark
  cases mark

theorem solid_unmarked {text : List Char} (solid : Solid text) : IsUnmarked text := by
  intro c member
  by_contra mark
  exact solid.not_mem (isMark_glue (Bool.eq_true_of_not_eq_false mark)) member

structure Block.IsLegible (block : Block) : Prop where
  name : IsWordText block.name
  body : IsUnmarked block.body

structure Signature.IsLegible (signature : Signature) : Prop where
  name : IsWordText signature.name
  parameters : IsUnmarked signature.parameters
  returns : ∀ type ∈ signature.returns, type ≠ [] ∧ ∀ c ∈ type, isTypeText c

theorem blockClause_written {block : Block} (legible : block.IsLegible) (rest : List Char) :
    blockClause (block.written ++ rest) = some (block,rest) := by
  have split : block.written ++ rest = Block.keyword block.kind ++
      ' ' :: (block.name ++ ' ' :: '\x7b' :: (block.body ++ '\x7d' :: ';' :: rest)) := by simp [Block.written]
  have mark : exactly ['\x7b'] (dropBlank (' ' :: '\x7b' :: (block.body ++ '\x7d' :: ';' :: rest))) =
    some (block.body ++ '\x7d' :: ';' :: rest) := exactly_append ['\x7b'] _
  have body := upTo_first (legible.body.not_mem (by decide : isMark '\x7d')) (';' :: rest)
  have ending : blockEnd (';' :: rest) = rest := by
    have stays : dropBlank (';' :: rest) = ';' :: rest := dropBlank_same (by decide) rest
    rw [blockEnd,stays]
    simp [exactly]
  simp only [blockClause,split,blockKind_append,Option.bind_eq_bind,Option.bind_some,blanks_word legible.name,
    word_stops legible.name (by decide : isWord ' ' = false),mark,body,ending]
  rfl

theorem isTypeText_solid (inside : isTypeText c) : isGlue c = false := by
  rcases Bool.or_eq_true_iff.mp inside with word | mark
  · exact isWord_solid word
  · rw [beq_iff_eq.mp mark]
    decide

theorem resultClause_written {signature : Signature} (legible : signature.IsLegible) (rest : List Char) :
    resultClause (dropBlank (signature.result ++ ';' :: rest)) = some (signature.returns,';' :: rest) := by
  have stays : dropBlank (';' :: rest) = ';' :: rest := dropBlank_same (by decide) rest
  cases signature with
  | mk name parameters returns =>
    cases returns with
    | none =>
      rw [Signature.result,List.nil_append,stays]
      rfl
    | some type =>
      obtain ⟨some,all⟩ := legible.returns type rfl
      have stops : ∀ c ∈ (';' :: rest).head?, isTypeText c = false := by
        rintro c ⟨⟩
        decide
      have shown : type.isEmpty = false := by simpa using some
      have solid : Solid type := ⟨some,fun c member => isTypeText_solid (all c member)⟩
      have arrow : dropBlank (" -> ".toList ++ type ++ ';' :: rest) = "->".toList ++ ' ' :: (type ++ ';' :: rest) := rfl
      simp only [Signature.result,resultClause,arrow,exactly_append,solid.tight.dropBlank_spaced,run,takeWhile_stops all stops,
        dropWhile_stops all stops,shown,Bool.false_eq_true,if_false]
      exact congrArg (fun left => Option.some (Option.some type,left)) stays

theorem functionClause_written {signature : Signature} (legible : signature.IsLegible) (rest : List Char) :
    functionClause (signature.written ++ rest) = some (signature,rest) := by
  have split : signature.written ++ rest = "fn".toList ++
      ' ' :: (signature.name ++ '(' :: (signature.parameters ++ ')' :: (signature.result ++ ';' :: rest))) := by
    have spaced : "fn ".toList = "fn".toList ++ [' '] := rfl
    unfold Signature.written
    rw [spaced]
    generalize "fn".toList = begins
    simp
  have mark : exactly ['('] (dropBlank ('(' :: (signature.parameters ++ ')' :: (signature.result ++ ';' :: rest)))) =
    some (signature.parameters ++ ')' :: (signature.result ++ ';' :: rest)) := exactly_append ['('] _
  have parameters := upTo_first (legible.parameters.not_mem (by decide : isMark ')')) (signature.result ++ ';' :: rest)
  have ending : exactly [';'] (';' :: rest) = some rest := exactly_append [';'] rest
  simp only [functionClause,split,exactly_append,Option.bind_eq_bind,Option.bind_some,blanks_word legible.name,
    word_stops legible.name (by decide : isWord '(' = false),mark,parameters,resultClause_written legible,ending]
  rfl

theorem componentClause_written {component : String} (named : IsWordText component.toList) (rest : List Char) :
    componentClause (clause component ++ rest) = some (component.toList,rest) := by
  have split : clause component ++ rest = "namespace".toList ++ ' ' :: (component.toList ++ ';' :: rest) := by
    have spaced : "namespace ".toList = "namespace".toList ++ [' '] := by decide
    unfold clause
    rw [spaced]
    generalize "namespace".toList = begins
    simp
  have stays : dropBlank (';' :: rest) = ';' :: rest := dropBlank_same (by decide) rest
  have ending : exactly [';'] (';' :: rest) = some rest := exactly_append [';'] rest
  simp only [componentClause,split,exactly_append,Option.bind_eq_bind,Option.bind_some,blanks_word named,
    word_stops named (by decide : isWord ';' = false),stays,ending]
  rfl

end NativeBinding.Definition
