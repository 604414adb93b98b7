import NativeBinding.Definition.Comment
import NativeBinding.Proofs.Text.Spacing

namespace NativeBinding.Definition
open Text

inductive Comment
  | line (content : List Char)
  | block (content : List Char)
deriving DecidableEq,Repr

namespace Comment

def text : Comment → List Char
  | line content => '/' :: '/' :: (content ++ ['\n'])
  | block content => '/' :: '*' :: (content ++ ['*','/'])

def IsFormed : Comment → Prop
  | line content => '\n' ∉ content
  | block content => ¬ ['*','/'] <:+: content

-- Two slashes in a block comment have the end of a line behind them, in the comment.
def IsClear : Comment → Prop
  | line _ => True
  | block content => ∀ before after, content = before ++ '/' :: '/' :: after → '\n' ∈ after

end Comment

-- A text with comments put in at blanks. The blank is written again behind each of them.
inductive Filled (allowed : Comment → Prop) : List Char → List Char → Prop
  | nil : Filled allowed [] []
  | keep (c : Char) : Filled allowed rest other → Filled allowed (c :: rest) (c :: other)
  | fill (blank : isBlank c) (member : allowed comment) : Filled allowed (c :: rest) (c :: other) →
      Filled allowed (c :: rest) (c :: (comment.text ++ c :: other))

structure Uncommented (text : List Char) : Prop where
  line : ¬ ['/','/'] <:+: text
  block : ¬ ['/','*'] <:+: text

def Unended (content : List Char) : Prop := ∃ before after, content = before ++ '/' :: '/' :: after ∧ '\n' ∉ after

instance (text : List Char) : Decidable (Uncommented text) :=
  decidable_of_iff (¬ ['/','/'] <:+: text ∧ ¬ ['/','*'] <:+: text) ⟨fun free => ⟨free.1,free.2⟩,fun free => ⟨free.line,free.block⟩⟩

instance : (comment : Comment) → Decidable comment.IsFormed
  | .line content => inferInstanceAs (Decidable ('\n' ∉ content))
  | .block content => inferInstanceAs (Decidable (¬ ['*','/'] <:+: content))

theorem pair_within {text : List Char} : [a,b] <:+: c :: text ↔ c = a ∧ text.head? = some b ∨ [a,b] <:+: text := by
  rw [List.infix_cons_iff,List.cons_prefix_cons,eq_comm]
  refine or_congr_left (and_congr_right fun _ => ?_)
  cases text with
  | nil => simp
  | cons d rest => rw [List.cons_prefix_cons,List.head?_cons,Option.some_inj,eq_comm,and_iff_left List.nil_prefix]

theorem closes_iff {text : List Char} : closes text ↔ ['*','/'] <:+: text := by
  induction text with
  | nil => simp [closes]
  | cons c rest ih => rw [closes,Bool.or_eq_true,Bool.and_eq_true,beq_iff_eq,beq_iff_eq,ih,pair_within]

theorem Comment.isClear_iff {content : List Char} : (block content).IsClear ↔ ¬ Unended content := by
  simp only [IsClear,Unended,not_exists,not_and,not_not]

def inLine : Bool → List Char → Bool
  | inside,[] => inside
  | true,c :: rest => if c == '\n' then inLine false rest else inLine true rest
  | false,c :: rest => if c == '/' && rest.head? == some '/' then inLine true rest else inLine false rest

theorem unended_cons : Unended (c :: rest) ↔ (c = '/' ∧ rest.head? = some '/' ∧ '\n' ∉ rest) ∨ Unended rest := by
  constructor
  · rintro ⟨before,after,split,without⟩
    cases before with
    | nil =>
      cases split
      exact .inl ⟨rfl,rfl,by simp [without]⟩
    | cons d more =>
      cases split
      exact .inr ⟨more,after,rfl,without⟩
  · rintro (⟨rfl,first,without⟩ | ⟨before,after,rfl,without⟩)
    · obtain ⟨after,rfl⟩ := List.head?_eq_some_iff.mp first
      exact ⟨[],after,rfl,fun member => without (List.mem_cons_of_mem _ member)⟩
    · exact ⟨c :: before,after,rfl,without⟩

theorem inLine_iff {content : List Char} : inLine inside content ↔ (inside ∧ '\n' ∉ content) ∨ Unended content := by
  induction content generalizing inside with
  | nil => simp [inLine,Unended]
  | cons c rest ih =>
    rw [unended_cons]
    cases inside with
    | true =>
      by_cases last : c = '\n'
      · simp [inLine,last,ih]
      · simp [inLine,last,ih,Ne.symm last]
        tauto
    | false =>
      by_cases opens : c = '/' ∧ rest.head? = some '/'
      · simp [inLine,opens,ih]
      · simp [inLine,opens,ih]
        tauto

theorem Comment.clear_outside {content : List Char} : (block content).IsClear ↔ inLine false content = false := by
  rw [isClear_iff,Bool.eq_false_iff,ne_eq,inLine_iff]
  simp

instance : (comment : Comment) → Decidable comment.IsClear
  | .line _ => inferInstanceAs (Decidable True)
  | .block _ => decidable_of_iff _ Comment.clear_outside.symm

section
variable {content rest : List Char}

theorem dropLineComments_append (other : c ≠ '/') : dropLineComments inside (content ++ c :: rest) =
    dropLineComments inside content ++ dropLineComments (inLine inside content) (c :: rest) := by
  induction content generalizing inside with
  | nil => cases inside <;> rfl
  | cons d more ih =>
    cases inside with
    | true =>
      rw [List.cons_append,dropLineComments,dropLineComments,inLine]
      split
      · rw [ih,List.cons_append]
      · exact ih
    | false =>
      have next : ((more ++ c :: rest).head? == some '/') = (more.head? == some '/') := by
        cases more with
        | nil => simpa using other
        | cons => rfl
      rw [List.cons_append,dropLineComments,dropLineComments,inLine,next]
      split
      · exact ih
      · rw [ih,List.cons_append]

theorem dropLineComments_inside (without : '\n' ∉ content) :
    dropLineComments true (content ++ rest) = dropLineComments true rest := by
  induction content with
  | nil => rfl
  | cons c more ih =>
    obtain ⟨first,without⟩ := List.ne_and_not_mem_of_not_mem_cons without
    have other : (c == '\n') = false := beq_eq_false_iff_ne.mpr first.symm
    simp only [List.cons_append,dropLineComments,other,Bool.false_eq_true,if_false,ih without]

theorem dropLineComments_first {text : List Char} (first : (dropLineComments inside text).head? = some c) :
    c = '\n' ∨ inside = false ∧ text.head? = some c := by
  induction text generalizing inside with
  | nil => cases inside <;> cases first
  | cons d rest ih =>
    cases inside with
    | true =>
      rw [dropLineComments] at first
      split at first
      · rename_i last
        cases first
        exact .inl (beq_iff_eq.mp last)
      · exact (ih first).imp_right fun later => by cases later.1
    | false =>
      rw [dropLineComments] at first
      split at first
      · exact (ih first).imp_right fun later => by cases later.1
      · exact .inr ⟨rfl,first⟩

-- Dropping line comments brings no end of a block comment about: the end of the line stays.
theorem dropLineComments_open (without : ¬ ['*','/'] <:+: content) : ¬ ['*','/'] <:+: dropLineComments inside content := by
  induction content generalizing inside with
  | nil => cases inside <;> exact without
  | cons c more ih =>
    rw [pair_within,not_or] at without
    obtain ⟨apart,without⟩ := without
    cases inside with
    | true =>
      rw [dropLineComments]
      split
      · rename_i last
        rw [pair_within,beq_iff_eq.mp last,not_or]
        exact ⟨fun star => absurd star.1 (by decide),ih without⟩
      · exact ih without
    | false =>
      rw [dropLineComments]
      split
      · exact ih without
      · rw [pair_within,not_or]
        refine ⟨?_,ih without⟩
        rintro ⟨star,slash⟩
        rcases dropLineComments_first slash with last | ⟨_,first⟩
        · exact absurd last (by decide)
        · exact apart ⟨star,first⟩

theorem dropBlockComments_inside (without : ¬ ['*','/'] <:+: content) :
    dropBlockComments .inside (content ++ '*' :: '/' :: rest) = content.filter (fun c => c == '\n') ++
      dropBlockComments .outside rest := by
  induction content with
  | nil => rfl
  | cons c more ih =>
    rw [pair_within,not_or] at without
    obtain ⟨apart,without⟩ := without
    have open' : ¬ (c == '*' && (more ++ '*' :: '/' :: rest).head? == some '/') := by
      rw [Bool.and_eq_true,beq_iff_eq,beq_iff_eq]
      rintro ⟨star,slash⟩
      cases more with
      | nil => cases slash
      | cons => exact apart ⟨star,slash⟩
    rw [List.cons_append,dropBlockComments,if_neg open',List.filter_cons,ih without]
    split <;> rfl

theorem dropBlockComments_block (without : ¬ ['*','/'] <:+: content) :
    dropBlockComments .outside ('/' :: '*' :: (content ++ '*' :: '/' :: rest)) = content.filter (fun c => c == '\n') ++
      dropBlockComments .outside rest := by
  have closed : closes (content ++ '*' :: '/' :: rest) := closes_iff.mpr ⟨content,rest,by simp⟩
  rw [← dropBlockComments_inside without,dropBlockComments,List.tail_cons,closed]
  rfl

theorem Comment.dropped {comment : Comment} (formed : comment.IsFormed) (clear : comment.IsClear) (other : c ≠ '/') :
    ∃ gap, (∀ c ∈ gap, isBlank c) ∧ dropComments (comment.text ++ c :: rest) = gap ++ dropComments (c :: rest) := by
  have ends : ∀ c : Char, c == '\n' → isBlank c := fun c last => beq_iff_eq.mp last ▸ by decide
  cases comment with
  | line content =>
    have split : (line content).text ++ c :: rest = '/' :: '/' :: (content ++ '\n' :: c :: rest) := by simp [text]
    have start : dropLineComments false ('/' :: '/' :: (content ++ '\n' :: c :: rest)) =
        dropLineComments true (content ++ '\n' :: c :: rest) := rfl
    refine ⟨['\n'],List.forall_mem_singleton.mpr (by decide),?_⟩
    rw [dropComments,split,start,dropLineComments_inside formed]
    rfl
  | block content =>
    have split : (block content).text ++ c :: rest = '/' :: '*' :: (content ++ '*' :: '/' :: c :: rest) := by simp [text]
    have start : dropLineComments false ('/' :: '*' :: (content ++ '*' :: '/' :: c :: rest)) =
        '/' :: '*' :: dropLineComments false (content ++ '*' :: '/' :: c :: rest) := rfl
    have outside := clear_outside.mp clear
    have back : dropLineComments false ('*' :: '/' :: c :: rest) = '*' :: '/' :: dropLineComments false (c :: rest) := by
      simp [dropLineComments,other]
    refine ⟨(dropLineComments false content).filter (fun c => c == '\n'),?_,?_⟩
    · intro d member
      exact ends d (List.mem_filter.mp member).2
    · rw [dropComments,split,start,dropLineComments_append (by decide),outside,back,
        dropBlockComments_block (dropLineComments_open formed)]
      rfl

end

theorem uncommented_free {text : List Char} (without : '/' ∉ text) : Uncommented text := by
  have free (c : Char) : ¬ ['/',c] <:+: text := fun inside => without (inside.subset List.mem_cons_self)
  exact ⟨free '/',free '*'⟩

theorem Uncommented.later (free : Uncommented (c :: rest)) : Uncommented rest :=
  ⟨fun inside => free.line (inside.trans (List.suffix_cons c rest).isInfix),
    fun inside => free.block (inside.trans (List.suffix_cons c rest).isInfix)⟩

theorem dropComments_cons {c : Char} {rest : List Char} (line : ¬ (c = '/' ∧ rest.head? = some '/'))
    (block : ¬ (c = '/' ∧ (dropLineComments false rest).head? = some '*')) :
    dropComments (c :: rest) = c :: dropComments rest := by
  have first : (c == '/' && rest.head? == some '/') = false := by simpa using line
  have second : (c == '/' && (dropLineComments false rest).head? == some '*') = false := by simpa using block
  simp only [dropComments,dropLineComments,dropBlockComments,first,second,Bool.false_and,Bool.false_eq_true,if_false]

theorem dropComments_blank (blank : isBlank c) (rest : List Char) : dropComments (c :: rest) = c :: dropComments rest := by
  have other : c ≠ '/' := by
    rintro rfl
    exact absurd blank (by decide)
  exact dropComments_cons (fun slash => other slash.1) (fun slash => other slash.1)

section
variable {text other : List Char}

theorem Filled.head (filled : Filled allowed text other) : other.head? = text.head? := by
  cases filled <;> rfl

theorem Filled.keeps (filled : Filled allowed rest other) (free : Uncommented (c :: rest)) :
    dropComments (c :: other) = c :: dropComments other := by
  have line : ¬ (c = '/' ∧ other.head? = some '/') := by
    rw [filled.head]
    exact fun slashes => free.line (pair_within.mpr (.inl slashes))
  refine dropComments_cons line ?_
  rintro ⟨slash,star⟩
  rcases dropLineComments_first star with last | ⟨_,first⟩
  · exact absurd last (by decide)
  · rw [filled.head] at first
    exact free.block (pair_within.mpr (.inl ⟨slash,first⟩))

theorem Filled.first (filled : Filled allowed text other) (free : Uncommented text) :
    (dropComments other).head? = text.head? := by
  cases filled with
  | nil => rfl
  | keep c filled => rw [filled.keeps free]; rfl
  | fill blank => rw [dropComments_blank blank]; rfl

theorem Filled.dropped (filled : Filled allowed text other) (free : Uncommented text)
    (clear : ∀ comment, allowed comment → comment.IsFormed ∧ comment.IsClear) : Loose text (dropComments other) := by
  induction filled with
  | nil => exact Spaced.nil
  | @keep rest other c filled ih =>
    rw [filled.keeps free]
    have same : startsBlank rest = startsBlank (dropComments other) := by
      unfold startsBlank
      rw [filled.first free.later]
    exact (Behind.cons ⟨ih free.later,.inr same⟩ c).loose
  | @fill c comment rest other blank member filled ih =>
    have apart : c ≠ '/' := by
      rintro rfl
      exact absurd blank (by decide)
    obtain ⟨formed,clear⟩ := clear comment member
    obtain ⟨gap,none,dropped⟩ := comment.dropped formed clear apart
    rw [dropComments_blank blank,dropped,← List.cons_append]
    exact (ih free).blanks (List.forall_mem_cons.mpr ⟨blank,none⟩)

end

theorem Filled.refl (allowed : Comment → Prop) (text : List Char) : Filled allowed text text := by
  induction text with
  | nil => exact .nil
  | cons c rest ih => exact .keep c ih

theorem Filled.append (filled : Filled allowed text other) (front : List Char) : Filled allowed (front ++ text) (front ++ other) := by
  induction front with
  | nil => exact filled
  | cons c rest ih => exact .keep c ih

theorem Uncommented.dropped {text : List Char} (free : Uncommented text) : dropComments text = text := by
  induction text with
  | nil => rfl
  | cons c rest ih => rw [(Filled.refl (fun _ => False) rest).keeps free,ih free.later]

-- A line comment that is open at the end of a block comment takes that end with it.
theorem Comment.unclear_dropped {content rest : List Char} (formed : (block content).IsFormed)
    (unclear : ¬ (block content).IsClear) (single : '\n' ∉ rest) :
    dropComments ((block content).text ++ rest) = '/' :: dropBlockComments .outside ('*' :: dropLineComments false content) := by
  have split : (block content).text ++ rest = '/' :: '*' :: (content ++ '*' :: '/' :: rest) := by simp [text]
  have start : dropLineComments false ('/' :: '*' :: (content ++ '*' :: '/' :: rest)) =
      '/' :: '*' :: dropLineComments false (content ++ '*' :: '/' :: rest) := rfl
  have inside : inLine false content = true := Bool.eq_true_of_not_eq_false fun outside => unclear (clear_outside.mpr outside)
  have taken : dropLineComments true ('*' :: '/' :: rest) = [] := by
    have gone := @dropLineComments_inside ('*' :: '/' :: rest) [] (by simp [single])
    rwa [List.append_nil] at gone
  have unclosed : closes (dropLineComments false content) = false := by
    rw [Bool.eq_false_iff,ne_eq,closes_iff]
    exact dropLineComments_open formed
  rw [dropComments,split,start,dropLineComments_append (by decide),inside,taken,List.append_nil,
    dropBlockComments,List.tail_cons,unclosed]
  rfl

end NativeBinding.Definition
