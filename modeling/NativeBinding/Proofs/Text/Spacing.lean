import NativeBinding.Proofs.Text.Pieces

namespace NativeBinding.Text

-- Marks with the same meaning whether blanks stand next to them or not.
def isSeam (c : Char) : Bool := ['\x7b','\x7d','(',')',',',';'].contains c

theorem isSeam_glue (seam : isSeam c) : isGlue c ∧ isBlank c = false := by
  simp only [isSeam,List.contains_cons,List.contains_nil,Bool.or_eq_true,beq_iff_eq,Bool.or_false] at seam
  rcases seam with rfl | rfl | rfl | rfl | rfl | rfl <;> decide

theorem solid_seamless (solid : isGlue c = false) : isSeam c = false := by
  by_contra seam
  cases solid.symm.trans (isSeam_glue (Bool.eq_true_of_not_eq_false seam)).1

-- Blanks stand in front of both texts or of neither, unless a seam or nothing at all is next.
def Apart (text other : List Char) : Prop :=
  (∀ c ∈ (dropBlank text).head?, isSeam c) ∨ startsBlank text = startsBlank other

-- Two texts without blanks in front that differ only in how many blanks, and which, stand
-- between two characters, and next to a seam in whether there are any.
inductive Spaced : List Char → List Char → Prop
  | nil : Spaced [] []
  | cons (shown : isBlank c = false) (apart : isSeam c ∨ Apart rest other)
      (later : Spaced (dropBlank rest) (dropBlank other)) : Spaced (c :: rest) (c :: other)

def Loose (text other : List Char) : Prop := Spaced (dropBlank text) (dropBlank other)

structure Behind (text other : List Char) : Prop where
  loose : Loose text other
  apart : Apart text other

section
variable {text other : List Char}

theorem Spaced.head (spaced : Spaced text other) : text.head? = other.head? := by
  cases spaced <;> rfl

theorem Spaced.dropBlank (spaced : Spaced text other) : Text.dropBlank text = text := by
  cases spaced with
  | nil => rfl
  | cons shown => exact dropBlank_same shown _

theorem Apart.symm (apart : Apart text other) (loose : Loose text other) : Apart other text := by
  rcases apart with seam | same
  · exact .inl (Spaced.head loose ▸ seam)
  · exact .inr same.symm

theorem Spaced.symm (spaced : Spaced text other) : Spaced other text := by
  induction spaced with
  | nil => exact .nil
  | cons shown apart later ih => exact .cons shown (apart.imp_right fun apart => apart.symm later) ih

theorem Spaced.loose (spaced : Spaced text other) : Loose text other := by
  rwa [Loose,spaced.dropBlank,spaced.symm.dropBlank]

theorem Loose.symm (loose : Loose text other) : Loose other text := Spaced.symm loose

theorem Behind.symm (behind : Behind text other) : Behind other text :=
  ⟨behind.loose.symm,behind.apart.symm behind.loose⟩

-- A text is gone through from one character that is shown to the next.
@[elab_as_elim] theorem shown_induction {motive : List Char → Prop} (blank : ∀ text, dropBlank text = [] → motive text)
    (shown : ∀ text c rest, dropBlank text = c :: rest → motive rest → motive text) (text : List Char) : motive text := by
  induction size : text.length using Nat.strong_induction_on generalizing text with
  | h size ih =>
    subst size
    cases left : dropBlank text with
    | nil => exact blank text left
    | cons c rest =>
      have bound := dropBlank_length text
      rw [left] at bound
      exact shown text c rest left (ih rest.length bound rest rfl)

theorem Behind.cons (behind : Behind text other) (c : Char) : Behind (c :: text) (c :: other) := by
  refine ⟨?_,.inr rfl⟩
  cases blank : isBlank c with
  | true =>
    have drop (rest : List Char) : Text.dropBlank (c :: rest) = Text.dropBlank rest := List.dropWhile_cons_of_pos blank
    rw [Loose,drop,drop]
    exact behind.loose
  | false =>
    rw [Loose,dropBlank_same blank,dropBlank_same blank]
    exact .cons blank (.inr behind.apart) behind.loose

theorem Behind.front (behind : Behind text other) (front : List Char) : Behind (front ++ text) (front ++ other) := by
  induction front with
  | nil => exact behind
  | cons c more ih => exact ih.cons c

theorem Loose.refl (text : List Char) : Loose text text := by
  have none : Behind [] [] := ⟨Spaced.nil,.inr rfl⟩
  have behind := none.front text
  rw [List.append_nil] at behind
  exact behind.loose

theorem Loose.blanks {gap : List Char} (loose : Loose text other) (blank : ∀ c ∈ gap, isBlank c) :
    Loose text (gap ++ other) := by
  rwa [Loose,dropBlank_blanks blank]

theorem filter_dropBlank (text : List Char) :
    (dropBlank text).filter (fun c => !isBlank c) = text.filter (fun c => !isBlank c) := by
  induction text with
  | nil => rfl
  | cons c rest ih =>
    cases blank : isBlank c with
    | true => simpa [dropBlank,blank] using ih
    | false => rw [dropBlank_same blank]

theorem Spaced.filter (spaced : Spaced text other) :
    text.filter (fun c => !isBlank c) = other.filter (fun c => !isBlank c) := by
  induction spaced with
  | nil => rfl
  | cons shown _ _ ih =>
    rw [filter_dropBlank,filter_dropBlank] at ih
    simp [shown,ih]

theorem Loose.filter (loose : Loose text other) :
    text.filter (fun c => !isBlank c) = other.filter (fun c => !isBlank c) := by
  rw [← filter_dropBlank text,← filter_dropBlank other,Spaced.filter loose]

theorem Loose.count (loose : Loose text other) :
    text.countP (fun c => !isBlank c) = other.countP (fun c => !isBlank c) := by
  rw [List.countP_eq_length_filter,List.countP_eq_length_filter,loose.filter]

theorem Loose.mem (loose : Loose text other) (shown : isBlank c = false) : c ∈ text ↔ c ∈ other := by
  have kept (some : List Char) : c ∈ some ↔ c ∈ some.filter (fun c => !isBlank c) := by simp [shown]
  rw [kept text,kept other,loose.filter]

theorem Loose.nil (loose : Loose text other) : dropBlank text = [] ↔ dropBlank other = [] := by
  rw [← List.head?_eq_none_iff,Spaced.head loose,List.head?_eq_none_iff]

theorem Spaced.behind (spaced : Spaced text other) : Behind text other := by
  refine ⟨spaced.loose,.inr ?_⟩
  cases spaced with
  | nil => rfl
  | cons shown => rfl

theorem Behind.begins (behind : Behind (c :: rest) other) (shown : isBlank c = false) (seamless : isSeam c = false) :
    ∃ left, other = c :: left ∧ Behind rest left := by
  obtain ⟨loose,apart⟩ := behind
  rw [Apart,dropBlank_same shown] at apart
  rw [Loose,dropBlank_same shown] at loose
  rcases apart with seam | same
  · cases seamless.symm.trans (seam c rfl)
  · have first : startsBlank (c :: rest) = false := shown
    rw [dropBlank_unless (same.symm.trans first)] at loose
    cases loose with
    | cons _ apart later => exact ⟨_,rfl,later,apart.resolve_left (by simp [seamless])⟩

theorem Behind.run (behind : Behind (taken ++ rest) other) (whole : ∀ c ∈ taken, isBlank c = false ∧ isSeam c = false) :
    ∃ left, other = taken ++ left ∧ Behind rest left := by
  induction taken generalizing other with
  | nil => exact ⟨other,rfl,behind⟩
  | cons c more ih =>
    obtain ⟨first,whole⟩ := List.forall_mem_cons.mp whole
    obtain ⟨others,rfl,next⟩ := behind.begins first.1 first.2
    obtain ⟨left,rfl,last⟩ := ih next whole
    exact ⟨left,rfl,last⟩

theorem Behind.stops (behind : Behind text other) {inside : Char → Bool}
    (free : ∀ c, isBlank c ∨ isSeam c → inside c = false) (stops : ∀ c ∈ text.head?, inside c = false) :
    ∀ c ∈ other.head?, inside c = false := by
  intro c first
  by_contra within
  have shown : isBlank c = false := by
    by_contra blank
    exact within (free c (.inl (Bool.eq_true_of_not_eq_false blank)))
  have seamless : isSeam c = false := by
    by_contra seam
    exact within (free c (.inr (Bool.eq_true_of_not_eq_false seam)))
  obtain ⟨rest,rfl⟩ := List.head?_eq_some_iff.mp first
  obtain ⟨left,rfl,_⟩ := behind.symm.begins shown seamless
  exact within (stops c rfl)

theorem Behind.blank (behind : Behind text other) (starts : startsBlank text)
    (seamless : ∀ c ∈ (dropBlank text).head?, isSeam c = false) (some : dropBlank text ≠ []) : startsBlank other := by
  rcases behind.apart with seam | same
  · obtain ⟨c,rest,left⟩ := List.exists_cons_of_ne_nil some
    rw [left] at seam seamless
    cases (seamless c rfl).symm.trans (seam c rfl)
  · exact same ▸ starts

theorem dropBlank_append (text rest : List Char) (some : dropBlank text ≠ []) :
    dropBlank (text ++ rest) = dropBlank text ++ rest := by
  rw [dropBlank,List.dropWhile_append,if_neg (by simpa [dropBlank] using some)]
  rfl

theorem startsBlank_append (rest : List Char) (some : dropBlank text ≠ []) :
    startsBlank (text ++ rest) = startsBlank text := by
  cases text with
  | nil => exact absurd rfl some
  | cons => rfl

theorem Apart.cut {one two : List Char} (apart : Apart (one ++ rest) (two ++ left)) (loose : Loose one two) :
    Apart one two := by
  by_cases none : dropBlank one = []
  · exact .inl (by simp [none])
  · rcases apart with seam | same
    · rw [dropBlank_append one rest none,List.head?_append_of_ne_nil _ none] at seam
      exact .inl seam
    · rw [startsBlank_append _ none,startsBlank_append _ (fun nothing => none (loose.nil.mpr nothing))] at same
      exact .inr same

theorem Loose.split (loose : Loose (front ++ c :: rest) other) (seam : isSeam c) :
    ∃ before left, other = before ++ c :: left ∧ Loose front before ∧ Loose rest left := by
  have shown := (isSeam_glue seam).2
  induction front using shown_induction generalizing other with
  | blank front first =>
    obtain ⟨blanks,blank,spaces⟩ := dropBlank_some other
    rw [Loose,dropBlank_blanks (dropBlank_nil.mp first),dropBlank_same shown] at loose
    generalize Text.dropBlank other = tail at loose spaces
    cases loose with
    | cons _ _ later =>
      have own : Loose front blanks := by
        rw [Loose,first,dropBlank_nil.mpr blank]
        exact .nil
      exact ⟨blanks,_,spaces,own,later⟩
  | shown front d more first ih =>
    obtain ⟨blanks,blank,spaces⟩ := dropBlank_some other
    have begins : Text.dropBlank (front ++ c :: rest) = d :: (more ++ c :: rest) := by
      rw [dropBlank_append _ _ (by simp [first]),first]
      rfl
    rw [Loose,begins] at loose
    generalize Text.dropBlank other = tail at loose spaces
    cases loose with
    | cons seen apart later =>
      obtain ⟨before,left,rfl,own,behind⟩ := ih later
      have whole : Loose front (blanks ++ d :: before) := by
        rw [Loose,first,dropBlank_blanks blank,dropBlank_same seen]
        exact .cons seen (apart.imp_right fun apart => apart.cut own) own
      exact ⟨blanks ++ d :: before,left,by simp [spaces],whole,behind⟩

theorem Loose.pieces (loose : Loose text other) (seam : isSeam mark) :
    List.Forall₂ Loose (Text.pieces (fun c => c == mark) text) (Text.pieces (fun c => c == mark) other) := by
  have shown := (isSeam_glue seam).2
  have whole {piece : List Char} (without : mark ∉ piece) : ∀ c ∈ piece, (c == mark) = false := by
    intro c member
    exact beq_eq_false_iff_ne.mpr fun same => without (same ▸ member)
  induction size : text.length using Nat.strong_induction_on generalizing text other with
  | h size ih =>
    subst size
    by_cases member : mark ∈ text
    · obtain ⟨piece,rest,rfl,without⟩ := List.eq_append_cons_of_mem member
      obtain ⟨before,left,rfl,own,behind⟩ := loose.split seam
      rw [pieces_cut (whole without) (beq_self_eq_true mark),
        pieces_cut (whole fun there => without ((own.mem shown).mpr there)) (beq_self_eq_true mark)]
      exact .cons own (ih rest.length (by simp; omega) behind rfl)
    · rw [pieces_whole (whole member),pieces_whole (whole fun there => member ((loose.mem shown).mpr there))]
      exact .cons loose .nil

theorem Loose.trim (loose : Loose text other) (solid : Solid (Text.trim text)) : Text.trim other = Text.trim text := by
  obtain ⟨before,after,front,back,split⟩ := trim_some text
  generalize Text.trim text = core at *
  have whole : ∀ c ∈ core, isBlank c = false ∧ isSeam c = false :=
    fun c member => ⟨solid.not_blank member,solid_seamless (solid.free c member)⟩
  rw [Loose,split,dropBlank_blanks front,solid.tight.dropBlank] at loose
  obtain ⟨left,rest,behind⟩ := (Spaced.behind loose).run whole
  obtain ⟨blanks,blank,spaces⟩ := dropBlank_some other
  have last : ∀ c ∈ left, isBlank c := dropBlank_nil.mp (behind.loose.nil.mp (dropBlank_nil.mpr back))
  rw [spaces,rest,← List.append_assoc]
  exact trim_padded solid.tight blank last

theorem Spaced.tokens (spaced : Spaced text other) (seamless : ∀ c ∈ text, isSeam c = false) :
    Text.tokens text = Text.tokens other := by
  induction spaced with
  | nil => rfl
  | @cons c rest left shown apart later ih =>
    obtain ⟨first,seamless⟩ := List.forall_mem_cons.mp seamless
    have same := ih fun d member => seamless d ((List.dropWhile_suffix isBlank).subset member)
    rw [tokens_dropBlank,tokens_dropBlank] at same
    rw [tokens_shown shown,tokens_shown shown,← same]
    rcases apart.resolve_left (by simp [first]) with seam | same
    · have nothing : Text.dropBlank rest = [] := by
        refine List.head?_eq_none_iff.mp (Option.eq_none_iff_forall_ne_some.mpr ?_)
        intro d next
        have member := (List.dropWhile_suffix isBlank).subset (List.mem_of_head? next)
        cases (seamless d member).symm.trans (seam d next)
      have none : Text.tokens rest = [] := by
        rw [← tokens_dropBlank,nothing]
        rfl
      rw [none]
      rfl
    · rw [same]

theorem Loose.tokens (loose : Loose text other) (seamless : ∀ c ∈ text, isSeam c = false) :
    Text.tokens text = Text.tokens other := by
  rw [← tokens_dropBlank text,← tokens_dropBlank other]
  exact Spaced.tokens loose fun c member => seamless c ((List.dropWhile_suffix isBlank).subset member)

end
end NativeBinding.Text
