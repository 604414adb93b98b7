import NativeBinding.Proofs.Definition.Coverage
import NativeBinding.Proofs.Definition.Ranges
import NativeBinding.Proofs.Text.Spacing

namespace NativeBinding.Definition
open Text

section
variable {text other rest : List Char}

theorem plain_seamless {text : List Char} (solid : ∀ c ∈ text, isGlue c = false) :
    ∀ c ∈ text, isBlank c = false ∧ isSeam c = false :=
  fun c member => ⟨(Bool.or_eq_false_iff.mp (solid c member)).1,solid_seamless (solid c member)⟩

theorem seam_apart (seam : isSeam c) : isWord c = false := by
  by_contra word
  cases (isWord_solid (Bool.eq_true_of_not_eq_false word)).symm.trans (isSeam_glue seam).1

theorem glue_of_loose (loose : isBlank c ∨ isSeam c) : isGlue c := by
  rcases loose with blank | seam
  · simp [isGlue,blank]
  · exact (isSeam_glue seam).1

theorem blanks_starts (text : List Char) : blanks text = if startsBlank text then some (dropBlank text) else none := by
  cases text <;> rfl

theorem exactly_behind (behind : Behind text other) {begins : List Char} (plain : ∀ c ∈ begins, isBlank c = false ∧ isSeam c = false)
    (found : exactly begins text = some rest) : ∃ left, exactly begins other = some left ∧ Behind rest left := by
  rw [exactly_some found] at behind
  obtain ⟨left,rfl,last⟩ := behind.run plain
  exact ⟨left,exactly_append begins left,last⟩

theorem run_stops (found : run inside text = some (taken,rest)) : ∀ c ∈ rest.head?, inside c = false := by
  simp only [run] at found
  split at found
  · cases found
  · cases found
    intro c first
    have stops := List.head?_dropWhile_not inside text
    rw [Option.mem_def.mp first] at stops
    exact stops

theorem run_behind (behind : Behind text other) {inside : Char → Bool} (solid : ∀ c, inside c → isGlue c = false)
    (found : run inside text = some (taken,rest)) : ∃ left, run inside other = some (taken,left) ∧ Behind rest left := by
  obtain ⟨some,all,split⟩ := run_some found
  rw [split] at behind
  obtain ⟨left,rfl,last⟩ := behind.run (plain_seamless fun c member => solid c (all c member))
  have free : ∀ c, isBlank c ∨ isSeam c → inside c = false := by
    intro c loose
    by_contra within
    cases (solid c (Bool.eq_true_of_not_eq_false within)).symm.trans (glue_of_loose loose)
  have ends := last.stops free (run_stops found)
  refine ⟨left,?_,last⟩
  simp [run,takeWhile_stops all ends,dropWhile_stops all ends,some]

theorem blanks_behind (behind : Behind text other) (found : blanks text = some rest)
    (next : word rest = some (name,last)) : blanks other = some (dropBlank other) ∧ Behind rest (dropBlank other) := by
  rw [blanks_starts] at found ⊢
  split at found
  · rename_i starts
    cases found
    obtain ⟨some,all,split⟩ := run_some next
    obtain ⟨c,more,rfl⟩ := List.exists_cons_of_ne_nil some
    have seamless : ∀ d ∈ (dropBlank text).head?, isSeam d = false := by
      rw [split]
      rintro d ⟨⟩
      exact solid_seamless (isWord_solid (all c List.mem_cons_self))
    have also := behind.blank starts seamless (by simp [split])
    rw [also]
    exact ⟨rfl,Spaced.behind behind.loose⟩
  · cases found

theorem mark_loose (loose : Loose text other) (found : exactly [mark] (dropBlank text) = some rest) :
    ∃ left, exactly [mark] (dropBlank other) = some left ∧ Loose rest left := by
  rw [Loose,exactly_some found] at loose
  generalize dropBlank other = tail at loose ⊢
  cases loose with
  | cons _ _ later => exact ⟨_,exactly_append [mark] _,later⟩

theorem upTo_loose (loose : Loose text other) (seam : isSeam close) (found : upTo close text = some (body,rest)) :
    ∃ twin left, upTo close other = some (twin,left) ∧ Loose body twin ∧ Loose rest left := by
  obtain ⟨without,rfl⟩ := upTo_some found
  obtain ⟨twin,left,rfl,own,last⟩ := loose.split seam
  have absent : close ∉ twin := fun member => without ((own.mem (isSeam_glue seam).2).mpr member)
  exact ⟨twin,left,upTo_first absent left,own,last⟩

theorem heading_spaced (spaced : Spaced text other) {begins : List Char} (keyword : IsWordText begins)
    (one : exactly begins text = some first) (two : blanks first = some second) (three : word second = some (name,third))
    (four : exactly [mark] (dropBlank third) = some rest) : ∃ first' second' third' left,
      exactly begins other = some first' ∧ blanks first' = some second' ∧ word second' = some (name,third') ∧
      exactly [mark] (dropBlank third') = some left ∧ Loose rest left := by
  obtain ⟨first',one',behind⟩ := exactly_behind spaced.behind (plain_seamless keyword.solid.free) one
  obtain ⟨two',behind⟩ := blanks_behind behind two three
  obtain ⟨third',three',behind⟩ := run_behind behind (fun c => isWord_solid) three
  obtain ⟨left,four',last⟩ := mark_loose behind.loose four
  exact ⟨first',_,third',left,one',two',three',four',last⟩

theorem blockEnd_loose (loose : Loose text other) : Loose (blockEnd text) (blockEnd other) := by
  rw [blockEnd,blockEnd]
  cases one : exactly [';'] (dropBlank text) with
  | some rest =>
    obtain ⟨left,two,last⟩ := mark_loose loose one
    rw [two]
    exact last
  | none =>
    cases two : exactly [';'] (dropBlank other) with
    | some left =>
      obtain ⟨rest,some,_⟩ := mark_loose loose.symm two
      cases one.symm.trans some
    | none => exact Spaced.loose loose

theorem resultClause_loose (loose : Loose text other) (found : resultClause (dropBlank text) = some (returns,first))
    (ends : exactly [';'] first = some rest) : ∃ second left, resultClause (dropBlank other) = some (returns,second) ∧
      exactly [';'] second = some left ∧ Loose rest left := by
  simp only [resultClause] at found ⊢
  split at found
  · cases found
    obtain ⟨left,also,last⟩ := mark_loose loose ends
    have none : exactly "->".toList (dropBlank other) = none := by
      rw [exactly_some also]
      rfl
    rw [none]
    exact ⟨_,left,rfl,also,last⟩
  · rename_i second arrow
    simp only [Option.bind_eq_bind,Option.bind_eq_some_iff] at found
    obtain ⟨⟨type,third⟩,typed,same⟩ := found
    cases same
    have plain : ∀ c ∈ "->".toList, isBlank c = false ∧ isSeam c = false :=
      List.forall_mem_cons.mpr ⟨by decide,List.forall_mem_singleton.mpr (by decide)⟩
    obtain ⟨second',arrow',behind⟩ := exactly_behind (Spaced.behind loose) plain arrow
    obtain ⟨third',typed',behind⟩ := run_behind (Spaced.behind behind.loose) (fun c => isTypeText_solid) typed
    obtain ⟨left,also,last⟩ := mark_loose behind.loose ends
    refine ⟨dropBlank third',left,?_,also,last⟩
    rw [arrow']
    simp [typed']

end

-- A recogniser finds the same in a text with other blanks.
def Recogniser.Respects (recognise : Recogniser α) (Same : α → α → Prop) : Prop :=
  ∀ {text other}, Spaced text other → ∀ {value rest}, recognise text = some (value,rest) →
    ∃ twin left, recognise other = some (twin,left) ∧ Same value twin ∧ Loose rest left

structure Block.Alike (block other : Block) : Prop where
  kind : other.kind = block.kind
  name : other.name = block.name
  body : Loose block.body other.body

structure Signature.Alike (signature other : Signature) : Prop where
  name : other.name = signature.name
  parameters : Loose signature.parameters other.parameters
  returns : other.returns = signature.returns

theorem componentClause_respects : Recogniser.Respects componentClause (fun name twin => twin = name) := by
  intro text other spaced name rest found
  simp only [componentClause,Option.bind_eq_bind,Option.bind_eq_some_iff] at found ⊢
  obtain ⟨first,one,second,two,⟨name,third⟩,three,fourth,four,same⟩ := found
  cases same
  obtain ⟨first',second',third',left,one,two,three,four,last⟩ := heading_spaced spaced (by decide) one two three four
  exact ⟨name,left,⟨first',one,second',two,⟨name,third'⟩,three,left,four,rfl⟩,rfl,last⟩

theorem blockClause_respects : Recogniser.Respects blockClause Block.Alike := by
  intro text other spaced block rest found
  simp only [blockClause,Option.bind_eq_bind,Option.bind_eq_some_iff] at found ⊢
  obtain ⟨⟨kind,first⟩,one,second,two,⟨name,third⟩,three,fourth,four,⟨body,fifth⟩,five,same⟩ := found
  cases same
  obtain ⟨first',second',third',fourth',one,two,three,four,loose⟩ :=
    heading_spaced spaced (blockKeyword_word kind) (blockKind_some one) two three four
  obtain ⟨twin,left,five,own,loose⟩ := upTo_loose loose (by decide) five
  have kinded : blockKind other = some (kind,first') := by
    rw [exactly_some one]
    exact blockKind_append kind first'
  exact ⟨⟨kind,name,twin⟩,blockEnd left,⟨(kind,first'),kinded,second',two,(name,third'),three,fourth',four,(twin,left),five,rfl⟩,
    ⟨rfl,rfl,own⟩,blockEnd_loose loose⟩

theorem functionClause_respects : Recogniser.Respects functionClause Signature.Alike := by
  intro text other spaced signature rest found
  simp only [functionClause,Option.bind_eq_bind,Option.bind_eq_some_iff] at found ⊢
  obtain ⟨first,one,second,two,⟨name,third⟩,three,fourth,four,⟨parameters,fifth⟩,five,⟨returns,sixth⟩,six,seventh,seven,same⟩ :=
    found
  cases same
  obtain ⟨first',second',third',fourth',one,two,three,four,loose⟩ := heading_spaced spaced (by decide) one two three four
  obtain ⟨twin,fifth',five,own,loose⟩ := upTo_loose loose (by decide) five
  obtain ⟨sixth',left,six,seven,last⟩ := resultClause_loose loose six seven
  exact ⟨⟨name,twin,returns⟩,left,⟨first',one,second',two,(name,third'),three,fourth',four,(twin,fifth'),five,(returns,sixth'),six,
    left,seven,rfl⟩,⟨rfl,own,rfl⟩,last⟩

theorem Recogniser.Respects.none {recognise : Recogniser α} {Same : α → α → Prop} (respects : recognise.Respects Same)
    (spaced : Spaced text other) (nothing : recognise text = none) : recognise other = none := by
  refine Option.eq_none_iff_forall_ne_some.mpr ?_
  rintro ⟨value,rest⟩ found
  obtain ⟨_,_,some,_⟩ := respects spaced.symm found
  cases nothing.symm.trans some

def Recogniser.Ends (recognise : Recogniser α) : Prop := ∀ {text value rest}, recognise text = some (value,rest) →
  ∃ taken c, text = taken ++ c :: rest ∧ isWord c = false

theorem componentClause_ends : Recogniser.Ends componentClause := by
  intro text name rest found
  obtain ⟨heading,_,split⟩ := componentClause_taken found
  exact ⟨heading,';',split,by decide⟩

theorem blockClause_ends : Recogniser.Ends blockClause := by
  intro text block rest found
  obtain ⟨heading,ending,_,_,shown,split⟩ := blockClause_taken found
  obtain ⟨before,c,last⟩ := (List.eq_nil_or_concat ('\x7d' :: ending)).resolve_left (List.cons_ne_nil _ _)
  have apart : ∀ d ∈ '\x7d' :: ending, isWord d = false := List.forall_mem_cons.mpr ⟨by decide,shown⟩
  have cut : '\x7d' :: (ending ++ rest) = before ++ c :: rest := by
    rw [← List.cons_append,last]
    simp
  exact ⟨heading ++ '\x7b' :: (block.body ++ before),c,by simp [split,cut],apart c (by simp [last])⟩

theorem functionClause_ends : Recogniser.Ends functionClause := by
  intro text signature rest found
  obtain ⟨heading,tail,_,_,form,split⟩ := functionClause_taken found
  obtain ⟨arrow,type,space,_,_,_,rfl⟩ := form.parts
  exact ⟨heading ++ '(' :: (signature.parameters ++ ')' :: (arrow ++ (type ++ space))),';',by simp [split],by decide⟩

-- Two matches of the same, at corresponding places of two texts.
structure Found.Alike (Same : α → α → Prop) (text other : List Char) (found twin : Found α) : Prop where
  level : found.span.Level text other twin.span
  value : Same found.value twin.value

theorem scanFrom_quiet {recognise : Recogniser α} (quiet : afterWord = true ∨ recognise (c :: rest) = none) (position : Nat) :
    scanFrom recognise position afterWord 0 (c :: rest) = scanFrom recognise (position + 1) (isWord c) 0 rest := by
  rcases quiet with rfl | none
  · rfl
  · simp only [scanFrom,none,ite_self]

section
variable {recognise : Recogniser α} (starts : recognise.Starts)
include starts

theorem Recogniser.Starts.blank (blank : isBlank c) (rest : List Char) : recognise (c :: rest) = none :=
  starts c rest (blank_apart blank)

theorem scanFrom_dropBlank (position : Nat) (afterWord : Bool) (text : List Char) :
    scanFrom recognise position afterWord 0 text = scanFrom recognise
      (position + (text.takeWhile isBlank).length) (afterWord && !startsBlank text) 0 (dropBlank text) := by
  induction text generalizing position afterWord with
  | nil => rfl
  | cons c rest ih =>
    cases blank : isBlank c with
    | false => simp [startsBlank,blank,dropBlank_same blank]
    | true =>
      have drop : dropBlank (c :: rest) = dropBlank rest := List.dropWhile_cons_of_pos blank
      have shift : position + 1 + (rest.takeWhile isBlank).length = position + ((c :: rest).takeWhile isBlank).length := by
        rw [List.takeWhile_cons_of_pos blank,List.length_cons]
        omega
      have first : startsBlank (c :: rest) = true := blank
      simp only [scanFrom,starts.blank blank,ite_self,blank_apart blank,ih,drop,shift,first,Bool.false_and,Bool.not_true,
        Bool.and_false]

end

theorem Span.level_match {front before taken passed rest left : List Char} (one : whole = front ++ (taken ++ c :: rest))
    (two : twin = before ++ (passed ++ d :: left))
    (level : front.countP (fun c => !isBlank c) = before.countP (fun c => !isBlank c))
    (all : Loose (taken ++ c :: rest) (passed ++ d :: left)) (last : Loose rest left) :
    Span.Level whole twin ⟨front.length,(front ++ (taken ++ [c])).length⟩ ⟨before.length,(before ++ (passed ++ [d])).length⟩ ∧
      (front ++ (taken ++ [c])).countP (fun c => !isBlank c) = (before ++ (passed ++ [d])).countP (fun c => !isBlank c) := by
  have stop : (front ++ (taken ++ [c])).countP (fun c => !isBlank c) =
      (before ++ (passed ++ [d])).countP (fun c => !isBlank c) := by
    have count := all.count
    have rests := last.count
    simp only [List.countP_append,List.countP_cons,List.countP_nil] at count ⊢
    omega
  have behind : whole = front ++ (taken ++ [c]) ++ rest := by simp [one]
  have past : twin = before ++ (passed ++ [d]) ++ left := by simp [two]
  refine ⟨⟨?_,?_⟩,stop⟩
  · rw [rank_front one,rank_front two,level]
  · rw [rank_front behind,rank_front past,stop]

-- What is found from here on in two texts is the same, if as much is passed that is not blank
-- and a word starts here in both or in neither.
def Recogniser.Follows (recognise : Recogniser α) (Same : α → α → Prop) (whole twin text other : List Char) : Prop :=
  ∀ front before afterWord behindWord, whole = front ++ text → twin = before ++ other →
    front.countP (fun c => !isBlank c) = before.countP (fun c => !isBlank c) →
    (∀ c ∈ (dropBlank text).head?, isWord c → (afterWord && !startsBlank text) = (behindWord && !startsBlank other)) →
    List.Forall₂ (Found.Alike Same whole twin) (scanFrom recognise front.length afterWord 0 text)
      (scanFrom recognise before.length behindWord 0 other)

section
variable {recognise : Recogniser α} {Same : α → α → Prop} {whole twin : List Char}

theorem Recogniser.Follows.pass (follows : recognise.Follows Same whole twin rest left) (apart : isSeam c ∨ Apart rest left)
    {front before : List Char} (one : whole = front ++ c :: rest) (two : twin = before ++ c :: left)
    (level : front.countP (fun c => !isBlank c) = before.countP (fun c => !isBlank c)) :
    List.Forall₂ (Found.Alike Same whole twin) (scanFrom recognise (front.length + 1) (isWord c) 0 rest)
      (scanFrom recognise (before.length + 1) (isWord c) 0 left) := by
  have next := follows (front ++ [c]) (before ++ [c]) (isWord c) (isWord c) (by simp [one]) (by simp [two]) (by simp [level])
  simp only [List.length_append,List.length_singleton] at next
  refine next ?_
  intro d first kind
  rcases apart with seam | seam | same
  · simp [seam_apart seam]
  · cases (seam_apart (seam d first)).symm.trans kind
  · rw [same]

theorem Recogniser.Follows.matched {rest left : List Char} (follows : recognise.Follows Same whole twin rest left)
    {front before taken passed : List Char} (one : whole = front ++ (taken ++ c :: rest))
    (two : twin = before ++ (passed ++ d :: left))
    (level : front.countP (fun c => !isBlank c) = before.countP (fun c => !isBlank c))
    (all : Loose (taken ++ c :: rest) (passed ++ d :: left)) (last : Loose rest left)
    (ended : isWord c = false) (stopped : isWord d = false)
    (found : recognise (taken ++ c :: rest) = some (value,rest)) (other : recognise (passed ++ d :: left) = some (twinned,left))
    (same : Same value twinned) :
    List.Forall₂ (Found.Alike Same whole twin) (scanFrom recognise front.length false 0 (taken ++ c :: rest))
      (scanFrom recognise before.length false 0 (passed ++ d :: left)) := by
  obtain ⟨start,stop⟩ := Span.level_match one two level all last
  rw [scanFrom_found found,scanFrom_found other,ended,stopped,← List.length_append,← List.length_append]
  refine .cons ⟨start,same⟩ (follows _ _ _ _ ?_ ?_ stop ?_)
  · simp [one]
  · simp [two]
  · simp

variable (starts : recognise.Starts)
include starts

theorem Recogniser.Follows.blanks (follows : recognise.Follows Same whole twin (dropBlank text) (dropBlank other)) :
    recognise.Follows Same whole twin text other := by
  intro front before afterWord behindWord one two level flags
  have split (text : List Char) : text.takeWhile isBlank ++ dropBlank text = text := List.takeWhile_append_dropWhile
  have none (text : List Char) : (text.takeWhile isBlank).countP (fun c => !isBlank c) = 0 :=
    List.countP_eq_zero.mpr fun c member => by simp [List.mem_takeWhile_imp member]
  rw [scanFrom_dropBlank starts front.length,scanFrom_dropBlank starts before.length,← List.length_append,← List.length_append]
  refine follows _ _ _ _ ?_ ?_ ?_ ?_
  · rw [List.append_assoc,split,one]
  · rw [List.append_assoc,split,two]
  · rw [List.countP_append,List.countP_append,none,none,level]
  · simpa only [dropBlank_twice,startsBlank_dropBlank,Bool.not_false,Bool.and_true] using flags

variable (ends : recognise.Ends) (respects : recognise.Respects Same)
include ends respects

theorem scanFrom_follows (loose : Loose text other) : recognise.Follows Same whole twin text other := by
  induction size : text.length using Nat.strong_induction_on generalizing text other with
  | h size ih =>
    subst size
    refine Recogniser.Follows.blanks starts ?_
    have bound := dropBlank_length text
    unfold Loose at loose
    generalize dropBlank text = shown at *
    generalize dropBlank other = seen at *
    intro front before afterWord behindWord one two level flags
    cases loose with
    | nil => exact .nil
    | @cons c rest left own apart later =>
      have spaced : Spaced (c :: rest) (c :: left) := .cons own apart later
      have word : isWord c → afterWord = behindWord := by
        intro word
        simpa [dropBlank_same own,startsBlank,own] using flags c (by simp [dropBlank_same own]) word
      rw [List.length_cons] at bound
      by_cases quiet : afterWord = true ∨ recognise (c :: rest) = none
      · have also : behindWord = true ∨ recognise (c :: left) = none := by
          cases kind : isWord c with
          | false => exact .inr (starts c left kind)
          | true => exact quiet.imp (word kind ▸ ·) (respects.none spaced)
        rw [scanFrom_quiet quiet,scanFrom_quiet also]
        exact (ih rest.length bound later rfl).pass apart one two level
      · rw [not_or,Bool.not_eq_true] at quiet
        obtain ⟨rfl,some⟩ := quiet
        obtain ⟨⟨value,rest'⟩,found⟩ := Option.ne_none_iff_exists'.mp some
        obtain ⟨value',left',found',same,last⟩ := respects spaced found
        have kind : isWord c := by
          by_contra kind
          cases (starts c rest (Bool.eq_false_of_not_eq_true kind)).symm.trans found
        obtain rfl := word kind
        obtain ⟨taken,d,split,ended⟩ := ends found
        obtain ⟨passed,e,cut,stopped⟩ := ends found'
        have shorter : rest'.length < text.length := by
          have length := congrArg List.length split
          simp only [List.length_append,List.length_cons] at length
          omega
        rw [split] at found one spaced ⊢
        rw [cut] at found' two spaced ⊢
        exact (ih _ shorter last rfl).matched one two level (Spaced.loose spaced) last ended stopped found found' same

end

end NativeBinding.Definition
