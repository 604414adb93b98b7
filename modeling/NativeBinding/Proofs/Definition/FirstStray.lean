import NativeBinding.Proofs.Definition.Coverage

namespace NativeBinding.Definition
open Text

def Shown (text : List Char) (position : Nat) : Prop := ∃ c, text[position]? = some c ∧ isBlank c = false

structure Bare (text : List Char) (spans : List Span) (position : Nat) : Prop where
  shown : Shown text position
  outside : ∀ span ∈ spans, ¬ span.Holds position

structure FirstBare (text : List Char) (spans : List Span) (first position : Nat) : Prop where
  behind : first ≤ position
  bare : Bare text spans position
  least : ∀ earlier, first ≤ earlier → earlier < position → ¬ Bare text spans earlier

-- A text goes on up to the next blank, the next start of a span or the end, whichever comes
-- first.
structure GoesTo (text : List Char) (spans : List Span) (position stop : Nat) : Prop where
  begins : position < stop
  ends : stop = text.length ∨ (∃ c, text[stop]? = some c ∧ isBlank c) ∨ ∃ span ∈ spans, span.start = stop
  shown : ∀ between, position < between → between < stop → Shown text between
  whole : ∀ between, position < between → between < stop → ∀ span ∈ spans, span.start ≠ between

variable {text : List Char} {spans : List Span}

theorem Shown.inside (shown : Shown text position) : position < text.length := by
  obtain ⟨c,there,_⟩ := shown
  exact (List.getElem?_eq_some_iff.mp there).1

theorem FirstBare.unique (one : FirstBare text spans first position) (two : FirstBare text spans first other) :
    position = other := by
  rcases Nat.lt_trichotomy position other with early | same | late
  · exact absurd one.bare (two.least position one.behind early)
  · exact same
  · exact absurd two.bare (one.least other two.behind late)

theorem GoesTo.not_before (one : GoesTo text spans position stop) (two : GoesTo text spans position other) :
    ¬ stop < other := by
  intro early
  have shown := two.shown stop one.begins early
  rcases one.ends with rfl | ⟨c,there,blank⟩ | ⟨span,member,starts⟩
  · exact Nat.lt_irrefl _ shown.inside
  · obtain ⟨d,same,seen⟩ := shown
    cases there.symm.trans same
    cases seen.symm.trans blank
  · exact two.whole stop one.begins early span member starts

theorem GoesTo.unique (one : GoesTo text spans position stop) (two : GoesTo text spans position other) : stop = other :=
  Nat.le_antisymm (Nat.le_of_not_lt (two.not_before one)) (Nat.le_of_not_lt (one.not_before two))

theorem strayIn_parts {gap : List Char} {stray : Stray} (found : strayIn gap position = some stray) :
    ∃ space rest, (∀ c ∈ space, isBlank c) ∧ gap = space ++ (stray.text ++ rest) ∧ stray.position = position + space.length ∧
      stray.text ≠ [] ∧ (∀ c ∈ stray.text, isBlank c = false) ∧ ∀ c ∈ rest.head?, isBlank c := by
  obtain ⟨space,blank,split⟩ := dropBlank_some gap
  rw [strayIn] at found
  cases left : dropBlank gap with
  | nil => rw [left] at found; cases found
  | cons c others =>
    have shown := dropBlank_shown left
    rw [left] at found
    cases found
    refine ⟨space,(c :: others).dropWhile (fun c => !isBlank c),blank,?_,?_,?_,?_,?_⟩
    · rw [List.takeWhile_append_dropWhile,← left]
      exact split
    · have length : gap.length = space.length + (c :: others).length := by rw [← left,← List.length_append,← split]
      simp only
      omega
    · simp [shown]
    · intro d member
      simpa using List.mem_takeWhile_imp member
    · intro d first
      have stops := List.head?_dropWhile_not (fun c => !isBlank c) (c :: others)
      rw [first] at stops
      simpa using stops

def Stray.stop (stray : Stray) : Nat := stray.position + stray.text.length

structure StraysAt (text : List Char) (first last : Nat) (stray : Stray) : Prop where
  behind : first ≤ stray.position
  blank : ∀ earlier, first ≤ earlier → earlier < stray.position → ¬ Shown text earlier
  begins : stray.position < stray.stop
  shown : ∀ between, stray.position ≤ between → between < stray.stop → Shown text between
  within : stray.stop ≤ last
  ends : stray.stop = last ∨ ∃ c, text[stray.stop]? = some c ∧ isBlank c
  quoted : (text.drop stray.position).take stray.text.length = stray.text

theorem strayIn_some {gap more : List Char} (split : text.drop first = gap ++ more) (found : strayIn gap first = some stray) :
    StraysAt text first (first + gap.length) stray := by
  obtain ⟨space,rest,blank,rfl,position,some,shown,last⟩ := strayIn_parts found
  have at_gap (i : Nat) : text[first + i]? = (space ++ (stray.text ++ (rest ++ more)))[i]? := by
    rw [← List.getElem?_drop,split]
    simp
  have stop : stray.stop = first + (space.length + stray.text.length) := by rw [Stray.stop,position,Nat.add_assoc]
  constructor
  case behind => omega
  case blank =>
    rintro earlier behind before ⟨c,there,seen⟩
    obtain ⟨i,rfl⟩ := Nat.exists_eq_add_of_le behind
    rw [at_gap,List.getElem?_append_left (by omega)] at there
    cases seen.symm.trans (blank c (List.mem_of_getElem? there))
  case begins => exact Nat.lt_add_of_pos_right (List.length_pos_of_ne_nil some)
  case shown =>
    intro between behind before
    obtain ⟨i,rfl⟩ := Nat.exists_eq_add_of_le (position ▸ behind)
    have inside : i < stray.text.length := by omega
    refine ⟨stray.text[i],?_,shown _ (List.getElem_mem inside)⟩
    rw [Nat.add_assoc,at_gap,List.getElem?_append_right (by omega),Nat.add_sub_cancel_left,List.getElem?_append_left inside]
    exact List.getElem?_eq_getElem inside
  case within =>
    rw [stop]
    simp only [List.length_append]
    omega
  case ends =>
    cases rest with
    | nil => left; rw [stop]; simp
    | cons d others =>
      refine .inr ⟨d,?_,last d rfl⟩
      rw [stop,at_gap]
      simp
  case quoted =>
    rw [position,← List.drop_drop,split]
    simp

theorem Bare.congr {other : List Span} (same : ∀ span, span ∈ spans ↔ span ∈ other) : Bare text spans position ↔ Bare text other position :=
  ⟨fun bare => ⟨bare.shown,fun span member => bare.outside span ((same span).mpr member)⟩,
    fun bare => ⟨bare.shown,fun span member => bare.outside span ((same span).mp member)⟩⟩

theorem FirstBare.congr {other : List Span} (same : ∀ span, span ∈ spans ↔ span ∈ other)
    (found : FirstBare text spans first position) : FirstBare text other first position :=
  ⟨found.behind,(Bare.congr same).mp found.bare,fun earlier behind before bare =>
    found.least earlier behind before ((Bare.congr same).mpr bare)⟩

theorem GoesTo.congr {other : List Span} (same : ∀ span, span ∈ spans ↔ span ∈ other)
    (goes : GoesTo text spans position stop) : GoesTo text other position stop := by
  refine ⟨goes.begins,?_,goes.shown,fun between behind before span member =>
    goes.whole between behind before span ((same span).mpr member)⟩
  exact goes.ends.imp_right (Or.imp_right (Exists.imp fun span => And.imp_left (same span).mp))

theorem gap_some {span : Span} (least : ∀ other ∈ spans, span.start ≤ other.start)
    (found : strayIn ((text.drop first).take (span.start - first)) first = some stray) :
    FirstBare text (span :: spans) first stray.position ∧ GoesTo text (span :: spans) stray.position stray.stop ∧
      (text.drop stray.position).take stray.text.length = stray.text := by
  have strays := strayIn_some (List.take_append_drop (span.start - first) _).symm found
  have begins := strays.begins
  have within := strays.within
  have behind := strays.behind
  rw [List.length_take,List.length_drop] at within
  have starts : ∀ other ∈ span :: spans, stray.stop ≤ other.start := by
    have own : stray.stop ≤ span.start := by omega
    exact List.forall_mem_cons.mpr ⟨own,fun other member => own.trans (least other member)⟩
  refine ⟨⟨behind,⟨strays.shown _ (Nat.le_refl _) begins,?_⟩,?_⟩,⟨begins,?_,?_,?_⟩,strays.quoted⟩
  · rintro other member ⟨early,_⟩
    have := starts other member
    omega
  · exact fun earlier later before bare => strays.blank earlier later before bare.shown
  · rcases strays.ends with last | blank
    · rw [List.length_take,List.length_drop] at last
      by_cases inside : span.start ≤ text.length
      · exact .inr (.inr ⟨span,List.mem_cons_self,by omega⟩)
      · exact .inl (by omega)
    · exact .inr (.inl blank)
  · exact fun between later before => strays.shown between (Nat.le_of_lt later) before
  · intro between _ before other member
    have := starts other member
    omega

theorem rest_some (found : strayIn (text.drop first) first = some stray) :
    FirstBare text [] first stray.position ∧ GoesTo text [] stray.position stray.stop ∧
      (text.drop stray.position).take stray.text.length = stray.text := by
  have strays := strayIn_some (List.append_nil _).symm found
  have begins := strays.begins
  have within := strays.within
  have behind := strays.behind
  rw [List.length_drop] at within
  refine ⟨⟨behind,⟨strays.shown _ (Nat.le_refl _) begins,nofun⟩,?_⟩,⟨begins,?_,?_,nofun⟩,strays.quoted⟩
  · exact fun earlier later before bare => strays.blank earlier later before bare.shown
  · refine strays.ends.imp (fun last => ?_) .inl
    rw [List.length_drop] at last
    omega
  · exact fun between later before => strays.shown between (Nat.le_of_lt later) before

-- The furthest end so far is where the text that has not been looked at begins: all in front
-- of it is blank or lies in a span that has been passed.
theorem sweep_some (sorted : spans.Pairwise (fun a b => a.start ≤ b.start)) (found : sweep text first spans = some stray) :
    FirstBare text spans first stray.position ∧ GoesTo text spans stray.position stray.stop ∧
      (text.drop stray.position).take stray.text.length = stray.text := by
  induction spans generalizing first with
  | nil => exact rest_some found
  | cons span rest ih =>
    obtain ⟨least,sorted⟩ := List.pairwise_cons.mp sorted
    rw [sweep,Option.or_eq_some_iff] at found
    rcases found with here | ⟨none,later⟩
    · exact gap_some least here
    · obtain ⟨found,goes,quoted⟩ := ih sorted later
      have gap := blank_between.mp (strayIn_none.mp none)
      have unseen {position : Nat} (behind : first ≤ position) (before : position < span.start) : ¬ Shown text position := by
        rintro ⟨c,there,seen⟩
        cases seen.symm.trans (gap position c behind before there)
      have behind := found.behind
      have passed : span.start ≤ stray.position := by
        by_contra before
        exact unseen (by omega) (Nat.lt_of_not_le before) found.bare.shown
      refine ⟨⟨by omega,⟨found.bare.shown,?_⟩,?_⟩,⟨goes.begins,?_,goes.shown,?_⟩,quoted⟩
      · refine List.forall_mem_cons.mpr ⟨?_,found.bare.outside⟩
        rintro ⟨_,inside⟩
        omega
      · intro earlier later before bare
        by_cases early : earlier < span.start
        · exact unseen later early bare.shown
        · have outside := bare.outside span List.mem_cons_self
          have beyond : span.stop ≤ earlier := Nat.le_of_not_lt fun inside => outside ⟨Nat.le_of_not_lt early,inside⟩
          exact found.least earlier (by omega) before
            ⟨bare.shown,fun other member => bare.outside other (List.mem_cons_of_mem _ member)⟩
      · exact goes.ends.imp_right (Or.imp_right (Exists.imp fun _ => And.imp_left (List.mem_cons_of_mem _)))
      · intro between later before
        refine List.forall_mem_cons.mpr ⟨?_,goes.whole between later before⟩
        omega

theorem stray?_some (found : stray? text spans = some stray) :
    FirstBare text spans 0 stray.position ∧ GoesTo text spans stray.position stray.stop ∧
      (text.drop stray.position).take stray.text.length = stray.text := by
  obtain ⟨first,goes,quoted⟩ := sweep_some (sorted_starts spans) found
  have same (span : Span) : span ∈ spans.mergeSort Span.before ↔ span ∈ spans := List.mem_mergeSort
  exact ⟨first.congr same,goes.congr same,quoted⟩

def strayError (text : List Char) (position stop : Nat) : SyntaxError :=
  ⟨.strayText (String.ofList ((text.drop position).take (stop - position))),some (1 + (text.take position).count '\n')⟩

theorem checkStray_error (failed : checkStray text spans = .error error) : ∃ position stop,
    FirstBare text spans 0 position ∧ GoesTo text spans position stop ∧ error = strayError text position stop := by
  rw [checkStray] at failed
  cases found : stray? text spans with
  | none => rw [found] at failed; cases failed
  | some stray =>
    obtain ⟨first,goes,quoted⟩ := stray?_some found
    rw [found] at failed
    cases failed
    refine ⟨stray.position,stray.stop,first,goes,?_⟩
    rw [strayError,Stray.stop,Nat.add_sub_cancel_left,quoted,Nat.add_comm 1]
    rfl

theorem Bare.uncovered (bare : Bare text spans position) : ¬ CoveredFrom text spans 0 := by
  intro covered
  obtain ⟨c,there,seen⟩ := bare.shown
  obtain ⟨span,member,holds⟩ := covered position c (Nat.zero_le _) there seen
  exact bare.outside span member holds

-- Whatever the spans are, nothing outside them gets through but blanks, and of what does not
-- get through the first is shown.
theorem checkStray_exact (text : List Char) (spans : List Span) :
    (checkStray text spans = .ok () ↔ CoveredFrom text spans 0) ∧
    ∀ error, checkStray text spans = .error error ↔ ∃ position stop,
      FirstBare text spans 0 position ∧ GoesTo text spans position stop ∧ error = strayError text position stop := by
  refine ⟨checkStray_ok,fun error => ⟨checkStray_error,?_⟩⟩
  rintro ⟨position,stop,first,goes,rfl⟩
  cases result : checkStray text spans with
  | ok => exact absurd (checkStray_ok.mp result) first.bare.uncovered
  | error other =>
    obtain ⟨own,last,found,goes',rfl⟩ := checkStray_error result
    cases found.unique first
    cases goes'.unique goes
    rfl

example : checkStray "fn a;\n x yz fn b;".toList [⟨12,17⟩,⟨0,5⟩,⟨10,11⟩,⟨7,8⟩,⟨1,3⟩,⟨2,9⟩] =
    .error ⟨.strayText "y",some 2⟩ := by cbv

end NativeBinding.Definition
