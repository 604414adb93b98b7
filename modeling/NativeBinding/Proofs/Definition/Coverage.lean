import NativeBinding.Proofs.Definition.Placement
import NativeBinding.Proofs.Sequence

namespace NativeBinding.Definition
open Text

def Span.Holds (span : Span) (position : Nat) : Prop := span.start ≤ position ∧ position < span.stop

def CoveredFrom (text : List Char) (spans : List Span) (first : Nat) : Prop :=
  ∀ position c, first ≤ position → text[position]? = some c → isBlank c = false → ∃ span ∈ spans, span.Holds position

theorem strayIn_none {gap : List Char} : strayIn gap position = none ↔ ∀ c ∈ gap, isBlank c := by
  rw [← List.dropWhile_eq_nil_iff,strayIn]
  change _ ↔ dropBlank gap = []
  split <;> simp_all

theorem blank_drop {text : List Char} {first : Nat} : (∀ c ∈ text.drop first, isBlank c) ↔
    ∀ position c, first ≤ position → text[position]? = some c → isBlank c := by
  constructor
  · intro blank position c behind there
    refine blank c (List.mem_of_getElem? (i := position - first) ?_)
    rwa [List.getElem?_drop,Nat.add_sub_cancel' behind]
  · intro blank c member
    obtain ⟨i,there⟩ := List.mem_iff_getElem?.mp member
    rw [List.getElem?_drop] at there
    exact blank _ c (Nat.le_add_right _ _) there

theorem blank_between {text : List Char} {first last : Nat} : (∀ c ∈ (text.drop first).take (last - first), isBlank c) ↔
    ∀ position c, first ≤ position → position < last → text[position]? = some c → isBlank c := by
  rw [← List.drop_take,blank_drop]
  refine forall_congr' fun position => forall_congr' fun c => imp_congr_right fun _ => ?_
  rw [List.getElem?_take]
  split
  · simp_all
  · simp_all

-- Spans may nest and overlap: all before the furthest end so far has been looked at, and
-- what lies between it and the next start is in no later span either.
theorem sweep_none {text : List Char} {spans : List Span} (sorted : spans.Pairwise (fun a b => a.start ≤ b.start)) :
    sweep text first spans = none ↔ CoveredFrom text spans first := by
  induction spans generalizing first with
  | nil =>
    rw [sweep,strayIn_none,blank_drop]
    constructor
    · intro blank position c behind there shown
      cases shown.symm.trans (blank position c behind there)
    · intro covered position c behind there
      by_contra shown
      obtain ⟨_,none,_⟩ := covered position c behind there (Bool.eq_false_of_not_eq_true shown)
      cases none
  | cons span rest ih =>
    obtain ⟨least,sorted⟩ := List.pairwise_cons.mp sorted
    rw [sweep,Option.or_eq_none_iff,strayIn_none,blank_between,ih sorted]
    constructor
    · rintro ⟨blank,covered⟩ position c behind there shown
      by_cases early : position < span.start
      · cases shown.symm.trans (blank position c behind early there)
      · by_cases within : position < span.stop
        · exact ⟨span,List.mem_cons_self,Nat.le_of_not_lt early,within⟩
        · obtain ⟨other,member,holds⟩ := covered position c (by omega) there shown
          exact ⟨other,List.mem_cons_of_mem _ member,holds⟩
    · intro covered
      refine ⟨?_,?_⟩
      · intro position c behind early there
        by_contra shown
        obtain ⟨other,member,holds⟩ := covered position c behind there (Bool.eq_false_of_not_eq_true shown)
        have start : span.start ≤ other.start := (List.mem_cons.mp member).elim (fun same => same ▸ Nat.le_refl _) (least other)
        have := holds.1
        omega
      · intro position c behind there shown
        obtain ⟨other,member,holds⟩ := covered position c (by omega) there shown
        refine ⟨other,(List.mem_cons.mp member).resolve_left ?_,holds⟩
        rintro rfl
        have := holds.2
        omega

theorem sorted_starts (spans : List Span) : (spans.mergeSort Span.before).Pairwise (fun a b => a.start ≤ b.start) := by
  have sorted : (spans.mergeSort Span.before).Pairwise (fun a b => a.before b) :=
    List.pairwise_mergeSort before_trans before_total _
  exact sorted.imp fun before => by rw [before_iff] at before; omega

theorem stray?_none {text : List Char} {spans : List Span} : stray? text spans = none ↔ CoveredFrom text spans 0 := by
  rw [stray?,sweep_none (sorted_starts spans)]
  simp only [CoveredFrom,List.mem_mergeSort]

theorem checkStray_ok {text : List Char} {spans : List Span} :
    checkStray text spans = .ok () ↔ CoveredFrom text spans 0 := by
  rw [← stray?_none,checkStray]
  split <;> simp_all

def rank (text : List Char) (position : Nat) : Nat := (text.take position).countP (fun c => !isBlank c)

section
variable {text : List Char}

theorem rank_mono (order : one ≤ two) : rank text one ≤ rank text two :=
  (List.take_sublist_take_left order).countP_le

theorem rank_succ (there : text[position]? = some c) (shown : isBlank c = false) :
    rank text (position + 1) = rank text position + 1 := by
  simp [rank,List.take_add_one,there,List.countP_append,shown]

theorem rank_le (text : List Char) (position : Nat) : rank text position ≤ text.countP (fun c => !isBlank c) :=
  (List.take_sublist _ _).countP_le

theorem rank_front (split : text = front ++ rest) : rank text front.length = front.countP (fun c => !isBlank c) := by
  rw [split,rank,List.take_left]

theorem rank_cons (c : Char) (rest : List Char) (position : Nat) :
    rank (c :: rest) (position + 1) = rank rest position + if isBlank c then 0 else 1 := by
  cases blank : isBlank c <;> simp [rank,blank]

theorem rank_onto {text : List Char} (less : k < text.countP (fun c => !isBlank c)) :
    ∃ position c, text[position]? = some c ∧ isBlank c = false ∧ rank text position = k := by
  induction text generalizing k with
  | nil => cases less
  | cons c rest ih =>
    rw [List.countP_cons] at less
    cases blank : isBlank c with
    | true =>
      obtain ⟨position,d,there,shown,same⟩ := ih (by simpa [blank] using less)
      exact ⟨position + 1,d,there,shown,by simp [rank_cons,blank,same]⟩
    | false =>
      cases k with
      | zero => exact ⟨0,c,rfl,blank,rfl⟩
      | succ k =>
        obtain ⟨position,d,there,shown,same⟩ := ih (by simpa [blank] using less)
        exact ⟨position + 1,d,there,shown,by simp [rank_cons,blank,same]⟩

theorem Span.holds_rank {span : Span} (there : text[position]? = some c) (shown : isBlank c = false) :
    span.Holds position ↔ rank text span.start ≤ rank text position ∧ rank text position < rank text span.stop := by
  have next := rank_succ there shown
  constructor
  · rintro ⟨start,stop⟩
    have one : rank text span.start ≤ rank text position := rank_mono start
    have two : rank text (position + 1) ≤ rank text span.stop := rank_mono stop
    omega
  · rintro ⟨start,stop⟩
    refine ⟨?_,?_⟩
    · by_contra late
      have bound : rank text (position + 1) ≤ rank text span.start := rank_mono (Nat.lt_of_not_le late)
      omega
    · by_contra late
      have bound : rank text span.stop ≤ rank text position := rank_mono (Nat.le_of_not_lt late)
      omega

theorem covered_ranks {spans : List Span} : CoveredFrom text spans 0 ↔ ∀ k < text.countP (fun c => !isBlank c),
    ∃ span ∈ spans, rank text span.start ≤ k ∧ k < rank text span.stop := by
  constructor
  · intro covered k less
    obtain ⟨position,c,there,shown,rfl⟩ := rank_onto less
    obtain ⟨span,member,holds⟩ := covered position c (Nat.zero_le _) there shown
    exact ⟨span,member,(Span.holds_rank there shown).mp holds⟩
  · intro covered position c _ there shown
    have bound := rank_le text (position + 1)
    rw [rank_succ there shown] at bound
    obtain ⟨span,member,holds⟩ := covered _ bound
    exact ⟨span,member,(Span.holds_rank there shown).mpr holds⟩

end

-- Two places in two texts with the same characters in front of them, but for blanks.
def Span.Level (text other : List Char) (span twin : Span) : Prop :=
  rank text span.start = rank other twin.start ∧ rank text span.stop = rank other twin.stop

theorem covered_level {text other : List Char} (same : text.countP (fun c => !isBlank c) = other.countP (fun c => !isBlank c))
    {spans twins : List Span} (level : List.Forall₂ (Span.Level text other) spans twins)
    (covered : CoveredFrom text spans 0) : CoveredFrom other twins 0 := by
  rw [covered_ranks] at *
  intro k less
  obtain ⟨span,member,start,stop⟩ := covered k (same ▸ less)
  obtain ⟨twin,present,first,last⟩ := forall₂_right level member
  exact ⟨twin,present,first ▸ start,last ▸ stop⟩

end NativeBinding.Definition
