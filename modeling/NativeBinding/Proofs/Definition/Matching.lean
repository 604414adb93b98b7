import NativeBinding.Proofs.Definition.Clauses

namespace NativeBinding.Definition
open Text

namespace Span

def Apart (a b : Span) : Prop := a.stop ≤ b.start ∨ b.stop ≤ a.start

instance (a b : Span) : Decidable (a.Apart b) := inferInstanceAs (Decidable (_ ∨ _))

def textIn (span : Span) (text : List Char) : List Char := (text.take span.stop).drop span.start

end Span

-- What a match takes of a text, with what stands in front of it and behind it.
structure Found.Takes (recognise : Recogniser α) (text : List Char) (found : Found α) (before taken after : List Char) :
    Prop where
  text : text = before ++ (taken ++ after)
  span : found.span = ⟨before.length,before.length + taken.length⟩
  matched : recognise (taken ++ after) = some (found.value,after)

def Recogniser.Cuts (recognise : Recogniser α) : Prop :=
  ∀ text value after, recognise text = some (value,after) → ∃ taken, text = taken ++ after

section
variable {recognise : Recogniser α}

theorem Found.Takes.textIn {text before taken after : List Char} {found : Found α}
    (takes : found.Takes recognise text before taken after) : found.span.textIn text = taken := by
  rw [takes.text,takes.span,Span.textIn,← List.length_append,← List.append_assoc,List.take_left,List.drop_left]

theorem scanFrom_behind {text : List Char} (member : found ∈ scanFrom recognise position afterWord inside text) :
    position + inside ≤ found.span.start := by
  induction text generalizing position afterWord inside with
  | nil => cases inside <;> cases member
  | cons c rest ih =>
    cases inside with
    | succ inside =>
      have later := ih member
      omega
    | zero =>
      rw [scanFrom] at member
      split at member
      · have later := ih member
        omega
      · rcases List.mem_cons.mp member with rfl | later
        · exact Nat.le_refl _
        · have later := ih later
          omega

theorem scanFrom_ordered (position : Nat) (afterWord : Bool) (inside : Nat) (text : List Char) :
    (scanFrom recognise position afterWord inside text).Pairwise (fun one other => one.span.stop ≤ other.span.start) := by
  induction text generalizing position afterWord inside with
  | nil => cases inside <;> exact List.Pairwise.nil
  | cons c rest ih =>
    cases inside with
    | succ inside => exact ih _ _ _
    | zero =>
      rw [scanFrom]
      split
      · exact ih _ _ _
      · refine List.pairwise_cons.mpr ⟨?_,ih _ _ _⟩
        intro other member
        have behind := scanFrom_behind member
        dsimp only
        omega

theorem scanFrom_takes (cuts : recognise.Cuts) {front text : List Char}
    (member : found ∈ scanFrom recognise front.length afterWord inside text) :
    ∃ before taken after, found.Takes recognise (front ++ text) before taken after := by
  induction text generalizing front afterWord inside with
  | nil => cases inside <;> cases member
  | cons c rest ih =>
    have next (member : ∃ afterWord inside, found ∈ scanFrom recognise (front.length + 1) afterWord inside rest) :
        ∃ before taken after, found.Takes recognise (front ++ c :: rest) before taken after := by
      obtain ⟨afterWord,inside,member⟩ := member
      rw [List.append_cons]
      exact ih (by rwa [List.length_append])
    cases inside with
    | succ inside => exact next ⟨_,_,member⟩
    | zero =>
      rw [scanFrom] at member
      split at member
      · exact next ⟨_,_,member⟩
      · rename_i value after matched
        rcases List.mem_cons.mp member with rfl | later
        · have matched : recognise (c :: rest) = some (value,after) := by
            split at matched
            · cases matched
            · exact matched
          obtain ⟨taken,split⟩ := cuts _ _ _ matched
          refine ⟨front,taken,after,congrArg (front ++ ·) split,?_,split ▸ matched⟩
          have length : (c :: rest).length - after.length = taken.length := by simp [split]
          rw [length]
        · exact next ⟨_,_,later⟩

theorem scan_takes (cuts : recognise.Cuts) (member : found ∈ scan recognise text) :
    ∃ before taken after, found.Takes recognise text before taken after := by
  have whole : found ∈ scanFrom recognise ([] : List Char).length false 0 text := member
  exact scanFrom_takes cuts whole

theorem scan_apart (recognise : Recogniser α) (text : List Char) :
    ((scan recognise text).map Found.span).Pairwise Span.Apart := by
  rw [List.pairwise_map]
  exact (scanFrom_ordered 0 false 0 text).imp Or.inl

end

theorem suffix_split {text one two : List Char} (inside : text <:+ one ++ two) :
    text <:+ two ∨ ∃ rest, rest <:+ one ∧ text = rest ++ two := by
  obtain ⟨before,same⟩ := inside
  rcases List.append_eq_append_iff.mp same with ⟨middle,rfl,rfl⟩ | ⟨middle,rfl,rfl⟩
  · exact .inr ⟨middle,List.suffix_append _ _,rfl⟩
  · exact .inl (List.suffix_append _ _)

theorem prefix_before {own inner rest behind : List α} (without : d ∉ own) (same : own ++ rest = inner ++ d :: behind) :
    own <+: inner := by
  rcases List.append_eq_append_iff.mp same with ⟨more,split,_⟩ | ⟨more,split,cut⟩
  · exact ⟨more,split.symm⟩
  · cases more with
    | nil => exact ⟨[],by simp [split]⟩
    | cons c others =>
      obtain ⟨rfl,_⟩ := List.cons.inj cut
      exact absurd (by simp [split]) without

-- A match that starts in another one.
def Enters (before taken after front own rest : List Char) : Prop :=
  ∃ passed left, taken = passed ++ left ∧ left ≠ [] ∧ front = before ++ passed ∧ own ++ rest = left ++ after

section
variable {first : Recogniser α} {second : Recogniser β} {text : List Char}
  {one : Found α} {before taken after : List Char} (takes : one.Takes first text before taken after)
  {other : Found β} {front own rest : List Char} (others : other.Takes second text front own rest)
include takes others

theorem starts_enters (behind : before.length ≤ front.length) (within : front.length < before.length + taken.length) :
    Enters before taken after front own rest := by
  have whole := takes.text.symm.trans others.text
  rcases List.append_eq_append_iff.mp whole with ⟨passed,ahead,cut⟩ | ⟨passed,ahead,cut⟩
  · subst ahead
    rcases List.append_eq_append_iff.mp cut with ⟨extra,ahead,_⟩ | ⟨left,ahead,same⟩
    · simp [ahead] at within
    · refine ⟨passed,left,ahead,?_,rfl,same⟩
      rintro rfl
      simp [ahead] at within
  · have none : passed = [] := by simpa [ahead] using behind
    subst none
    refine ⟨[],taken,rfl,?_,by simpa using ahead.symm,by simpa using cut⟩
    rintro rfl
    simp [ahead] at within

theorem apart_or_enters : one.span.Apart other.span ∨ Enters before taken after front own rest ∨
    Enters front own rest before taken after := by
  rw [Span.Apart,takes.span,others.span]
  by_cases order : before.length ≤ front.length
  · by_cases within : front.length < before.length + taken.length
    · exact .inr (.inl (starts_enters takes others order within))
    · exact .inl (.inl (Nat.not_lt.mp within))
  · by_cases within : before.length < front.length + own.length
    · exact .inr (.inr (starts_enters others takes (Nat.le_of_not_le order) within))
    · exact .inl (.inr (Nat.not_lt.mp within))

end
end NativeBinding.Definition
