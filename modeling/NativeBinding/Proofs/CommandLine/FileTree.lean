import Mathlib
import NativeBinding.CommandLine.FileTree
import NativeBinding.Proofs.Sequence

namespace NativeBinding.CommandLine

def Path.location (path : Path) : Location := path.parts.foldl Location.step (Location.start path)

def Path.passed (path : Path) : List Location :=
  path.parts.inits.map (fun parts => (⟨path.anchor,parts⟩ : Path).location)

namespace Path

theorem mem_passed {path : Path} {place : Location} :
    place ∈ path.passed ↔ ∃ parts rest, path.parts = parts ++ rest ∧ place = (⟨path.anchor,parts⟩ : Path).location := by
  simp only [passed,List.mem_map,List.mem_inits]
  constructor
  · intro ⟨parts,⟨rest,whole⟩,same⟩
    exact ⟨parts,rest,whole.symm,same.symm⟩
  · intro ⟨parts,rest,whole,same⟩
    exact ⟨parts,⟨rest,whole.symm⟩,same.symm⟩

theorem location_passed (path : Path) : path.location ∈ path.passed :=
  mem_passed.mpr ⟨path.parts,[],(List.append_nil _).symm,rfl⟩

theorem mem_passed_snoc {anchor : Anchor} {parts : List String} {name : String} {place : Location} :
    place ∈ (⟨anchor,parts ++ [name]⟩ : Path).passed ↔
      place ∈ (⟨anchor,parts⟩ : Path).passed ∨ place = (⟨anchor,parts ++ [name]⟩ : Path).location := by
  constructor
  · intro member
    obtain ⟨front,rest,whole,rfl⟩ := mem_passed.mp member
    cases rest using List.reverseRecOn with
    | nil =>
      right
      rw [List.append_nil] at whole
      exact congrArg (fun parts => (⟨anchor,parts⟩ : Path).location) whole.symm
    | append_singleton rest last =>
      left
      rw [← List.append_assoc] at whole
      exact mem_passed.mpr ⟨front,rest,(List.append_inj' whole rfl).1,rfl⟩
  · intro either
    apply mem_passed.mpr
    rcases either with member | rfl
    · obtain ⟨front,rest,whole,rfl⟩ := mem_passed.mp member
      exact ⟨front,rest ++ [name],by simp [show parts = front ++ rest from whole],rfl⟩
    · exact ⟨parts ++ [name],[],by simp,rfl⟩

end Path

namespace FileTree
variable {tree after : FileTree} {path : Path} {location place other : Location}

theorem lookup_replaced (entries : List (Location × Node)) (location place : Location) (node : Node) :
    (entries.map (fun row => if row.1 == location then (location,node) else row)).lookup place =
      if place = location then (entries.lookup location).map (fun _ => node) else entries.lookup place := by
  induction entries with
  | nil => simp
  | cons row rest ih =>
    obtain ⟨key,old⟩ := row
    by_cases own : key = location
    · subst own
      by_cases same : place = key
      · simp [same]
      · have skip : (place == key) = false := beq_eq_false_iff_ne.mpr same
        rw [if_neg same] at ih ⊢
        simpa only [List.map_cons,beq_self_eq_true,if_true,List.lookup_cons,skip] using ih
    · have keep : (key == location) = false := beq_eq_false_iff_ne.mpr own
      have skip : (location == key) = false := beq_eq_false_iff_ne.mpr (Ne.symm own)
      by_cases same : place = key
      · simp [same,own]
      · have next : (place == key) = false := beq_eq_false_iff_ne.mpr same
        simpa only [List.map_cons,keep,Bool.false_eq_true,if_false,List.lookup_cons,skip,next] using ih

theorem node?_put (named : location.names ≠ []) (node : Node) (place : Location) :
    (tree.put location node).node? place = if place = location then some node else tree.node? place := by
  have filled : location.names.isEmpty = false := by simpa using named
  have found : (tree.put location node).entries.lookup place = if place = location then some node else tree.entries.lookup place := by
    unfold put
    split
    · rename_i there
      obtain ⟨old,known⟩ := Option.isSome_iff_exists.mp there
      rw [lookup_replaced,known]
      rfl
    · rename_i absent
      have none : tree.entries.lookup location = none := Option.not_isSome_iff_eq_none.mp absent
      by_cases same : place = location
      · simp [List.lookup_append,same,none]
      · have skip : (place == location) = false := beq_eq_false_iff_ne.mpr same
        simp [List.lookup_append,List.lookup_cons,skip,same]
  unfold node?
  rw [found]
  by_cases same : place = location
  · simp [same,filled]
  · rw [if_neg same,if_neg same]

theorem descend_parts {names : List String} (found : tree.descend location names = .ok place) :
    place = names.foldl Location.step location ∧
    ∀ front rest, names = front ++ rest → rest ≠ [] → tree.node? (front.foldl Location.step location) = some .directory := by
  induction names generalizing location with
  | nil =>
    cases found
    refine ⟨rfl,?_⟩
    intro front rest whole some
    exact absurd (List.append_eq_nil_iff.mp whole.symm).2 some
  | cons name names ih =>
    unfold descend at found
    split at found
    · cases found
    · cases found
    · rename_i here
      split at found
      · cases found
      · obtain ⟨reached,through⟩ := ih found
        refine ⟨reached,?_⟩
        intro front rest whole some
        cases front with
        | nil => exact here
        | cons first front =>
          obtain ⟨rfl,later⟩ := List.cons.inj whole
          exact through front rest later some

theorem locate_parts (found : tree.locate path = .ok place) : place = path.location ∧
    ∀ parts rest, path.parts = parts ++ rest → rest ≠ [] →
      tree.node? (⟨path.anchor,parts⟩ : Path).location = some .directory := by
  unfold locate at found
  split at found
  · cases found
  · split at found
    · cases found
    · exact descend_parts found

def Open (tree : FileTree) (path : Path) : Prop := ∀ place ∈ path.passed, tree.node? place = some .directory

-- Nothing is new but directories where a path goes through, and nothing is different.
def Grown (tree : FileTree) (path : Path) (after : FileTree) : Prop := ∀ place, after.node? place = tree.node? place ∨
  place ∈ path.passed ∧ tree.node? place = none ∧ after.node? place = some .directory

theorem Grown.refl (tree : FileTree) (path : Path) : tree.Grown path tree := fun _ => .inl rfl

theorem Grown.trans {middle : FileTree} (one : tree.Grown path middle) (two : middle.Grown path after) : tree.Grown path after := by
  intro place
  rcases two place with same | ⟨member,absent,made⟩
  · rw [same]
    exact one place
  · rcases one place with same | ⟨_,_,there⟩
    · exact .inr ⟨member,same ▸ absent,made⟩
    · rw [there] at absent
      cases absent

theorem Grown.snoc {anchor : Anchor} {parts : List String} (grown : tree.Grown ⟨anchor,parts⟩ after) (name : String) :
    tree.Grown ⟨anchor,parts ++ [name]⟩ after := by
  intro place
  rcases grown place with same | ⟨member,absent,made⟩
  · exact .inl same
  · exact .inr ⟨Path.mem_passed_snoc.mpr (.inl member),absent,made⟩

theorem Grown.directory (grown : tree.Grown path after) (known : tree.node? place = some .directory) :
    after.node? place = some .directory := by
  rcases grown place with same | ⟨_,_,made⟩
  · rw [same,known]
  · exact made

theorem Open.grown (own : tree.Open path) (grown : tree.Grown path after) : after.Open path :=
  fun place member => grown.directory (own place member)

theorem Grown.exact (grown : tree.Grown path after) (own : after.Open path) (place : Location) :
    after.node? place = if place ∈ path.passed ∧ tree.node? place = none then some .directory else tree.node? place := by
  by_cases missing : place ∈ path.passed ∧ tree.node? place = none
  · rw [if_pos missing]
    exact own place missing.1
  · rw [if_neg missing]
    rcases grown place with same | ⟨member,absent,_⟩
    · exact same
    · exact absurd ⟨member,absent⟩ missing

theorem passed_found (found : tree.locate path = .ok place) (member : other ∈ path.passed) :
    other = path.location ∨ tree.node? other = some .directory := by
  obtain ⟨_,through⟩ := locate_parts found
  obtain ⟨parts,rest,whole,rfl⟩ := Path.mem_passed.mp member
  by_cases last : rest = []
  · left
    rw [last,List.append_nil] at whole
    exact congrArg (fun parts => (⟨path.anchor,parts⟩ : Path).location) whole.symm
  · exact .inr (through parts rest whole last)

theorem isDirectory_open (known : tree.isDirectory path) : tree.Open path := by
  unfold isDirectory at known
  split at known
  · cases known
  · rename_i place found
    have own : tree.node? place = some .directory := by simpa using known
    intro other member
    rcases passed_found found member with rfl | there
    · rw [← (locate_parts found).1]
      exact own
    · exact there

theorem node?_named (other : tree.node? place ≠ some .directory) : place.names ≠ [] := by
  intro none
  apply other
  simp [node?,none]

theorem makeDirectory_made (done : tree.makeDirectory path = .ok after) : tree.Grown path after ∧ after.Open path := by
  obtain ⟨place,found,done⟩ := result_ok_parts done
  split at done
  · cases done
  · rename_i absent
    cases done
    obtain ⟨rfl,_⟩ := locate_parts found
    have other : tree.node? path.location ≠ some .directory := by simp [absent]
    have put := @node?_put tree path.location (node?_named other) .directory
    constructor
    · intro other
      rw [put]
      by_cases own : other = path.location
      · subst own
        exact .inr ⟨path.location_passed,absent,if_pos rfl⟩
      · exact .inl (if_neg own)
    · intro other member
      rw [put]
      rcases passed_found found member with rfl | there
      · exact if_pos rfl
      · simp [there]

theorem ensureLast_made (done : tree.ensureLast path = .ok after) : tree.Grown path after ∧ after.Open path := by
  unfold ensureLast at done
  split at done
  · rename_i made
    cases done
    exact makeDirectory_made made
  · cases done
  · split at done
    · rename_i known
      cases done
      exact ⟨Grown.refl tree path,isDirectory_open known⟩
    · cases done

-- Missing directories are made one after the other, and nothing else, even if that ends early.
theorem ensure_grown (tree : FileTree) (anchor : Anchor) (names : List String) :
    tree.Grown ⟨anchor,names.reverse⟩ (tree.ensure anchor names).2 ∧
    ((tree.ensure anchor names).1 = .ok () → (tree.ensure anchor names).2.Open ⟨anchor,names.reverse⟩) := by
  induction names with
  | nil =>
    refine ⟨Grown.refl _ _,?_⟩
    intro _ place member
    obtain ⟨parts,rest,whole,rfl⟩ := Path.mem_passed.mp member
    obtain ⟨rfl,_⟩ := List.append_eq_nil_iff.mp whole.symm
    cases anchor <;> rfl
  | cons name above ih =>
    obtain ⟨below,opened⟩ := ih
    have snoc := below.snoc name
    rw [← List.reverse_cons] at snoc
    unfold ensure
    dsimp only
    split
    · rename_i made
      obtain ⟨grown,own⟩ := makeDirectory_made made
      exact ⟨grown,fun _ => own⟩
    · split
      · rename_i failed
        rw [failed] at snoc
        exact ⟨snoc,nofun⟩
      · rename_i done
        rw [done] at snoc
        split
        · rename_i last
          obtain ⟨grown,own⟩ := ensureLast_made last
          exact ⟨snoc.trans grown,fun _ => own⟩
        · exact ⟨snoc,nofun⟩
    · split
      · rename_i known
        exact ⟨Grown.refl _ _,fun _ => isDirectory_open known⟩
      · exact ⟨Grown.refl _ _,nofun⟩

theorem ensureDirectory_grown (tree : FileTree) (path : Path) : tree.Grown path (tree.ensureDirectory path).2 ∧
    ((tree.ensureDirectory path).1 = .ok () → (tree.ensureDirectory path).2.Open path) := by
  have made := ensure_grown tree path.anchor path.parts.reverse
  rwa [List.reverse_reverse] at made

theorem write_parts {text : String} (done : tree.write path text = .ok after) :
    ∀ place, after.node? place = if place = path.location then some (.file text) else tree.node? place := by
  obtain ⟨location,found,done⟩ := result_ok_parts done
  obtain ⟨rfl,_⟩ := locate_parts found
  split at done
  · cases done
  · rename_i other
    cases done
    exact node?_put (node?_named other) (.file text)

end FileTree
end NativeBinding.CommandLine
