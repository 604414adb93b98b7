import NativeBinding.Proofs.Definition.Comments
import NativeBinding.Proofs.Definition.Rereading

namespace NativeBinding

namespace Definition
open Text

theorem scan_words {recognise : Recogniser α} (cuts : recognise.Cuts) (starts : recognise.Starts) (ends : recognise.Ends)
    {text : List Char} (member : found ∈ scan recognise text) : ∃ c, text[found.span.start]? = some c ∧ isWord c := by
  obtain ⟨before,taken,after,takes⟩ := scan_takes cuts member
  have matched := takes.matched
  have some : taken ++ after ≠ [] := by
    obtain ⟨passed,c,split,_⟩ := ends matched
    simp [split]
  obtain ⟨c,rest,split⟩ := List.exists_cons_of_ne_nil some
  refine ⟨c,by simp [takes.span,takes.text,split],?_⟩
  by_contra other
  rw [split] at matched
  cases (starts c rest (Bool.eq_false_of_not_eq_true other)).symm.trans matched

theorem layoutOf_words {text : List Char} {layout : Layout} (found : layoutOf text = .ok layout) :
    ∀ span ∈ layout.spans, ∃ c, text[span.start]? = some c ∧ isWord c := by
  obtain ⟨component,blocks,functions⟩ := layoutOf_scans found
  simp only [Layout.spans,blocks,functions,List.cons_append,List.forall_mem_cons,List.forall_mem_append,List.forall_mem_map]
  exact ⟨scan_words componentClause_cuts componentClause_starts componentClause_ends component,
    fun _ member => scan_words blockClause_cuts blockClause_starts blockClause_ends member,
    fun _ member => scan_words functionClause_cuts functionClause_starts functionClause_ends member⟩

theorem readBare_stray {front : List Char} (wordless : ∀ d ∈ front ++ [c], isWord d = false) (shown : isBlank c = false)
    (rest : List Char) (model : Model) : readBare (front ++ c :: rest) ≠ .ok model := by
  intro read
  obtain ⟨layout,found,read⟩ := result_ok_parts read
  obtain ⟨_,covered,_⟩ := result_ok_parts read
  obtain ⟨span,member,start,_⟩ := checkStray_ok.mp covered front.length c (Nat.zero_le _) (by simp) shown
  obtain ⟨d,there,word⟩ := layoutOf_words found span member
  rw [List.append_cons,List.getElem?_append_left (by simp; omega)] at there
  cases (wordless d (List.mem_of_getElem? there)).symm.trans word

theorem Comment.unclear_stray {content rest : List Char} (formed : (block content).IsFormed)
    (unclear : ¬ (block content).IsClear) (single : '\n' ∉ rest) (blank : isBlank c) (model : Model) :
    readChars (c :: ((block content).text ++ rest)) ≠ .ok model := by
  rw [readChars_bare,dropComments_blank blank,unclear_dropped formed unclear single]
  have wordless : ∀ d ∈ [c] ++ ['/'], isWord d = false :=
    List.forall_mem_cons.mpr ⟨blank_apart blank,List.forall_mem_singleton.mpr (by decide)⟩
  exact readBare_stray wordless (by decide) _ model

end Definition

-- Comments may stand at all blanks of all texts exactly if each of them is clear.
theorem comments_ignored_iff {allowed : Definition.Comment → Prop} (formed : ∀ comment, allowed comment → comment.IsFormed) :
    (∀ (text other : String) (model : Model), Definition.Uncommented text.toList →
      Definition.Filled allowed text.toList other.toList → Model.read text = .ok model → Model.read other = .ok model) ↔
    ∀ comment, allowed comment → comment.IsClear := by
  constructor
  · intro ignored comment member
    cases comment with
    | line => trivial
    | block content =>
      by_contra unclear
      have start : " namespace n;".toList = ' ' :: "namespace n;".toList := by decide
      have filled : Definition.Filled allowed " namespace n;".toList
          (' ' :: ((Definition.Comment.block content).text ++ ' ' :: "namespace n;".toList)) := by
        rw [start]
        exact .fill (by decide) member (Definition.Filled.refl allowed _)
      have bare : Model.read " namespace n;" = .ok ⟨"n",[],[],[],[]⟩ := by cbv
      rw [← String.toList_ofList (l := ' ' :: _)] at filled
      have read := ignored _ _ _ (by decide) filled bare
      rw [Model.read,String.toList_ofList] at read
      exact Definition.Comment.unclear_stray (formed _ member) unclear (by decide) (by decide) _ read
  · intro clear text other model free filled read
    have loose := filled.dropped free (fun comment member => ⟨formed comment member,clear comment member⟩)
    rw [Model.read,Definition.readChars_bare] at *
    rw [free.dropped] at read
    exact Definition.readBare_loose loose read

def mixedComments : List Definition.Comment := [.line " /* x".toList,.block " // y\n * ".toList]

theorem comments_ignored_sample : (∀ comment, comment ∈ mixedComments → comment.IsFormed) ∧
    Model.read "namespace n; // /* x\n /* // y\n * */ fn f();" = .ok ⟨"n",[],[],[⟨"f",[],none⟩],[]⟩ := by
  have formed : ∀ comment, comment ∈ mixedComments → comment.IsFormed := by decide
  have clear : ∀ comment, comment ∈ mixedComments → comment.IsClear := by decide
  have bare : "namespace n; fn f();".toList = "namespace n;".toList ++ ' ' :: "fn f();".toList := by decide +kernel
  have full : "namespace n; // /* x\n /* // y\n * */ fn f();".toList = "namespace n;".toList ++
      ' ' :: ((Definition.Comment.line " /* x".toList).text ++ ' ' ::
        ((Definition.Comment.block " // y\n * ".toList).text ++ ' ' :: "fn f();".toList)) := by decide +kernel
  refine ⟨formed,(comments_ignored_iff formed).mpr clear "namespace n; fn f();" _ _ (by decide +kernel) ?_ (by cbv)⟩
  rw [bare,full]
  exact (Definition.Filled.fill (by decide) (by simp [mixedComments])
    (.fill (by decide) (by simp [mixedComments]) (Definition.Filled.refl _ _))).append _

-- The slashes of an address hide the end of the comment.
theorem comments_not_ignored : Definition.Uncommented "namespace n; fn f();".toList ∧
    Definition.Filled Definition.Comment.IsFormed "namespace n; fn f();".toList
      "namespace n; /* see http://x */ fn f();".toList ∧
    Model.read "namespace n; fn f();" = .ok ⟨"n",[],[],[⟨"f",[],none⟩],[]⟩ ∧
    Model.read "namespace n; /* see http://x */ fn f();" = .error ⟨.strayText "/*",some 1⟩ := by
  have bare : "namespace n; fn f();".toList = "namespace n;".toList ++ ' ' :: "fn f();".toList := by decide
  have full : "namespace n; /* see http://x */ fn f();".toList = "namespace n;".toList ++
      ' ' :: ((Definition.Comment.block " see http://x ".toList).text ++ ' ' :: "fn f();".toList) := by decide +kernel
  have formed : (Definition.Comment.block " see http://x ".toList).IsFormed := by decide +kernel
  refine ⟨by decide +kernel,?_,by cbv,by cbv⟩
  rw [bare,full]
  exact (Definition.Filled.fill (by decide) formed (Definition.Filled.refl _ _)).append _

end NativeBinding
