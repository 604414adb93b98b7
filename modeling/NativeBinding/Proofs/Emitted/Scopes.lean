import NativeBinding.Emitted.Names
import NativeBinding.Proofs.Emitted.Bound
import NativeBinding.Proofs.Sequence

namespace NativeBinding
open Text

theorem preamble_names (component header : String) :
    namesIn [] ((preambleLines component header).drop 4) = importedNames := by
  have same : (preambleLines component header).drop 4 = (preambleLines "" "").drop 4 := rfl
  rw [same]
  decide +kernel

theorem support_names : namesIn [] supportLines = ["_logger","InternalError","_T","Some","_ByteBuffer","_buffer_address",
    "_BufferWriter","_BufferReader","_size_string","_size_bytes","_size_raw_bytes","_write_raw_bytes","_read_raw_bytes",
    "_lower_string","_lift_string","_free_quietly","_lower_buffer","_lift_buffer","_PendingBuffers"] := by
  unfold supportLines
  repeat' first
    | refine namesIn_quiet (boundIn_ofList _ rfl) ?_
    | refine namesIn_own (boundIn_ofList _ rfl) ?_
    | exact namesIn_nil

-- Where a line takes a text from the model, its start says what it is.
theorem bufferEntry_names (model : Model) : namesIn [] model.bufferEntryLines = ["_alloc_buffer","_free_buffer"] := by
  have alloc := (mute_ofList rfl : Mute [] "    rbuf = _lib().").around model.allocSymbol "(size)"
  have free := (mute_ofList rfl : Mute [] "    _lib().").around model.freeSymbol "(rbuf)"
  unfold Model.bufferEntryLines
  repeat' first
    | refine namesIn_quiet (by assumption) ?_
    | refine namesIn_quiet (boundIn_ofList _ rfl) ?_
    | refine namesIn_own (boundIn_ofList _ rfl) ?_
    | exact namesIn_nil

theorem loading_names (component library : String) : namesIn [] (loadingLines component library) =
    ["_library","_library_lock","_load_library","initialize","_lib"] := by
  have path := (mute_ofList rfl : Mute [] "        path = os.environ.get(\"").around (pathVariable component) "\")"
  have windows := (mute_ofList rfl : Mute [] "        lib_name = \"").around library ".dll\""
  have darwin := (mute_ofList rfl : Mute [] "        lib_name = \"lib").around library ".dylib\""
  have other := (mute_ofList rfl : Mute [] "        lib_name = \"").around (libraryFile library) "\""
  unfold loadingLines
  dsimp only
  repeat' first
    | refine namesIn_quiet (by assumption) ?_
    | refine namesIn_quiet (boundIn_ofList _ rfl) ?_
    | refine namesIn_own (boundIn_ofList _ rfl) ?_
    | exact namesIn_nil

theorem section_names (title : String) : namesIn [] (sectionLines title) = [] := by
  have mute : Mute [] "# " := mute_ofList rfl
  refine namesIn_quiet (mute.append _).bound ?_
  refine namesIn_quiet (mute.append title).bound ?_
  refine namesIn_quiet (mute.append _).bound ?_
  exact namesIn_quiet (boundIn_ofList _ rfl) (namesIn_quiet (boundIn_ofList _ rfl) namesIn_nil)

theorem sectionUnlessEmpty_names (title : String) (lines : List String) :
    namesIn [] (Model.sectionUnlessEmpty title lines) = namesIn [] lines := by
  unfold Model.sectionUnlessEmpty
  split
  · rename_i empty
    rw [List.isEmpty_iff.mp empty]
  · rw [namesIn_append,section_names,List.nil_append]

theorem declaration_names {model : Model} (done : model.declarationLines = .ok lines) :
    namesIn [] lines = ["_declare_ffi"] := by
  obtain ⟨declarations,_,done⟩ := result_ok_parts done
  cases done
  have mute : Mute [] "    lib." := mute_ofList rfl
  have inside : namesIn [] (declarations.flatMap Declaration.lines) = [] := by
    refine namesIn_mute ?_
    intro line member
    obtain ⟨declaration,_,own⟩ := List.mem_flatMap.mp member
    rcases List.mem_pair.mp own with rfl | rfl
    · exact (((mute.append _).append _).append _).append _
    · exact ((mute.append _).append _).append _
  rw [namesIn_append,namesIn_append,inside,List.append_nil]
  have head : namesIn [] ["def _declare_ffi(lib):",
      "    \"\"\"Declare argument and return types of every native entry point\"\"\""] = ["_declare_ffi"] :=
    namesIn_own (boundIn_ofList _ rfl) (namesIn_quiet (boundIn_ofList _ rfl) namesIn_nil)
  have last : namesIn [] ["    return lib","",""] = [] :=
    namesIn_quiet (boundIn_ofList _ rfl) (namesIn_quiet (boundIn_ofList _ rfl)
      (namesIn_quiet (boundIn_ofList _ rfl) namesIn_nil))
  rw [head,last]
  rfl

theorem object_names (model : Model) : namesIn [] model.objectLines = [] := by
  rw [namesIn,Model.objectLines,List.flatMap_assoc]
  refine List.flatMap_eq_nil_iff.mpr fun object _ => ?_
  exact namesIn_quiet ((mute_ofList rfl : Mute [] "# object ").around object _)
    (namesIn_quiet (boundIn_ofList _ rfl) namesIn_nil)

namespace Enumeration

theorem valueLines_mute (values : List String) (ordinal : Nat) : ∀ line ∈ valueLines values ordinal, Mute [] line := by
  induction values generalizing ordinal with
  | nil => exact List.forall_mem_nil _
  | cons value rest ih =>
    have mute : Mute [] "    " := mute_ofList rfl
    exact List.forall_mem_cons.mpr ⟨((mute.append _).append _).append _,ih _⟩

theorem lines_names {enumeration : Enumeration} (labelled : Labelled enumeration.name.toList) :
    namesIn [] enumeration.lines = [enumeration.name] := by
  have head : boundIn [] ("class " ++ enumeration.name ++ "(enum.IntEnum):") = [enumeration.name] := by
    have split : ("class " ++ enumeration.name ++ "(enum.IntEnum):").toList =
      [] ++ ("class".toList ++ ' ' :: (enumeration.name.toList ++ "(enum.IntEnum):".toList)) := by simp
    exact boundIn_class labelled split (by rintro c ⟨⟩; decide)
  have shown := (mute_ofList rfl : Mute [] "    \"\"\"Enum ").around enumeration.name "\"\"\""
  have values := namesIn_mute (valueLines_mute enumeration.values 1)
  have made := (mute_ofList rfl : Mute [] "    def _from_ordinal(cls, ordinal: int) -> ").around enumeration.name ":"
  have refused := (mute_ofList rfl : Mute [] "                f\"invalid ordinal \x7bordinal\x7d for enum ").around
    enumeration.name ", something is very wrong\""
  simp only [lines,List.cons_append,List.nil_append]
  repeat' first
    | refine namesIn_own head ?_
    | refine namesIn_lines values ?_
    | refine namesIn_quiet (by assumption) ?_
    | refine namesIn_quiet (boundIn_ofList _ rfl) ?_
    | exact namesIn_nil

theorem valueLines_names {values : List String} (labelled : ∀ value ∈ values, Labelled value.toList) (ordinal : Nat) :
    namesIn classMargin (valueLines values ordinal) = values := by
  induction values generalizing ordinal with
  | nil => rfl
  | cons value rest ih =>
    obtain ⟨first,others⟩ := List.forall_mem_cons.mp labelled
    have split : ("    " ++ value ++ " = " ++ toString ordinal).toList =
      classMargin ++ (value.toList ++ (" = ".toList ++ (toString ordinal).toList)) := by simp [classMargin,List.replicate]
    exact namesIn_own (boundIn_setting first split rfl (by rintro c ⟨⟩; decide)) (ih others _)

theorem lines_values {enumeration : Enumeration} (labelled : ∀ value ∈ enumeration.values, Labelled value.toList) :
    classNames enumeration.lines = enumeration.values ++ ["_from_ordinal"] := by
  have head := (mute_ofList rfl : Mute classMargin "class ").around enumeration.name "(enum.IntEnum):"
  have shown := (mute_ofList rfl : Mute classMargin "    \"\"\"Enum ").around enumeration.name "\"\"\""
  have values := valueLines_names labelled 1
  have made : boundIn classMargin ("    def _from_ordinal(cls, ordinal: int) -> " ++ enumeration.name ++ ":") =
      ["_from_ordinal"] := by
    have split : ("    def _from_ordinal(cls, ordinal: int) -> " ++ enumeration.name ++ ":").toList =
      classMargin ++ ("def".toList ++ ' ' :: ("_from_ordinal".toList ++ '(' :: ("cls, ordinal: int) -> ".toList ++ (enumeration.name.toList ++ [':'])))) := by
      simp [classMargin,List.replicate]
    exact boundIn_function (word_labelled (by decide)) split
  have refused := (mute_ofList rfl : Mute classMargin "                f\"invalid ordinal \x7bordinal\x7d for enum ").around
    enumeration.name ", something is very wrong\""
  simp only [classNames,lines,List.cons_append,List.nil_append]
  repeat' first
    | refine namesIn_own made ?_
    | refine namesIn_lines values ?_
    | refine namesIn_quiet (by assumption) ?_
    | refine namesIn_quiet (boundIn_ofList _ rfl) ?_
    | exact namesIn_nil

end Enumeration

namespace RecordClass

def memberLines (cls : RecordClass) : List String :=
  cls.members.map (fun member => "    " ++ member.name ++ ": " ++ member.hostType.text)

def sizeLine (cls : RecordClass) : String :=
  let sizes := cls.members.map (fun member => member.size.text)
  "        return " ++ (if sizes.isEmpty then "0" else " + ".intercalate sizes)

def writeLines (cls : RecordClass) : List String :=
  let writes := cls.members.map (fun member => "        " ++ member.write.text)
  if writes.isEmpty then ["        pass"] else writes

def readLines (cls : RecordClass) : List String :=
  let reads := cls.members.map (fun member => "            " ++ member.name ++ "=" ++ member.read.text ++ ",")
  if reads.isEmpty then ["        return cls()"] else "        return cls(" :: reads ++ ["        )"]

theorem lines_parts (cls : RecordClass) : cls.lines =
    "@dataclass" :: ("class " ++ cls.name ++ ":") :: ("    \"\"\"Record " ++ cls.name ++ "\"\"\"") :: (cls.memberLines ++
      "" :: "    def _size(self) -> int:" :: cls.sizeLine :: "" :: "    def _write(self, buf: _BufferWriter) -> None:" ::
      (cls.writeLines ++ "" :: "    @classmethod" :: ("    def _read(cls, buf: _BufferReader) -> " ++ cls.name ++ ":") ::
      (cls.readLines ++ ["",""]))) := by
  simp [lines,memberLines,sizeLine,writeLines,readLines]

section
variable {margin : List Char} (deep : isMute margin (List.replicate 8 ' '))
include deep

theorem deep_mute (rest : List Char) : Mute margin (String.ofList (List.replicate 8 ' ' ++ rest)) :=
  mute_ofList (isMute_append deep rest)

theorem sizeLine_quiet (cls : RecordClass) : boundIn margin cls.sizeLine = [] :=
  Mute.bound ((deep_mute deep "return ".toList).append _)

theorem writeLines_names (cls : RecordClass) : namesIn margin cls.writeLines = [] := by
  refine namesIn_mute ?_
  intro line member
  unfold writeLines at member
  dsimp only at member
  split at member
  · rw [List.mem_singleton.mp member]
    exact deep_mute deep ['p','a','s','s']
  · obtain ⟨item,_,rfl⟩ := List.mem_map.mp member
    exact (deep_mute deep []).append _

theorem readLines_names (cls : RecordClass) : namesIn margin cls.readLines = [] := by
  have mute (item : RecordMember) : Mute margin ("            " ++ item.name ++ "=" ++ item.read.text ++ ",") :=
    (((Mute.append (deep_mute deep [' ',' ',' ',' ']) _).append _).append _).append _
  refine namesIn_mute ?_
  intro line member
  unfold readLines at member
  dsimp only at member
  split at member
  · rw [List.mem_singleton.mp member]
    exact deep_mute deep "return cls()".toList
  · simp only [List.cons_append,List.mem_cons,List.mem_append,List.mem_map,List.not_mem_nil,or_false] at member
    rcases member with rfl | ⟨item,_,rfl⟩ | rfl
    · exact deep_mute deep "return cls(".toList
    · exact mute item
    · exact deep_mute deep [')']

end

theorem lines_names {cls : RecordClass} (labelled : Labelled cls.name.toList) : namesIn [] cls.lines = [cls.name] := by
  have head : boundIn [] ("class " ++ cls.name ++ ":") = [cls.name] := by
    have split : ("class " ++ cls.name ++ ":").toList = [] ++ ("class".toList ++ ' ' :: (cls.name.toList ++ [':'])) := by simp
    exact boundIn_class labelled split (by rintro c ⟨⟩; decide)
  have shown := (mute_ofList rfl : Mute [] "    \"\"\"Record ").around cls.name "\"\"\""
  have members : namesIn [] cls.memberLines = [] :=
    namesIn_mute (List.forall_mem_map.mpr fun member _ => (((mute_ofList rfl).append _).append _).append _)
  have size : boundIn [] cls.sizeLine = [] := sizeLine_quiet rfl cls
  have writes : namesIn [] cls.writeLines = [] := writeLines_names rfl cls
  have reads : namesIn [] cls.readLines = [] := readLines_names rfl cls
  have made := (mute_ofList rfl : Mute [] "    def _read(cls, buf: _BufferReader) -> ").around cls.name ":"
  rw [lines_parts]
  refine namesIn_quiet (boundIn_ofList _ rfl) (namesIn_own head (namesIn_quiet shown (namesIn_lines members ?_)))
  refine namesIn_quiet (boundIn_ofList _ rfl) (namesIn_quiet (boundIn_ofList _ rfl) (namesIn_quiet size ?_))
  refine namesIn_quiet (boundIn_ofList _ rfl) (namesIn_quiet (boundIn_ofList _ rfl) (namesIn_lines writes ?_))
  refine namesIn_quiet (boundIn_ofList _ rfl) (namesIn_quiet (boundIn_ofList _ rfl) (namesIn_quiet made ?_))
  refine namesIn_lines reads ?_
  exact namesIn_quiet (boundIn_ofList _ rfl) (namesIn_quiet (boundIn_ofList _ rfl) namesIn_nil)

theorem lines_members {cls : RecordClass} (labelled : ∀ member ∈ cls.members, Labelled member.name.toList) :
    classNames cls.lines = cls.members.map RecordMember.name ++ ["_size","_write","_read"] := by
  have head := (mute_ofList rfl : Mute classMargin "class ").around cls.name ":"
  have shown := (mute_ofList rfl : Mute classMargin "    \"\"\"Record ").around cls.name "\"\"\""
  have members : namesIn classMargin cls.memberLines = cls.members.map RecordMember.name := by
    refine namesIn_map ?_
    intro member own
    have split : ("    " ++ member.name ++ ": " ++ member.hostType.text).toList =
      classMargin ++ (member.name.toList ++ (": ".toList ++ member.hostType.text.toList)) := by simp [classMargin,List.replicate]
    exact boundIn_setting (labelled member own) split rfl (by rintro c ⟨⟩; decide)
  have size : boundIn classMargin cls.sizeLine = [] := sizeLine_quiet rfl cls
  have writes : namesIn classMargin cls.writeLines = [] := writeLines_names rfl cls
  have reads : namesIn classMargin cls.readLines = [] := readLines_names rfl cls
  have made : boundIn classMargin ("    def _read(cls, buf: _BufferReader) -> " ++ cls.name ++ ":") = ["_read"] := by
    have split : ("    def _read(cls, buf: _BufferReader) -> " ++ cls.name ++ ":").toList = classMargin ++ ("def".toList ++
      ' ' :: ("_read".toList ++ '(' :: ("cls, buf: _BufferReader) -> ".toList ++ (cls.name.toList ++ [':'])))) := by
      simp [classMargin,List.replicate]
    exact boundIn_function (word_labelled (by decide)) split
  rw [lines_parts,classNames]
  refine namesIn_quiet (boundIn_ofList _ rfl) (namesIn_quiet head (namesIn_quiet shown (namesIn_lines members ?_)))
  refine namesIn_quiet (boundIn_ofList _ rfl) (namesIn_own (boundIn_ofList _ rfl) (namesIn_quiet size ?_))
  refine namesIn_quiet (boundIn_ofList _ rfl) (namesIn_own (boundIn_ofList _ rfl) (namesIn_lines writes ?_))
  refine namesIn_quiet (boundIn_ofList _ rfl) (namesIn_quiet (boundIn_ofList _ rfl) (namesIn_own made (namesIn_lines reads ?_)))
  exact namesIn_quiet (boundIn_ofList _ rfl) (namesIn_quiet (boundIn_ofList _ rfl) namesIn_nil)

end RecordClass

theorem OptionalHelpers.lines_names {helpers : OptionalHelpers} (labelled : Labelled helpers.ident.toList) :
    namesIn [] helpers.lines = helpers.defined := by
  have own {start : String} (word : IsWordText start.toList) : Labelled (start ++ helpers.ident).toList := by
    rw [String.toList_append]
    exact ⟨List.append_ne_nil_of_left_ne_nil word.some _,List.forall_mem_append.mpr ⟨(word_labelled word).all,labelled.all⟩⟩
  have sized : ("def _size_" ++ helpers.ident ++ "(value):").toList =
    [] ++ ("def".toList ++ ' ' :: (("_size_" ++ helpers.ident).toList ++ '(' :: "value):".toList)) := by simp
  have written : ("def _write_" ++ helpers.ident ++ "(value, buf):").toList =
    [] ++ ("def".toList ++ ' ' :: (("_write_" ++ helpers.ident).toList ++ '(' :: "value, buf):".toList)) := by simp
  have taken : ("def _read_" ++ helpers.ident ++ "(buf):").toList =
    [] ++ ("def".toList ++ ' ' :: (("_read_" ++ helpers.ident).toList ++ '(' :: "buf):".toList)) := by simp
  have size := boundIn_function (own (by decide)) sized
  have write := boundIn_function (own (by decide)) written
  have read := boundIn_function (own (by decide)) taken
  have inner {start : List Char} (rest : String) (mute : isMute [] start) : boundIn [] (String.ofList start ++ rest) = [] :=
    ((mute_ofList mute).append rest).bound
  unfold lines
  repeat' first
    | refine namesIn_own (by assumption) ?_
    | refine namesIn_quiet (inner _ rfl) ?_
    | refine namesIn_quiet (boundIn_ofList _ rfl) ?_
    | exact namesIn_nil

namespace Wrapper

def callLines (wrapper : Wrapper) : List String :=
  if wrapper.holds then
    "    with _PendingBuffers() as _pending:" ::
      wrapper.arguments.map (fun argument => "        " ++ localName argument ++ " = " ++ (loweringExpr argument).text) ++
      ["        " ++ wrapper.callLine,"        _pending.transfer()"]
  else ["    " ++ wrapper.callLine]

def resultLines (wrapper : Wrapper) : List String :=
  match wrapper.lifted with
  | none => []
  | some result => ["    return " ++ result.text]

theorem callLines_mute (wrapper : Wrapper) : ∀ line ∈ wrapper.callLines, Mute [] line := by
  have lowered (argument : WrapperArgument) :
      Mute [] ("        " ++ localName argument ++ " = " ++ (loweringExpr argument).text) :=
    (((mute_ofList rfl).append _).append _).append _
  intro line member
  unfold callLines at member
  split at member
  · simp only [List.cons_append,List.mem_cons,List.mem_append,List.mem_map,List.not_mem_nil,or_false] at member
    rcases member with rfl | ⟨argument,_,rfl⟩ | rfl | rfl
    · exact mute_ofList rfl
    · exact lowered argument
    · exact (mute_ofList rfl).append _
    · exact mute_ofList rfl
  · rw [List.mem_singleton.mp member]
    exact (mute_ofList rfl).append _

theorem resultLines_mute (wrapper : Wrapper) : ∀ line ∈ wrapper.resultLines, Mute [] line := by
  intro line member
  unfold resultLines at member
  split at member
  · cases member
  · rw [List.mem_singleton.mp member]
    exact (mute_ofList rfl).append _

theorem lines_names {wrapper : Wrapper} (labelled : Labelled wrapper.name.toList) :
    namesIn [] wrapper.lines = [wrapper.name] := by
  have shown := (mute_ofList rfl : Mute [] "    \"\"\"Call ").around wrapper.symbol "\"\"\""
  unfold lines
  dsimp only
  generalize ", ".intercalate (wrapper.arguments.map (fun argument => argument.name ++ ": " ++ argument.hostType.text)) =
    parameters
  have split : ("def " ++ wrapper.name ++ "(" ++ parameters ++ ") -> " ++ HostType.resultText wrapper.returns ++ ":").toList =
    [] ++ ("def".toList ++ ' ' :: (wrapper.name.toList ++ '(' :: (parameters.toList ++ (") -> ".toList ++
      ((HostType.resultText wrapper.returns).toList ++ [':']))))) := by simp
  have head := boundIn_function labelled split
  have call : namesIn [] wrapper.callLines = [] := namesIn_mute wrapper.callLines_mute
  have result : namesIn [] wrapper.resultLines = [] := namesIn_mute wrapper.resultLines_mute
  have last : namesIn [] ["",""] = [] := namesIn_quiet (boundIn_ofList _ rfl) (namesIn_quiet (boundIn_ofList _ rfl) namesIn_nil)
  rw [List.append_assoc,List.append_assoc]
  exact namesIn_own head (namesIn_quiet shown (namesIn_lines call (namesIn_lines result last)))

end Wrapper
end NativeBinding
