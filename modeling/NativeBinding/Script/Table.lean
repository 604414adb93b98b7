import NativeBinding.Script.Object

namespace NativeBinding.Script

namespace Failure

def name : Failure → String
  | .base => "BaseException"
  | .failure => "Exception"
  | .lookup => "LookupError"
  | .arithmetic => "ArithmeticError"
  | .attribute => "AttributeError"
  | .key => "KeyError"
  | .index => "IndexError"
  | .type => "TypeError"
  | .value => "ValueError"
  | .unknown => "NameError"
  | .unset => "UnboundLocalError"
  | .runtime => "RuntimeError"
  | .endless => "RecursionError"
  | .overflow => "OverflowError"
  | .memory => "MemoryError"
  | .system => "OSError"
  | .decoding => "UnicodeDecodeError"
  | .encoding => "UnicodeEncodeError"
  | .packing => "error"
  | .argument => "ArgumentError"
  | .grammar => "SyntaxError"
  | .frozen => "FrozenInstanceError"
  | .defect => "SystemError"

def above : Failure → List Failure
  | .base => []
  | .failure => [.base]
  | .key => [.lookup,.failure,.base]
  | .index => [.lookup,.failure,.base]
  | .unset => [.unknown,.failure,.base]
  | .endless => [.runtime,.failure,.base]
  | .overflow => [.arithmetic,.failure,.base]
  | .decoding => [.value,.failure,.base]
  | .encoding => [.value,.failure,.base]
  | .frozen => [.attribute,.failure,.base]
  | _ => [.failure,.base]

end Failure

-- How what a class keeps under a name is taken from its objects: a method goes with
-- the object, one of the class goes with the class, a part is worked out for the
-- object, and what stays is the same for everyone.
inductive SlotKind
  | method | ofClass | stays | part
deriving DecidableEq,Repr

namespace BaseType

def name : BaseType → String
  | .object => "object"
  | .kind => "type"
  | .nothing => "NoneType"
  | .bool => "bool"
  | .int => "int"
  | .float => "float"
  | .text => "str"
  | .bytes => "bytes"
  | .byteArray => "bytearray"
  | .tuple => "tuple"
  | .list => "list"
  | .dict => "dict"
  | .view => "mappingproxy"
  | .unsupported => "NotImplementedType"
  | .function => "function"
  | .routine => "builtin_function_or_method"
  | .method => "method"
  | .slot => "wrapper_descriptor"
  | .getter => "getset_descriptor"
  | .classMethod => "classmethod"
  | .module => "module"
  | .environment => "_Environ"
  | .lock => "lock"
  | .logger => "Logger"
  | .enumType => "EnumType"
  | .enum => "Enum"
  | .shownEnum => "ReprEnum"
  | .intEnum => "IntEnum"
  | .generic => "Generic"
  | .typeVariable => "TypeVar"
  | .alias => "_GenericAlias"
  | .special => "_SpecialForm"
  | .recordMethods => "object"
  | .recordSettings => "_DataclassParams"
  | .aggregateType => "PyCStructType"
  | .aggregate => "Structure"
  | .simpleType => "PyCSimpleType"
  | .simple => "_SimpleCData"
  | .arrayType => "PyCArrayType"
  | .array => "Array"
  | .pointerType => "PyCPointerType"
  | .pointer => "_Pointer"
  | .library => "Library"
  | .failure which => which.name

def order : BaseType → List BaseType
  | .object => [.object]
  | .bool => [.bool,.int,.object]
  | .enumType => [.enumType,.kind,.object]
  | .shownEnum => [.shownEnum,.enum,.object]
  | .intEnum => [.intEnum,.int,.shownEnum,.enum,.object]
  | .aggregateType => [.aggregateType,.kind,.object]
  | .simpleType => [.simpleType,.kind,.object]
  | .arrayType => [.arrayType,.kind,.object]
  | .pointerType => [.pointerType,.kind,.object]
  | .failure which => (which :: which.above).map BaseType.failure ++ [.object]
  | which => [which,.object]

def kindOf : BaseType → BaseType
  | .enum => .enumType
  | .shownEnum => .enumType
  | .intEnum => .enumType
  | .aggregate => .aggregateType
  | .simple => .simpleType
  | .array => .arrayType
  | .pointer => .pointerType
  | _ => .kind

def comparing : List String := ["__lt__","__le__","__eq__","__ne__","__gt__","__ge__"]

def sequenceMethods : List String :=
  ["capitalize","center","count","endswith","expandtabs","find","index","isalnum","isalpha","isascii",
    "isdigit","islower","isspace","istitle","isupper","join","ljust","lower","lstrip","partition","removeprefix",
    "removesuffix","replace","rfind","rindex","rjust","rpartition","rsplit","rstrip","split","splitlines",
    "startswith","strip","swapcase","title","translate","upper","zfill"]

def sequenceSlots : List String :=
  ["__repr__","__str__","__getattribute__","__iter__","__mod__","__rmod__","__len__","__getitem__","__add__",
    "__mul__","__rmul__","__contains__"] ++ comparing

def arithmeticSlots : List String :=
  ["__repr__","__hash__","__getattribute__","__add__","__radd__","__sub__","__rsub__","__mul__","__rmul__",
    "__mod__","__rmod__","__divmod__","__rdivmod__","__pow__","__rpow__","__neg__","__pos__","__abs__","__bool__",
    "__int__","__float__","__floordiv__","__rfloordiv__","__truediv__","__rtruediv__","conjugate","__trunc__",
    "__floor__","__ceil__","__round__","as_integer_ratio","__getnewargs__","__format__"] ++ comparing

def bitSlots : List String := ["__and__","__rand__","__xor__","__rxor__","__or__","__ror__"]

def slots : BaseType → List (SlotKind × List String)
  | .object => [
    (.method,["__repr__","__hash__","__str__","__getattribute__","__setattr__","__delattr__","__init__",
      "__reduce_ex__","__reduce__","__getstate__","__format__","__sizeof__","__dir__"] ++ comparing),
    (.ofClass,["__subclasshook__","__init_subclass__"]),
    (.stays,["__new__"]),
    (.part,["__class__"])]
  | .kind => [
    (.method,["__repr__","__call__","__getattribute__","__setattr__","__delattr__","__init__","__or__","__ror__",
      "mro","__subclasses__","__instancecheck__","__subclasscheck__","__dir__","__sizeof__"]),
    (.ofClass,["__prepare__"]),
    (.stays,["__new__"]),
    (.part,["__basicsize__","__itemsize__","__flags__","__weakrefoffset__","__base__","__dictoffset__","__mro__",
      "__name__","__qualname__","__bases__","__module__","__abstractmethods__","__dict__","__doc__",
      "__text_signature__","__annotations__"])]
  | .nothing => [(.method,["__repr__","__bool__"]),(.stays,["__new__"])]
  | .bool => [(.method,"__repr__" :: bitSlots),(.stays,["__new__"])]
  | .int => [
    (.method,["bit_length","bit_count","to_bytes","__sizeof__","__invert__","__lshift__","__rlshift__",
      "__rshift__","__rrshift__","__index__"] ++ arithmeticSlots ++ bitSlots),
    (.ofClass,["from_bytes"]),
    (.stays,["__new__"]),
    (.part,["real","imag","numerator","denominator"])]
  | .float => [
    (.method,["hex","is_integer"] ++ arithmeticSlots),
    (.ofClass,["fromhex","__getformat__"]),
    (.stays,["__new__"]),
    (.part,["real","imag"])]
  | .text => [
    (.method,["encode","casefold","format","format_map","isdecimal","isidentifier","isnumeric","isprintable",
      "__hash__","__format__","__sizeof__","__getnewargs__"] ++ sequenceMethods ++ sequenceSlots),
    (.stays,["__new__","maketrans"])]
  | .bytes => [
    (.method,["decode","hex","__hash__","__bytes__","__getnewargs__"] ++ sequenceMethods ++ sequenceSlots),
    (.ofClass,["fromhex"]),
    (.stays,["__new__","maketrans"])]
  | .byteArray => [
    (.method,["decode","hex","append","clear","copy","extend","insert","pop","remove","reverse","__alloc__",
      "__reduce__","__reduce_ex__","__sizeof__","__init__","__setitem__","__delitem__","__iadd__","__imul__"] ++
      sequenceMethods ++ sequenceSlots),
    (.ofClass,["fromhex"]),
    (.stays,["__new__","maketrans"])]
  | .tuple => [
    (.method,["__hash__","__getnewargs__","index","count","__repr__","__getattribute__","__iter__","__len__",
      "__getitem__","__add__","__mul__","__rmul__","__contains__"] ++ comparing),
    (.ofClass,["__class_getitem__"]),
    (.stays,["__new__"])]
  | .list => [
    (.method,["append","clear","copy","extend","insert","pop","remove","index","count","reverse","sort",
      "__init__","__repr__","__getattribute__","__iter__","__len__","__getitem__","__setitem__","__delitem__",
      "__add__","__mul__","__rmul__","__contains__","__iadd__","__imul__","__reversed__","__sizeof__"] ++
      comparing),
    (.ofClass,["__class_getitem__"]),
    (.stays,["__new__"])]
  | .lock => [(.method,["acquire","release","locked","__enter__","__exit__"])]
  | .logger => [(.method,["debug","info","warning","error","exception","critical","log"])]
  | .environment => [(.method,["get","__getitem__","__setitem__","__contains__","__len__","__iter__"])]
  | .function => [
    (.method,["__repr__","__call__","__get__"]),
    (.part,["__closure__","__doc__","__globals__","__module__","__builtins__","__code__","__defaults__",
      "__kwdefaults__","__annotations__","__dict__","__name__","__qualname__"])]
  | .enumType => [
    (.method,["__bool__","__call__","__contains__","__delattr__","__dir__","__getattr__","__getitem__","__iter__",
      "__len__","__repr__","__reversed__","__setattr__","_create_","_convert_"]),
    (.ofClass,["__prepare__","_check_for_existing_members_","_get_mixins_","_find_data_repr_","_find_data_type_",
      "_find_new_"]),
    (.stays,["__new__"]),
    (.part,["__members__"])]
  | .enum => [
    (.method,["__init__","_generate_next_value_","__repr__","__str__","__dir__","__format__","__hash__",
      "__reduce_ex__","__deepcopy__","__copy__","_new_member_"]),
    (.ofClass,["_missing_"]),
    (.stays,["__new__"]),
    (.part,["name","value","__dict__","__weakref__"])]
  | .shownEnum => [(.method,["_generate_next_value_"]),(.stays,["__new__","_new_member_"])]
  | .intEnum => [
    (.method,["_generate_next_value_","__repr__","__str__","__format__","_value_repr_"]),
    (.stays,["__new__","_new_member_"]),
    (.part,["__dict__"])]
  | .generic => [(.ofClass,["__class_getitem__","__init_subclass__"])]
  | .recordMethods => [
    (.method,["__init__","__repr__","__eq__","__setattr__","__delattr__","__hash__"])]
  | .aggregateType => [
    (.method,["from_param","from_address","from_buffer","from_buffer_copy","in_dll","__mul__","__rmul__"])]
  | .simpleType => [
    (.method,["from_param","from_address","from_buffer","from_buffer_copy","in_dll","__mul__","__rmul__"])]
  | .arrayType => [
    (.method,["from_param","from_address","from_buffer","from_buffer_copy","in_dll","__mul__","__rmul__"])]
  | .pointerType => [
    (.method,["from_param","from_address","from_buffer","from_buffer_copy","in_dll","__mul__","__rmul__"])]
  | .pointer => [(.part,["contents"])]
  | .aggregate => [(.part,["len","data"])]
  | .failure .base => [
    (.method,["__repr__","__str__","__getattribute__","__setattr__","__delattr__","__init__","__reduce__",
      "__setstate__","with_traceback","add_note"]),
    (.stays,["__new__"]),
    (.part,["__suppress_context__","__dict__","args","__traceback__","__context__","__cause__"])]
  | _ => []

def slotKind? (type : BaseType) (name : String) : Option SlotKind :=
  (type.slots.find? (fun row => row.2.contains name)).map Prod.fst

def isUnhashable : BaseType → Bool
  | .byteArray => true
  | .list => true
  | .dict => true
  | .view => true
  | _ => false

def purpose : BaseType → Option String
  | .object => some ("The base class of the class hierarchy.\n\nWhen called, it accepts no arguments and " ++
      "returns a new featureless\ninstance that has no instance attributes and cannot be given any.\n")
  | .int => some ("int([x]) -> integer\nint(x, base=10) -> integer\n\nConvert a number or string to an " ++
      "integer, or return 0 if no arguments\nare given.  If x is a number, return x.__int__().  For floating " ++
      "point\nnumbers, this truncates towards zero.\n\nIf x is not a number or if base is given, then x must " ++
      "be a string,\nbytes, or bytearray instance representing an integer literal in the\ngiven base.  The " ++
      "literal can be preceded by '+' or '-' and be surrounded\nby whitespace.  The base defaults to 10.  " ++
      "Valid bases are 0 and 2-36.\nBase 0 means to interpret the base from the string as an integer " ++
      "literal.\n>>> int('0b100', base=0)\n4")
  | .bool => some ("bool(x) -> bool\n\nReturns True when the argument x is true, False otherwise.\nThe " ++
      "builtins True and False are the only two instances of the class bool.\nThe class bool is a subclass of " ++
      "the class int, and cannot be subclassed.")
  | .float => some "Convert a string or number to a floating point number, if possible."
  | .text => some ("str(object='') -> str\nstr(bytes_or_buffer[, encoding[, errors]]) -> str\n\nCreate a new " ++
      "string object from the given object. If encoding or\nerrors is specified, then the object must expose " ++
      "a data buffer\nthat will be decoded using the given encoding and error handler.\nOtherwise, returns " ++
      "the result of object.__str__() (if defined)\nor repr(object).\nencoding defaults to " ++
      "sys.getdefaultencoding().\nerrors defaults to 'strict'.")
  | .bytes => some ("bytes(iterable_of_ints) -> bytes\nbytes(string, encoding[, errors]) -> bytes\n" ++
      "bytes(bytes_or_buffer) -> immutable copy of bytes_or_buffer\nbytes(int) -> bytes object of size given " ++
      "by the parameter initialized with null bytes\nbytes() -> empty bytes object\n\nConstruct an immutable " ++
      "array of bytes from:\n  - an iterable yielding integers in range(256)\n  - a text string encoded using " ++
      "the specified encoding\n  - any object implementing the buffer API.\n  - an integer")
  | .aggregate => some "Structure base class"
  | .failure .base => some "Common base class for all exceptions"
  | .nothing => none
  | _ => some ""

def constant? (type : BaseType) (name : String) : Option Obj :=
  if name == "__doc__" then
    match type with
    | .function => none
    | other => some ((other.purpose.map Obj.text).getD .nothing)
  else if name == "__hash__" && type.isUnhashable then some .nothing
  else match type,name with
    | .enum,"_value_repr_" => some .nothing
    | .shownEnum,"_value_repr_" => some .nothing
    | .enum,"_use_args_" => some (.bool false)
    | .shownEnum,"_use_args_" => some (.bool false)
    | .intEnum,"_use_args_" => some (.bool true)
    | .enum,"_member_type_" => some (.type .object)
    | .shownEnum,"_member_type_" => some (.type .object)
    | .intEnum,"_member_type_" => some (.type .int)
    | .generic,"_is_protocol" => some (.bool false)
    | .generic,"__slots__" => some (.tuple [])
    | _,_ =>
      if [BaseType.enum,.shownEnum,.intEnum].contains type then
        if ["_member_names_","_unhashable_values_"].contains name then some (.thing .list)
        else if ["_member_map_","_value2member_map_"].contains name then some (.thing .dict)
        else none
      else none

def own? (type : BaseType) (name : String) : Option Obj :=
  match type.slotKind? name with
  | some _ => some (.slot type name)
  | none => type.constant? name

end BaseType

namespace Import

def name : Import → String
  | .foreign => "ctypes"
  | .enumerations => "enum"
  | .logging => "logging"
  | .system => "sys"
  | .layout => "struct"
  | .host => "os"
  | .threading => "threading"
  | .paths => "posixpath"

def all : List Import := [.foreign,.enumerations,.logging,.host,.layout,.system,.threading]

def plainTypes : List String :=
  ["c_int8","c_uint8","c_int32","c_uint32","c_int64","c_uint64","c_float","c_double","c_char_p","c_void_p"]

def member? (module : Import) (name : String) : Option Obj :=
  match module,name with
  | .foreign,"Structure" => some (.type .aggregate)
  | .foreign,"POINTER" => some (.routine .pointerTo)
  | .foreign,"cast" => some (.routine .cast)
  | .foreign,"string_at" => some (.routine .textAt)
  | .foreign,"CDLL" => some (.routine .loadFile)
  | .foreign,other => if plainTypes.contains other then some (.type .simple) else none
  | .enumerations,"IntEnum" => some (.type .intEnum)
  | .enumerations,"Enum" => some (.type .enum)
  | .logging,"getLogger" => some (.routine .logger)
  | .system,"platform" => some (.text "linux")
  | .layout,"calcsize" => some (.routine .layoutSize)
  | .layout,"pack_into" => some (.routine .layoutPack)
  | .layout,"unpack_from" => some (.routine .layoutUnpack)
  | .host,"environ" => some (.thing .environment)
  | .host,"path" => some (.imported .paths)
  | .host,"getcwd" => some (.routine .workingDirectory)
  | .threading,"Lock" => some (.routine .lock)
  | .paths,"dirname" => some (.routine .directoryName)
  | .paths,"abspath" => some (.routine .absolutePath)
  | .paths,"join" => some (.routine .joinPaths)
  | .paths,"exists" => some (.routine .pathExists)
  | _,_ => none

def taken? (module name : String) : Option Obj :=
  match module,name with
  | "dataclasses","dataclass" => some (.routine .record)
  | "typing","Generic" => some (.type .generic)
  | "typing","Optional" => some (.thing .special)
  | "typing","TypeVar" => some (.type .typeVariable)
  | "__future__",_ => some (.thing .object)
  | _,_ => none

end Import

def everywhere? (name : String) : Option Obj :=
  match name with
  | "len" => some (.routine .length)
  | "bytes" => some (.type .bytes)
  | "bytearray" => some (.type .byteArray)
  | "classmethod" => some (.type .classMethod)
  | "int" => some (.type .int)
  | "float" => some (.type .float)
  | "str" => some (.type .text)
  | "bool" => some (.type .bool)
  | "object" => some (.type .object)
  | "type" => some (.type .kind)
  | "tuple" => some (.type .tuple)
  | "list" => some (.type .list)
  | "dict" => some (.type .dict)
  | other =>
    (([.base,.failure,.lookup,.arithmetic,.attribute,.key,.index,.type,.value,.unknown,.unset,.runtime,.endless,
      .overflow,.memory,.system,.decoding,.encoding,.grammar,.defect] : List Failure).find? (fun which => which.name == other)).map
        (fun which => .type (.failure which))

end NativeBinding.Script
