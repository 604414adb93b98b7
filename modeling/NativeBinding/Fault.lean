import NativeBinding.Interface.Unsupported

namespace NativeBinding

inductive Disagreement
  | overfull
  | wrongFill (offset size : Nat)
  | endedEarly
  | invalidPresence (flag : Nat)
  | junk (count : Nat)
  | invalidOrdinal (shown enumeration : String)
  | wrongAllocation (requested : Int) (reported : String)
  | negativeLength (shown : String)
  | missingData (shown : String)
  | nullText
deriving DecidableEq,Repr

inductive FaultKind
  | attribute | key | type | argument | overflow | decoding | packing | disagreement | value | runtime | system
  | unsupported | name | unset | recursion | memory | grammar | index | encoding | frozen
deriving DecidableEq,Repr

inductive Fault
  | missingAttribute
  | missingKey
  | wrongKind
  | wrongArgument
  | outOfFloatRange
  | outOfIndexRange
  | noMemory
  | invalidText
  | unpackable
  | disagreement (cause : Disagreement)
  | oversized (size : Int)
  | nulCharacter
  | negativeCount
  | negativeSize
  | alreadyBound
  | notFound (file : String)
  | releaseFailed
  | callFailed
  | unsupported (cause : Unsupported)
  | undefinedName
  | endless
  | badType (cause : TypeRef.BuildError)
  | raised (kind : FaultKind) (text : String)
deriving DecidableEq,Repr

namespace Disagreement

def message : Disagreement → String
  | .overfull => "encoding overflows its buffer, size computation is wrong"
  | .wrongFill offset size =>
    "encoded " ++ toString offset ++ " bytes into a buffer of " ++ toString size ++ " bytes"
  | .endedEarly => "buffer ended early, bindings and native component disagree"
  | .invalidPresence flag => "invalid presence flag " ++ toString flag
  | .junk count => "junk remaining in buffer (" ++ toString count ++ " bytes), something is very wrong"
  | .invalidOrdinal shown enumeration =>
    "invalid ordinal " ++ shown ++ " for enum " ++ enumeration ++ ", something is very wrong"
  | .wrongAllocation requested reported =>
    "requested a " ++ toString requested ++ " byte buffer, native side allocated " ++ reported
  | .negativeLength shown => "native buffer has negative length " ++ shown
  | .missingData shown => "native buffer of " ++ shown ++ " bytes has no data"
  | .nullText => "native component returned a null string"

end Disagreement

namespace Fault

def kind : Fault → FaultKind
  | .missingAttribute => .attribute
  | .missingKey => .key
  | .wrongKind => .type
  | .wrongArgument => .argument
  | .outOfFloatRange => .overflow
  | .outOfIndexRange => .overflow
  | .noMemory => .memory
  | .invalidText => .decoding
  | .unpackable => .packing
  | .disagreement _ => .disagreement
  | .oversized _ => .value
  | .nulCharacter => .value
  | .negativeCount => .value
  | .negativeSize => .runtime
  | .alreadyBound => .runtime
  | .notFound _ => .system
  | .releaseFailed => .system
  | .callFailed => .system
  | .unsupported _ => .unsupported
  | .undefinedName => .name
  | .endless => .recursion
  | .badType _ => .value
  | .raised kind _ => kind

-- Faults of a value itself carry no text of ours.
def message? : Fault → Option String
  | .disagreement cause => some cause.message
  | .oversized size => some ("value needs " ++ toString size ++ " bytes, more than one buffer can hold")
  | .nulCharacter => some "string passed to the native component contains a NUL character"
  | .negativeCount => some "negative count"
  | .alreadyBound => some "native library is already initialized"
  | .notFound file => some (file ++ ": cannot open shared object file: No such file or directory")
  | .releaseFailed => some "native free failed"
  | .callFailed => some "native call failed"
  | .unsupported cause => some cause.message
  | .badType cause => some cause.message
  | .raised kind text => if [FaultKind.disagreement,.value,.runtime,.system].contains kind then some text else none
  | _ => none

end Fault
end NativeBinding
