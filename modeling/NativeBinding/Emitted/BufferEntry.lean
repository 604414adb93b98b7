import NativeBinding.Interface.Model

namespace NativeBinding

def Model.bufferEntryLines (model : Model) : List String := [
  "def _alloc_buffer(size):",
  "    if size > 0xFFFFFFFF:",
  "        raise ValueError(f\"value needs \x7bsize\x7d bytes, more than one buffer can hold\")",
  "    rbuf = _lib()." ++ model.allocSymbol ++ "(size)",
  "    if rbuf.len != size:",
  "        _free_quietly(rbuf)",
  "        raise InternalError(f\"requested a \x7bsize\x7d byte buffer, native side allocated \x7brbuf.len\x7d\")",
  "    return rbuf",
  "",
  "",
  "def _free_buffer(rbuf):",
  "    _lib()." ++ model.freeSymbol ++ "(rbuf)",
  "",
  ""]

end NativeBinding
