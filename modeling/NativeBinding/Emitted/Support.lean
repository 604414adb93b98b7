namespace NativeBinding

def supportLines : List String := [
  "_logger = logging.getLogger(__name__)",
  "",
  "",
  "class InternalError(RuntimeError):",
  "    \"\"\"The native component disagrees with these bindings about the wire format.",
  "",
  "    Raised for trailing or missing bytes in a buffer, invalid presence flags and",
  "    out-of-range enum ordinals. It means the installed library and the bindings",
  "    were generated from different interface definitions.",
  "    \"\"\"",
  "",
  "",
  "_T = TypeVar(\"_T\")",
  "",
  "",
  "@dataclass(frozen=True)",
  "class Some(Generic[_T]):",
  "    \"\"\"Present value of an optional whose payload is itself optional\"\"\"",
  "    value: _T",
  "",
  "",
  "class _ByteBuffer(ctypes.Structure):",
  "    \"\"\"Native-allocated byte region passed by value\"\"\"",
  "    _fields_ = [",
  "        (\"len\", ctypes.c_int64),",
  "        (\"data\", ctypes.POINTER(ctypes.c_uint8)),",
  "    ]",
  "",
  "",
  "def _buffer_address(rbuf):",
  "    if rbuf.len < 0:",
  "        raise InternalError(f\"native buffer has negative length \x7brbuf.len\x7d\")",
  "    if rbuf.len and not rbuf.data:",
  "        raise InternalError(f\"native buffer of \x7brbuf.len\x7d bytes has no data\")",
  "    return ctypes.cast(rbuf.data, ctypes.c_void_p).value",
  "",
  "",
  "class _BufferWriter:",
  "    \"\"\"Writes big-endian values into a native buffer of precomputed size\"\"\"",
  "",
  "    def __init__(self, rbuf):",
  "        address = _buffer_address(rbuf)",
  "        self._size = rbuf.len",
  "        if self._size:",
  "            self._target = (ctypes.c_uint8 * self._size).from_address(address)",
  "        else:",
  "            self._target = bytearray()",
  "        self._offset = 0",
  "",
  "    def _pack(self, fmt, value):",
  "        width = struct.calcsize(fmt)",
  "        if self._offset + width > self._size:",
  "            raise InternalError(\"encoding overflows its buffer, size computation is wrong\")",
  "        struct.pack_into(fmt, self._target, self._offset, value)",
  "        self._offset += width",
  "",
  "    def write_bool(self, value):",
  "        self._pack(\">B\", 1 if value else 0)",
  "",
  "    def write_presence(self, present):",
  "        self._pack(\">B\", 1 if present else 0)",
  "",
  "    def write_u32(self, value):",
  "        self._pack(\">I\", value)",
  "",
  "    def write_u64(self, value):",
  "        self._pack(\">Q\", value)",
  "",
  "    def write_i32(self, value):",
  "        self._pack(\">i\", value)",
  "",
  "    def write_float(self, value):",
  "        self._pack(\">f\", value)",
  "",
  "    def write_double(self, value):",
  "        self._pack(\">d\", value)",
  "",
  "    def write_bytes(self, value):",
  "        value = bytes(value)",
  "        self._pack(\">I\", len(value))",
  "        self._pack(f\"\x7blen(value)\x7ds\", value)",
  "",
  "    def write_string(self, value):",
  "        self.write_bytes(value.encode(\"utf-8\"))",
  "",
  "    def write_raw(self, value):",
  "        value = bytes(value)",
  "        self._pack(f\"\x7blen(value)\x7ds\", value)",
  "",
  "    def finish(self):",
  "        if self._offset != self._size:",
  "            raise InternalError(f\"encoded \x7bself._offset\x7d bytes into a buffer of \x7bself._size\x7d bytes\")",
  "",
  "",
  "class _BufferReader:",
  "    \"\"\"Reads big-endian values out of a native buffer\"\"\"",
  "",
  "    def __init__(self, rbuf):",
  "        address = _buffer_address(rbuf)",
  "        self._data = ctypes.string_at(address, rbuf.len) if rbuf.len else b\"\"",
  "        self._offset = 0",
  "",
  "    def _unpack(self, fmt):",
  "        width = struct.calcsize(fmt)",
  "        if self._offset + width > len(self._data):",
  "            raise InternalError(\"buffer ended early, bindings and native component disagree\")",
  "        (value,) = struct.unpack_from(fmt, self._data, self._offset)",
  "        self._offset += width",
  "        return value",
  "",
  "    def read_bool(self):",
  "        return self._unpack(\">B\") != 0",
  "",
  "    def read_presence(self):",
  "        flag = self._unpack(\">B\")",
  "        if flag not in (0, 1):",
  "            raise InternalError(f\"invalid presence flag \x7bflag\x7d\")",
  "        return flag == 1",
  "",
  "    def read_u32(self):",
  "        return self._unpack(\">I\")",
  "",
  "    def read_u64(self):",
  "        return self._unpack(\">Q\")",
  "",
  "    def read_i32(self):",
  "        return self._unpack(\">i\")",
  "",
  "    def read_float(self):",
  "        return self._unpack(\">f\")",
  "",
  "    def read_double(self):",
  "        return self._unpack(\">d\")",
  "",
  "    def read_bytes(self):",
  "        size = self._unpack(\">I\")",
  "        return self._unpack(f\"\x7bsize\x7ds\")",
  "",
  "    def read_string(self):",
  "        return self.read_bytes().decode(\"utf-8\")",
  "",
  "    def read_remaining(self):",
  "        value = self._data[self._offset:]",
  "        self._offset = len(self._data)",
  "        return value",
  "",
  "    def finish(self):",
  "        remaining = len(self._data) - self._offset",
  "        if remaining:",
  "            raise InternalError(f\"junk remaining in buffer (\x7bremaining\x7d bytes), something is very wrong\")",
  "",
  "",
  "def _size_string(value):",
  "    return 4 + len(value.encode(\"utf-8\"))",
  "",
  "",
  "def _size_bytes(value):",
  "    return 4 + len(value)",
  "",
  "",
  "def _size_raw_bytes(value):",
  "    return len(value)",
  "",
  "",
  "def _write_raw_bytes(value, buf):",
  "    buf.write_raw(value)",
  "",
  "",
  "def _read_raw_bytes(buf):",
  "    return buf.read_remaining()",
  "",
  "",
  "def _lower_string(value):",
  "    encoded = value.encode(\"utf-8\")",
  "    if b\"\\0\" in encoded:",
  "        raise ValueError(\"string passed to the native component contains a NUL character\")",
  "    return encoded",
  "",
  "",
  "def _lift_string(value):",
  "    if value is None:",
  "        raise InternalError(\"native component returned a null string\")",
  "    return value.decode(\"utf-8\")",
  "",
  "",
  "def _free_quietly(rbuf):",
  "    \"\"\"Release a buffer while another failure is already propagating\"\"\"",
  "    try:",
  "        _free_buffer(rbuf)",
  "    except Exception:",
  "        _logger.warning(\"failed to release native buffer during error cleanup\", exc_info=True)",
  "",
  "",
  "def _lower_buffer(value, size_fn, write_fn):",
  "    \"\"\"Encode `value` into a freshly allocated native buffer\"\"\"",
  "    rbuf = _alloc_buffer(size_fn(value))",
  "    try:",
  "        writer = _BufferWriter(rbuf)",
  "        write_fn(value, writer)",
  "        writer.finish()",
  "    except BaseException:",
  "        _free_quietly(rbuf)",
  "        raise",
  "    return rbuf",
  "",
  "",
  "def _lift_buffer(rbuf, read_fn):",
  "    \"\"\"Decode a buffer returned by the native side, then release it\"\"\"",
  "    try:",
  "        reader = _BufferReader(rbuf)",
  "        value = read_fn(reader)",
  "        reader.finish()",
  "    except BaseException:",
  "        _free_quietly(rbuf)",
  "        raise",
  "    _free_buffer(rbuf)",
  "    return value",
  "",
  "",
  "class _PendingBuffers:",
  "    \"\"\"Buffers lowered for a foreign call that has not been made yet.",
  "",
  "    If lowering a later argument fails, every buffer held so far is released.",
  "    After `transfer()` the native side owns them.",
  "    \"\"\"",
  "",
  "    def __init__(self):",
  "        self._buffers = []",
  "",
  "    def __enter__(self):",
  "        return self",
  "",
  "    def __exit__(self, exc_type, exc_val, exc_tb):",
  "        buffers, self._buffers = self._buffers, []",
  "        for rbuf in buffers:",
  "            _free_quietly(rbuf)",
  "        return False",
  "",
  "    def hold(self, rbuf):",
  "        self._buffers.append(rbuf)",
  "        return rbuf",
  "",
  "    def transfer(self):",
  "        self._buffers = []",
  "",
  ""]

end NativeBinding
