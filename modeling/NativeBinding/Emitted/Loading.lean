import NativeBinding.Text.Upper

namespace NativeBinding

def pathVariable (component : String) : String := Text.upper component ++ "_LIBRARY_PATH"

def libraryFile (library : String) : String := "lib" ++ library ++ ".so"

def loadingLines (component library : String) : List String :=
  let path := pathVariable component
  ["_library = None",
    "_library_lock = threading.Lock()",
    "",
    "",
    "def _load_library(path=None):",
    "    \"\"\"Load the native library\"\"\"",
    "    if path is None:",
    "        path = os.environ.get(\"" ++ path ++ "\")",
    "    if path is not None:",
    "        return ctypes.CDLL(path)",
    "",
    "    if sys.platform == 'win32':",
    "        lib_name = \"" ++ library ++ ".dll\"",
    "    elif sys.platform == 'darwin':",
    "        lib_name = \"lib" ++ library ++ ".dylib\"",
    "    else:",
    "        lib_name = \"" ++ libraryFile library ++ "\"",
    "",
    "    this_dir = os.path.dirname(os.path.abspath(__file__))",
    "    for directory in (this_dir, os.getcwd()):",
    "        lib_path = os.path.join(directory, lib_name)",
    "        if os.path.exists(lib_path):",
    "            return ctypes.CDLL(lib_path)",
    "",
    "    # Try system library path",
    "    return ctypes.CDLL(lib_name)",
    "",
    "",
    "def initialize(path=None, *, library=None):",
    "    \"\"\"Bind the native library for the rest of the process.",
    "",
    "    Called implicitly by the first foreign call. The handle is created",
    "    once and never replaced; `library` supplies an already declared one.",
    "    \"\"\"",
    "    global _library",
    "    with _library_lock:",
    "        if _library is None:",
    "            if library is None:",
    "                library = _declare_ffi(_load_library(path))",
    "            _library = library",
    "        elif path is not None or (library is not None and library is not _library):",
    "            raise RuntimeError(\"native library is already initialized\")",
    "        return _library",
    "",
    "",
    "def _lib():",
    "    library = _library",
    "    if library is None:",
    "        library = initialize()",
    "    return library",
    "",
    ""]

end NativeBinding
