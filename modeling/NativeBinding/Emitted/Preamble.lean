import NativeBinding.Config

namespace NativeBinding

def preambleLines (component header : String) : List String := [
  "\"\"\"",
  "AUTO-GENERATED Python bindings for " ++ component,
  header,
  "\"\"\"",
  "",
  "from __future__ import annotations",
  "",
  "import ctypes",
  "import enum",
  "import logging",
  "import os",
  "import struct",
  "import sys",
  "import threading",
  "from dataclasses import dataclass",
  "from typing import Generic, Optional, TypeVar",
  "",
  ""]

def bannerLine : String := "# " ++ String.ofList (List.replicate 62 '═')

def sectionLines (title : String) : List String := [bannerLine,"# " ++ title,bannerLine,"",""]

end NativeBinding
