namespace NativeBinding.Definition

def dropLineComments : Bool → List Char → List Char
  | _,[] => []
  | true,c :: rest =>
    if c == '\n' then c :: dropLineComments false rest else dropLineComments true rest
  | false,c :: rest =>
    if c == '/' && rest.head? == some '/' then dropLineComments true rest
    else c :: dropLineComments false rest

def closes : List Char → Bool
  | [] => false
  | c :: rest => c == '*' && rest.head? == some '/' || closes rest

inductive BlockPlace
  | outside | opening | inside | closing
deriving DecidableEq,Repr

-- Drops block comments but keeps their line ends. A comment that is never
-- closed is no comment, and then no later one is closed either.
def dropBlockComments : BlockPlace → List Char → List Char
  | _,[] => []
  | .outside,c :: rest =>
    if c == '/' && rest.head? == some '*' && closes rest.tail then dropBlockComments .opening rest
    else c :: dropBlockComments .outside rest
  | .opening,_ :: rest => dropBlockComments .inside rest
  | .inside,c :: rest =>
    if c == '*' && rest.head? == some '/' then dropBlockComments .closing rest
    else if c == '\n' then c :: dropBlockComments .inside rest
    else dropBlockComments .inside rest
  | .closing,_ :: rest => dropBlockComments .outside rest

-- Line comments go first: a mark inside one does not open or close a block.
def dropComments (text : List Char) : List Char :=
  dropBlockComments .outside (dropLineComments false text)

end NativeBinding.Definition
