import NativeBinding.Text.Name
import NativeBinding.Text.Utf8
import NativeBinding.Wire.Binary

namespace NativeBinding.Script
open Wire

-- What a script is made of. Names come in their normal spelling. A formatted text
-- comes in pieces, of which the marked ones are terms.
inductive Token
  | name (id : String)
  | keyword (word : String)
  | number (value : Nat)
  | float (value : Double)
  | text (value : String)
  | bytes (value : List UInt8)
  | formatted (pieces : List (Bool × String))
  | sign (text : String)
  | line
  | indent
  | dedent
deriving DecidableEq,Repr

namespace Token

def oneLineEnd : List Char → List Char
  | [] => []
  | '\r' :: '\n' :: rest => '\n' :: oneLineEnd rest
  | '\r' :: rest => '\n' :: oneLineEnd rest
  | c :: rest => c :: oneLineEnd rest

def isNameChar (c : Char) : Bool := c.isAlphanum || c == '_' || 128 ≤ c.toNat

def isNameStart (c : Char) : Bool := isNameChar c && !c.isDigit

def isHexDigit (c : Char) : Bool := c.isDigit || ('a' ≤ c && c ≤ 'f') || ('A' ≤ c && c ≤ 'F')

def isOctalDigit (c : Char) : Bool := '0' ≤ c && c ≤ '7'

def digitValue (c : Char) : Nat :=
  if c.isDigit then c.toNat - '0'.toNat
  else if 'a' ≤ c && c ≤ 'f' then c.toNat - 'a'.toNat + 10
  else c.toNat - 'A'.toNat + 10

def numberOf (base : Nat) (digits : List Char) : Nat :=
  digits.foldl (fun value c => value * base + digitValue c) 0

-- The characters that a mark behind a backslash stands for. Unknown marks keep their
-- backslash.
def marked (c : Char) : List Char :=
  match c with
  | '\n' => []
  | '\\' => ['\\']
  | '\'' => ['\'']
  | '"' => ['"']
  | 'a' => ['\x07']
  | 'b' => ['\x08']
  | 'f' => ['\x0c']
  | 'n' => ['\n']
  | 'r' => ['\r']
  | 't' => ['\t']
  | 'v' => ['\x0b']
  | other => ['\\',other]

def hexCount (c : Char) : Option Nat :=
  match c with
  | 'x' => some 2
  | 'u' => some 4
  | 'U' => some 8
  | _ => none

def unescape (isBytes : Bool) : Nat → List Char → Option (List Char)
  | 0,_ => none
  | _ + 1,[] => some []
  | fuel + 1,'\\' :: c :: rest =>
    if isOctalDigit c then
      let digits := c :: (rest.take 2).takeWhile isOctalDigit
      (unescape isBytes fuel (rest.drop (digits.length - 1))).map (Char.ofNat (numberOf 8 digits) :: ·)
    else match (if isBytes && c != 'x' then none else hexCount c) with
      | some count =>
        let digits := rest.take count
        if digits.length = count && digits.all isHexDigit && numberOf 16 digits < 0x110000 then
          (unescape isBytes fuel (rest.drop count)).map (Char.ofNat (numberOf 16 digits) :: ·)
        else none
      | none =>
        if c == 'N' && !isBytes then none
        else (unescape isBytes fuel rest).map (marked c ++ ·)
  | fuel + 1,c :: rest => (unescape isBytes fuel rest).map (c :: ·)

def quoted (long : Bool) (quote : Char) : List Char → Option (List Char × List Char)
  | [] => none
  | '\\' :: c :: rest => (quoted long quote rest).map (fun (body,after) => ('\\' :: c :: body,after))
  | c :: rest =>
    if c == quote then
      if !long then some ([],rest)
      else match rest with
        | second :: third :: after =>
          if second == quote && third == quote then some ([],after)
          else (quoted long quote rest).map (fun (body,after) => (c :: body,after))
        | _ => none
    else if c == '\n' && !long then none
    else (quoted long quote rest).map (fun (body,after) => (c :: body,after))

-- Doubled braces stand for themselves, a term stands between single ones.
def pieces : Nat → List Char → Option (List (Bool × List Char))
  | 0,_ => none
  | _ + 1,[] => some []
  | fuel + 1,c :: rest =>
    if c == '{' then
      match rest with
      | '{' :: after => (pieces fuel after).map ((false,['{']) :: ·)
      | _ =>
        let inner := rest.takeWhile (· != '}')
        match rest.drop inner.length with
        | _ :: after => (pieces fuel after).map ((true,inner) :: ·)
        | [] => none
    else if c == '}' then
      match rest with
      | '}' :: after => (pieces fuel after).map ((false,['}']) :: ·)
      | _ => none
    else (pieces fuel rest).map ((false,[c]) :: ·)

def literal (mark : List Char) (body : List Char) : Option Token :=
  let isRaw := mark.contains 'r' || mark.contains 'R'
  let isBytes := mark.contains 'b' || mark.contains 'B'
  let value (part : List Char) : Option (List Char) :=
    if isRaw then some part else unescape isBytes (part.length + 1) part
  if isBytes then
    if body.all (fun c => c.toNat < 128) then
      (value body).map (fun chars => .bytes (chars.map (fun c => UInt8.ofNat c.toNat)))
    else none
  else if mark.contains 'f' || mark.contains 'F' then do
    let found ← pieces (body.length + 1) body
    let read ← found.mapM (fun (isTerm,part) =>
      if isTerm then
        if part.contains '\\' || part.contains '#' then none else some (true,String.ofList part)
      else (value part).map (fun chars => (false,String.ofList chars)))
    return .formatted read
  else (value body).map (fun chars => .text (String.ofList chars))

def literalMarks : List String :=
  ["","b","B","f","F","r","R","u","U","br","bR","Br","BR","rb","rB","Rb","RB","fr","fR","Fr","FR","rf",
    "rF","Rf","RF"]

def startsText (mark : List Char) (rest : List Char) : Bool :=
  literalMarks.contains (String.ofList mark) &&
    (match rest with
    | '"' :: _ => true
    | '\'' :: _ => true
    | _ => false)

def readText (mark : List Char) (rest : List Char) : Option (Token × List Char) := do
  let (long,quote,body) ← (match rest with
    | '"' :: '"' :: '"' :: body => some (true,'"',body)
    | '\'' :: '\'' :: '\'' :: body => some (true,'\'',body)
    | '"' :: body => some (false,'"',body)
    | '\'' :: body => some (false,'\'',body)
    | _ => none)
  let (inner,after) ← quoted long quote body
  let token ← literal mark inner
  return (token,after)

def digitRun (isDigit : Char → Bool) : List Char → List Char × List Char
  | [] => ([],[])
  | c :: rest =>
    if isDigit c then
      let (digits,after) := digitRun isDigit rest
      (c :: digits,after)
    else match c,rest with
      | '_',d :: after =>
        if isDigit d then
          let (digits,left) := digitRun isDigit after
          (d :: digits,left)
        else ([],c :: rest)
      | _,_ => ([],c :: rest)

def digits (isDigit : Char → Bool) (cs : List Char) : List Char × List Char :=
  match cs with
  | '_' :: _ => ([],cs)
  | _ => digitRun isDigit cs

def finished (token : Token) (rest : List Char) : Option (Token × List Char) :=
  match rest with
  | [] => some (token,[])
  | c :: _ => if isNameChar c then none else some (token,rest)

def fraction : List Char → List Char × List Char
  | '.' :: rest => digits Char.isDigit rest
  | cs => ([],cs)

def power? (cs : List Char) : Option Int × List Char :=
  match cs with
  | mark :: rest =>
    if mark == 'e' || mark == 'E' then
      let (negative,behind) := match rest with
        | '-' :: behind => (true,behind)
        | '+' :: behind => (false,behind)
        | behind => (false,behind)
      let (found,after) := digits Char.isDigit behind
      let size : Int := numberOf 10 found
      if found.isEmpty then (none,cs) else (some (if negative then -size else size),after)
    else (none,cs)
  | [] => (none,[])

def readDecimal (cs : List Char) : Option (Token × List Char) :=
  let (whole,rest) := digits Char.isDigit cs
  let (behind,left) := fraction rest
  let (power,after) := power? left
  match rest,power with
  | '.' :: _,_ => finished (.float (decimal whole behind power)) after
  | _,some _ => finished (.float (decimal whole behind power)) after
  | _,none =>
    if whole.head? == some '0' && !whole.all (· == '0') then none
    else finished (.number (numberOf 10 whole)) rest
where
  decimal (whole behind : List Char) (power : Option Int) : Double :=
    Double.ofDecimal (numberOf 10 (whole ++ behind)) (power.getD 0 - behind.length)

def base? (mark : Char) : Option (Nat × (Char → Bool)) :=
  match mark.toLower with
  | 'x' => some (16,isHexDigit)
  | 'o' => some (8,isOctalDigit)
  | 'b' => some (2,fun c => c == '0' || c == '1')
  | _ => none

def readNumber (cs : List Char) : Option (Token × List Char) :=
  match cs with
  | '0' :: mark :: rest =>
    match base? mark with
    | some (base,isDigit) =>
      let (found,after) := digitRun isDigit rest
      if found.isEmpty then none else finished (.number (numberOf base found)) after
    | none => readDecimal cs
  | _ => readDecimal cs

def longSigns : List String :=
  ["...","**=","//=","<<=",">>=","->","!=","==","<=",">=","+=","-=","*=","/=","%=","&=","|=","**","//","<<",
    ">>",":="]

def shortSigns : List Char :=
  ['(',')','[',']','{','}',',',':','.',';','@','=','+','-','*','/','<','>','%','&','|','^','~']

def readSign (cs : List Char) : Option (Token × List Char) :=
  match longSigns.find? (fun long => long.toList.isPrefixOf cs) with
  | some found => some (.sign found,cs.drop found.length)
  | none =>
    match cs with
    | c :: rest => if shortSigns.contains c then some (.sign (String.singleton c),rest) else none
    | [] => none

def depthAfter (depth : Nat) : Token → Nat
  | .sign "(" => depth + 1
  | .sign "[" => depth + 1
  | .sign "\x7b" => depth + 1
  | .sign ")" => depth - 1
  | .sign "]" => depth - 1
  | .sign "\x7d" => depth - 1
  | _ => depth

def deepestBracket : Nat := 200

def next (c : Char) (rest : List Char) : Option (Token × List Char) :=
  let cs := c :: rest
  let word := cs.takeWhile isNameChar
  let after := cs.drop word.length
  if (isNameStart c || word.isEmpty) && startsText word after then readText word after
  else if isNameStart c then
    if Text.isIdentifier word then
      let id := String.ofList word
      some (if Text.keywords.contains id then .keyword id else .name (Text.normal id),after)
    else none
  else if c.isDigit || (c == '.' && (rest.head?.getD ' ').isDigit) then readNumber cs
  else readSign cs

-- The indents that end where a line starts further left. It has to start where one of
-- the lines before it did.
def closed (width : Nat) : List Nat → Option (List Token × List Nat)
  | [] => if width = 0 then some ([],[]) else none
  | top :: rest =>
    if width < top then (closed width rest).map (fun (tokens,left) => (.dedent :: tokens,left))
    else if width = top then some ([],top :: rest)
    else none

-- Inside brackets lines do not count. The tokens come last one first.
def scan : Nat → Bool → Nat → List Nat → List Token → List Char → Option (List Token)
  | 0,_,_,_,_,_ => none
  | _ + 1,fresh,depth,indents,found,[] =>
    if depth = 0 then some (indents.map (fun _ => .dedent) ++ (if fresh then [] else [.line]) ++ found) else none
  | fuel + 1,true,depth,indents,found,cs =>
    let width := (cs.takeWhile (· == ' ')).length
    let rest := cs.drop width
    match rest with
    | [] => scan fuel true depth indents found []
    | '\n' :: after => scan fuel true depth indents found after
    | '#' :: _ => scan fuel true depth indents found (rest.dropWhile (· != '\n'))
    | _ =>
      if (indents.head?.getD 0) < width then
        scan fuel false depth (width :: indents) (.indent :: found) rest
      else match closed width indents with
        | some (tokens,left) => scan fuel false depth left (tokens ++ found) rest
        | none => none
  | fuel + 1,false,depth,indents,found,c :: rest =>
    if c == ' ' || c == '\t' || c == '\x0c' then scan fuel false depth indents found rest
    else if c == '#' then scan fuel false depth indents found (rest.dropWhile (· != '\n'))
    else if c == '\n' then
      if depth = 0 then scan fuel true depth indents (.line :: found) rest
      else scan fuel false depth indents found rest
    else if c == '\\' then
      match rest with
      | '\n' :: after => scan fuel false depth indents found after
      | _ => none
    else match next c rest with
      | some (token,left) =>
        let inside := depthAfter depth token
        if deepestBracket < inside then none else scan fuel false inside indents (token :: found) left
      | none => none

def ofText (text : List Char) : Option (List Token) :=
  let cs := if text.contains '\r' then oneLineEnd text else text
  (scan (2 * cs.length + 2) true 0 [] [] cs).map List.reverse

end Token
end NativeBinding.Script
