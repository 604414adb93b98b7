import NativeBinding.Codec.Shown
import NativeBinding.Script.Operate

namespace NativeBinding.Script
open Wire

namespace Obj

def textOnly (object : Obj) : Run String :=
  match object with
  | .text value => return value
  | _ => unfit "returned non-string"

def numberText (object : Obj) : Run String := do
  match object with
  | .bool value => return if value then "True" else "False"
  | object => return toString ((← object.number?).getD 0)

def classText (object : Obj) (cls : ClassRef) : Run String := do
  let name ← cls.name
  if ← object.isKind .enumType then return "<enum '" ++ name ++ "'>"
  else match cls with
    | .base _ => return "<class '" ++ name ++ "'>"
    | .made _ =>
      match ← cls.own? "__module__" with
      | some (.text module) => return "<class '" ++ module ++ "." ++ name ++ "'>"
      | _ => return "<class '" ++ name ++ "'>"

mutual
def inner (call : Caller) : Nat → Obj → Run String
  | 0,_ => Run.fail .endless "maximum recursion depth exceeded"
  | fuel + 1,object => do
    match object with
    | .nothing => return "None"
    | .unsupported => return "NotImplemented"
    | .bool value => return if value then "True" else "False"
    | .int value => return toString value
    | .float value => return value.text
    | .text value => return Text.quote value
    | .bytes value => return Value.bytesText value
    | .zeros count => return Value.bytesText (List.replicate count 0)
    | .tuple [single] => return "(" ++ (← inner call fuel single) ++ ",)"
    | .tuple items => return "(" ++ ", ".intercalate (← innerEach call fuel items) ++ ")"
    | .place index =>
      match ← Run.cell? index with
      | some (.list items) => return "[" ++ ", ".intercalate (← innerEach call fuel items) ++ "]"
      | some (.memory content) => return "bytearray(" ++ Value.bytesText content ++ ")"
      | some (.class _) => classText object (.made index)
      | some (.function info) => return "<function " ++ info.name ++ ">"
      | some (.instance cls _ content) =>
        match ← cls.find? "__repr__" with
        | some (.slot .recordMethods _) => do
          let own ← member call object "__class__"
          let name ← textOnly (← member call own "__qualname__")
          let names ← fieldNames cls
          let values ← memberOfEach call object names
          let shown ← innerEach call fuel values
          return name ++ "(" ++ ", ".intercalate ((names.zip shown).map (fun row => row.1 ++ "=" ++ row.2)) ++ ")"
        | some (.slot owner _) =>
          if owner == .intEnum || owner == .enum then do
            let own ← member call object "__class__"
            let shownBy ← member call own "_value_repr_"
            let name ← member call own "__name__"
            let label ← member call object "_name_"
            let value ← member call object "_value_"
            let shown ← if ← truth call shownBy then
                match shownBy with
                | .slot .. => inner call fuel value
                | method => do textOnly (← call method [value] [])
              else inner call fuel value
            return "<" ++ (← outer call fuel name) ++ "." ++ (← outer call fuel label) ++ ": " ++ shown ++ ">"
          else match content with
            | .number value => return toString value
            | .arguments given => do
              let shown ← innerEach call fuel given
              return (← cls.name) ++ "(" ++ ", ".intercalate shown ++ ")"
            | .plain => return "<" ++ (← cls.name) ++ " object>"
        | some kept => do textOnly (← call (← taken call kept (some object) cls) [] [])
        | none => return "<...>"
      | _ => return "<...>"
    | object =>
      match ← object.asClass? with
      | some cls => classText object cls
      | none => return "<...>"

def outer (call : Caller) : Nat → Obj → Run String
  | 0,_ => Run.fail .endless "maximum recursion depth exceeded"
  | fuel + 1,object => do
    match object with
    | .text value => return value
    | .place _ =>
      let cls ← object.classOf
      match ← cls.find? "__str__" with
      | some (.slot .intEnum _) => numberText object
      | some (.slot (.failure _) _) =>
        match ← object.part (.failure .base) "args" with
        | .tuple [] => return ""
        | .tuple [single] => outer call fuel single
        | given => inner call fuel given
      | some (.slot ..) => inner call fuel object
      | some kept => do textOnly (← call (← taken call kept (some object) cls) [] [])
      | none => inner call fuel object
    | object => inner call fuel object

def innerEach (call : Caller) : Nat → List Obj → Run (List String)
  | 0,_ => Run.fail .endless "maximum recursion depth exceeded"
  | _ + 1,[] => return []
  | fuel + 1,first :: rest => do
    let shown ← inner call fuel first
    let others ← innerEach call fuel rest
    return shown :: others
end

def formatted (call : Caller) (object : Obj) : Run String := do
  match ← own? call object "__format__" with
  | some method => do textOnly (← call method [.text ""] [])
  | none => outer call deepest object

def shown (call : Caller) (object : Obj) : Run String := inner call deepest object

end Obj
end NativeBinding.Script
