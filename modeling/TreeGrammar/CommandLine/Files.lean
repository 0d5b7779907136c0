set_option autoImplicit false

namespace TreeGrammar

inductive FileReading where
  | text (contents : String)
  | notText
  | missing
  | directory
  | notDirectory
  | nameTooLong
deriving DecidableEq

namespace FileReading

def ofBytes (bytes : ByteArray) : FileReading :=
  match String.fromUTF8? bytes with
  | some contents => .text contents
  | none => .notText

def contents : FileReading → Except String String
  | text contents => .ok contents
  | notText => .error "stream did not contain valid UTF-8"
  | missing => .error "No such file or directory (os error 2)"
  | directory => .error "Is a directory (os error 21)"
  | notDirectory => .error "Not a directory (os error 20)"
  | nameTooLong => .error "File name too long (os error 36)"

def isFile : FileReading → Bool
  | text _ | notText => true
  | missing | directory | notDirectory | nameTooLong => false

end FileReading

abbrev Files := String → FileReading

def pathParts (path : String) : List String := (path.toList.splitOn '/').map String.ofList

def staysThere (part : String) : Bool := part = "" || part = "."

def namePath? (path : String) : Option String :=
  let kept := ((pathParts path).reverse.dropWhile staysThere).reverse
  match kept.getLast? with
  | none | some ".." => none
  | some _ => some ("/".intercalate kept)

namespace Files

inductive Place where
  | directory (names : List String)
  -- A directory around them, of which nothing else is known.
  | around
  | file (bytes : ByteArray)

def longestPart : Nat := 255

def longestPath : Nat := 4095

def enter? (files : List (List String × ByteArray)) (names : List String) : Option Place :=
  match files.lookup names with
  | some bytes => some (.file bytes)
  | none => if files.any (fun file => names.isPrefixOf file.1) then some (.directory names) else none

def follow (files : List (List String × ByteArray)) : Place → List String → FileReading
  | .file bytes, [] => .ofBytes bytes
  | .file _, _ :: _ => .notDirectory
  | _, [] => .directory
  | .around, part :: rest =>
    if staysThere part || part = ".." then follow files .around rest
    else if longestPart < part.utf8ByteSize then .nameTooLong
    else .missing
  | .directory names, part :: rest =>
    if staysThere part then follow files (.directory names) rest
    else if part = ".." then
      follow files (if names.isEmpty then .around else .directory names.dropLast) rest
    else if longestPart < part.utf8ByteSize then .nameTooLong
    else
      match enter? files (names ++ [part]) with
      | some place => follow files place rest
      | none => .missing

def ofDirectory (files : List (String × ByteArray)) : Files := fun path =>
  if path.isEmpty then .missing
  else if longestPath < path.utf8ByteSize then .nameTooLong
  else
    let located := files.map fun (name, bytes) => ((pathParts name).filter (!staysThere ·), bytes)
    follow located (if path.startsWith "/" then .around else .directory []) (pathParts path)

end Files

end TreeGrammar
