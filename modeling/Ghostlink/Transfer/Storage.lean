import Ghostlink.Transfer.Manifest

/-! The names under which received files are saved. The download directory is flat: a path in it
is a name, and a name that has been sanitized is a single component. -/

namespace Ghostlink.FileTransfer
open Text

def maxSafeNameLength : ℕ := 120

def afterLast (sep : Char) (s : String) : String :=
  String.ofList (s.toList.reverse.takeWhile (· != sep)).reverse

def collapseSpaces : List Char → List Char
  | [] => []
  | [c] => if isSpace c then [' '] else [c]
  | c :: d :: cs =>
    if isSpace c then
      if isSpace d then collapseSpaces (d :: cs) else ' ' :: collapseSpaces (d :: cs)
    else c :: collapseSpaces (d :: cs)

def stripChars (p : Char → Bool) (cs : List Char) : List Char :=
  ((cs.dropWhile p).reverse.dropWhile p).reverse

def rstripChars (p : Char → Bool) (cs : List Char) : List Char :=
  (cs.reverse.dropWhile p).reverse

def reservedNames : List String :=
  ["con", "prn", "aux", "nul"] ++
    (List.range' 1 9).map (fun i => s!"com{i}") ++ (List.range' 1 9).map (fun i => s!"lpt{i}")

def pathSuffix (cs : List Char) : List Char :=
  let tail := (cs.reverse.takeWhile (· != '.')).reverse
  if tail = [] ∨ cs.length ≤ tail.length + 1 then [] else '.' :: tail

def sanitizeFilename (T : TransferPrimitives) (name : String) : Option String :=
  let name := ['\\', '/', '⁄', '∕'].foldl (fun s sep => afterLast sep s) name
  let name := (T.nfc name).toList.filter fun c => !FileManifest.isControl c && T.isprintable c
  let name := stripChars (· == '.') (stripChars isSpace name)
  let name := collapseSpaces name
  if name = [] ∨ name = ".".toList ∨ name = "..".toList then none
  else
    let stem := String.ofList (name.takeWhile (· != '.'))
    let name := if reservedNames.contains (T.lower stem) then '_' :: name else name
    if maxSafeNameLength < name.length then
      let suffix := (pathSuffix name).take 10
      some (String.ofList (rstripChars (fun c => c == '.' || c == ' ')
        (name.take (maxSafeNameLength - suffix.length)) ++ suffix))
    else some (String.ofList name)

def isExtension : List Char → Bool
  | [] => true
  | c :: cs => c == '.' && !cs.contains '.'

def afterNumber (T : TransferPrimitives) : List Char → Option (List Char)
  | ' ' :: '(' :: cs =>
    match cs.dropWhile T.isdecimal with
    | ')' :: tail => if cs.takeWhile T.isdecimal = [] then none else some tail
    | _ => none
  | _ => none

def collisionParts (T : TransferPrimitives) : List Char → List Char × List Char
  | [] => ([], [])
  | c :: cs =>
    match (afterNumber T (c :: cs)).filter isExtension with
    | some suffix => ([], suffix)
    | none =>
      if isExtension (c :: cs) then ([], c :: cs)
      else
        let (stem, suffix) := collisionParts T cs
        (c :: stem, suffix)

def variants (T : TransferPrimitives) (safe : String) : List String :=
  let (stem, suffix) := collisionParts T safe.toList
  (List.range' 2 98).map fun number =>
    String.ofList stem ++ " (" ++ toString number ++ ")" ++ String.ofList suffix

def destinationFor (T : TransferPrimitives) (taken : String → Bool) (filename : String) :
    Except TransferError String :=
  let safe := (sanitizeFilename T filename).getD "ghostlink-file"
  if taken safe = false then .ok safe
  else
    match (variants T safe).find? fun name => !taken name with
    | some variant => .ok variant
    | none => .error
      { kind := .storage, message := s!"Too many files named '{safe}' in the download directory."
        hint := some "Rename or clean up older downloads to make room." }

lemma destinationFor_free {T taken}
    {filename name} (h : destinationFor T taken filename = .ok name) : taken name = false := by
  simp only [destinationFor] at h
  split at h
  · rename_i free
    exact Except.ok.inj h ▸ free
  · split at h
    · rename_i variant found
      have free := List.find?_some found
      rw [← Except.ok.inj h]
      exact Bool.eq_false_of_not_eq_true' free
    · exact absurd h nofun

end Ghostlink.FileTransfer
