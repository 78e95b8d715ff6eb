import CallSignaling.Text.Basic
import CallSignaling.Text.Utf8

/-!
# Log files — where a log file can be opened

A file tree says which directories and files there are.  A log file can be opened if the directory
it lies in exists and its name is not a directory's; a missing file is made.
-/

namespace CallSignaling

/-- Why a log file cannot be opened. -/
inductive OpenError where
  | notFound
  | notDirectory
  | isDirectory
  | nameTooLong
  | denied
  | nulByte
deriving DecidableEq, Repr

def OpenError.message : OpenError → String
  | .notFound => "No such file or directory (os error 2)"
  | .notDirectory => "Not a directory (os error 20)"
  | .isDirectory => "Is a directory (os error 21)"
  | .nameTooLong => "File name too long (os error 36)"
  | .denied => "Permission denied (os error 13)"
  | .nulByte => "file name contained an unexpected NUL byte"

/-- The directories and files that exist, each by the names on the way to it. -/
structure FileTree where
  directories : List (List String)
  files : List (List String)
  /-- The directory that paths without a leading slash start from. -/
  home : List String

namespace FileTree

/-- A system on which nothing but the basic directories exists. -/
def basic : FileTree where
  directories := [[], ["dev"], ["tmp"], ["etc"], ["root"], ["usr"], ["var"], ["home"], ["proc"]]
  files := [["dev", "null"]]
  home := ["root"]

/-- The longest name of a directory or a file. -/
def longestName : Nat := 255

/-- Follows directories. -/
def follow (t : FileTree) (place : List String) : List String → Except OpenError (List String)
  | [] => .ok place
  | n :: ns =>
    if n = "." then t.follow place ns
    else if n = ".." then t.follow place.dropLast ns
    else if longestName < Utf8.size n then .error .nameTooLong
    else
      let next := place ++ [n]
      if t.directories.contains next then t.follow next ns
      else if t.files.contains next then .error .notDirectory
      else .error .notFound

/-- Opens a file for appending, making it if it is missing. -/
def openAppend (t : FileTree) (path : String) : Except OpenError Unit := do
  if path.toList.contains '\x00' then .error .nulByte
  let names := (Text.pieces '/' path.toList).map String.ofList
  let steps := names.filter (· ≠ "")
  match steps.getLast? with
  | none => .error (if path = "" then .notFound else .isDirectory)
  | some last =>
    let start := if path.toList.head? = some '/' then [] else t.home
    let place ← t.follow start steps.dropLast
    if longestName < Utf8.size last then .error .nameTooLong
    let target :=
      if last = "." then place else if last = ".." then place.dropLast else place ++ [last]
    if t.directories.contains target then .error .isDirectory
    else if path.toList.getLast? = some '/' then
      .error (if t.files.contains target then .notDirectory else .isDirectory)

end FileTree

end CallSignaling
