/-!
# Files

What a path leads to, and directories that are given as tables of their files.
-/

set_option autoImplicit false

namespace OutboundSms.CommandLine

/-- What a path leads to: a file with a text, a directory, or nothing, be it that
no such name is there or that a file stands where a directory has to be. -/
inductive PathState where
  | file (text : String)
  | directory
  | missing
  | notADirectory
  deriving DecidableEq, Repr

namespace PathState

def isThere : PathState → Bool
  | file _ | directory => true
  | missing | notADirectory => false

/-- The text of a file, or the cause why it cannot be read. -/
def read : PathState → Except String String
  | file text => .ok text
  | directory => .error "Is a directory (os error 21)"
  | missing => .error "No such file or directory (os error 2)"
  | notADirectory => .error "Not a directory (os error 20)"

end PathState

/-- The files of a directory, each with the names on the way to it. -/
abbrev FileTable := List (List String × String)

namespace FileTable

def ofPaths (files : List (String × String)) : FileTable :=
  files.map fun (path, text) => (path.splitOn "/", text)

def follow (table : FileTable) : List String → List String → PathState
  | _, [] => .directory
  | place, name :: rest =>
      if name = "" ∨ name = "." then table.follow place rest
      else if name = ".." then
        if place.isEmpty then (if rest.isEmpty then .directory else .missing)
        else table.follow place.dropLast rest
      else
        let next := place ++ [name]
        match table.lookup next with
        | some text => if rest.isEmpty then .file text else .notADirectory
        | none =>
            if table.any fun file => next.isPrefixOf file.1 then table.follow next rest
            else .missing

/-- What a path leads to from the directory of the table. Nothing outside of it is
known. -/
def look (table : FileTable) (path : String) : PathState :=
  match path.splitOn "/" with
  | [""] => .missing
  | "" :: names => if names.all (· = "") then .directory else .missing
  | names => table.follow [] names

end FileTable

end OutboundSms.CommandLine
