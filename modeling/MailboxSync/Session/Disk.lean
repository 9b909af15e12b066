namespace MailboxSync.Session

/-- A way to a file or directory, name by name. The name `..` leads back. -/
abbrev Path := List String

namespace Path

/-- Goes one name further. Above the start there is no name to take away. -/
def next (here : Path) (name : String) : Path :=
  if name = ".." && here.getLast?.any (· ≠ "..") then here.dropLast else here ++ [name]

/-- The same place without detours: names that are taken back are left out. -/
def direct (p : Path) : Path := p.foldl next []

end Path

/-- Why a directory cannot be made. -/
inductive PathFault where
  | taken
  | notDirectory
  | nameTooLong
  | badName
deriving DecidableEq, Repr

def PathFault.message : PathFault → String
  | taken => "File exists (os error 17)"
  | notDirectory => "Not a directory (os error 20)"
  | nameTooLong => "File name too long (os error 36)"
  | badName => "file name contained an unexpected NUL byte"

/-- What there is on a disk: directories and files, under direct paths. The start is a directory, and
so is all above it. -/
structure Disk where
  directories : List Path := []
  files : List Path := []
deriving DecidableEq, Repr

namespace Disk

/-- Bytes that a name may have. -/
def nameLimit : Nat := 255

def hasDirectory (d : Disk) (p : Path) : Bool := p.all (· = "..") || d.directories.contains p

/-- Goes down a path from a place and makes the directories that are missing. What was made stays if
a name further on cannot be. A file at the end of the path is found when that directory is to be
made, and so is one on the way if there was something to make before it. -/
def makeBelow (d : Disk) (here : Path) (made : Bool) : Path → Except PathFault Unit × Disk
  | [] => (.ok (), d)
  | name :: rest =>
    let p := here.next name
    if name.utf8ByteSize > nameLimit then (.error .nameTooLong, d)
    else if d.hasDirectory p then d.makeBelow p made rest
    else if d.files.contains p then
      (.error (if made || rest.isEmpty then .taken else .notDirectory), d)
    else ({ d with directories := d.directories ++ [p] } : Disk).makeBelow p true rest

/-- Makes a directory and all on the way to it. -/
def makeDirectory (d : Disk) (p : Path) : Except PathFault Unit × Disk :=
  if p.any fun name => name.contains '\x00' then (.error .badName, d) else d.makeBelow [] false p

/-- Puts a file where none is. -/
def addFile (d : Disk) (p : Path) : Disk :=
  if d.files.contains p then d else { d with files := d.files ++ [p] }

end Disk

end MailboxSync.Session
