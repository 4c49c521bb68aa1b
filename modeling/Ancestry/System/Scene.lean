import Ancestry.System.World

/-!
# Setting up a world

A bare world with the directories every system has, and the ways a person changes
files: writing one whole, making directories and links, and removing trees.
-/
namespace Ancestry.World

/-- The names of an absolute path that is written out. -/
def place (path : String) : Location := Path.names (Bytes.ofString path)

/-- A world whose working directory is empty. -/
def bare : World where
  files := ⟨[
    (place "/bin", .symlink (Bytes.ofString "usr/bin")),
    (place "/dev", .directory 0o755),
    (place "/dev/null", .special 0o666 .null),
    (place "/dev/full", .special 0o666 .full),
    (place "/etc", .directory 0o755),
    (place "/tmp", .directory 0o777),
    (place "/tmp/work", .directory 0o755),
    (place "/usr", .directory 0o755),
    (place "/usr/bin", .directory 0o755),
    (place "/usr/bin/true", .file 0o755 []),
    (place "/usr/bin/false", .file 0o755 []),
    (place "/usr/local", .directory 0o755),
    (place "/usr/local/lib", .directory 0o755),
    (place "/var", .directory 0o755),
    (place "/var/log", .directory 0o755)]⟩
  directory := place "/tmp/work"
  listening := []
  endpoints := 0
  deliveries := []
  obstacles := []

/-- Writes a file whole, making it if the name is free. -/
def put (w : World) (path content : Bytes) : Except IoError World :=
  match w.openOrCreate path with
  | .error e => .error e
  | .ok (loc, w) =>
    match w.files.get? loc with
    | some (.file mode _) => .ok { w with files := w.files.set loc (.file mode content) }
    | some (.special _ ⟨_, some e⟩) => if content = [] then .ok w else .error (.system e)
    | _ => .ok w

/-- Makes an entry at a free path. -/
def make (w : World) (path : Bytes) (node : Node) : Except IoError World :=
  if hasNul path then .error .nulInPath
  else
    match w.files.locate w.directory .keep path with
    | .error e => .error (.system e)
    | .ok (.found ..) => .error (.system .alreadyExists)
    | .ok (.free directory name) =>
      if Path.endsInSlash path && !node.isDirectory then .error (.system .notFound)
      else
        let loc := directory ++ [name]
        match w.refusal? [.entry] loc with
        | some e => .error (.system e)
        | none => .ok { w with files := w.files.set loc node }

def makeDirectory (w : World) (path : Bytes) : Except IoError World :=
  w.make path (.directory (umasked 0o777))

/-- Makes a link, whose target has the bounds of a path. -/
def makeLink (w : World) (path target : Bytes) : Except IoError World :=
  if hasNul target || hasNul path then .error .nulInPath
  else if target = [] then .error (.system .notFound)
  else if Path.tooLong ≤ target.length then .error (.system .nameTooLong)
  else w.make path (.symlink target)

/-- Removes a directory that is bare. Its path has to end in its own name, which may not be
that of a link to it. -/
def removeDirectory (w : World) (path : Bytes) : Except SystemError World :=
  match w.files.locate w.directory .keep path with
  | .error e => .error e
  | .ok target =>
    let last := (Path.names path).getLast?
    if last = none then .error .busy
    else if last = some Path.dot then .error .invalidArgument
    else if last = some Path.dotDot then .error .notEmpty
    else
      match target with
      | .free .. => .error .notFound
      | .found loc (.directory _) =>
        if w.files.isBare loc then
          match w.refusal? [.entry] loc with
          | some e => .error e
          | none => .ok { w with files := w.files.remove loc }
        else .error .notEmpty
      | .found .. => .error .notDirectory

/-- Removes an entry with all that is below it. What is below goes first, so it is gone even
where the directory itself then cannot be removed; that the directory can no longer be found
does not matter. -/
def removeAll (w : World) (path : Bytes) : Except IoError Unit × World :=
  match w.find .keep path with
  | .ok (loc, .directory _) =>
    let w := { w with files := w.files.clear loc }
    match w.removeDirectory path with
    | .ok w => (.ok (), w)
    | .error .notFound => (.ok (), w)
    | .error e => (.error (.system e), w)
  | _ =>
    match w.unlink path with
    | .ok w => (.ok (), w)
    | .error e => (.error e, w)

/-- The entries below the working directory, by their path from there. -/
def listing (w : World) : List (Bytes × Node) :=
  w.files.entries.filterMap fun (loc, node) =>
    if w.directory.isPrefixOf loc && loc ≠ w.directory then
      some ([Path.slash].intercalate (loc.drop w.directory.length), node)
    else none

end Ancestry.World
